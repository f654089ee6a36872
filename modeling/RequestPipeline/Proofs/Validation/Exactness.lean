import RequestPipeline.Proofs.Validation.Report
import RequestPipeline.Samples.Rooms

/-!
# Which inputs are bound

`Admits s context input object` states the five conditions under which an input object is bound, and what
is then bound, without the checker:

* every field accepts what it is given, and the bound object holds just what the fields make of it;
* no key is undeclared;
* no two exclusive fields are given together;
* no check finds anything in the bound object.

`Reaches` and `Refuses` say what `validate` does whatever the binding behind it is.  `validate_exact`: **an
input reaches the binding exactly when it is admitted, with exactly the admitted object, and is refused as
invalid input or as a cursor conflict otherwise.**
-/

namespace RequestPipeline.Validation

open Json (Value Members)

/-! ## admission -/

/-- what an input stands for: itself as an object, and null for the empty object -/
inductive Reads : Value → Members → Prop where
  | object (ms : Members) : Reads (.object ms) ms
  | null : Reads .null []

/-- whether an object has a value that is not null under a key -/
def Gives (input : Members) (key : String) : Prop := ∃ v, input.get? key = some v ∧ v ≠ .null

/-- an input object is right for a schema, in the context of a caller, and `object` is what it becomes -/
structure Admits (s : Schema) (context : Option RequestContext) (input object : Members) : Prop where
  /-- each field accepts what it is given, and `object` holds what it makes of it -/
  fields : ∀ f ∈ s.fields, f.Accepts (input.get? f.name) (object.get? f.name)
  /-- `object` holds nothing else, in the order of its keys -/
  only : ∀ key ∈ object.keys, ∃ f ∈ s.fields, f.name = key
  sorted : object.Sorted
  /-- every key of the input is declared, whatever it holds -/
  declared : ∀ key ∈ input.keys, ∃ f ∈ s.fields, f.name = key
  /-- no two exclusive fields are given together -/
  exclusive : ∀ first second code general, .exclusive first second code general ∈ s.rules →
    ¬ (Gives input first ∧ Gives input second)
  /-- no check finds anything -/
  checks : ∀ name find, .check name find ∈ s.rules → find object context = none

/-- an input reaches the binding of every target of a schema, with one object -/
def Reaches (s : Schema) (input : Value) (context : Option RequestContext) (object : Members) : Prop :=
  ∀ (α : Type) (bind : Members → Except String α),
    validate ⟨s, bind⟩ input context = Target.bound ⟨s, bind⟩ object

/-- an input is refused before the binding of any target of a schema -/
def Refuses (s : Schema) (input : Value) (context : Option RequestContext) (f : Failure) : Prop :=
  ∀ (α : Type) (bind : Members → Except String α), validate ⟨s, bind⟩ input context = .error f

theorem inputObject?_eq_some_iff {input : Value} {ms : Members} :
    inputObject? input = some ms ↔ Reads input ms := by
  constructor
  · intro h
    cases input <;> cases h
    · exact .null
    · exact .object _
  · rintro (_ | _) <;> rfl

/-! ## admission and the checker -/

section
variable {s : Schema} {context : Option RequestContext} {input object : Members}

theorem rules_clean_iff (value : Members) :
    (∀ r ∈ s.rules, r.violation? input value context = none) ↔
      (∀ first second code general, .exclusive first second code general ∈ s.rules →
          ¬ (Gives input first ∧ Gives input second)) ∧
        ∀ name find, .check name find ∈ s.rules → find value context = none := by
  constructor
  · intro h
    constructor
    · intro first second code general hr
      have hn := (violation?_exclusive_eq_none_iff ..).mp (h _ hr)
      rwa [isPresent_iff, isPresent_iff] at hn
    · exact fun name find hr => h _ hr
  · rintro ⟨he, hc⟩ r hr
    cases r with
    | exclusive first second code general =>
      rw [violation?_exclusive_eq_none_iff, isPresent_iff, isPresent_iff]
      exact he first second code general hr
    | check name find => exact hc name find hr

/-- what a field accepts is what it takes -/
theorem FieldSpec.Accepts.eq_taken {f : FieldSpec} {result : Option Value}
    (h : f.Accepts (input.get? f.name) result) : result = f.taken input := by
  unfold FieldSpec.taken
  rw [(accepted_checkField_iff f _ _).mpr h]
  rfl

/-- the admitted object is the coerced one -/
theorem Admits.eq_coercedFields (distinct : (s.fields.map FieldSpec.name).Nodup)
    (h : Admits s context input object) : object = coercedFields s.fields input := by
  refine Members.eq_of_sorted h.sorted (sorted_coercedFields _ _) fun key => ?_
  by_cases hk : ∃ f ∈ s.fields, f.name = key
  · obtain ⟨f, hf, rfl⟩ := hk
    rw [get?_coercedFields distinct input hf]
    exact (h.fields f hf).eq_taken
  · rw [Members.get?_eq_none_iff.mpr (mt (h.only key) hk),
      Members.get?_eq_none_iff.mpr (mt exists_field_of_mem_keys hk)]

theorem admits_coercedFields_iff (distinct : (s.fields.map FieldSpec.name).Nodup) :
    Admits s context input (coercedFields s.fields input) ↔
      (check s input context).failure? = none := by
  rw [failure?_check_eq_none_iff, declaredFailures_eq_nil_iff, undeclaredFailures_eq_nil_iff,
    objectViolations_eq_nil_iff, rules_clean_iff]
  constructor
  · intro h
    refine ⟨fun f hf => ?_, h.declared, h.exclusive, h.checks⟩
    rw [accepted_checkField_iff, ← get?_coercedFields distinct input hf]
    exact h.fields f hf
  · rintro ⟨hf, hd, he, hc⟩
    refine ⟨fun f hm => ?_, fun key hk => exists_field_of_mem_keys hk, sorted_coercedFields _ _, hd,
      he, hc⟩
    rw [← accepted_checkField_iff, get?_coercedFields distinct input hm]
    exact hf f hm

/-- an input object is admitted exactly when the checker reports nothing -/
theorem admits_iff (distinct : (s.fields.map FieldSpec.name).Nodup) :
    Admits s context input object ↔
      (check s input context).failure? = none ∧ object = (check s input context).value := by
  constructor
  · intro h
    have e := h.eq_coercedFields distinct
    subst e
    exact ⟨(admits_coercedFields_iff distinct).mp h, rfl⟩
  · rintro ⟨h, rfl⟩
    exact (admits_coercedFields_iff distinct).mpr h

end

/-! ## validation -/

section
variable {s : Schema} {input : Value} {context : Option RequestContext} {ms : Members}

theorem validate_of_unread {α : Type} (t : Target α) (h : ∀ ms, ¬ Reads input ms) :
    validate t input context
      = .error (.invalidInput t.schema.name (some (t.schema.name ++ " must be an object"))) := by
  have hn : inputObject? input = none :=
    Option.eq_none_iff_forall_ne_some.mpr fun ms hm => h ms (inputObject?_eq_some_iff.mp hm)
  unfold validate
  rw [hn]

theorem validate_of_reads {α : Type} (t : Target α) (h : Reads input ms) :
    validate t input context =
      match (check t.schema ms context).failure? with
      | some f => .error f
      | none => t.bound (check t.schema ms context).value := by
  have hi := inputObject?_eq_some_iff.mpr h
  cases hf : (check t.schema ms context).failure? with
  | none => simp only [validate, hi, hf]
  | some f => simp only [validate, hi, hf]

/-- the input of a target that takes every object as it is -/
theorem reaches_iff {object : Members} : Reaches s input context object ↔
    ∃ ms, Reads input ms ∧ (check s ms context).failure? = none ∧
      object = (check s ms context).value := by
  constructor
  · intro h
    -- a binding that keeps its object shows which object reached it
    have hb : validate ⟨s, .ok⟩ input context = .ok object := h Members .ok
    by_cases hr : ∃ ms, Reads input ms
    · obtain ⟨ms, hr⟩ := hr
      rw [validate_of_reads _ hr] at hb
      cases hf : (check s ms context).failure? with
      | some f => rw [hf] at hb; cases hb
      | none =>
        rw [hf] at hb
        cases hb
        exact ⟨ms, hr, hf, rfl⟩
    · rw [validate_of_unread _ (not_exists.mp hr)] at hb
      cases hb
  · rintro ⟨ms, hr, hf, rfl⟩ α bind
    rw [validate_of_reads _ hr, hf]

/-- an input that is not an object, or whose report is not clean, is refused -/
theorem refuses_of_not_reaches (h : ∀ object, ¬ Reaches s input context object) :
    ∃ property message, Refuses s input context (.invalidInput property message) ∨
      Refuses s input context (.cursorConflict property message) := by
  by_cases hr : ∃ ms, Reads input ms
  · obtain ⟨ms, hr⟩ := hr
    cases hs : (check s ms context).selected with
    | none => exact absurd (reaches_iff.mpr ⟨ms, hr, by rw [Report.failure?, hs]; rfl, rfl⟩) (h _)
    | some v =>
      have hf : (check s ms context).failure? = some v.failure := by rw [Report.failure?, hs]; rfl
      have hv : Refuses s input context v.failure := fun α bind => by
        rw [validate_of_reads _ hr, hf]
      refine ⟨v.property, v.reported, ?_⟩
      rcases failure_eq v with e | e
      · exact .inl (e ▸ hv)
      · exact .inr (e ▸ hv)
  · exact ⟨s.name, some (s.name ++ " must be an object"),
      .inl fun α bind => validate_of_unread ⟨s, bind⟩ (not_exists.mp hr)⟩

/-- **Validation is exact**: an input reaches the binding, with a certain object, exactly when it stands for
an input object that is admitted as that object; and every other input is refused. -/
theorem validate_exact (s : Schema) (distinct : (s.fields.map FieldSpec.name).Nodup) (input : Value)
    (context : Option RequestContext) :
    (∀ object, Reaches s input context object ↔
        ∃ ms, Reads input ms ∧ Admits s context ms object) ∧
      ((¬ ∃ ms object, Reads input ms ∧ Admits s context ms object) →
        ∃ property message, Refuses s input context (.invalidInput property message) ∨
          Refuses s input context (.cursorConflict property message)) := by
  have hiff : ∀ object, Reaches s input context object ↔
      ∃ ms, Reads input ms ∧ Admits s context ms object := fun object => by
    rw [reaches_iff]
    exact exists_congr fun ms => and_congr_right fun _ => (admits_iff distinct).symm
  refine ⟨hiff, fun h => refuses_of_not_reaches fun object hr => h ?_⟩
  obtain ⟨ms, hm⟩ := (hiff object).mp hr
  exact ⟨ms, object, hm⟩

end

/-- ids in a text with a comma reach the binding as a list of numbers, and a null offset as nothing -/
theorem reaches_rooms : (Samples.listRooms.schema.fields.map FieldSpec.name).Nodup ∧
    Reaches Samples.listRooms.schema (.object [("ids", .string "4, 5"), ("offset", .null)]) none
      [("ids", .array [.ofInt 4, .ofInt 5])] := by
  have distinct : (Samples.listRooms.schema.fields.map FieldSpec.name).Nodup := by decide
  exact ⟨distinct, ((validate_exact Samples.listRooms.schema distinct _ none).1 _).mpr
    ⟨_, .object _, (admits_iff distinct).mpr ⟨by decide, rfl⟩⟩⟩

end RequestPipeline.Validation
