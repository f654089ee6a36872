import Mathlib.Data.List.Basic
import RequestPipeline.Proofs.Validation.Exactness

/-!
# Null is as good as nothing

A check looks at an object in three ways: what it gives for each field, which fields of a rule it gives, and which of its
keys are no fields.  `given` is what an object holds under a key, null aside.

* `coercedFields_congr`, `declaredFailures_congr`   fields depend on what is given for them alone;
* `violation?_congr`                                and so do rules;
* `undeclaredFailures_insert`                       a key that is no field is found, whatever it holds.

`null_is_absent`: **a field that is null can as well be left out, and a key that is no field cannot be put in.**
-/

namespace RequestPipeline.Validation

open Json (Value Members)

/-! ## what an object gives -/

/-- what an object holds under a key, null aside -/
def given (input : Members) (key : String) : Option Value := (input.get? key).filter fun v => !v.isNull

theorem isPresent_eq_isSome (input : Members) (key : String) : isPresent input key = (given input key).isSome := by
  unfold isPresent given
  cases input.get? key with
  | none => rfl
  | some v => cases h : v.isNull <;> simp [h]

section
variable {a b : Members}

theorem checkField_congr {f : FieldSpec} (h : given a f.name = given b f.name) :
    checkField f (a.get? f.name) = checkField f (b.get? f.name) := by
  unfold given at h
  unfold checkField
  rw [h]

theorem coercedFields_congr {fields : List FieldSpec} (h : ∀ f ∈ fields, given a f.name = given b f.name) :
    coercedFields fields a = coercedFields fields b := by
  rw [coercedFields_eq_foldl, coercedFields_eq_foldl]
  refine List.foldl_ext _ _ _ fun acc f hf => ?_
  unfold FieldSpec.put
  rw [checkField_congr (h f hf)]

theorem declaredFailures_congr {fields : List FieldSpec} (h : ∀ f ∈ fields, given a f.name = given b f.name) :
    declaredFailures fields a = declaredFailures fields b := by
  refine List.filterMap_congr fun f hf => ?_
  rw [checkField_congr (h f hf)]

theorem violation?_congr (h : ∀ key, given a key = given b key) (value : Members) (context : Option RequestContext)
    (r : ObjectRule) : r.violation? a value context = r.violation? b value context := by
  cases r with
  | exclusive first second code general =>
    unfold ObjectRule.violation?
    simp only [isPresent_eq_isSome, h]
  | check name find => rfl

theorem check_congr {s : Schema} (h : ∀ key, given a key = given b key)
    (hu : undeclaredFailures s a = undeclaredFailures s b) (context : Option RequestContext) :
    check s a context = check s b context := by
  have hvalue : coercedFields s.fields a = coercedFields s.fields b := coercedFields_congr fun f _ => h f.name
  have hfields : declaredFailures s.fields a = declaredFailures s.fields b := declaredFailures_congr fun f _ => h f.name
  unfold check
  simp only [hvalue, hfields, hu, violation?_congr h]

end

/-! ## fields that are null -/

/-- an object without the fields that are null -/
def withoutNulls (s : Schema) (input : Members) : Members := input.filter fun m => !(m.2.isNull && s.declares m.1)

theorem given_withoutNulls {input : Members} (sorted : input.Sorted) (s : Schema) (key : String) :
    given (withoutNulls s input) key = given input key := by
  unfold given withoutNulls
  rw [Members.get?_filter sorted]
  cases input.get? key with
  | none => rfl
  | some v => cases h : v.isNull <;> simp [Option.filter_some, h]

theorem undeclaredFailures_withoutNulls (s : Schema) (input : Members) :
    undeclaredFailures s (withoutNulls s input) = undeclaredFailures s input := by
  unfold undeclaredFailures withoutNulls Members.keys
  rw [List.filter_map, List.filter_map, List.filter_filter]
  congr 2
  -- what is left out is a field, and no field is among these keys
  refine List.filter_congr fun m _ => ?_
  cases h : s.declares m.1 <;> simp [h]

theorem check_withoutNulls {input : Members} (sorted : input.Sorted) (s : Schema) (context : Option RequestContext) :
    check s (withoutNulls s input) context = check s input context :=
  check_congr (given_withoutNulls sorted s) (undeclaredFailures_withoutNulls s input) context

/-! ## keys that are no fields -/

section
variable {s : Schema} {input : Members} {key : String} {context : Option RequestContext}
  (hkey : s.declares key = false)
include hkey

theorem given_insert_of_declares (value : Value) {f : FieldSpec} (hf : f ∈ s.fields) :
    given (input.insert key value) f.name = given input f.name := by
  have hne : f.name ≠ key := by
    rintro rfl
    exact Bool.false_ne_true (hkey.symm.trans ((declares_iff s f.name).mpr ⟨f, hf, rfl⟩))
  unfold given
  rw [Members.get?_insert_of_ne hne]

theorem undeclaredFailures_insert (declared : undeclaredFailures s input = []) (value : Value) :
    undeclaredFailures s (input.insert key value) = [undeclaredFailure key] := by
  have hnone : ∀ m ∈ input, ¬ (!s.declares m.1) = true := by
    intro m hm
    have hdeclared := (undeclaredFailures_eq_nil_iff s input).mp declared m.1 (List.mem_map_of_mem hm)
    simpa using (declares_iff s m.1).mpr hdeclared
  unfold undeclaredFailures Members.keys
  rw [List.filter_map]
  show (List.map Prod.fst ((input.insert key value).filter fun m => !s.declares m.1)).map undeclaredFailure = _
  rw [Members.filter_insert hnone, List.filter_cons, hkey]
  rfl

/-- null under a key that is no field gives nothing -/
theorem given_insert_null (declared : undeclaredFailures s input = []) (k : String) :
    given (input.insert key .null) k = given input k := by
  unfold given
  rw [Members.get?_insert]
  split
  · rename_i hk
    subst hk
    have hnone : input.get? k = none := by
      refine Members.get?_eq_none_iff.mpr fun hmem => ?_
      have hfield := (undeclaredFailures_eq_nil_iff s input).mp declared k hmem
      exact Bool.false_ne_true (hkey.symm.trans ((declares_iff s k).mpr hfield))
    rw [hnone]
    rfl
  · rfl

variable (clean : (check s input context).failure? = none)
include clean

theorem fieldFailures_insert (value : Value) :
    (check s (input.insert key value) context).fieldFailures = [undeclaredFailure key] := by
  obtain ⟨hfields, hdeclared, -⟩ := (failure?_check_eq_none_iff s input context).mp clean
  have hsame : declaredFailures s.fields (input.insert key value) = declaredFailures s.fields input :=
    declaredFailures_congr fun _ hf => given_insert_of_declares hkey value hf
  show declaredFailures s.fields (input.insert key value) ++ undeclaredFailures s (input.insert key value) = _
  rw [hsame, hfields, undeclaredFailures_insert hkey hdeclared]
  rfl

theorem objectViolations_insert_null : (check s (input.insert key .null) context).objectViolations = [] := by
  obtain ⟨-, hdeclared, hobject⟩ := (failure?_check_eq_none_iff s input context).mp clean
  have hgiven := given_insert_null hkey hdeclared
  have hvalue : coercedFields s.fields (input.insert key .null) = coercedFields s.fields input :=
    coercedFields_congr fun f _ => hgiven f.name
  rw [objectViolations_eq_nil_iff] at hobject ⊢
  intro r hr
  rw [hvalue, violation?_congr hgiven]
  exact hobject r hr

theorem exists_failure?_insert (value : Value) :
    ∃ f, (check s (input.insert key value) context).failure? = some f := by
  refine Option.ne_none_iff_exists'.mp fun hnone => ?_
  obtain ⟨-, hdeclared, -⟩ := (failure?_check_eq_none_iff s input context).mp clean
  have hnil := ((failure?_check_eq_none_iff s _ context).mp hnone).2.1
  rw [undeclaredFailures_insert hkey hdeclared] at hnil
  cases hnil

theorem failure?_insert_null : (check s (input.insert key .null) context).failure?
    = some (.invalidInput key (some ("property " ++ key ++ " should not exist"))) := by
  unfold Report.failure? Report.selected
  rw [fieldFailures_insert hkey clean, objectViolations_insert_null hkey clean]
  rfl

end

/-- nothing is wrong with an object that is accepted -/
theorem failure?_of_accepted {α : Type} {t : Target α} {input : Members} {context : Option RequestContext}
    (h : ∃ a, validate t (.object input) context = .ok a) : (check t.schema input context).failure? = none := by
  obtain ⟨a, ha⟩ := h
  rw [validate_of_reads t (.object _)] at ha
  cases hf : (check t.schema input context).failure? with
  | none => rfl
  | some f =>
    rw [hf] at ha
    cases ha

/-- **Null is as good as nothing, for fields.**  Without the fields that are null an object has the same report, and is
validated alike.  With one more key that is no field, whatever it holds, an object that was accepted has this key as its
only failing field, and is refused; with null under the key just for it. -/
theorem null_is_absent {α : Type} (t : Target α) {input : Members} (sorted : input.Sorted)
    (context : Option RequestContext) :
    check t.schema (withoutNulls t.schema input) context = check t.schema input context ∧
    validate t (.object (withoutNulls t.schema input)) context = validate t (.object input) context ∧
    ∀ key value, t.schema.declares key = false → (∃ a, validate t (.object input) context = .ok a) →
      (check t.schema (input.insert key value) context).fieldFailures = [undeclaredFailure key] ∧
      ∃ f, validate t (.object (input.insert key value)) context = .error f ∧
        (value = .null → f = .invalidInput key (some ("property " ++ key ++ " should not exist"))) := by
  have hcheck := check_withoutNulls sorted t.schema context
  refine ⟨hcheck, ?_, fun key value hkey accepted => ?_⟩
  · rw [validate_of_reads t (.object _), validate_of_reads t (.object _), hcheck]
  · have clean := failure?_of_accepted accepted
    obtain ⟨f, hf⟩ := exists_failure?_insert hkey clean value
    refine ⟨fieldFailures_insert hkey clean value, f, ?_, ?_⟩
    · rw [validate_of_reads t (.object _), hf]
    · rintro rfl
      exact Option.some.inj (hf.symm.trans (failure?_insert_null hkey clean))

/-- ids with a null offset, which counts for nothing, and with a null under another key, which does not -/
theorem null_is_absent_rooms :
    let t : Target Members := ⟨Samples.listRooms.schema, .ok⟩
    let input : Members := [("ids", .string "4, 5"), ("offset", .null)]
    input.Sorted ∧ t.schema.declares "note" = false ∧ (∃ a, validate t (.object input) none = .ok a) ∧
    validate t (.object [("ids", .string "4, 5")]) none = validate t (.object input) none ∧
    validate t (.object [("ids", .string "4, 5"), ("note", .null), ("offset", .null)]) none
      = .error (.invalidInput "note" (some "property note should not exist")) := by
  intro t input
  have sorted : input.Sorted := List.pairwise_pair.mpr (by decide)
  have hkey : t.schema.declares "note" = false := by decide
  have accepted : ∃ a, validate t (.object input) none = .ok a := ⟨_, rfl⟩
  obtain ⟨-, hsame, hadd⟩ := null_is_absent t sorted none
  obtain ⟨-, f, hf, hnull⟩ := hadd "note" .null hkey accepted
  exact ⟨sorted, hkey, accepted, hsame, hf.trans (congrArg Except.error (hnull rfl))⟩

end RequestPipeline.Validation
