import RequestPipeline.Proofs.Json.Members
import RequestPipeline.Proofs.Validation.Field

/-!
# What a check reports

One statement for each part of a report, from which the results about validation are put together.

* `get?_coercedFields`            the coerced object holds, under the name of a field, what the field lets
                                  through, and nothing under other keys (`exists_field_of_mem_keys`);
* `declaredFailures_eq_nil_iff`, `undeclaredFailures_eq_nil_iff`, `objectViolations_eq_nil_iff`
                                  when each of the three parts of a report is empty;
* `failure?_check_eq_none_iff`    nothing is reported only when all three are.
-/

namespace RequestPipeline.Validation

open Json (Value Members)

/-! ## the coerced object -/

/-- what the field `f` lets through of an input -/
def FieldSpec.taken (f : FieldSpec) (input : Members) : Option Value :=
  (checkField f (input.get? f.name)).accepted?.join

/-- the object `acc` after the field `f` -/
def FieldSpec.put (input acc : Members) (f : FieldSpec) : Members :=
  match checkField f (input.get? f.name) with
  | .valid v => acc.insert f.name v
  | _ => acc

theorem coercedFields_eq_foldl (fields : List FieldSpec) (input : Members) :
    coercedFields fields input = fields.foldl (FieldSpec.put input) [] := rfl

theorem sorted_put {acc : Members} (h : acc.Sorted) (input : Members) (f : FieldSpec) :
    (f.put input acc).Sorted := by
  unfold FieldSpec.put
  split
  · exact Members.sorted_insert h _ _
  · exact h

theorem get?_put (input acc : Members) (f : FieldSpec) (key : String) :
    (f.put input acc).get? key =
      if key = f.name then (f.taken input).or (acc.get? key) else acc.get? key := by
  unfold FieldSpec.put FieldSpec.taken
  cases checkField f (input.get? f.name) with
  | absent => simp [FieldOutcome.accepted?]
  | invalid vs => simp [FieldOutcome.accepted?]
  | valid v =>
    show (acc.insert f.name v).get? key = _
    rw [Members.get?_insert]
    simp [FieldOutcome.accepted?]

theorem sorted_foldl_put (fields : List FieldSpec) (input : Members) :
    ∀ acc : Members, acc.Sorted → (fields.foldl (FieldSpec.put input) acc).Sorted := by
  induction fields with
  | nil => exact fun _ h => h
  | cons f fields ih => exact fun acc h => ih _ (sorted_put h input f)

theorem get?_foldl_put_of_not_mem (fields : List FieldSpec) (input : Members) (key : String) :
    ∀ acc : Members, key ∉ fields.map FieldSpec.name →
      (fields.foldl (FieldSpec.put input) acc).get? key = acc.get? key := by
  induction fields with
  | nil => exact fun _ _ => rfl
  | cons f fields ih =>
    intro acc h
    rw [List.map_cons, List.mem_cons, not_or] at h
    rw [List.foldl_cons, ih _ h.2, get?_put, if_neg h.1]

theorem get?_foldl_put_of_mem (fields : List FieldSpec) (input : Members) {f : FieldSpec} :
    ∀ acc : Members, (fields.map FieldSpec.name).Nodup → f ∈ fields →
      (fields.foldl (FieldSpec.put input) acc).get? f.name
        = (f.taken input).or (acc.get? f.name) := by
  induction fields with
  | nil => exact fun _ _ h => absurd h List.not_mem_nil
  | cons g fields ih =>
    intro acc hd hf
    obtain ⟨hg, hd'⟩ := List.nodup_cons.mp hd
    rw [List.foldl_cons]
    rcases List.mem_cons.mp hf with rfl | hf
    · rw [get?_foldl_put_of_not_mem _ _ _ _ hg, get?_put, if_pos rfl]
    · have hne : f.name ≠ g.name := fun e => hg (e ▸ List.mem_map_of_mem hf)
      rw [ih _ hd' hf, get?_put, if_neg hne]

theorem sorted_coercedFields (fields : List FieldSpec) (input : Members) :
    (coercedFields fields input).Sorted :=
  sorted_foldl_put fields input [] Members.sorted_nil

/-- the coerced object holds under the name of a field what that field lets through -/
theorem get?_coercedFields {fields : List FieldSpec} (distinct : (fields.map FieldSpec.name).Nodup)
    (input : Members) {f : FieldSpec} (h : f ∈ fields) :
    (coercedFields fields input).get? f.name = f.taken input := by
  rw [coercedFields_eq_foldl, get?_foldl_put_of_mem fields input [] distinct h, Members.get?_nil,
    Option.or_none]

/-- the coerced object has no key but names of fields -/
theorem exists_field_of_mem_keys {fields : List FieldSpec} {input : Members} {key : String}
    (h : key ∈ (coercedFields fields input).keys) : ∃ f ∈ fields, f.name = key := by
  refine Decidable.byContradiction fun hne => ?_
  have hk : key ∉ fields.map FieldSpec.name := by simpa using hne
  have hg := get?_foldl_put_of_not_mem fields input key [] hk
  exact Members.get?_eq_none_iff.mp hg h

/-! ## the three parts of a report -/

theorem declaredFailures_eq_nil_iff (fields : List FieldSpec) (input : Members) :
    declaredFailures fields input = [] ↔
      ∀ f ∈ fields, (checkField f (input.get? f.name)).accepted? = some (f.taken input) := by
  unfold declaredFailures
  rw [List.filterMap_eq_nil_iff]
  refine forall₂_congr fun f _ => ?_
  unfold FieldSpec.taken
  cases checkField f (input.get? f.name) <;> simp [FieldOutcome.accepted?]

theorem declares_iff (s : Schema) (key : String) :
    s.declares key = true ↔ ∃ f ∈ s.fields, f.name = key := by
  simp [Schema.declares]

theorem undeclaredFailures_eq_nil_iff (s : Schema) (input : Members) :
    undeclaredFailures s input = [] ↔ ∀ key ∈ input.keys, ∃ f ∈ s.fields, f.name = key := by
  simp [undeclaredFailures, List.filter_eq_nil_iff, declares_iff]

theorem isPresent_iff (input : Members) (key : String) :
    isPresent input key = true ↔ ∃ v, input.get? key = some v ∧ v ≠ .null := by
  unfold isPresent
  cases input.get? key with
  | none => simp
  | some v => simp [← isNull_iff]

theorem violation?_exclusive_eq_none_iff (input value : Members) (context : Option RequestContext)
    (first second : String) (code : Code) (general : Bool) :
    (ObjectRule.exclusive first second code general).violation? input value context = none ↔
      ¬ (isPresent input first = true ∧ isPresent input second = true) := by
  simp [ObjectRule.violation?]

theorem objectViolations_eq_nil_iff (s : Schema) (input : Members) (context : Option RequestContext) :
    (check s input context).objectViolations = [] ↔
      ∀ r ∈ s.rules, r.violation? input (coercedFields s.fields input) context = none := by
  simp [check]

/-! ## the selected violation -/

theorem ne_nil_of_mem_declaredFailures {fields : List FieldSpec} {input : Members}
    {failure : FieldFailure} (h : failure ∈ declaredFailures fields input) :
    failure.violations ≠ [] := by
  obtain ⟨f, _, hf⟩ := List.mem_filterMap.mp h
  split at hf
  · rename_i vs hc
    cases hf
    exact checkField_invalid hc
  · cases hf

/-- every failing field of a report has a violation -/
theorem ne_nil_of_mem_fieldFailures {s : Schema} {input : Members} {context : Option RequestContext}
    {failure : FieldFailure} (h : failure ∈ (check s input context).fieldFailures) :
    failure.violations ≠ [] := by
  rcases List.mem_append.mp h with h | h
  · exact ne_nil_of_mem_declaredFailures h
  · obtain ⟨key, _, rfl⟩ := List.mem_map.mp h
    exact List.cons_ne_nil _ _

/-- nothing is selected from a report only when there is nothing in it -/
theorem Report.selected_eq_none_iff {r : Report} (h : ∀ f ∈ r.fieldFailures, f.violations ≠ []) :
    r.selected = none ↔ r.fieldFailures = [] ∧ r.objectViolations = [] := by
  unfold Report.selected
  constructor
  · intro hs
    rw [Option.or_eq_none_iff, Option.or_eq_none_iff, List.head?_eq_none_iff] at hs
    obtain ⟨_, hf, ho⟩ := hs
    refine ⟨?_, ho⟩
    cases hl : r.fieldFailures with
    | nil => rfl
    | cons f fs =>
      rw [hl] at hf
      exact absurd (List.head?_eq_none_iff.mp hf) (h f (hl ▸ List.mem_cons_self))
  · rintro ⟨hf, ho⟩
    rw [hf, ho]
    rfl

/-- **A check reports nothing exactly when no field fails and no rule is broken.** -/
theorem failure?_check_eq_none_iff (s : Schema) (input : Members) (context : Option RequestContext) :
    (check s input context).failure? = none ↔
      declaredFailures s.fields input = [] ∧ undeclaredFailures s input = [] ∧
        (check s input context).objectViolations = [] := by
  unfold Report.failure?
  rw [Option.map_eq_none_iff, Report.selected_eq_none_iff fun _ => ne_nil_of_mem_fieldFailures,
    ← and_assoc]
  exact and_congr_left' List.append_eq_nil_iff

/-- a reported failure says that the input is wrong -/
theorem failure_eq (v : Violation) :
    v.failure = .invalidInput v.property v.reported ∨ v.failure = .cursorConflict v.property v.reported := by
  unfold Violation.failure
  split
  · exact .inr rfl
  · exact .inl rfl

theorem failure_of_ne {v : Violation} (h : v.code ≠ .cursorConflict) :
    v.failure = .invalidInput v.property v.reported := by
  unfold Violation.failure
  split
  · rename_i hc
    exact absurd hc h
  · rfl

end RequestPipeline.Validation
