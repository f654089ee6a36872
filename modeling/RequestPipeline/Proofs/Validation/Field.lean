import RequestPipeline.Validation.Check

/-!
# What a field accepts

`FieldSpec.Accepts f raw result` says, without the checker, what a field makes of what an input holds for
it: nothing, when the field is optional and nothing or null is given, and otherwise the coerced form of a
value that is not null, when that form keeps every constraint.

* `accepted_checkField_iff`   the checker accepts exactly this, with exactly this result;
* `checkField_invalid`        and where it accepts nothing it states at least one violation.
-/

namespace RequestPipeline.Validation

open Json (Value Members)

theorem isNull_iff {v : Value} : v.isNull = true ↔ v = .null := by
  cases v <;> simp [Value.isNull]

/-- what a field makes of what an input holds for it -/
inductive FieldSpec.Accepts (f : FieldSpec) : Option Value → Option Value → Prop where
  | missing (optional : f.optional = true) : f.Accepts none none
  | null (optional : f.optional = true) : f.Accepts (some .null) none
  | value {v w : Value} (given : v ≠ .null) (coerced : coerce v f.kind = some w)
      (kept : ∀ c ∈ f.constraints, satisfies c.rule w = true) : f.Accepts (some v) (some w)

namespace FieldOutcome

/-- the value that an outcome lets through: none at all when it is a refusal -/
def accepted? : FieldOutcome → Option (Option Value)
  | .absent => some none
  | .valid v => some (some v)
  | .invalid _ => none

end FieldOutcome

/-! ## the outcome of a check -/

theorem checkField_none (f : FieldSpec) :
    checkField f none = if f.optional then .absent
      else .invalid [⟨f.name, .required, f.name ++ " should not be null or undefined", f.general⟩] :=
  rfl

theorem checkField_null (f : FieldSpec) : checkField f (some .null) = checkField f none := rfl

theorem checkField_some (f : FieldSpec) {v : Value} (h : v ≠ .null) :
    checkField f (some v) =
      match coerce v f.kind with
      | none => .invalid [⟨f.name, .type, f.name ++ " must be " ++ f.kind.describe, f.general⟩]
      | some w =>
        match f.constraints.filter fun c => !satisfies c.rule w with
        | [] => .valid w
        | broken => .invalid (broken.map fun c => c.violation f) := by
  have hn : v.isNull = false := by simpa using mt isNull_iff.mp h
  have hf : (some v).filter (fun v => !v.isNull) = some v := by simp [Option.filter, hn]
  cases hc : coerce v f.kind with
  | none => simp only [checkField, hf, hc]
  | some w =>
    cases hb : f.constraints.filter fun c => !satisfies c.rule w with
    | nil => simp only [checkField, hf, hc, hb]
    | cons c broken => simp only [checkField, hf, hc, hb]

/-- no constraint is broken exactly when each is kept -/
theorem broken_eq_nil_iff (cs : List Constraint) (w : Value) :
    (cs.filter fun c => !satisfies c.rule w) = [] ↔ ∀ c ∈ cs, satisfies c.rule w = true := by
  simp [List.filter_eq_nil_iff]

theorem accepted_checkField_none_iff (f : FieldSpec) (raw : Option Value) (h : raw = none ∨ raw = some .null)
    (result : Option Value) :
    (checkField f raw).accepted? = some result ↔ f.optional = true ∧ result = none := by
  have e : checkField f raw = checkField f none := by
    rcases h with h | h
    · rw [h]
    · rw [h, checkField_null]
  rw [e, checkField_none]
  cases f.optional
  · simp [FieldOutcome.accepted?]
  · simp [FieldOutcome.accepted?, eq_comm]

theorem accepted_checkField_some_iff (f : FieldSpec) {v : Value} (h : v ≠ .null)
    (result : Option Value) :
    (checkField f (some v)).accepted? = some result ↔
      ∃ w, coerce v f.kind = some w ∧ (∀ c ∈ f.constraints, satisfies c.rule w = true) ∧
        result = some w := by
  rw [checkField_some f h]
  cases hc : coerce v f.kind with
  | none => simp [FieldOutcome.accepted?]
  | some w =>
    simp only [Option.some.injEq, exists_eq_left']
    rw [← broken_eq_nil_iff]
    cases hb : f.constraints.filter fun c => !satisfies c.rule w with
    | nil => simp [FieldOutcome.accepted?, eq_comm]
    | cons c cs => simp [FieldOutcome.accepted?]

/-- **A check lets through exactly what the field accepts.** -/
theorem accepted_checkField_iff (f : FieldSpec) (raw result : Option Value) :
    (checkField f raw).accepted? = some result ↔ f.Accepts raw result := by
  constructor
  · intro h
    match raw with
    | none =>
      obtain ⟨ho, rfl⟩ := (accepted_checkField_none_iff f none (.inl rfl) result).mp h
      exact .missing ho
    | some v =>
      by_cases hv : v = .null
      · subst hv
        obtain ⟨ho, rfl⟩ := (accepted_checkField_none_iff f _ (.inr rfl) result).mp h
        exact .null ho
      · obtain ⟨w, hw, hk, rfl⟩ := (accepted_checkField_some_iff f hv result).mp h
        exact .value hv hw hk
  · intro h
    cases h with
    | missing ho => exact (accepted_checkField_none_iff f none (.inl rfl) none).mpr ⟨ho, rfl⟩
    | null ho => exact (accepted_checkField_none_iff f _ (.inr rfl) none).mpr ⟨ho, rfl⟩
    | value hv hw hk => exact (accepted_checkField_some_iff f hv _).mpr ⟨_, hw, hk, rfl⟩

/-- a refused field has at least one violation -/
theorem checkField_invalid {f : FieldSpec} {raw : Option Value} {vs : List Violation}
    (h : checkField f raw = .invalid vs) : vs ≠ [] := by
  unfold checkField at h
  split at h
  · split at h
    · cases h
    · cases h
      exact List.cons_ne_nil _ _
  · split at h
    · cases h
      exact List.cons_ne_nil _ _
    · split at h
      · cases h
      · rename_i hb
        cases h
        simpa using hb

/-- the first constraint that is broken is the first violation of a field -/
theorem checkField_of_broken {f : FieldSpec} {v w : Value} (given : v ≠ .null) (coerced : coerce v f.kind = some w)
    {before after : List Constraint} {c : Constraint} (split : f.constraints = before ++ c :: after)
    (kept : ∀ c' ∈ before, satisfies c'.rule w = true) (broken : satisfies c.rule w ≠ true) :
    ∃ vs, checkField f (some v) = .invalid (c.violation f :: vs) := by
  have hb : (before.filter fun c => !satisfies c.rule w) = [] := (broken_eq_nil_iff before w).mpr kept
  have ha : ((c :: after).filter fun c => !satisfies c.rule w) = c :: after.filter fun c => !satisfies c.rule w :=
    List.filter_cons_of_pos (by rw [eq_false_of_ne_true broken]; rfl)
  rw [checkField_some f given, coerced]
  dsimp only
  rw [split, List.filter_append, hb, List.nil_append, ha]
  exact ⟨_, rfl⟩

end RequestPipeline.Validation
