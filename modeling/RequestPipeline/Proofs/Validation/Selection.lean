import RequestPipeline.Proofs.Text.Order
import RequestPipeline.Proofs.Validation.Exactness

/-!
# Which violation is reported

A report may hold many violations, and a client is told one.  `FieldSpec.States` says what a field states first about
what it is given, `ObjectRule.Finds` what a rule finds, and `Chosen` which of all these violations is told: one that is
urgent, else the first of the first failing field, else that of the least undeclared key, else the first of a rule.

* `firstOf_iff`         a scan that stops at the first find;
* `states_iff`          what a field states is the first violation of its failure;
* `head?_undeclared`    the undeclared keys come in the order of their bytes;
* `selected_iff`        the report selects the chosen violation.

`one_failure_reported`: **exactly one violation is told, the chosen one, as the failure that its own code, property
and flag say; and nothing is told exactly when nothing is wrong.**
-/

namespace RequestPipeline.Validation

open Json (Value Members)

/-! ## the first of a list -/

section
variable {α β : Type}

/-- `b` is what the first element of a list that has something has -/
def FirstOf (has : α → β → Prop) (as : List α) (b : β) : Prop :=
  ∃ before a after, as = before ++ a :: after ∧ has a b ∧ ∀ a' ∈ before, ∀ b', ¬ has a' b'

theorem firstOf_iff {has : α → β → Prop} {f : α → Option β} (h : ∀ a b, f a = some b ↔ has a b) {as : List α} {b : β} :
    as.findSome? f = some b ↔ FirstOf has as b := by
  rw [List.findSome?_eq_some_iff]
  refine exists_congr fun before => exists_congr fun a => exists_congr fun after => ?_
  simp only [h, Option.eq_none_iff_forall_ne_some, ne_eq]

theorem findSome?_eq_none_iff_of {has : α → β → Prop} {f : α → Option β} (h : ∀ a b, f a = some b ↔ has a b)
    {as : List α} : as.findSome? f = none ↔ ∀ a ∈ as, ∀ b, ¬ has a b := by
  rw [List.findSome?_eq_none_iff]
  simp only [← h, Option.eq_none_iff_forall_ne_some, ne_eq]

end

/-! ## what a field states -/

/-- the first thing that is wrong with what a field is given -/
inductive FieldSpec.States (f : FieldSpec) : Option Value → Violation → Prop
  | required {raw : Option Value} : raw = none ∨ raw = some .null → f.optional = false →
      f.States raw ⟨f.name, .required, f.name ++ " should not be null or undefined", f.general⟩
  | type {v : Value} : v ≠ .null → coerce v f.kind = none →
      f.States (some v) ⟨f.name, .type, f.name ++ " must be " ++ f.kind.describe, f.general⟩
  | constraint {v w : Value} {violation : Violation} : v ≠ .null → coerce v f.kind = some w →
      FirstOf (fun c violation => satisfies c.rule w = false ∧ violation = c.violation f) f.constraints violation →
      f.States (some v) violation

/-- what a field states, from its check -/
def FieldOutcome.stated? : FieldOutcome → Option Violation
  | .invalid vs => vs.head?
  | _ => none

theorem head?_broken (f : FieldSpec) (w : Value) :
    ((f.constraints.filter fun c => !satisfies c.rule w).map fun c => c.violation f).head? =
      f.constraints.findSome? fun c => if satisfies c.rule w then none else some (c.violation f) := by
  rw [List.head?_map, List.head?_filter, List.find?_eq_findSome?_guard, List.map_findSome?]
  congr 1
  funext c
  cases hc : satisfies c.rule w <;> simp [Option.guard, hc]

theorem stated?_of_coerced {f : FieldSpec} {v w : Value} (given : v ≠ .null) (coerced : coerce v f.kind = some w) :
    (checkField f (some v)).stated? =
      f.constraints.findSome? fun c => if satisfies c.rule w then none else some (c.violation f) := by
  rw [checkField_some f given, coerced, ← head?_broken]
  dsimp only
  split
  · rename_i hb
    rw [hb]
    rfl
  · rfl

theorem breaks_iff (f : FieldSpec) (w : Value) (c : Constraint) (v : Violation) :
    (if satisfies c.rule w then none else some (c.violation f)) = some v ↔
      satisfies c.rule w = false ∧ v = c.violation f := by
  cases satisfies c.rule w <;> simp [eq_comm]

theorem states_iff {f : FieldSpec} {raw : Option Value} {violation : Violation} :
    (checkField f raw).stated? = some violation ↔ f.States raw violation := by
  have constraints : ∀ {w : Value}, _ ↔ FirstOf _ f.constraints violation := fun {w} => firstOf_iff (breaks_iff f w)
  constructor
  · intro h
    by_cases hr : raw = none ∨ raw = some .null
    · have e : checkField f raw = checkField f none := by
        rcases hr with rfl | rfl <;> rfl
      rw [e, checkField_none] at h
      cases ho : f.optional with
      | true =>
        rw [ho] at h
        cases h
      | false =>
        rw [ho] at h
        cases h
        exact .required hr ho
    · obtain ⟨hn, hv⟩ := not_or.mp hr
      obtain ⟨v, rfl⟩ := Option.ne_none_iff_exists'.mp hn
      have given : v ≠ .null := fun e => hv (congrArg some e)
      cases hc : coerce v f.kind with
      | none =>
        rw [checkField_some f given, hc] at h
        cases h
        exact .type given hc
      | some w =>
        rw [stated?_of_coerced given hc] at h
        exact .constraint given hc (constraints.mp h)
  · intro h
    cases h with
    | required hr ho =>
      have e : checkField f raw = checkField f none := by
        rcases hr with rfl | rfl <;> rfl
      rw [e, checkField_none, ho]
      rfl
    | type given hc =>
      rw [checkField_some f given, hc]
      rfl
    | constraint given hc hf =>
      rw [stated?_of_coerced given hc]
      exact constraints.mpr hf

/-! ## what a rule finds -/

/-- what a rule finds in an input object, and in what it is coerced to -/
inductive ObjectRule.Finds (input object : Members) (context : Option RequestContext) : ObjectRule → Violation → Prop
  | exclusive {first second : String} {code : Code} {general : Bool} : Gives input first → Gives input second →
      Finds input object context (.exclusive first second code general)
        ⟨second, code, first ++ " and " ++ second ++ " cannot be used together", general⟩
  | check {name : String} {find : Members → Option RequestContext → Option Violation} {v : Violation} :
      find object context = some v → Finds input object context (.check name find) v

theorem finds_iff {input object : Members} {context : Option RequestContext} {r : ObjectRule} {v : Violation} :
    r.violation? input object context = some v ↔ r.Finds input object context v := by
  cases r with
  | check name find =>
    constructor
    · exact .check
    · rintro ⟨⟩
      assumption
  | exclusive first second code general =>
    have hg : (isPresent input first && isPresent input second) = true ↔ Gives input first ∧ Gives input second := by
      rw [Bool.and_eq_true, isPresent_iff, isPresent_iff]
      rfl
    unfold ObjectRule.violation?
    dsimp only
    constructor
    · intro h
      split at h
      · rename_i hp
        obtain ⟨h₁, h₂⟩ := hg.mp hp
        cases h
        exact .exclusive h₁ h₂
      · cases h
    · rintro ⟨h₁, h₂⟩
      rw [if_pos (hg.mpr ⟨h₁, h₂⟩)]

/-! ## what a client is told -/

/-- a violation of two fields that may not be given together, or of a page -/
def Violation.Urgent (v : Violation) : Prop := v.code = .exclusive ∨ v.code = .cursorConflict

theorem failsFast_iff {v : Violation} : v.code.failsFast = true ↔ v.Urgent := by
  unfold Violation.Urgent
  cases v.code <;> simp [Code.failsFast]

section
variable (s : Schema) (input : Members) (context : Option RequestContext)

/-- what a rule of a schema finds -/
def Schema.RuleFinds (r : ObjectRule) (v : Violation) : Prop := r.Finds input (coercedFields s.fields input) context v

/-- the violation that is told -/
inductive Chosen : Violation → Prop
  | urgent {v : Violation} : FirstOf (fun r v => s.RuleFinds input context r v ∧ v.Urgent) s.rules v → Chosen v
  | field {v : Violation} : (∀ r ∈ s.rules, ∀ v, ¬ (s.RuleFinds input context r v ∧ v.Urgent)) →
      FirstOf (fun f v => f.States (input.get? f.name) v) s.fields v → Chosen v
  | undeclared {key : String} : (∀ r ∈ s.rules, ∀ v, ¬ (s.RuleFinds input context r v ∧ v.Urgent)) →
      (∀ f ∈ s.fields, ∀ v, ¬ f.States (input.get? f.name) v) →
      key ∈ input.keys → (∀ f ∈ s.fields, f.name ≠ key) →
      (∀ other ∈ input.keys, (∀ f ∈ s.fields, f.name ≠ other) → other = key ∨ Utf8.ofText key < Utf8.ofText other) →
      Chosen ⟨key, .whitelist, "property " ++ key ++ " should not exist", false⟩
  | rule {v : Violation} : (∀ r ∈ s.rules, ∀ v, ¬ (s.RuleFinds input context r v ∧ v.Urgent)) →
      (∀ f ∈ s.fields, ∀ v, ¬ f.States (input.get? f.name) v) →
      (∀ key ∈ input.keys, ∃ f ∈ s.fields, f.name = key) →
      FirstOf (s.RuleFinds input context) s.rules v → Chosen v

end

/-! ## the parts of a selection -/

section
variable {α β : Type}

theorem find?_filterMap_eq (f : α → Option β) (p : β → Bool) (as : List α) :
    (as.filterMap f).find? p = as.findSome? fun a => (f a).filter p := by
  induction as with
  | nil => rfl
  | cons a as ih =>
    rw [List.findSome?_cons]
    cases ha : f a with
    | none =>
      rw [List.filterMap_cons_none ha]
      exact ih
    | some b =>
      rw [List.filterMap_cons_some ha]
      by_cases hb : p b = true
      · rw [List.find?_cons_of_pos hb, Option.filter_some_pos hb]
      · rw [List.find?_cons_of_neg hb, Option.filter_some_neg (by simpa using hb)]
        exact ih

end

section
variable {s : Schema} {input : Members} {context : Option RequestContext}

theorem urgent_iff {v : Violation} :
    ((check s input context).objectViolations.find? fun v => v.code.failsFast) = some v ↔
      FirstOf (fun r v => s.RuleFinds input context r v ∧ v.Urgent) s.rules v := by
  show (s.rules.filterMap _).find? _ = some v ↔ _
  rw [find?_filterMap_eq]
  refine firstOf_iff fun r v => ?_
  rw [Option.filter_eq_some_iff, finds_iff, failsFast_iff]
  rfl

theorem not_urgent_iff :
    ((check s input context).objectViolations.find? fun v => v.code.failsFast) = none ↔
      ∀ r ∈ s.rules, ∀ v, ¬ (s.RuleFinds input context r v ∧ v.Urgent) := by
  show (s.rules.filterMap _).find? _ = none ↔ _
  rw [find?_filterMap_eq]
  refine findSome?_eq_none_iff_of fun r v => ?_
  rw [Option.filter_eq_some_iff, finds_iff, failsFast_iff]
  rfl

theorem rule_iff {v : Violation} : (check s input context).objectViolations.head? = some v ↔
    FirstOf (s.RuleFinds input context) s.rules v := by
  show (s.rules.filterMap _).head? = some v ↔ _
  rw [List.head?_filterMap]
  exact firstOf_iff fun r v => finds_iff

theorem head?_declared (fields : List FieldSpec) (input : Members) :
    ((declaredFailures fields input).head?.bind fun failure => failure.violations.head?) =
      fields.findSome? fun f => (checkField f (input.get? f.name)).stated? := by
  unfold declaredFailures
  induction fields with
  | nil => rfl
  | cons f fields ih =>
    rw [List.findSome?_cons]
    cases hc : checkField f (input.get? f.name) with
    | invalid vs =>
      rw [List.filterMap_cons_some (by rw [hc])]
      obtain ⟨v, vs, rfl⟩ := List.exists_cons_of_ne_nil (checkField_invalid hc)
      rfl
    | _ =>
      rw [List.filterMap_cons_none (by rw [hc])]
      exact ih

/-- the failing fields come in front of the undeclared keys, and each has a violation -/
theorem head?_fieldFailures :
    ((check s input context).fieldFailures.head?.bind fun failure => failure.violations.head?) =
      (s.fields.findSome? fun f => (checkField f (input.get? f.name)).stated?).or
        ((input.keys.find? fun key => !s.declares key).map fun key =>
          ⟨key, .whitelist, "property " ++ key ++ " should not exist", false⟩) := by
  have hu : ((undeclaredFailures s input).head?.bind fun failure => failure.violations.head?) =
      (input.keys.find? fun key => !s.declares key).map fun key =>
        ⟨key, .whitelist, "property " ++ key ++ " should not exist", false⟩ := by
    unfold undeclaredFailures
    rw [List.head?_map, List.head?_filter]
    cases input.keys.find? fun key => !s.declares key <;> rfl
  rw [← head?_declared, ← hu]
  show (declaredFailures s.fields input ++ undeclaredFailures s input).head?.bind _ = _
  cases hd : declaredFailures s.fields input with
  | nil => rfl
  | cons failure failures =>
    have hne := ne_nil_of_mem_declaredFailures (hd ▸ List.mem_cons_self)
    obtain ⟨v, vs, hv⟩ := List.exists_cons_of_ne_nil hne
    show failure.violations.head? = failure.violations.head?.or _
    rw [hv]
    rfl

theorem not_declares_iff {key : String} : (!s.declares key) = true ↔ ∀ f ∈ s.fields, f.name ≠ key := by
  simp [Schema.declares]

/-- the first undeclared key is the one whose bytes come first -/
theorem head?_undeclared (sorted : input.Sorted) {key : String} :
    (input.keys.find? fun key => !s.declares key) = some key ↔
      key ∈ input.keys ∧ (∀ f ∈ s.fields, f.name ≠ key) ∧
        ∀ other ∈ input.keys, (∀ f ∈ s.fields, f.name ≠ other) → other = key ∨ Utf8.ofText key < Utf8.ofText other := by
  have ordered : input.keys.Pairwise (· < ·) := List.pairwise_map.mpr sorted
  -- what is found is least, and there is one least key at most
  have least : ∀ {key}, (input.keys.find? fun key => !s.declares key) = some key →
      ∀ other ∈ input.keys, (∀ f ∈ s.fields, f.name ≠ other) → other = key ∨ Utf8.ofText key < Utf8.ofText other := by
    intro key h other ho hu
    obtain ⟨-, before, after, hs, hb⟩ := List.find?_eq_some_iff_append.mp h
    rw [hs] at ho ordered
    rcases List.mem_append.mp ho with ho | ho
    · have hd := hb other ho
      rw [not_declares_iff.mpr hu] at hd
      cases hd
    · rcases List.mem_cons.mp ho with rfl | ho
      · exact .inl rfl
      · exact .inr (Utf8.ofText_lt_iff.mpr ((List.pairwise_cons.mp (List.pairwise_append.mp ordered).2.1).1 other ho))
  have hfound : ∀ {key}, (input.keys.find? fun key => !s.declares key) = some key → (!s.declares key) = true :=
    fun h => List.find?_some (p := fun key => !s.declares key) h
  constructor
  · intro h
    exact ⟨List.mem_of_find?_eq_some h, not_declares_iff.mp (hfound h), least h⟩
  · rintro ⟨hk, hu, hl⟩
    obtain ⟨first, hf⟩ := Option.isSome_iff_exists.mp
      (List.find?_isSome (p := fun key => !s.declares key) |>.mpr ⟨key, hk, not_declares_iff.mpr hu⟩)
    rw [hf]
    have hfu := not_declares_iff.mp (hfound hf)
    rcases least hf key hk hu with rfl | hlt
    · rfl
    · rcases hl first (List.mem_of_find?_eq_some hf) hfu with rfl | hlt'
      · rfl
      · exact absurd hlt' (List.lt_asymm hlt)

/-- **The report of a check selects the chosen violation.** -/
theorem selected_iff (sorted : input.Sorted) {v : Violation} :
    (check s input context).selected = some v ↔ Chosen s input context v := by
  have field : ∀ {v}, (s.fields.findSome? fun f => (checkField f (input.get? f.name)).stated?) = some v ↔
      FirstOf (fun f v => f.States (input.get? f.name) v) s.fields v := firstOf_iff fun f v => states_iff
  have noField : (s.fields.findSome? fun f => (checkField f (input.get? f.name)).stated?) = none ↔
      ∀ f ∈ s.fields, ∀ v, ¬ f.States (input.get? f.name) v := findSome?_eq_none_iff_of fun f v => states_iff
  have noUndeclared : (input.keys.find? fun key => !s.declares key) = none ↔
      ∀ key ∈ input.keys, ∃ f ∈ s.fields, f.name = key := by
    simp [List.find?_eq_none, Schema.declares]
  unfold Report.selected
  rw [head?_fieldFailures, Option.or_eq_some_iff, Option.or_eq_some_iff, Option.or_eq_some_iff, Option.or_eq_none_iff,
    Option.map_eq_none_iff, Option.map_eq_some_iff, urgent_iff, not_urgent_iff, rule_iff, field, noField, noUndeclared]
  constructor
  · rintro (h | ⟨hu, (h | ⟨hf, key, hk, rfl⟩) | ⟨⟨hf, hk⟩, h⟩⟩)
    · exact .urgent h
    · exact .field hu h
    · obtain ⟨hk, hd, hl⟩ := (head?_undeclared sorted).mp hk
      exact .undeclared hu hf hk hd hl
    · exact .rule hu hf hk h
  · intro h
    cases h with
    | urgent h => exact .inl h
    | field hu h => exact .inr ⟨hu, .inl (.inl h)⟩
    | undeclared hu hf hk hd hl =>
      exact .inr ⟨hu, .inl (.inr ⟨hf, _, (head?_undeclared sorted).mpr ⟨hk, hd, hl⟩, rfl⟩)⟩
    | rule hu hf hk h => exact .inr ⟨hu, .inr ⟨⟨hf, hk⟩, h⟩⟩

end

/-- what is said of a violation: its message, which a general one keeps back -/
inductive Violation.Says (v : Violation) : Option String → Prop
  | message : v.general = false → v.Says (some v.message)
  | nothing : v.general = true → v.Says none

/-- the failure that tells of a violation -/
inductive Violation.Told (v : Violation) : Failure → Prop
  | conflict {said : Option String} : v.code = .cursorConflict → v.Says said → v.Told (.cursorConflict v.property said)
  | invalid {said : Option String} : v.code ≠ .cursorConflict → v.Says said → v.Told (.invalidInput v.property said)

theorem told_iff {v : Violation} {f : Failure} : v.failure = f ↔ v.Told f := by
  have told_once : ∀ {said}, v.Says said → said = v.reported := by
    rintro _ (hg | hg) <;> (unfold Violation.reported; rw [hg]; rfl)
  have reported : v.Says v.reported := by
    unfold Violation.reported
    split
    · rename_i hg
      exact .nothing hg
    · rename_i hg
      exact .message (Bool.eq_false_iff.mpr hg)
  have conflict : v.code = .cursorConflict → v.failure = .cursorConflict v.property v.reported := by
    intro hc
    unfold Violation.failure
    rw [hc]
  constructor
  · rintro rfl
    by_cases hc : v.code = .cursorConflict
    · rw [conflict hc]
      exact .conflict hc reported
    · rw [failure_of_ne hc]
      exact .invalid hc reported
  · rintro (⟨hc, hs⟩ | ⟨hc, hs⟩)
    · rw [conflict hc, told_once hs]
    · rw [failure_of_ne hc, told_once hs]

/-- **Exactly one violation is told, the chosen one.**  Every failing field of a report has a violation, so that nothing
is told exactly when no field fails and no rule finds anything; and else the chosen violation is selected, and told as
its own code, property and flag say. -/
theorem one_failure_reported (s : Schema) (input : Members) (sorted : input.Sorted)
    (context : Option RequestContext) :
    let r := check s input context
    (∀ failure ∈ r.fieldFailures, failure.violations ≠ []) ∧
    (r.failure? = none ↔ r.fieldFailures = [] ∧ r.objectViolations = []) ∧
    (∀ v, r.selected = some v ↔ Chosen s input context v) ∧
    ∀ f, r.failure? = some f ↔ ∃ v, Chosen s input context v ∧ v.Told f := by
  intro r
  have nonempty : ∀ failure ∈ r.fieldFailures, failure.violations ≠ [] := fun _ => ne_nil_of_mem_fieldFailures
  refine ⟨nonempty, ?_, fun v => selected_iff sorted, fun f => ?_⟩
  · unfold Report.failure?
    rw [Option.map_eq_none_iff]
    exact Report.selected_eq_none_iff nonempty
  · unfold Report.failure?
    rw [Option.map_eq_some_iff]
    exact exists_congr fun v => and_congr (selected_iff sorted) told_iff

/-- a seat in a row of ten, for which late callers are told something of their own -/
def seatSchema : Schema :=
  ⟨"Seat", [⟨"name", .string, true, false, [⟨.minLength 2, false, none⟩]⟩,
      ⟨"row", .integer, false, false, [⟨.min 0, false, none⟩, ⟨.max 9, true, none⟩]⟩],
    [.check "late" fun object _ =>
      if object.contains "name" then some ⟨"name", .cursorConflict, "late", false⟩ else none]⟩

/-- the row is told in general, before the key that is not declared; and the late caller is told before both -/
theorem one_failure_reported_seat :
    let early : Members := [("aisle", .null), ("row", .string "12")]
    let late : Members := [("aisle", .null), ("name", .string "no"), ("row", .string "12")]
    early.Sorted ∧ late.Sorted ∧
      (check seatSchema early none).failure? = some (.invalidInput "row" none) ∧
      Chosen seatSchema early none ⟨"row", .max, "row must not be greater than 9", true⟩ ∧
      (∃ v, Chosen seatSchema late none v ∧ v.Told (.cursorConflict "name" (some "late"))) := by
  intro early late
  have early_sorted : early.Sorted := by
    unfold Members.Sorted
    decide
  have late_sorted : late.Sorted := by
    unfold Members.Sorted
    decide
  have told : (check seatSchema early none).failure? = some (.invalidInput "row" none) := by decide +kernel
  have selected : (check seatSchema early none).selected =
      some ⟨"row", .max, "row must not be greater than 9", true⟩ := by decide +kernel
  have conflict : (check seatSchema late none).failure? = some (.cursorConflict "name" (some "late")) := by
    decide +kernel
  obtain ⟨-, -, chosen, -⟩ := one_failure_reported seatSchema early early_sorted none
  obtain ⟨-, -, -, failure⟩ := one_failure_reported seatSchema late late_sorted none
  exact ⟨early_sorted, late_sorted, told, (chosen _).mp selected, (failure _).mp conflict⟩

end RequestPipeline.Validation
