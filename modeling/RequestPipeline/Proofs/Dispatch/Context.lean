import RequestPipeline.Proofs.Dispatch.Gate
import RequestPipeline.Proofs.Validation.Exactness

/-!
# The context is no input

The checks of a schema are all that sees the context of a caller before the operation does.  Without them
(`Schema.unchecked`) validation needs no context, and with them it does the same unless one of them finds a
violation and that is reported:

* `selected_check_cases`   for the report of one object;
* `validate_cases`         for a validation;
* `accept_cases`           for what is accepted of a request.

`context_is_no_input`: **whoever calls, an operation is called with the same input, if it is called; a context
can only have a request refused, through a check; and nothing in a request changes the context of the call.**
-/

namespace RequestPipeline

open Json (Value Members)
open Validation

namespace Validation

/-! ## schemas without their checks -/

/-- whether a rule is about two fields that may not be given together -/
def ObjectRule.isExclusive : ObjectRule → Bool
  | .exclusive .. => true
  | .check .. => false

/-- a schema without its checks -/
def Schema.unchecked (s : Schema) : Schema := { s with rules := s.rules.filter ObjectRule.isExclusive }

/-- a target without the checks of its schema -/
def Target.unchecked {α : Type} (t : Target α) : Target α := ⟨t.schema.unchecked, t.bind⟩

/-- a check of a schema finds a violation in what an input object is coerced to -/
def Schema.Finds (s : Schema) (input : Members) (context : Option RequestContext) (v : Violation) : Prop :=
  ∃ name find, .check name find ∈ s.rules ∧ find (coercedFields s.fields input) context = some v

/-! ## the report of one object -/

section
variable {α β : Type} {f g : α → Option β}

/-- What is found first among what `f` finds is also found first by `g`, which finds less, unless it is one of
the things that `g` does not find. -/
theorem find?_filterMap_cases (p : β → Bool) {as : List α} (h : ∀ a ∈ as, f a = g a ∨ g a = none) :
    (as.filterMap f).find? p = (as.filterMap g).find? p ∨
      ∃ a ∈ as, f a ≠ g a ∧ ∃ b, f a = some b ∧ (as.filterMap f).find? p = some b := by
  induction as with
  | nil => exact .inl rfl
  | cons a as ih =>
    have skip : (as.filterMap f).find? p = (as.filterMap g).find? p ∨
        ∃ a' ∈ a :: as, f a' ≠ g a' ∧ ∃ b, f a' = some b ∧ (as.filterMap f).find? p = some b :=
      (ih fun a ha => h a (List.mem_cons_of_mem _ ha)).imp_right
        fun ⟨a', ha', hb⟩ => ⟨a', List.mem_cons_of_mem a ha', hb⟩
    cases hf : f a with
    | none =>
      have hg : g a = none := (h a List.mem_cons_self).elim (fun e => e ▸ hf) id
      rw [List.filterMap_cons_none hf, List.filterMap_cons_none hg]
      exact skip
    | some b =>
      rw [List.filterMap_cons_some hf]
      by_cases hb : p b = true
      · rw [List.find?_cons_of_pos hb]
        by_cases hg : f a = g a
        · rw [List.filterMap_cons_some (hg ▸ hf), List.find?_cons_of_pos hb]
          exact .inl rfl
        · exact .inr ⟨a, List.mem_cons_self, hg, b, hf, rfl⟩
      · rw [List.find?_cons_of_neg hb]
        rcases h a List.mem_cons_self with hg | hg
        · rw [List.filterMap_cons_some (hg ▸ hf), List.find?_cons_of_neg hb]
          exact skip
        · rw [List.filterMap_cons_none hg]
          exact skip

end

section
variable (s : Schema) (input : Members) (context : Option RequestContext)

/-- the first violation of some kind needs no context, or it is found by a check -/
theorem find?_objectViolations_cases (p : Violation → Bool) :
    (check s input context).objectViolations.find? p
        = (check s.unchecked input none).objectViolations.find? p ∨
      ∃ v, (check s input context).objectViolations.find? p = some v ∧ s.Finds input context v := by
  have hu : (check s.unchecked input none).objectViolations = s.rules.filterMap fun r =>
      if r.isExclusive then r.violation? input (coercedFields s.fields input) none else none :=
    List.filterMap_filter
  rw [hu]
  refine (find?_filterMap_cases p fun r _ => ?_).imp_right ?_
  · cases r with
    | exclusive first second code general => exact .inl rfl
    | check name find => exact .inr rfl
  · rintro ⟨r, hr, hne, v, hv, hf⟩
    cases r with
    | exclusive first second code general => exact absurd rfl hne
    | check name find => exact ⟨v, hf, name, find, hr, hv⟩

theorem head?_eq_find? {α : Type} (as : List α) : as.head? = as.find? fun _ => true := by
  cases as <;> rfl

/-- **The reported violation needs no context, or it is found by a check.** -/
theorem selected_check_cases :
    (check s input context).selected = (check s.unchecked input none).selected ∨
      ∃ v, (check s input context).selected = some v ∧ s.Finds input context v := by
  have hfast := find?_objectViolations_cases s input context fun v => v.code.failsFast
  have hfirst := find?_objectViolations_cases s input context fun _ => true
  have hfields : (check s.unchecked input none).fieldFailures = (check s input context).fieldFailures := rfl
  unfold Report.selected
  rw [hfields, head?_eq_find? (check s input context).objectViolations,
    head?_eq_find? (check s.unchecked input none).objectViolations]
  -- a violation that fails fast is reported before the fields, and any other after them
  rcases hfast with he | ⟨v, hv, hc⟩
  · rw [he]
    cases (check s.unchecked input none).objectViolations.find? fun v => v.code.failsFast with
    | some v => exact .inl rfl
    | none =>
      rw [Option.none_or, Option.none_or]
      cases (check s input context).fieldFailures.head?.bind fun f => f.violations.head? with
      | some v => exact .inl rfl
      | none => exact hfirst
  · rw [hv]
    exact .inr ⟨v, rfl, hc⟩

/-! ## validation -/

/-- a validation needs no context, or a check refuses the input -/
theorem validate_cases {α : Type} (t : Target α) (input : Value) (context : Option RequestContext) :
    validate t input context = validate t.unchecked input none ∨
      ∃ ms v, Reads input ms ∧ t.schema.Finds ms context v ∧ validate t input context = .error v.failure := by
  by_cases hr : ∃ ms, Reads input ms
  · obtain ⟨ms, hr⟩ := hr
    rw [validate_of_reads t hr, validate_of_reads t.unchecked hr]
    rcases selected_check_cases t.schema ms context with he | ⟨v, hv, hc⟩
    · have hf : (check t.schema ms context).failure? = (check t.unchecked.schema ms none).failure? :=
        congrArg (Option.map Violation.failure) he
      rw [hf]
      exact .inl rfl
    · have hf : (check t.schema ms context).failure? = some v.failure :=
        congrArg (Option.map Violation.failure) hv
      rw [hf]
      exact .inr ⟨ms, v, hr, hc, rfl⟩
  · rw [validate_of_unread t (not_exists.mp hr), validate_of_unread t.unchecked (not_exists.mp hr)]
    exact .inl rfl

end

end Validation

/-! ## what is accepted -/

/-- an operation without the checks of its schemas -/
def Operation.unchecked (op : Operation) : Operation :=
  { op with query := op.query.unchecked, body := op.body.unchecked }

/-- a check of an operation finds a violation in a request -/
inductive Operation.Objects (op : Operation) (context : Option RequestContext) (inbound : Inbound) :
    Violation → Prop
  | query {v : Violation} : op.query.schema.Finds inbound.query context v → op.Objects context inbound v
  | body {ms : Members} {v : Violation} : Reads (inbound.body.getD .null) ms →
      op.body.schema.Finds ms (inbound.bodyContext context) v → op.Objects context inbound v

/-- what refuses a request in a context is a check -/
def Operation.RefusedByCheck (op : Operation) (host : Host) (context : Option RequestContext)
    (inbound : Inbound) : Prop :=
  ∃ v, op.Objects context inbound v ∧ (dispatch op host context inbound).value = .error v.failure

section
variable {op : Operation} {inbound : Inbound}

/-- what is accepted of a request needs no context, or a check refuses it -/
theorem accept_cases (op : Operation) (context : Option RequestContext) (inbound : Inbound) :
    op.accept context inbound = op.unchecked.accept none inbound ∨
      ∃ v, op.Objects context inbound v ∧ op.accept context inbound = .error v.failure := by
  have hnone : inbound.bodyContext none = none := by
    unfold Inbound.bodyContext
    cases inbound.body <;> rfl
  unfold Operation.accept Operation.acceptQuery
  rw [hnone]
  rcases validate_cases op.query (.object inbound.query) context with hq | ⟨ms, v, hr, hf, hq⟩
  · rw [hq]
    show (validate op.query.unchecked (.object inbound.query) none).bind _
        = (validate op.query.unchecked (.object inbound.query) none).bind _ ∨ _
    cases validate op.query.unchecked (.object inbound.query) none with
    | error f => exact .inl rfl
    | ok query =>
      rcases validate_cases op.body (inbound.body.getD .null) (inbound.bodyContext context) with
        hb | ⟨ms, v, hr, hf, hb⟩
      · exact .inl (congrArg (Except.map fun body => (⟨query, body⟩ : Input)) hb)
      · refine .inr ⟨v, .body hr hf, ?_⟩
        show (validate op.body _ _).map _ = _
        rw [hb]
        rfl
  · cases hr
    rw [hq]
    exact .inr ⟨v, .query hf, rfl⟩

theorem inputs_eq_nil_iff {host : Host} {context : Option RequestContext} :
    (dispatch op host context inbound).inputs = [] ↔ ∃ f, op.accept context inbound = .error f := by
  rw [inputs_dispatch]
  cases op.accept context inbound with
  | error f => exact iff_of_true rfl ⟨f, rfl⟩
  | ok input => exact iff_of_false (List.cons_ne_nil _ _) fun ⟨f, hf⟩ => nomatch hf

theorem mem_inputs_iff {host : Host} {context : Option RequestContext} {input : Input} :
    input ∈ (dispatch op host context inbound).inputs ↔ op.accept context inbound = .ok input := by
  rw [inputs_dispatch]
  cases op.accept context inbound with
  | error f => exact iff_of_false List.not_mem_nil fun h => nomatch h
  | ok i =>
    show input ∈ [i] ↔ _
    rw [List.mem_singleton, Except.ok.injEq, eq_comm]

theorem value_dispatch_of_refused (host : Host) {context : Option RequestContext} {f : Failure}
    (h : op.accept context inbound = .error f) : (dispatch op host context inbound).value = .error f := by
  rw [value_dispatch, h]
  rfl

/-- a request that is accepted in some context is accepted without the checks -/
theorem accept_unchecked_of_mem_inputs {host : Host} {context : Option RequestContext} {input : Input}
    (h : input ∈ (dispatch op host context inbound).inputs) : op.unchecked.accept none inbound = .ok input := by
  rw [mem_inputs_iff] at h
  rcases accept_cases op context inbound with he | ⟨v, -, hv⟩
  · rw [← he, h]
  · rw [h] at hv
    cases hv

/-- a request that is refused is refused by a check, or without the checks and in the same words -/
theorem refused_cases (host : Host) {context : Option RequestContext}
    (h : (dispatch op host context inbound).inputs = []) :
    op.RefusedByCheck host context inbound ∨ ∃ f, op.unchecked.accept none inbound = .error f ∧
      (dispatch op host context inbound).value = .error f := by
  obtain ⟨f, hf⟩ := inputs_eq_nil_iff.mp h
  rcases accept_cases op context inbound with he | ⟨v, hv, ha⟩
  · exact .inr ⟨f, he ▸ hf, value_dispatch_of_refused host hf⟩
  · exact .inl ⟨v, hv, value_dispatch_of_refused host ha⟩

end

/-! ## two contexts -/

/-- what the context of a caller can do about a request, and what it cannot -/
structure ContextApart (op : Operation) (inbound : Inbound) : Prop where
  /-- two callers for whom the operation is called have it called with one input -/
  input : ∀ host host' context context' input input',
    input ∈ (dispatch op host context inbound).inputs →
      input' ∈ (dispatch op host' context' inbound).inputs → input = input'
  /-- what is refused to one caller and not to another is refused by a check -/
  refused : ∀ host host' context context', (dispatch op host context inbound).inputs = [] →
    (dispatch op host' context' inbound).inputs ≠ [] → op.RefusedByCheck host context inbound
  /-- two callers who are both refused are told the same, but for what the checks find -/
  told : ∀ host host' context context', (dispatch op host context inbound).inputs = [] →
    (dispatch op host' context' inbound).inputs = [] →
      (dispatch op host context inbound).value = (dispatch op host' context' inbound).value ∨
        op.RefusedByCheck host context inbound ∨ op.RefusedByCheck host' context' inbound
  /-- the operation is called in the context of its caller, whatever is in the request -/
  context : ∀ host context, (dispatch op host context inbound).CallsIn context

/-- **The context is no input**: whoever calls, an operation is called with the same input, if it is called; a
context can only have a request refused, through a check; and nothing in a request changes the context of the
call. -/
theorem context_is_no_input (op : Operation) (inbound : Inbound) : ContextApart op inbound := by
  constructor
  case input =>
    intro host host' context context' input input' h h'
    have hu := accept_unchecked_of_mem_inputs h
    rw [accept_unchecked_of_mem_inputs h'] at hu
    exact (Except.ok.inj hu).symm
  case refused =>
    intro host host' context context' h h'
    refine (refused_cases host h).resolve_right ?_
    rintro ⟨f, hf, -⟩
    obtain ⟨input, hi⟩ := List.exists_mem_of_ne_nil _ h'
    rw [accept_unchecked_of_mem_inputs hi] at hf
    cases hf
  case told =>
    intro host host' context context' h h'
    rcases refused_cases host h with hc | ⟨f, hf, hv⟩
    · exact .inr (.inl hc)
    · rcases refused_cases host' h' with hc | ⟨f', hf', hv'⟩
      · exact .inr (.inr hc)
      · rw [hf] at hf'
        cases hf'
        exact .inl (hv.trans hv'.symm)
  case context =>
    intro host context
    exact callsIn_dispatch op host context inbound

end RequestPipeline
