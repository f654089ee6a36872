import RequestPipeline.Proofs.Dispatch.Gate
import RequestPipeline.Proofs.Validation.Exactness
import RequestPipeline.Samples.Script

/-!
# Requests without a body

A missing body is validated as null is, but not in the same context: the caller's context comes with a body,
so without one the rules about the body see nobody.  A rule that asks who calls can tell the two requests
apart:

* `dispatch_missing_alike_null_iff`   a request without a body is served as one with a null body exactly
                                      when the query is refused in both, or when the rules report the same
                                      about the empty object for nobody and for the caller;
* `missing_not_alike_null`            which is not always so.
-/

namespace RequestPipeline

open Json (Value Members)
open Validation

/-! ## null as an input -/

/-- what is bound unless something is reported -/
def Validation.Target.unless {α : Type} (t : Target α) (value : Members) : Option Failure → Except Failure α
  | some f => .error f
  | none => t.bound value

/-- null is validated as the empty object, and nothing of it depends on the context but the report -/
theorem validate_null {α : Type} (t : Target α) (context : Option RequestContext) :
    validate t .null context
      = t.unless (coercedFields t.schema.fields []) (check t.schema [] context).failure? := by
  rw [validate_of_reads t .null]
  cases (check t.schema [] context).failure? <;> rfl

/-- a failure that is reported is never one of a binding -/
theorem failure?_ne_internal {r : Report} {f : Failure} (h : r.failure? = some f) (m : String)
    (source : Option String) : f ≠ .internal m source := by
  obtain ⟨v, _, rfl⟩ := Option.map_eq_some_iff.mp h
  rcases failure_eq v with e | e <;> rw [e] <;> exact Failure.noConfusion

theorem bound_ne_reported {α : Type} {r : Report} {f : Failure} (h : r.failure? = some f) (t : Target α)
    (value : Members) : t.bound value ≠ .error f := by
  unfold Target.bound
  cases t.bind value with
  | ok a =>
    intro ha
    cases ha
  | error e =>
    intro he
    cases he
    exact failure?_ne_internal h _ _ rfl

/-- so a result tells what was reported -/
theorem unless_eq_iff {α : Type} (t : Target α) (value : Members) (r s : Report) :
    t.unless value r.failure? = t.unless value s.failure? ↔ r.failure? = s.failure? := by
  refine ⟨fun h => ?_, congrArg _⟩
  cases hr : r.failure? with
  | none =>
    cases hs : s.failure? with
    | none => rfl
    | some g =>
      rw [hr, hs] at h
      exact absurd h (bound_ne_reported hs t value)
  | some f =>
    cases hs : s.failure? with
    | none =>
      rw [hr, hs] at h
      exact absurd h.symm (bound_ne_reported hr t value)
    | some g =>
      rw [hr, hs] at h
      exact congrArg some (Except.error.inj h)

/-! ## a missing body and a null body -/

section
variable (op : Operation) (host : Host) (context : Option RequestContext) (query : Members)

/-- what is reported about an empty body in a context -/
def Operation.reportedEmpty (op : Operation) (context : Option RequestContext) : Option Failure :=
  (check op.body.schema [] context).failure?

/-- once its query is accepted, an input is accepted as its body is -/
theorem accept_eq_iff_of_query {q : Value} (hq : op.acceptQuery query context = .ok q)
    (body body' : Option Value) :
    op.accept context ⟨query, body⟩ = op.accept context ⟨query, body'⟩ ↔
      validate op.body (body.getD .null) (body.bind fun _ => context)
        = validate op.body (body'.getD .null) (body'.bind fun _ => context) := by
  unfold Operation.accept
  rw [hq]
  have hb : ∀ {b b' : Value}, Input.mk q b = Input.mk q b' → b = b' := fun h => (Input.mk.inj h).2
  exact map_inj_right (m := Except Failure) hb

/-- **A request without a body is served as one with a null body exactly when the query is refused, or when
the rules about the body report the same about the empty object for nobody and for the caller.** -/
theorem dispatch_missing_alike_null_iff :
    (dispatch op host context ⟨query, none⟩).Alike (dispatch op host context ⟨query, some .null⟩) ↔
      (∃ f, op.acceptQuery query context = .error f) ∨
        op.reportedEmpty none = op.reportedEmpty context := by
  rw [alike_dispatch_iff]
  cases hq : op.acceptQuery query context with
  | error f =>
    refine iff_of_true ?_ (.inl ⟨f, rfl⟩)
    unfold Operation.accept
    rw [hq]
    rfl
  | ok q =>
    rw [accept_eq_iff_of_query op context query hq]
    show validate op.body .null none = validate op.body .null context ↔ _
    rw [validate_null, validate_null, unless_eq_iff]
    refine ⟨.inr, fun h => ?_⟩
    rcases h with ⟨f, hf⟩ | h
    · cases hf
    · exact h

end

/-! ## an owner who sends nothing -/

/-- renames something, which only an owner may do -/
def Samples.rename : Operation :=
  prompt "rename" noInput
    ⟨⟨"Rename", [field "name" .string true []],
      [.check "owner_only" (checks "owner_only")]⟩, fun ms => .ok (.object ms)⟩
    fun _ i => .ok (.untyped i.body)

def Samples.owner : RequestContext := ⟨7, ["owner"], ⟨0⟩, .http⟩

/-- an owner may rename with a null body and is refused without one -/
theorem missing_not_alike_null :
    ¬ (dispatch Samples.rename .http (some Samples.owner) ⟨[], none⟩).Alike
        (dispatch Samples.rename .http (some Samples.owner) ⟨[], some .null⟩) := by
  intro h
  have hi : (dispatch Samples.rename .http (some Samples.owner) ⟨[], none⟩).inputs.length
      = (dispatch Samples.rename .http (some Samples.owner) ⟨[], some .null⟩).inputs.length :=
    congrArg List.length h.inputs
  exact absurd hi (by decide)

end RequestPipeline
