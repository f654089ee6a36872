import Mathlib.Data.List.Basic
import RequestPipeline.Proofs.Dispatch.Gate

/-!
# Operations that read the caller only

A context says who calls, and also under which id and over which transport.  An operation of which neither
the rules nor the behaviour read more than the caller (`Operation.ReadsCallerOnly`) is dispatched alike in all
contexts of one caller, on every host that has a transport:

* `accept_eq_of_sameCaller`        it accepts the same inputs;
* `value_dispatch_of_sameCaller`   its dispatch has the same result;
* `inputs_dispatch_of_sameCaller`  and calls it with the same inputs.
-/

namespace RequestPipeline

open Json (Value Members)
open Validation

/-- what a context says about the caller -/
def RequestContext.caller (c : RequestContext) : Int × Roles := (c.principalId, c.roles)

/-- two contexts of one caller, or of nobody -/
def SameCaller (c c' : Option RequestContext) : Prop :=
  c.map RequestContext.caller = c'.map RequestContext.caller

/-- a rule that reads no more of a context than the caller -/
def Validation.ObjectRule.ReadsCallerOnly : ObjectRule → Prop
  | .exclusive .. => True
  | .check _ find => ∀ object c c', SameCaller c c' → find object c = find object c'

/-- an operation of which neither the rules nor the behaviour read more of a context than the caller -/
structure Operation.ReadsCallerOnly (op : Operation) : Prop where
  query : ∀ r ∈ op.query.schema.rules, r.ReadsCallerOnly
  body : ∀ r ∈ op.body.schema.rules, r.ReadsCallerOnly
  call : ∀ c c', SameCaller c c' → ∀ input, (op.call c input).result = (op.call c' input).result

section
variable {c c' : Option RequestContext} (h : SameCaller c c')
include h

/-! ## validation -/

theorem violation?_of_sameCaller {r : ObjectRule} (hr : r.ReadsCallerOnly) (input value : Members) :
    r.violation? input value c = r.violation? input value c' := by
  cases r with
  | exclusive first second code general => rfl
  | check name find => exact hr value c c' h

theorem check_of_sameCaller {s : Schema} (hs : ∀ r ∈ s.rules, r.ReadsCallerOnly) (input : Members) :
    check s input c = check s input c' := by
  have hv : (s.rules.filterMap fun r => r.violation? input (coercedFields s.fields input) c)
      = s.rules.filterMap fun r => r.violation? input (coercedFields s.fields input) c' :=
    List.filterMap_congr fun r hr => violation?_of_sameCaller h (hs r hr) _ _
  unfold check
  dsimp only
  rw [hv]

theorem validate_of_sameCaller {α : Type} {t : Target α} (ht : ∀ r ∈ t.schema.rules, r.ReadsCallerOnly)
    (input : Value) : validate t input c = validate t input c' := by
  unfold validate
  cases inputObject? input with
  | none => rfl
  | some object =>
    dsimp only
    rw [check_of_sameCaller h ht]

theorem bodyContext_of_sameCaller (inbound : Inbound) :
    SameCaller (inbound.bodyContext c) (inbound.bodyContext c') := by
  unfold Inbound.bodyContext
  cases inbound.body with
  | none => rfl
  | some b => exact h

/-! ## dispatch -/

variable {op : Operation} (hop : op.ReadsCallerOnly)
include hop

theorem accept_eq_of_sameCaller (inbound : Inbound) : op.accept c inbound = op.accept c' inbound := by
  unfold Operation.accept Operation.acceptQuery
  rw [validate_of_sameCaller h hop.query,
    validate_of_sameCaller (bodyContext_of_sameCaller h inbound) hop.body]

theorem value_dispatch_of_sameCaller {host host' : Host} {t t' : Transport}
    (ht : host.transport = .ok t) (ht' : host'.transport = .ok t') (inbound : Inbound) :
    (dispatch op host c inbound).value = (dispatch op host' c' inbound).value := by
  rw [value_dispatch, value_dispatch, accept_eq_of_sameCaller h hop]
  cases op.accept c' inbound with
  | error f => rfl
  | ok input =>
    show op.outcome host c input = op.outcome host' c' input
    unfold Operation.outcome
    rw [hop.call c c' h input, ht, ht']
    rfl

theorem inputs_dispatch_of_sameCaller (host host' : Host) (inbound : Inbound) :
    (dispatch op host c inbound).inputs = (dispatch op host' c' inbound).inputs := by
  rw [inputs_dispatch, inputs_dispatch, accept_eq_of_sameCaller h hop]

end

end RequestPipeline
