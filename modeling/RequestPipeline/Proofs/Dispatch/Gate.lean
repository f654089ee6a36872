import RequestPipeline.Operation

/-!
# The gate in front of an operation

A dispatch validates the query and the body of a request (`Operation.accept`); then it calls the operation with
them, once, and makes the reply ready to go out (`Operation.answer`).  What comes of it:

* `value_dispatch`            the failure of the validation, or what the operation gives;
* `called_dispatch`           one call with the accepted input, or none;
* `sendsBytes_dispatch_iff`   a note that bytes are sent, exactly when bytes are the result;
* `alike_dispatch_iff`        **two requests are served alike exactly when they are accepted alike.**
-/

namespace RequestPipeline

open Json (Value Members)
open Validation (validate validatePayload)

/-! ## calls -/

/-- a call of an operation, with the context of the caller beside the input -/
structure Call where
  operation : String
  context : Option RequestContext
  input : Input

namespace Event

def call? : Event → Option Call
  | .called operation context query body => some ⟨operation, context, ⟨query, body⟩⟩
  | _ => none

def input? : Event → Option Input
  | .called _ _ query body => some ⟨query, body⟩
  | _ => none

end Event

namespace Run
variable {α β : Type}

def inputs (r : Run α) : List Input := r.events.filterMap Event.input?

def called (r : Run α) : List Call := r.events.filterMap Event.call?

/-- what is seen of a run: the calls that it made and its result -/
def observed (r : Run α) : List Call × α := (r.called, r.value)

theorem called_bind (r : Run α) (f : α → Run β) :
    (r >>= f).called = r.called ++ (f r.value).called := by
  unfold called
  rw [events_bind, List.filterMap_append]

theorem observed_bind (r : Run α) (f : α → Run β) :
    (r >>= f).observed = (r.called ++ (f r.value).called, (f r.value).value) := by
  unfold observed
  rw [called_bind, value_bind]

theorem observed_bind_pure (r : Run α) (f : α → β) :
    (r >>= fun a => pure (f a)).observed = r.observed.map id f := by
  rw [observed_bind]
  exact congrArg (·, f r.value) (List.append_nil r.called)

theorem called_timed (r : Run α) : r.timed.called = r.called := rfl

/-- whether every call of a run is made in one context -/
def CallsIn (r : Run α) (context : Option RequestContext) : Prop := ∀ call ∈ r.called, call.context = context

theorem callsIn_of_called_nil {context : Option RequestContext} {r : Run α} (h : r.called = []) :
    r.CallsIn context := by
  intro call hc
  rw [h] at hc
  cases hc

theorem callsIn_pure {context : Option RequestContext} (a : α) : (pure a : Run α).CallsIn context :=
  callsIn_of_called_nil rfl

theorem CallsIn.bind {context : Option RequestContext} {r : Run α} (h : r.CallsIn context) {f : α → Run β}
    (hf : (f r.value).CallsIn context) : (r >>= f).CallsIn context := by
  intro call hc
  rw [called_bind] at hc
  rcases List.mem_append.mp hc with hc | hc
  · exact h call hc
  · exact hf call hc

theorem inputs_eq_map_called (r : Run α) : r.inputs = r.called.map Call.input := by
  unfold inputs called
  rw [List.map_filterMap]
  refine congrArg (List.filterMap · r.events) (funext fun e => ?_)
  cases e <;> rfl

/-- an operation is called as often as there are inputs -/
theorem calls_eq_length_inputs (r : Run α) : r.calls = r.inputs.length := by
  unfold calls inputs
  induction r.events with
  | nil => rfl
  | cons e es ih =>
    cases e with
    | called operation context query body => exact congrArg (· + 1) ih
    | visited stage => exact ih
    | inputRejected code => exact ih
    | replied kind => exact ih
    | answered transport outcome milliseconds => exact ih

/-- two runs with one result, in which operations were called with the same inputs -/
structure Alike (r s : Run α) : Prop where
  value : r.value = s.value
  inputs : r.inputs = s.inputs

/-- whether it was noted that bytes are sent -/
def SendsBytes (r : Run α) : Prop := .replied .binary ∈ r.events

theorem sendsBytes_bind (r : Run α) (f : α → Run β) :
    (r >>= f).SendsBytes ↔ r.SendsBytes ∨ (f r.value).SendsBytes := by
  unfold SendsBytes
  rw [events_bind, List.mem_append]

theorem not_sendsBytes_pure (a : α) : ¬ (pure a : Run α).SendsBytes := List.not_mem_nil

end Run

/-! ## the two steps -/

/-- the context that a body is validated in: none when there is no body -/
def Inbound.bodyContext (inbound : Inbound) (context : Option RequestContext) : Option RequestContext :=
  inbound.body.bind fun _ => context

namespace Operation

/-- the input of an operation, once the query and the body are validated -/
def accept (op : Operation) (context : Option RequestContext) (inbound : Inbound) :
    Except Failure Input :=
  (op.acceptQuery inbound.query context).bind fun query =>
    (validate op.body (inbound.body.getD .null) (inbound.bodyContext context)).map fun body =>
      ⟨query, body⟩

/-- calls an operation and makes its reply ready to go out -/
def answer (op : Operation) (host : Host) (context : Option RequestContext) (input : Input) :
    Run (Except Failure Outgoing) := do
  match ← op.perform context input with
  | .error f => pure (.error f)
  | .ok reply => reply.filter.send host

/-- what goes out after an operation was called -/
def outcome (op : Operation) (host : Host) (context : Option RequestContext) (input : Input) :
    Except Failure Outgoing :=
  (op.call context input).result.bind fun reply => host.transport.map fun _ => reply.filter.outgoing

theorem acceptBody_inject (op : Operation) (context : Option RequestContext) (inbound : Inbound) :
    op.acceptBody (Payload.inject inbound.body context)
      = (validate op.body (inbound.body.getD .null) (inbound.bodyContext context)).map fun body =>
          ⟨body, inbound.bodyContext context⟩ := by
  obtain ⟨query, body⟩ := inbound
  cases body <;> rfl

end Operation

/-- a dispatch is a validation and then a call -/
theorem dispatch_eq (op : Operation) (host : Host) (context : Option RequestContext) (inbound : Inbound) :
    dispatch op host context inbound =
      match op.accept context inbound with
      | .error f => rejectInput f
      | .ok input => op.answer host context input := by
  unfold dispatch Operation.accept
  cases op.acceptQuery inbound.query context with
  | error f => rfl
  | ok query =>
    rw [Operation.acceptBody_inject]
    show _ = match (validate op.body (inbound.body.getD .null) (inbound.bodyContext context)).map _ with
      | .error f => rejectInput f
      | .ok input => op.answer host context input
    cases validate op.body (inbound.body.getD .null) (inbound.bodyContext context) <;> rfl

/-! ## what comes of them -/

theorem value_rejectInput (f : Failure) :
    (rejectInput f : Run (Except Failure Outgoing)).value = .error f := rfl

theorem called_rejectInput (f : Failure) :
    (rejectInput f : Run (Except Failure Outgoing)).called = [] := rfl

theorem value_send (filtered : Filtered) (host : Host) :
    (filtered.send host).value = host.transport.map fun _ => filtered.outgoing := by
  cases host <;> rfl

theorem called_send (filtered : Filtered) (host : Host) : (filtered.send host).called = [] := by
  cases host <;> rfl

theorem events_send (filtered : Filtered) (host : Host) : (filtered.send host).events
    = (host.transport.map fun _ => Event.replied filtered.kind).toOption.toList := by
  cases host <;> rfl

theorem kind_eq_binary_iff (filtered : Filtered) :
    filtered.kind = .binary ↔ ∃ b, filtered.outgoing = .binary b := by
  constructor
  · intro h
    cases filtered with
    | binary b => exact ⟨b, rfl⟩
    | _ => cases h
  · rintro ⟨b, h⟩
    cases filtered with
    | binary b => rfl
    | _ => cases h

theorem sendsBytes_send_iff (filtered : Filtered) (host : Host) :
    (filtered.send host).SendsBytes ↔ ∃ b, (filtered.send host).value = .ok (.binary b) := by
  unfold Run.SendsBytes
  rw [events_send, value_send]
  cases host.transport with
  | error f =>
    refine ⟨fun h => absurd h List.not_mem_nil, ?_⟩
    rintro ⟨b, h⟩
    cases h
  | ok t =>
    show Event.replied .binary ∈ [Event.replied filtered.kind] ↔
      ∃ b, Except.ok filtered.outgoing = Except.ok (Outgoing.binary b)
    rw [List.mem_singleton, Event.replied.injEq, eq_comm, kind_eq_binary_iff]
    exact exists_congr fun b => ⟨congrArg Except.ok, Except.ok.inj⟩

namespace Operation
variable (op : Operation) (host : Host) (context : Option RequestContext) (input : Input)

theorem value_perform : (op.perform context input).value = (op.call context input).result := rfl

theorem called_perform : (op.perform context input).called = [⟨op.name, context, input⟩] := rfl

theorem value_answer : (op.answer host context input).value = op.outcome host context input := by
  unfold answer outcome
  rw [Run.value_bind, value_perform]
  cases (op.call context input).result with
  | error f => rfl
  | ok reply => exact value_send _ _

theorem not_sendsBytes_perform : ¬ (op.perform context input).SendsBytes := by
  intro h
  cases h with
  | tail _ h => cases h

/-- bytes are sent exactly when they are what the operation replies -/
theorem sendsBytes_answer_iff : (op.answer host context input).SendsBytes ↔
    ∃ b, (op.answer host context input).value = .ok (.binary b) := by
  unfold answer
  rw [Run.sendsBytes_bind, Run.value_bind, value_perform]
  refine (or_iff_right (op.not_sendsBytes_perform context input)).trans ?_
  cases (op.call context input).result with
  | error f =>
    refine ⟨fun h => absurd h (Run.not_sendsBytes_pure _), ?_⟩
    rintro ⟨b, h⟩
    cases h
  | ok reply => exact sendsBytes_send_iff reply.filter host

theorem called_answer : (op.answer host context input).called = [⟨op.name, context, input⟩] := by
  unfold answer
  rw [Run.called_bind, called_perform, value_perform]
  cases (op.call context input).result with
  | error f => rfl
  | ok reply => exact congrArg (_ :: ·) (called_send _ _)

end Operation

section
variable (op : Operation) (host : Host) (context : Option RequestContext) (inbound : Inbound)

/-- the result of a dispatch: the failure of the validation, or what the operation gives -/
theorem value_dispatch : (dispatch op host context inbound).value
    = (op.accept context inbound).bind (op.outcome host context) := by
  rw [dispatch_eq]
  cases op.accept context inbound with
  | error f => exact value_rejectInput f
  | ok input => exact op.value_answer host context input

/-- **An operation is called with the accepted input, once, and not at all when there is none.** -/
theorem called_dispatch : (dispatch op host context inbound).called
    = (op.accept context inbound).toOption.toList.map fun input => ⟨op.name, context, input⟩ := by
  rw [dispatch_eq]
  cases op.accept context inbound with
  | error f => exact called_rejectInput f
  | ok input => exact op.called_answer host context input

/-- an operation is called in the context of its caller -/
theorem callsIn_dispatch : (dispatch op host context inbound).CallsIn context := by
  intro call hc
  rw [called_dispatch] at hc
  obtain ⟨input, -, rfl⟩ := List.mem_map.mp hc
  rfl

theorem inputs_dispatch : (dispatch op host context inbound).inputs
    = (op.accept context inbound).toOption.toList := by
  rw [Run.inputs_eq_map_called, called_dispatch, List.map_map]
  exact List.map_id _

theorem calls_dispatch_le_one : (dispatch op host context inbound).calls ≤ 1 := by
  rw [Run.calls_eq_length_inputs, inputs_dispatch]
  cases op.accept context inbound with
  | error f => exact Nat.zero_le 1
  | ok input => exact Nat.le_refl 1

theorem not_sendsBytes_rejectInput (f : Failure) :
    ¬ (rejectInput f : Run (Except Failure Outgoing)).SendsBytes := by
  intro h
  cases h with
  | tail _ h => cases h

/-- it is noted that bytes are sent exactly when bytes are the result -/
theorem sendsBytes_dispatch_iff : (dispatch op host context inbound).SendsBytes ↔
    ∃ b, (dispatch op host context inbound).value = .ok (.binary b) := by
  rw [dispatch_eq]
  cases op.accept context inbound with
  | error f =>
    refine ⟨fun h => absurd h (not_sendsBytes_rejectInput f), ?_⟩
    rintro ⟨b, h⟩
    cases h
  | ok input => exact op.sendsBytes_answer_iff host context input

/-- **Two requests are served alike exactly when they are accepted alike.** -/
theorem alike_dispatch_iff (inbound' : Inbound) :
    (dispatch op host context inbound).Alike (dispatch op host context inbound') ↔
      op.accept context inbound = op.accept context inbound' := by
  constructor
  · rintro ⟨hv, hi⟩
    rw [value_dispatch, value_dispatch] at hv
    rw [inputs_dispatch, inputs_dispatch] at hi
    -- an input shows in the calls, and a failure in the result
    cases ha : op.accept context inbound with
    | error f =>
      cases hb : op.accept context inbound' with
      | error g =>
        rw [ha, hb] at hv
        exact congrArg Except.error (Except.error.inj hv)
      | ok j =>
        rw [ha, hb] at hi
        cases hi
    | ok i =>
      cases hb : op.accept context inbound' with
      | error g =>
        rw [ha, hb] at hi
        cases hi
      | ok j =>
        rw [ha, hb] at hi
        exact congrArg Except.ok (List.cons.inj hi).1
  · intro h
    exact ⟨by rw [value_dispatch, value_dispatch, h], by rw [inputs_dispatch, inputs_dispatch, h]⟩

end

end RequestPipeline
