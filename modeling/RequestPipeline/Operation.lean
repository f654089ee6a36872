import RequestPipeline.Run
import RequestPipeline.Validation.Check

/-!
# Operations

An operation is a function of a validated input, with the context of the caller beside it.  `dispatch` is
the gate in front of it: the query is validated, then the body, and only then is the operation called, once;
its reply is filtered by its exposure and put into an envelope, if the host has a transport.
-/

namespace RequestPipeline

open Json (Value Members)
open Validation (Target validate validatePayload)

structure Input where
  query : Value
  body : Value
  deriving Repr

/-- how long an operation takes, and what it gives -/
structure Reaction where
  delay : Nat
  result : Except Failure Reply

/-- an operation with the targets of its query and its body -/
structure Operation where
  name : String
  query : Target Value
  body : Target Value
  call : Option RequestContext → Input → Reaction

/-- the query and the body of a request as they came in -/
structure Inbound where
  query : Members
  body : Option Value
  deriving Repr

namespace Operation

/-- the query of a request, validated in the context of the caller -/
def acceptQuery (op : Operation) (query : Members) (context : Option RequestContext) :
    Except Failure Value :=
  validate op.query (.object query) context

/-- the body of a request, validated in the context of its payload; no body is validated as null -/
def acceptBody (op : Operation) (payload : Option (Payload Value)) :
    Except Failure (Payload Value) :=
  validatePayload op.body (payload.getD (.ofBody .null))

def perform (op : Operation) (context : Option RequestContext) (input : Input) :
    Run (Except Failure Reply) := do
  Run.note (.called op.name context input.query input.body)
  let reaction := op.call context input
  Run.wait reaction.delay
  pure reaction.result

end Operation

def rejectInput {α : Type} (f : Failure) : Run (Except Failure α) := do
  Run.note (.inputRejected f.code)
  pure (.error f)

/-- puts a filtered reply into the form that goes out, if the host has a transport -/
def Filtered.send (host : Host) (filtered : Filtered) : Run (Except Failure Outgoing) :=
  match host.transport with
  | .error f => pure (.error f)
  | .ok _ => do
    Run.note (.replied filtered.kind)
    pure (.ok filtered.outgoing)

/-- validates the input of a request, calls the operation and makes its reply ready to go out -/
def dispatch (op : Operation) (host : Host) (context : Option RequestContext) (inbound : Inbound) :
    Run (Except Failure Outgoing) :=
  match op.acceptQuery inbound.query context with
  | .error f => rejectInput f
  | .ok query =>
    match op.acceptBody (Payload.inject inbound.body context) with
    | .error f => rejectInput f
    | .ok payload => do
      match ← op.perform context ⟨query, payload.strip.body⟩ with
      | .error f => pure (.error f)
      | .ok reply => reply.filter.send host

/-- an operation behind its gate, whatever its targets are -/
structure Endpoint where
  name : String
  invoke : Host → Option RequestContext → Inbound → Run (Except Failure Outgoing)

def Operation.endpoint (op : Operation) : Endpoint := ⟨op.name, dispatch op⟩

end RequestPipeline
