import RequestPipeline.Proofs.Dispatch.Gate

/-!
# The rules of the gate

`Passage` says by rules what the gate in front of an operation does about a request, and what comes of it: the
calls that are made and the result.

* A query that is refused is the answer, whatever the body is, and then a body that is refused; no call is made.
* Once both are bound, the operation is called with them, and once; the context of the caller stands beside the
  input.  A failure of the operation is the answer as it is.
* A host without a transport gets no reply of any kind.  On the others, data is projected and put into an
  envelope, and an envelope and bytes go out as they are.

`passage_iff_observed`: **these rules say what a dispatch does, and nothing else is done.**
-/

namespace RequestPipeline

open Json (Value)
open Validation (validate)

/-- an input is what the query and the body of a request are bound to -/
structure Inbound.Binds (inbound : Inbound) (op : Operation) (context : Option RequestContext)
    (input : Input) : Prop where
  query : validate op.query (.object inbound.query) context = .ok input.query
  /-- no body is validated as null, without a context -/
  body : validate op.body (inbound.body.getD .null) (inbound.bodyContext context) = .ok input.body

/-- whether a host has a transport -/
def Host.IsServed (host : Host) : Prop := host = .http ∨ host = .webSocket

/-- the calls and the result by which a request passes the gate of an operation -/
inductive Passage (op : Operation) (host : Host) (context : Option RequestContext) (inbound : Inbound) :
    List Call → Except Failure Outgoing → Prop
  | refusedQuery {f : Failure} :
      validate op.query (.object inbound.query) context = .error f →
      Passage op host context inbound [] (.error f)
  | refusedBody {query : Value} {f : Failure} :
      validate op.query (.object inbound.query) context = .ok query →
      validate op.body (inbound.body.getD .null) (inbound.bodyContext context) = .error f →
      Passage op host context inbound [] (.error f)
  | failed {input : Input} {f : Failure} :
      inbound.Binds op context input → (op.call context input).result = .error f →
      Passage op host context inbound [⟨op.name, context, input⟩] (.error f)
  | unserved {input : Input} {reply : Reply} :
      inbound.Binds op context input → (op.call context input).result = .ok reply → ¬ host.IsServed →
      Passage op host context inbound [⟨op.name, context, input⟩]
        (.error (.unsupportedTransport host.label))
  | data {input : Input} {value : Value} {exposure : Exposure} :
      inbound.Binds op context input → (op.call context input).result = .ok (.data value exposure) →
      host.IsServed →
      Passage op host context inbound [⟨op.name, context, input⟩]
        (.ok (.envelope (.wrap (exposure.project value))))
  | envelope {input : Input} {e : Envelope} :
      inbound.Binds op context input → (op.call context input).result = .ok (.envelope e) →
      host.IsServed →
      Passage op host context inbound [⟨op.name, context, input⟩] (.ok (.envelope e))
  | binary {input : Input} {b : Blob} :
      inbound.Binds op context input → (op.call context input).result = .ok (.binary b) →
      host.IsServed →
      Passage op host context inbound [⟨op.name, context, input⟩] (.ok (.binary b))

/-! ## hosts -/

namespace Host

theorem transport_of_isServed {host : Host} (h : host.IsServed) : ∃ t, host.transport = .ok t := by
  rcases h with rfl | rfl
  · exact ⟨.http, rfl⟩
  · exact ⟨.webSocket, rfl⟩

theorem transport_of_not_isServed {host : Host} (h : ¬ host.IsServed) :
    host.transport = .error (.unsupportedTransport host.label) := by
  cases host with
  | http => exact absurd (.inl rfl) h
  | webSocket => exact absurd (.inr rfl) h
  | rpc => rfl

end Host

/-! ## what is accepted -/

section
variable {op : Operation} {host : Host} {context : Option RequestContext} {inbound : Inbound}

theorem accept_of_refusedQuery {f : Failure}
    (h : validate op.query (.object inbound.query) context = .error f) :
    op.accept context inbound = .error f := by
  unfold Operation.accept Operation.acceptQuery
  rw [h]
  rfl

theorem accept_of_refusedBody {query : Value} {f : Failure}
    (hq : validate op.query (.object inbound.query) context = .ok query)
    (hb : validate op.body (inbound.body.getD .null) (inbound.bodyContext context) = .error f) :
    op.accept context inbound = .error f := by
  unfold Operation.accept Operation.acceptQuery
  rw [hq, hb]
  rfl

theorem accept_of_binds {input : Input} (h : inbound.Binds op context input) :
    op.accept context inbound = .ok input := by
  unfold Operation.accept Operation.acceptQuery
  rw [h.query, h.body]
  rfl

/-! ## what comes out -/

theorem observed_of_refused {f : Failure} (h : op.accept context inbound = .error f) :
    (dispatch op host context inbound).observed = ([], .error f) := by
  unfold Run.observed
  rw [called_dispatch, value_dispatch, h]
  rfl

theorem observed_of_accepted {input : Input} (h : op.accept context inbound = .ok input) :
    (dispatch op host context inbound).observed
      = ([⟨op.name, context, input⟩], op.outcome host context input) := by
  unfold Run.observed
  rw [called_dispatch, value_dispatch, h]
  rfl

theorem Operation.outcome_of_failed {input : Input} {f : Failure}
    (h : (op.call context input).result = .error f) : op.outcome host context input = .error f := by
  unfold Operation.outcome
  rw [h]
  rfl

theorem Operation.outcome_of_unserved {input : Input} {reply : Reply}
    (h : (op.call context input).result = .ok reply) (hh : ¬ host.IsServed) :
    op.outcome host context input = .error (.unsupportedTransport host.label) := by
  unfold Operation.outcome
  rw [h, Host.transport_of_not_isServed hh]
  rfl

theorem Operation.outcome_of_served {input : Input} {reply : Reply}
    (h : (op.call context input).result = .ok reply) (hh : host.IsServed) :
    op.outcome host context input = .ok reply.filter.outgoing := by
  obtain ⟨t, ht⟩ := Host.transport_of_isServed hh
  unfold Operation.outcome
  rw [h, ht]
  rfl

/-- a rule that applies says what is done -/
theorem Passage.observed {calls : List Call} {result : Except Failure Outgoing}
    (h : Passage op host context inbound calls result) :
    (dispatch op host context inbound).observed = (calls, result) := by
  cases h with
  | refusedQuery hq => exact observed_of_refused (accept_of_refusedQuery hq)
  | refusedBody hq hb => exact observed_of_refused (accept_of_refusedBody hq hb)
  | failed hi hr =>
    rw [observed_of_accepted (accept_of_binds hi), Operation.outcome_of_failed hr]
  | unserved hi hr hh =>
    rw [observed_of_accepted (accept_of_binds hi), Operation.outcome_of_unserved hr hh]
  | data hi hr hh =>
    rw [observed_of_accepted (accept_of_binds hi), Operation.outcome_of_served hr hh]
    rfl
  | envelope hi hr hh =>
    rw [observed_of_accepted (accept_of_binds hi), Operation.outcome_of_served hr hh]
    rfl
  | binary hi hr hh =>
    rw [observed_of_accepted (accept_of_binds hi), Operation.outcome_of_served hr hh]
    rfl

/-- and there is always a rule that applies -/
theorem exists_passage (op : Operation) (host : Host) (context : Option RequestContext)
    (inbound : Inbound) : ∃ calls result, Passage op host context inbound calls result := by
  cases hq : validate op.query (.object inbound.query) context with
  | error f => exact ⟨_, _, .refusedQuery hq⟩
  | ok query =>
    cases hb : validate op.body (inbound.body.getD .null) (inbound.bodyContext context) with
    | error f => exact ⟨_, _, .refusedBody hq hb⟩
    | ok body =>
      have hi : inbound.Binds op context ⟨query, body⟩ := ⟨hq, hb⟩
      cases hr : (op.call context ⟨query, body⟩).result with
      | error f => exact ⟨_, _, .failed hi hr⟩
      | ok reply =>
        by_cases hh : host.IsServed
        · cases reply with
          | data value exposure => exact ⟨_, _, .data hi hr hh⟩
          | envelope e => exact ⟨_, _, .envelope hi hr hh⟩
          | binary b => exact ⟨_, _, .binary hi hr hh⟩
        · exact ⟨_, _, .unserved hi hr hh⟩

end

/-- **The rules of the gate say what a dispatch does**: which calls it makes, with which inputs and in which
context, and what it gives. -/
theorem passage_iff_observed (op : Operation) (host : Host) (context : Option RequestContext)
    (inbound : Inbound) (calls : List Call) (result : Except Failure Outgoing) :
    Passage op host context inbound calls result ↔
      (dispatch op host context inbound).observed = (calls, result) := by
  refine ⟨Passage.observed, fun h => ?_⟩
  obtain ⟨calls', result', hp⟩ := exists_passage op host context inbound
  have he : (calls', result') = (calls, result) := hp.observed.symm.trans h
  rw [Prod.mk.injEq] at he
  rw [← he.1, ← he.2]
  exact hp

end RequestPipeline
