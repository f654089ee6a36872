import RequestPipeline.Proofs.Reply.Agreement
import RequestPipeline.Proofs.Serving.Answers
import RequestPipeline.Samples.Rooms

/-!
# What no client learns

Two behaviours of one operation may differ, for what is accepted of a request, in data that is not exposed and in
the source of an internal failure; `Secretly` says so.  `noninterference`: **then no client can tell them apart**,
neither by a response over HTTP, with or without a pipeline in front, nor by a message of a gateway.

The difference is gone once the reply is filtered, but for the source of a failure (`Unsourced`), and that is
gone once the result is rendered.
-/

namespace RequestPipeline

open Json (Value Members)

/-- results that differ only in what no client is shown -/
inductive Secretly : Except Failure Reply → Except Failure Reply → Prop
  | same (result : Except Failure Reply) : Secretly result result
  /-- data that differ only where the exposure shows nothing -/
  | data {e : Exposure} {v w : Value} : e.Agree v w → Secretly (.ok (.data v e)) (.ok (.data w e))
  | internal (message : String) (s t : Option String) :
      Secretly (.error (.internal message s)) (.error (.internal message t))

/-- results on their way out that differ only in the source of an internal failure -/
inductive Unsourced : Except Failure Outgoing → Except Failure Outgoing → Prop
  | same (result : Except Failure Outgoing) : Unsourced result result
  | internal (message : String) (s t : Option String) :
      Unsourced (.error (.internal message s)) (.error (.internal message t))

/-- the operation with another behaviour behind its gate -/
def Operation.behaving (op : Operation) (call : Option RequestContext → Input → Reaction) : Operation :=
  { op with call := call }

/-! ## filtering -/

/-- filtering takes away all that is secret but the source of a failure -/
theorem Secretly.filter {r r' : Except Failure Reply} (h : Secretly r r') (t : Except Failure Transport) :
    Unsourced (r.bind fun reply => t.map fun _ => reply.filter.outgoing)
      (r'.bind fun reply => t.map fun _ => reply.filter.outgoing) := by
  cases h with
  | same r => exact .same _
  | @data e v w ha =>
    have hp : (Reply.data v e).filter = (Reply.data w e).filter :=
      congrArg Filtered.data (Exposure.project_eq_of_agree ha)
    show Unsourced (t.map fun _ => (Reply.data v e).filter.outgoing)
      (t.map fun _ => (Reply.data w e).filter.outgoing)
    rw [hp]
    exact .same _
  | internal m s t => exact .internal m s t

/-! ## rendering -/

namespace Unsourced
variable {r r' : Except Failure Outgoing}

theorem response (h : Unsourced r r') (id : CorrelationId) :
    HttpEndpoint.render id r = HttpEndpoint.render id r' := by
  cases h with
  | same r => rfl
  | internal m s t =>
    show Response.json 500 ((Failure.internal m s).body _) = Response.json 500 ((Failure.internal m t).body _)
    rw [Failure.body_internal m s t]

theorem message (h : Unsourced r r') (session : Socket.Session) (event : String) :
    Socket.Gateway.render session event r = Socket.Gateway.render session event r' := by
  cases h with
  | same r => rfl
  | internal m s t =>
    show Socket.exception (.internal m s) _ = Socket.exception (.internal m t) _
    unfold Socket.exception
    rw [Failure.body_internal m s t]
    rfl

end Unsourced

/-! ## serving -/

/-- what two behaviours give for the accepted input of a request differs in secrets only -/
def Operation.Hides (op : Operation) (call call' : Option RequestContext → Input → Reaction)
    (context : Option RequestContext) (inbound : Inbound) : Prop :=
  ∀ input, op.accept context inbound = .ok input →
    Secretly (call context input).result (call' context input).result

section
variable {op : Operation} {call call' : Option RequestContext → Input → Reaction}

/-- the gate does not depend on the behaviour behind it -/
theorem unsourced_dispatch {context : Option RequestContext} {inbound : Inbound}
    (h : op.Hides call call' context inbound) (host : Host) :
    Unsourced (dispatch (op.behaving call) host context inbound).value
      (dispatch (op.behaving call') host context inbound).value := by
  rw [value_dispatch, value_dispatch]
  show Unsourced ((op.accept context inbound).bind _) ((op.accept context inbound).bind _)
  cases ha : op.accept context inbound with
  | error f => exact .same _
  | ok input => exact (h input ha).filter host.transport

theorem handle_eq_of_hides {max : Nat} {context : Option RequestContext} {request : Request}
    (h : ∀ inbound, (HttpEndpoint.mk op.endpoint max).inbound request = .ok inbound →
      op.Hides call call' context inbound) (id : CorrelationId) :
    ((HttpEndpoint.mk (op.behaving call).endpoint max).handle context id request).value
      = ((HttpEndpoint.mk (op.behaving call').endpoint max).handle context id request).value := by
  rw [HttpEndpoint.value_handle, HttpEndpoint.value_handle]
  refine Unsourced.response ?_ id
  -- both read the request within the same limit
  cases hi : (HttpEndpoint.mk (op.behaving call).endpoint max).inbound request with
  | error f =>
    have hi' : (HttpEndpoint.mk (op.behaving call').endpoint max).inbound request = .error f := hi
    rw [HttpEndpoint.invoke_of_fault _ _ _ hi, HttpEndpoint.invoke_of_fault _ _ _ hi']
    exact .same _
  | ok inbound =>
    have hi' : (HttpEndpoint.mk (op.behaving call').endpoint max).inbound request = .ok inbound := hi
    rw [HttpEndpoint.invoke_of_inbound _ _ _ hi, HttpEndpoint.invoke_of_inbound _ _ _ hi']
    exact unsourced_dispatch (h inbound hi) .http

theorem handleText_eq_of_hides {g : Socket.Gateway} {session : Socket.Session} {text : String}
    (h : ∀ frame, Socket.EventFrame.parse text = .ok frame →
      op.Hides call call' (session.context g.factory) frame.inbound) (event : String) :
    ((g.on event (op.behaving call).endpoint).handleText session text).value
      = ((g.on event (op.behaving call').endpoint).handleText session text).value := by
  cases hp : Socket.EventFrame.parse text with
  | error f =>
    rw [Socket.Gateway.handleText_of_malformed _ _ hp, Socket.Gateway.handleText_of_malformed _ _ hp]
  | ok frame =>
    by_cases he : frame.event = event
    · rw [Socket.Gateway.value_handleText _ _ hp ((g.find?_on _ _ _).trans (if_pos he)),
        Socket.Gateway.value_handleText _ _ hp ((g.find?_on _ _ _).trans (if_pos he))]
      exact (unsourced_dispatch (h frame hp) .webSocket).message session frame.event
    -- an event of another operation
    · have hf := fun e => (g.find?_on event e frame.event).trans (if_neg he)
      cases hg : g.find? frame.event with
      | none =>
        rw [Socket.Gateway.handleText_of_unknown _ _ hp ((hf _).trans hg),
          Socket.Gateway.handleText_of_unknown _ _ hp ((hf _).trans hg)]
      | some other =>
        rw [Socket.Gateway.value_handleText _ _ hp ((hf _).trans hg),
          Socket.Gateway.value_handleText _ _ hp ((hf _).trans hg)]
        rfl

end

/-- **No client can tell two behaviours apart that differ in secrets only.**  The response to a request is
the same, by itself and behind a pipeline, and so is the message that answers a text. -/
theorem noninterference (op : Operation) (call call' : Option RequestContext → Input → Reaction) :
    (∀ max context id request,
      (∀ inbound, (HttpEndpoint.mk op.endpoint max).inbound request = .ok inbound →
        op.Hides call call' context inbound) →
      ((HttpEndpoint.mk (op.behaving call).endpoint max).handle context id request).value
        = ((HttpEndpoint.mk (op.behaving call').endpoint max).handle context id request).value) ∧
    (∀ max pipeline request start, (∀ context inbound, op.Hides call call' context inbound) →
      ((HttpEndpoint.mk (op.behaving call).endpoint max).serve pipeline request start).value
        = ((HttpEndpoint.mk (op.behaving call').endpoint max).serve pipeline request start).value) ∧
    ∀ (g : Socket.Gateway) event session text,
      (∀ frame, Socket.EventFrame.parse text = .ok frame →
        op.Hides call call' (session.context g.factory) frame.inbound) →
      ((g.on event (op.behaving call).endpoint).handleText session text).value
        = ((g.on event (op.behaving call').endpoint).handleText session text).value := by
  refine ⟨fun max context id request h => handle_eq_of_hides h id, fun max p request start h => ?_,
    fun g event session text h => handleText_eq_of_hides h event⟩
  refine Pipeline.value_respond_congr (fun state request => ?_) p _ request
  exact congrArg (Prod.mk state)
    (handle_eq_of_hides (fun inbound _ => h state.context inbound) state.correlationId)

/-- a guest list in which only the ids and the names of the owners are shown -/
def Samples.guests (mail : String) (context : Option RequestContext) (_ : Input) : Reaction :=
  ⟨mail.length, .ok (.data (.array [Json.object
      [("id", .ofInt ((context.map (·.principalId)).getD 0)), ("mail", .string mail),
        ("owner", Json.object [("mail", .string mail), ("name", .string "Ann")])]])
    (.mk "Guest" [("id", none), ("owner", some (.mk "Owner" [("name", none)]))]))⟩

theorem hides_guests (op : Operation) (mail mail' : String) (context : Option RequestContext)
    (inbound : Inbound) : op.Hides (Samples.guests mail) (Samples.guests mail') context inbound :=
  fun _ _ => .data (Exposure.project_eq_iff.mp rfl)

/-- nobody learns the address of a guest -/
theorem noninterference_guests :
    (∀ inbound, Samples.whoami.Hides (Samples.guests "ann@here") (Samples.guests "elsewhere@there") none
      inbound) ∧
    ((HttpEndpoint.mk (Samples.whoami.behaving (Samples.guests "ann@here")).endpoint 100).handle none ⟨7⟩
        ⟨"GET", ⟨"/guests", none⟩, [], []⟩).value
      = ((HttpEndpoint.mk (Samples.whoami.behaving (Samples.guests "elsewhere@there")).endpoint 100).handle
        none ⟨7⟩ ⟨"GET", ⟨"/guests", none⟩, [], []⟩).value := by
  have h := hides_guests Samples.whoami "ann@here" "elsewhere@there" none
  exact ⟨h, (noninterference Samples.whoami _ _).1 100 none ⟨7⟩ _ fun inbound _ => h inbound⟩

end RequestPipeline
