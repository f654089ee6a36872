import RequestPipeline.Proofs.Dispatch.Caller
import RequestPipeline.Proofs.Serving.Rendering
import RequestPipeline.Samples.Rooms

/-!
# One operation on two transports

`transport_parity`: **an operation that reads no more of a context than the caller answers a request and an
event of one caller, with one query and one body, alike.**  The response has an envelope exactly when the
message is a reply with that envelope, a failure exactly when the message is an exception with that failure, and
bytes exactly when the message is these bytes; and the operation is called with the same inputs.

Both answers render one result (`exists_result`), so the rest is about rendering: what is read off the one
answer is what is read off the other.  Bytes may be stated to be JSON and then read like an envelope; so which
of the two a response has is told by the note that bytes are sent.
-/

namespace RequestPipeline

open Json (Value Members)
open Socket (Gateway Session EventFrame Message reply exception exceptionEvent)

/-! ## one result, rendered twice -/

section
variable (id : CorrelationId) (session : Session) (event : String) (result : Except Failure Outgoing)

theorem json_iff_reply (e : Envelope) :
    (HttpEndpoint.render id result = .json 200 e.toJson ∧ ¬ ∃ b, result = .ok (.binary b)) ↔
      Gateway.render session event result = reply event e := by
  cases result with
  | error f =>
    refine ⟨fun h => absurd (Response.json_eq_iff.mp h.1).1 f.status_ne_ok, fun h => ?_⟩
    exact absurd h.symm (Socket.reply_ne_exception event e f session.requestId)
  | ok out =>
    cases out with
    | envelope e' =>
      show (Response.json 200 e'.toJson = .json 200 e.toJson ∧ _) ↔ reply event e' = reply event e
      rw [Response.json_eq_iff, Socket.reply_eq_iff]
      refine ⟨fun h => h.1.2, fun h => ⟨⟨rfl, h⟩, ?_⟩⟩
      rintro ⟨b, hb⟩
      cases hb
    | binary b =>
      refine ⟨fun h => absurd ⟨b, rfl⟩ h.2, fun h => ?_⟩
      cases h

theorem failure_iff_exception (f : Failure) :
    HttpEndpoint.render id result = .failure f id ↔
      Gateway.render session event result = exception f session.requestId := by
  cases result with
  | error g =>
    show Response.json g.status (g.body _) = .json f.status (f.body _) ↔
      exception g session.requestId = exception f session.requestId
    rw [Response.json_eq_iff, Socket.exception_eq_iff]
    exact and_congr_right fun hs => Failure.body_chars_iff hs _ _
  | ok out =>
    cases out with
    | envelope e =>
      refine ⟨fun h => absurd (Response.json_eq_iff.mp h).1.symm f.status_ne_ok, fun h => ?_⟩
      exact absurd h (Socket.reply_ne_exception event e f session.requestId)
    | binary b =>
      refine ⟨fun h => absurd (congrArg Response.status h).symm f.status_ne_ok, fun h => ?_⟩
      cases h

theorem bytes_iff_binary (bytes : Bytes) :
    ((∃ type, HttpEndpoint.render id result = .bytes 200 type bytes) ∧ ∃ b, result = .ok (.binary b)) ↔
      Gateway.render session event result = .binary bytes := by
  constructor
  · rintro ⟨⟨type, h⟩, b, rfl⟩
    exact congrArg Message.binary (congrArg Response.body h)
  · intro h
    cases result with
    | error f => cases h
    | ok out =>
      cases out with
      | envelope e => cases h
      | binary b =>
        have hb : b.bytes = bytes := Message.binary.inj h
        exact ⟨⟨b.contentType, by rw [← hb]; rfl⟩, b, rfl⟩

/-- an answer to an event is a reply, an exception or bytes -/
theorem render_cases : (∃ e, Gateway.render session event result = reply event e) ∨
    (∃ f, Gateway.render session event result = exception f session.requestId) ∨
    ∃ bytes, Gateway.render session event result = .binary bytes := by
  cases result with
  | error f => exact .inr (.inl ⟨f, rfl⟩)
  | ok out =>
    cases out with
    | envelope e => exact .inl ⟨e, rfl⟩
    | binary b => exact .inr (.inr ⟨b.bytes, rfl⟩)

end

/-! ## one caller on two transports -/

/-- a response and a message that say the same, after calls with the same inputs: the response to a request with
the id `id`, and the message to an event of a session, which has an id of its own -/
structure Parallel (id : CorrelationId) (session : Session) (event : String) (http : Run Response)
    (ws : Run Message) : Prop where
  /-- a response with an envelope is a reply with this envelope -/
  envelope : ∀ e : Envelope, (http.value = .json 200 e.toJson ∧ ¬ http.SendsBytes) ↔
    ws.value = .document (Json.object [("event", .string event), ("data", e.toJson)])
  /-- a failure has the same status and, up to the id, the same body -/
  failure : ∀ f : Failure, http.value = .json f.status (f.body (some id.render)) ↔
    ws.value = .document (Json.object [("event", .string "exception"), ("data", Json.object
      [("status", .ofNat f.status), ("error", f.body (some session.requestId.render))])])
  /-- bytes are sent as they are -/
  bytes : ∀ bytes, ((∃ type, http.value = .bytes 200 type bytes) ∧ http.SendsBytes) ↔
    ws.value = .binary bytes
  /-- and there is no other message -/
  cases : (∃ e, ws.value = reply event e) ∨ (∃ f, ws.value = exception f session.requestId) ∨
    ∃ bytes, ws.value = .binary bytes
  inputs : http.inputs = ws.inputs
  calls : http.calls = ws.calls
  once : ws.calls ≤ 1

theorem sameCaller_create (factory factory' : ContextFactory) (principal : Option Principal)
    (id id' : CorrelationId) (t t' : Transport) :
    SameCaller (factory.create principal id t) (factory'.create principal id' t') := by
  cases principal <;> rfl

theorem calls_handleText_le_one {op : Operation} {g : Gateway} (session : Session) {text : String}
    {frame : EventFrame} (parsed : EventFrame.parse text = .ok frame)
    (routed : g.find? frame.event = some op.endpoint) : (g.handleText session text).calls ≤ 1 := by
  rw [Run.calls_eq_length_inputs, g.inputs_handleText session parsed routed,
    ← Run.calls_eq_length_inputs]
  exact calls_dispatch_le_one op .webSocket _ frame.inbound

section
variable {op : Operation} (reads : op.ReadsCallerOnly) {max : Nat} {request : Request} {g : Gateway}
  (session : Session) {text : String} {frame : EventFrame} (parsed : EventFrame.parse text = .ok frame)
  (routed : g.find? frame.event = some op.endpoint)
  (inbound : (HttpEndpoint.mk op.endpoint max).inbound request = .ok frame.inbound)
  (factory : ContextFactory) (id : CorrelationId)

/-- a request over HTTP, in a context of the principal of a session -/
def viaHttp (op : Operation) (max : Nat) (factory : ContextFactory) (principal : Option Principal)
    (id : CorrelationId) (request : Request) : Run Response :=
  (HttpEndpoint.mk op.endpoint max).handle (factory.create principal id .http) id request

include reads parsed routed inbound

/-- both answers render what one dispatch gives -/
theorem exists_result : ∃ result,
    (viaHttp op max factory session.principal id request).value = HttpEndpoint.render id result ∧
    (g.handleText session text).value = Gateway.render session frame.event result ∧
    ((viaHttp op max factory session.principal id request).SendsBytes ↔
      ∃ b, result = .ok (.binary b)) := by
  have hc := sameCaller_create factory g.factory session.principal id session.requestId .http .webSocket
  have hv : (dispatch op .http (factory.create session.principal id .http) frame.inbound).value
      = (dispatch op .webSocket (session.context g.factory) frame.inbound).value :=
    value_dispatch_of_sameCaller hc reads rfl rfl frame.inbound
  refine ⟨_, ?_, g.value_handleText session parsed routed, ?_⟩
  · unfold viaHttp
    rw [HttpEndpoint.value_handle, HttpEndpoint.invoke_of_inbound _ _ _ inbound]
    exact congrArg (HttpEndpoint.render id) hv
  · unfold viaHttp
    rw [HttpEndpoint.sendsBytes_handle_iff, HttpEndpoint.invoke_of_inbound _ _ _ inbound]
    refine (sendsBytes_dispatch_iff op .http _ frame.inbound).trans ?_
    rw [hv]
    rfl

theorem inputs_viaHttp : (viaHttp op max factory session.principal id request).inputs
    = (g.handleText session text).inputs := by
  have hc := sameCaller_create factory g.factory session.principal id session.requestId .http .webSocket
  unfold viaHttp
  rw [HttpEndpoint.inputs_handle, HttpEndpoint.invoke_of_inbound _ _ _ inbound,
    g.inputs_handleText session parsed routed]
  exact inputs_dispatch_of_sameCaller hc reads .http .webSocket frame.inbound

end

/-- **A request and an event of one caller with one query and one body are answered alike**, and the operation
is called with the same inputs, at most once. -/
theorem transport_parity {op : Operation} (reads : op.ReadsCallerOnly) {max : Nat} {request : Request}
    {g : Gateway} (session : Session) {text : String} {frame : EventFrame}
    (parsed : EventFrame.parse text = .ok frame) (routed : g.find? frame.event = some op.endpoint)
    (inbound : (HttpEndpoint.mk op.endpoint max).inbound request = .ok frame.inbound)
    (factory : ContextFactory) (id : CorrelationId) :
    Parallel id session frame.event (viaHttp op max factory session.principal id request)
      (g.handleText session text) := by
  obtain ⟨result, hh, hw, hb⟩ := exists_result reads session parsed routed inbound factory id
  have hi := inputs_viaHttp reads session parsed routed inbound factory id
  constructor
  case envelope =>
    rw [hh, hw, hb]
    exact json_iff_reply id session frame.event result
  case failure =>
    rw [hh, hw]
    exact failure_iff_exception id session frame.event result
  case bytes =>
    rw [hh, hw, hb]
    exact bytes_iff_binary id session frame.event result
  case cases =>
    rw [hw]
    exact render_cases session frame.event result
  case inputs => exact hi
  case calls => rw [Run.calls_eq_length_inputs, Run.calls_eq_length_inputs, hi]
  case once => exact calls_handleText_le_one session parsed routed

/-! ## a ticket on two transports -/

theorem create_readsCallerOnly : Samples.create.ReadsCallerOnly where
  query := List.forall_mem_nil _
  body := List.forall_mem_nil _
  call c c' h input := by
    have hp : c.map (·.principalId) = c'.map (·.principalId) := by
      have h₁ := congrArg (Option.map Prod.fst) h
      rwa [Option.map_map, Option.map_map] at h₁
    show Except.ok (Reply.data (Samples.room _ ((c.map (·.principalId)).getD (-1))) _) = _
    rw [hp]
    rfl

namespace Samples

/-- a request of principal 7 that makes a ticket -/
def ticketRequest : Request :=
  ⟨"POST", ⟨"/tickets", none⟩, [("content-type", Utf8.ofText "application/json")],
    Utf8.ofText r#"{"title":"x","owner_id":7}"#⟩

/-- an event that makes it -/
def ticketText : String :=
  r#"{"event":"create","data":{"title":"x","owner_id":7}}"#

def ticketFrame : EventFrame :=
  ⟨"create", some (.object [("owner_id", .ofInt 7), ("title", .string "x")]), none⟩

/-- what is shown of it -/
def ticketEnvelope : Envelope := .wrap (.object [("id", .ofInt 0), ("owner_id", .ofInt 7)])

def ticketSession : Session := ⟨⟨5⟩, some ⟨7, []⟩, []⟩

def ticketGateway : Gateway := Gateway.empty.on "create" create.endpoint

end Samples

/-- principal 7 makes a ticket by an event, and so by a request -/
theorem transport_parity_ticket :
    Samples.create.ReadsCallerOnly ∧
    EventFrame.parse Samples.ticketText = .ok Samples.ticketFrame ∧
    Samples.ticketGateway.find? "create" = some Samples.create.endpoint ∧
    (HttpEndpoint.mk Samples.create.endpoint 100).inbound Samples.ticketRequest
      = .ok Samples.ticketFrame.inbound ∧
    (viaHttp Samples.create 100 .default Samples.ticketSession.principal ⟨9⟩ Samples.ticketRequest).value
      = .json 200 Samples.ticketEnvelope.toJson := by
  have parsed : EventFrame.parse Samples.ticketText = .ok Samples.ticketFrame := rfl
  have routed : Samples.ticketGateway.find? "create" = some Samples.create.endpoint := rfl
  have inbound : (HttpEndpoint.mk Samples.create.endpoint 100).inbound Samples.ticketRequest
      = .ok Samples.ticketFrame.inbound := rfl
  have result : (dispatch Samples.create .webSocket
      (Samples.ticketSession.context Samples.ticketGateway.factory) Samples.ticketFrame.inbound).value
      = .ok (.envelope Samples.ticketEnvelope) := rfl
  have replied : (Samples.ticketGateway.handleText Samples.ticketSession Samples.ticketText).value
      = reply "create" Samples.ticketEnvelope :=
    (Samples.ticketGateway.value_handleText Samples.ticketSession parsed routed).trans
      (congrArg (Gateway.render Samples.ticketSession Samples.ticketFrame.event) result)
  have hp := transport_parity create_readsCallerOnly Samples.ticketSession parsed routed inbound .default ⟨9⟩
  exact ⟨create_readsCallerOnly, parsed, routed, inbound,
    ((hp.envelope Samples.ticketEnvelope).mpr replied).1⟩

end RequestPipeline
