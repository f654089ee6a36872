import RequestPipeline.Proofs.Server.Precedence
import RequestPipeline.Proofs.Serving.Correlation

/-!
# One id for a request

Whatever comes of a request that the pipeline or a handshake answers, it has one id (`Server.OneId`): the one that
came in or a fresh one.  The response has it in its header, once; a failure has it in its body; an operation gets
it in its context, and a session keeps it.

* `value_handle`   what a server answers, with the id in the header: a handshake, a result or a failure;
* `callsIn_serveHttp`   the context of a call;
* `one_id`         **the id of a request is the same everywhere.**
-/

namespace RequestPipeline

open Socket (acceptKey switching)

/-- whether a response has the status and the body of a failure, under an id -/
structure Response.Tells (response : Response) (f : Failure) (u : CorrelationId) : Prop where
  status : response.status = f.status
  body : response.body = Utf8.encode (f.body (some u.render)).chars

namespace Server

/-- a request and all that comes of it have one id -/
structure OneId (s : Server) (r : IncomingRequest) (fresh : CorrelationId) (uptime : Nat)
    (u : CorrelationId) : Prop where
  /-- it came in, or it is fresh -/
  given : s.factory.Gives r.headers fresh u
  echoed : s.factory.Echoes u (s.handle r fresh uptime).value
  /-- what is neither a handshake nor a result reports a failure under this id -/
  told : (s.handle r fresh uptime).value.status ≠ 101 → (s.handle r fresh uptime).value.status ≠ 200 →
    ∃ f : Failure, (s.handle r fresh uptime).value.Tells f u ∧
      (f.isValidation = false → (f.body (some u.render)).get? "request_id" = some (.string u.render))
  /-- no failure under another id is told like this, unless it is about an input -/
  unmistakable : ∀ (f : Failure) (v : CorrelationId), f.isValidation = false →
    (s.handle r fresh uptime).value.Tells f v → v = u
  called : ∀ route : Option (Operation × Nat),
    s.router.endpoints.lookup (r.method, r.target.path) = route.map endpointOf →
    ∀ call ∈ (s.handle r fresh uptime).called, ∀ c, call.context = some c → c.requestId = u
  connected : ∀ g, s.destination r = .webSocket g → ∀ upgrade,
    ((r.withBody []).upgrade s.factory s.authenticator [] fresh).1 = .ok upgrade →
    (s.handle r fresh uptime).value = upgrade.response ∧ upgrade.session.requestId = u

/-! ## responses -/

section
variable {s : Server} {r : IncomingRequest} {fresh : CorrelationId}

/-- what a request comes to, before its id is written into the header -/
inductive Answer (u : CorrelationId) : Response → Prop where
  | switching (key : String) (protocol : Option String) : Answer u (switching key protocol)
  | result {response : Response} : response.status = 200 → Answer u response
  | failure (f : Failure) : Answer u (.failure f u)

theorem answer_render (u : CorrelationId) (result : Except Failure Outgoing) :
    Answer u (HttpEndpoint.render u result) := by
  cases result with
  | error f => exact .failure f
  | ok outgoing => cases outgoing <;> exact .result rfl

theorem answer_handleInTime (e : HttpEndpoint) (context : Option RequestContext) (u : CorrelationId)
    (request : Request) : Answer u (s.handleInTime e context u request).value := by
  rw [value_handleInTime]
  split
  · exact answer_render u _
  · exact .failure _

theorem value_handshake (hu : s.Upgrades r) :
    ∃ response, s.handshake r fresh = s.echo r fresh response ∧ Answer (s.requestId r fresh) response := by
  obtain ⟨key, hk⟩ : ∃ key, acceptKey (r.withBody []).headers = .ok key := by
    have hi := hu.2.1
    unfold IncomingRequest.isUpgrade Request.isUpgrade at hi
    cases hk : acceptKey (r.withBody []).headers with
    | ok key => exact ⟨key, rfl⟩
    | error f =>
      rw [hk] at hi
      cases hi
  unfold handshake
  cases hc : s.authenticator (s.factory.correlate fresh (r.withBody []).headers).2 with
  | error f =>
    rw [Request.upgrade_of_refused hk hc]
    exact ⟨_, rfl, .failure f⟩
  | ok p =>
    obtain ⟨protocol, ho⟩ := Request.upgrade_of_identified hk hc []
    rw [ho]
    exact ⟨_, rfl, .switching key protocol⟩

theorem value_serveHttp (endpoint : Option HttpEndpoint) :
    ∃ response, (s.serveHttp endpoint r fresh).value = s.echo r fresh response ∧
      Answer (s.requestId r fresh) response := by
  cases hc : s.caller r fresh with
  | error f => exact ⟨_, congrArg Prod.snd (observed_serveHttp_of_refused hc endpoint), .failure f⟩
  | ok p =>
    cases hu : s.unread? r with
    | some f => exact ⟨_, congrArg Prod.snd (observed_serveHttp_of_unread hc hu endpoint), .failure f⟩
    | none =>
      cases endpoint with
      | none => exact ⟨_, congrArg Prod.snd (observed_serveHttp_of_unrouted hc hu), .failure _⟩
      | some e =>
        exact ⟨_, congrArg Prod.snd (observed_serveHttp_of_routed hc hu e), answer_handleInTime _ _ _ _⟩

/-- what a server answers goes out with the id in its header -/
theorem value_handle (h : ¬ s.Shows r) (uptime : Nat) :
    ∃ response, (s.handle r fresh uptime).value = s.echo r fresh response ∧
      Answer (s.requestId r fresh) response := by
  by_cases hu : s.Upgrades r
  · rw [handle_of_upgrades h hu]
    exact value_handshake hu
  · rw [handle_of_pipeline h hu]
    exact value_serveHttp _

end

section
variable {u : CorrelationId} {response : Response} (answer : Answer u response)
include answer

theorem Answer.exists_failure (h : response.status ≠ 101) (h' : response.status ≠ 200) :
    ∃ f, response = .failure f u := by
  cases answer with
  | switching key protocol => exact absurd rfl h
  | result hr => exact absurd hr h'
  | failure f => exact ⟨f, rfl⟩

/-- the id can be read off the body of a failure that is not about an input -/
theorem Answer.requestId_eq {f : Failure} {v : CorrelationId} (hf : f.isValidation = false)
    (h : response.Tells f v) : v = u := by
  have h₁ : response.status ≠ 101 := by
    rw [h.status]
    exact f.status_ne_switching
  obtain ⟨g, rfl⟩ := answer.exists_failure h₁ (by rw [h.status]; exact f.status_ne_ok)
  exact Failure.requestId_eq_of_chars hf h.status.symm (Utf8.encode_injective h.body.symm)

end

/-! ## calls -/

theorem requestId_of_contextOf {s : Server} {r : IncomingRequest} {fresh : CorrelationId}
    {p : Option Principal} {c : RequestContext} (h : s.contextOf r fresh p = some c) :
    c.requestId = s.requestId r fresh := by
  obtain ⟨q, -, rfl⟩ := Option.map_eq_some_iff.mp h
  rfl

/-- an operation is called in the context of the request -/
theorem callsIn_serveHttp {s : Server} {r : IncomingRequest} {fresh : CorrelationId}
    (route : Option (Operation × Nat)) :
    (s.serveHttp (route.map endpointOf) r fresh).CallsIn (s.context r fresh) := by
  cases hf : (s.obstacles route r fresh).findSome? id with
  | some f =>
    exact Run.callsIn_of_called_nil (congrArg Prod.fst (observed_serveHttp_of_obstacle hf))
  | none =>
    obtain ⟨op, max, body, input, -, -, -, ho⟩ := observed_serveHttp_of_clear hf
    have hc : (s.serveHttp (route.map endpointOf) r fresh).called = [⟨op.name, s.context r fresh, input⟩] :=
      congrArg Prod.fst ho
    intro call h
    rw [hc, List.mem_singleton] at h
    rw [h]

/-! ## the whole -/

/-- **The id of a request is the same everywhere.** -/
theorem one_id (s : Server) (r : IncomingRequest) (fresh : CorrelationId) (uptime : Nat)
    (answered : ¬ s.Shows r) : s.OneId r fresh uptime (s.requestId r fresh) := by
  obtain ⟨response, hv, ha⟩ : ∃ response, (s.handle r fresh uptime).value = s.echo r fresh response ∧
    Answer (s.requestId r fresh) response := value_handle answered uptime
  have hs : (s.handle r fresh uptime).value.status = response.status := by
    rw [hv]
    rfl
  have hb : (s.handle r fresh uptime).value.body = response.body := by
    rw [hv]
    rfl
  constructor
  case given => exact ContextFactory.gives_correlate
  case echoed =>
    rw [hv]
    exact ContextFactory.echoes_echo response
  case told =>
    intro h h'
    obtain ⟨f, rfl⟩ := ha.exists_failure (hs ▸ h) (hs ▸ h')
    exact ⟨f, ⟨hs, hb⟩, fun hf => Failure.get?_requestId hf _⟩
  case unmistakable =>
    intro f v hf h
    exact ha.requestId_eq hf ⟨hs ▸ h.status, hb ▸ h.body⟩
  case called =>
    intro route routed call hc c hcc
    by_cases hu : s.Upgrades r
    · rw [handle_of_upgrades answered hu] at hc
      cases hc
    · rw [handle_of_pipeline answered hu, routed] at hc
      rw [callsIn_serveHttp route call hc] at hcc
      exact requestId_of_contextOf hcc
  case connected =>
    intro g hg upgrade accepted
    refine ⟨?_, (Request.upgrade_of_accepted accepted).2.1⟩
    unfold handle
    rw [hg]
    dsimp only
    rw [accepted]
    rfl

/-- a request with an id in braces, and another behind it -/
def braced : IncomingRequest :=
  ⟨"POST", ⟨"/tickets", none⟩,
    [("x-request-id", Utf8.ofText r" {67E55044-10B1-426F-9247-BB680E5FE0C8}"),
      ("x-request-id", Utf8.ofText "second")], [], .stalled⟩

theorem one_id_braced : ¬ tickets.Shows braced ∧
    tickets.OneId braced ⟨7⟩ 0 ⟨0x67e5504410b1426f9247bb680e5fe0c8⟩ := by
  have hi : tickets.requestId braced ⟨7⟩ = ⟨0x67e5504410b1426f9247bb680e5fe0c8⟩ := by decide
  exact ⟨by decide, hi ▸ one_id tickets braced ⟨7⟩ 0 (by decide)⟩

end Server

end RequestPipeline
