import RequestPipeline.Proofs.Serving.Correlation
import RequestPipeline.Proofs.Socket.Serving
import RequestPipeline.Samples.Rooms

/-!
# The identity of a connection

What a handshake settles about a connection holds until the connection ends, whatever messages come.

`stable_identity`: **all calls of a connection are made in one context, and all its exceptions have one id, which is
the one in the response to the handshake and in the headers of the session.**
-/

namespace RequestPipeline

namespace Socket

/-- the identity of a connection: an id, and the caller if it is known -/
structure StableIdentity (g : Gateway) (factory : ContextFactory) (authenticator : Authenticator)
    (upgrade : Upgrade) (u : CorrelationId) (p : Option Principal) : Prop where
  /-- the handshake succeeds with the id in the header of the response -/
  echoed : upgrade.response.status = 101 ∧ factory.Echoes u upgrade.response
  /-- the header of the session spells the id -/
  stored : (upgrade.session.headers.text? factory.header).bind Uuid.ofHeaderText? = some u
  identified : authenticator upgrade.session.headers = .ok p
  /-- texts are answered in one context, one by one -/
  answered : ∀ texts,
    (g.handleTexts upgrade.session texts).CallsIn (p.map fun p => ⟨p.id, p.roles, u, .webSocket⟩) ∧
    (g.handleTexts upgrade.session texts).value.length = texts.length ∧
    ∀ m ∈ (g.handleTexts upgrade.session texts).value, Marks u m
  /-- and so is whatever comes over a stream -/
  served : ∀ {σ : Type} (S : Stream σ) (stream : σ) (limits : Limits) (fuel : Nat),
    (g.serve S fuel (.start stream limits upgrade.session)).CallsIn
        (p.map fun p => ⟨p.id, p.roles, u, .webSocket⟩) ∧
      ∀ m ∈ (g.serve S.recorded fuel (.start (stream, []) limits upgrade.session)).value.2.stream.2, Marks u m

/-- **All calls of a connection are made in one context, and all its exceptions have one id**, which is the one in
the response to the handshake and in the headers of the session. -/
theorem stable_identity (g : Gateway) (operations : g.RunsOperations) (request : Request)
    (factory : ContextFactory) (authenticator : Authenticator) (allowed : List String) (fresh : CorrelationId)
    (upgrade : Upgrade)
    (accepted : (request.upgrade factory authenticator allowed fresh).1 = .ok upgrade) :
    StableIdentity g factory authenticator upgrade upgrade.session.requestId upgrade.session.principal := by
  obtain ⟨hp, hu, hh, key, hr⟩ := Request.upgrade_of_accepted accepted
  constructor
  case echoed =>
    rw [hr, hu]
    exact ⟨rfl, ContextFactory.echoes_echo _⟩
  case stored =>
    rw [hu, hh]
    exact ContextFactory.stored_correlate
  case identified =>
    rw [hh]
    exact hp
  case answered =>
    intro texts
    refine ⟨g.callsIn_handleTexts upgrade.session operations texts, ?_, fun m hm =>
      (g.sends_handleTexts upgrade.session texts m hm).marks⟩
    rw [g.value_handleTexts, List.length_map]
  case served =>
    intro σ S stream limits fuel
    refine ⟨(Gateway.serve_invariant (Connection.invariant_session S upgrade.session) operations fuel _ rfl).1,
      fun m hm => ?_⟩
    have hi := (Gateway.serve_invariant (Connection.invariant_recorded S upgrade.session) operations fuel
      (.start (stream, []) limits upgrade.session) ⟨rfl, fun m hm => absurd hm List.not_mem_nil⟩).2
    exact (hi.sent m hm).marks

/-- a handshake by caller 7, who sends an id of its own -/
def opening : Request :=
  ⟨"GET", ⟨"/ws", none⟩,
    [("connection", Utf8.ofText "keep-alive, Upgrade"), ("upgrade", Utf8.ofText "websocket"),
      ("sec-websocket-key", Utf8.ofText "dGhlIHNhbXBsZSBub25jZQ=="),
      ("sec-websocket-version", Utf8.ofText "13"), ("x-principal-id", Utf8.ofText "7"),
      ("x-request-id", Utf8.ofText "67e55044-10b1-426f-9247-bb680e5fe0c8")], []⟩

/-- a factory that does not trust ids that come in gives all of a connection the one fresh id -/
theorem stable_identity_untrusted : ∃ upgrade,
    (opening.upgrade ⟨"x-request-id", false⟩ .byHeader [] ⟨7⟩).1 = .ok upgrade ∧
    (Gateway.empty.on "create" Samples.create.endpoint).RunsOperations ∧
    StableIdentity (Gateway.empty.on "create" Samples.create.endpoint) ⟨"x-request-id", false⟩ .byHeader upgrade
      ⟨7⟩ (some ⟨7, []⟩) := by
  have hk : acceptKey opening.headers = .ok (proof "dGhlIHNhbXBsZSBub25jZQ==") := rfl
  have hp : Authenticator.byHeader
      ((⟨"x-request-id", false⟩ : ContextFactory).correlate ⟨7⟩ opening.headers).2
      = .ok (some ⟨7, []⟩) := rfl
  obtain ⟨protocol, accepted⟩ := Request.upgrade_of_identified hk hp []
  have operations := Gateway.runsOperations_empty.on "create" Samples.create
  exact ⟨_, accepted, operations, stable_identity _ operations opening _ _ [] ⟨7⟩ _ accepted⟩

end Socket

end RequestPipeline
