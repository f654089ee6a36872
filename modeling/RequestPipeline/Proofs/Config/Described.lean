import RequestPipeline.Proofs.Config.Acceptance
import RequestPipeline.Server.Plan

/-!
# The server that settings describe

Settings are accepted by looking at them once, and the server is built by looking at them again: the header is
trimmed and read as it is, and then trimmed, folded to lower case and read.  Both ways agree, because a name may be
written in either case (`headerName?_lower`).

`plan_of_accepted`: **accepted settings have a plan, and whatever routes, gateways and callers it is given, the
server of the plan is the one that the settings describe.**
-/

namespace RequestPipeline

/-! ## the case of a name -/

section
open Text (lowerChar)

/-- what holds of each capital, one by one, holds of a capital -/
theorem forall_capital {P : Char → Prop} (h : ∀ n < 26, P (Char.ofNat (65 + n))) {c : Char}
    (hc : 'A' ≤ c ∧ c ≤ 'Z') : P c := by
  have hl : 65 ≤ c.toNat := hc.1
  have hu : c.toNat ≤ 90 := hc.2
  have hp := h (c.toNat - 65) (by omega)
  rwa [show 65 + (c.toNat - 65) = c.toNat by omega, Char.ofNat_toNat] at hp

theorem isNameChar_lowerChar (c : Char) : isNameChar (lowerChar c) = isNameChar c := by
  by_cases h : 'A' ≤ c ∧ c ≤ 'Z'
  · exact forall_capital (P := fun c => isNameChar (lowerChar c) = isNameChar c) (by decide) h
  · unfold lowerChar
    rw [if_neg h]

theorem lowerChar_lowerChar (c : Char) : lowerChar (lowerChar c) = lowerChar c := by
  by_cases h : 'A' ≤ c ∧ c ≤ 'Z'
  · exact forall_capital (P := fun c => lowerChar (lowerChar c) = lowerChar c) (by decide) h
  · unfold lowerChar
    rw [if_neg h, if_neg h]

/-- **A name may be written in either case.** -/
theorem headerName?_lower (cs : List Char) : headerName? (cs.map lowerChar) = headerName? cs := by
  have hl : (cs.map lowerChar).map lowerChar = cs.map lowerChar := by
    rw [List.map_map]
    exact List.map_congr_left fun c _ => lowerChar_lowerChar c
  have ha : (cs.map lowerChar).all isNameChar = cs.all isNameChar := by
    rw [List.all_map]
    exact congrArg (List.all cs) (funext isNameChar_lowerChar)
  unfold headerName?
  simp only [hl, ha, List.length_map, ne_eq, List.map_eq_nil_iff]

theorem headerName?_eq_some {cs : List Char} {name : String} (h : headerName? cs = some name) :
    name = String.ofList (cs.map lowerChar) := by
  unfold headerName? at h
  split at h
  · exact (Option.some.inj h).symm
  · cases h

end

/-! ## the server -/

namespace Settings

/-- a server is what settings say -/
structure Describes (s : Settings) (b : Server) : Prop where
  address : b.options.address = s.server.address
  /-- so that the server starts, unless the host does not have the address -/
  listens : ∃ a, SocketAddress.parse? b.options.address = some a ∧
    (b.options.listenAt = .ok a ∨ b.options.listenAt = .error (.cannotListen a))
  shutdownTimeout : b.options.shutdownTimeout = s.server.shutdownTimeout * 1000
  requestTimeout : b.options.requestTimeout = s.server.requestTimeout * 1000
  maxBody : b.options.maxBody = s.server.maxBody
  maxMessage : b.limits.maxMessage = s.websocket.maxMessage
  maxFrame : b.limits.maxFrame = s.websocket.maxFrame
  idle : b.limits.idle = none ↔ s.websocket.idleTimeout = 0
  idleTime : ∀ d, b.limits.idle = some d → d = s.websocket.idleTimeout * 1000
  header : b.factory.header = Text.lowerAscii (Text.trim s.pipeline.correlationHeader)
  trustIncoming : b.factory.trustIncoming = s.pipeline.trustIncoming

theorem listenAt_of_parse {o : ServerOptions} {a : SocketAddress} (h : SocketAddress.parse? o.address = some a) :
    o.listenAt = .ok a ∨ o.listenAt = .error (.cannotListen a) := by
  unfold ServerOptions.listenAt
  rw [h]
  dsimp only
  split
  · exact .inl rfl
  · exact .inr rfl

theorem idleTimeout_eq_none_iff (s : Settings) : s.idleTimeout = none ↔ s.websocket.idleTimeout = 0 := by
  unfold idleTimeout
  split <;> simp_all

theorem eq_of_idleTimeout {s : Settings} {d : Nat} (h : s.idleTimeout = some d) :
    d = s.websocket.idleTimeout * 1000 := by
  unfold idleTimeout at h
  split at h
  · cases h
  · exact (Option.some.inj h).symm

/-- the header that was looked at is the one that is built -/
theorem factory_of_header {s : Settings} {name : String} (h : headerName? s.header.toList = some name) :
    s.factory = .ok ⟨name, s.pipeline.trustIncoming⟩ := by
  have hc : ContextFactory.ofHeaderName? s.pipeline.correlationHeader = some ⟨name, true⟩ := by
    unfold header Text.trim at h
    rw [String.toList_ofList] at h
    unfold ContextFactory.ofHeaderName?
    rw [headerName?_lower, h]
    rfl
  unfold factory
  rw [hc]

/-- **Accepted settings have a plan, and the server of the plan is the one that they describe**, whatever routes,
gateways and callers it is given. -/
theorem plan_of_accepted (s : Settings) (accepted : s.accept = .ok s) :
    ∃ p, s.plan = .ok p ∧ ∀ q : ServerPlan, q.options = p.options → q.factory = p.factory →
      q.limits = p.limits → s.Describes q.build := by
  have acceptable : s.Acceptable := s.accept_eq_ok_iff.mp accepted
  obtain ⟨name, hn⟩ := acceptable.header
  have hp : s.plan = .ok { ServerPlan.default with
      options := s.options, factory := some ⟨name, s.pipeline.trustIncoming⟩, limits := s.limits } := by
    unfold plan
    rw [s.fault?_eq_none_iff.mpr acceptable]
    dsimp only
    rw [factory_of_header hn]
    rfl
  refine ⟨_, hp, fun q options factory limits => ?_⟩
  obtain ⟨a, ha⟩ := acceptable.address
  have ho : q.build.options = s.options := options
  have hl : q.build.limits = s.limits := limits
  have hf : q.build.factory = ⟨name, s.pipeline.trustIncoming⟩ := by
    show q.factory.getD .default = _
    rw [factory]
    rfl
  constructor
  case address => rw [ho]; rfl
  case listens =>
    have hb : SocketAddress.parse? q.build.options.address = some a := by rw [ho]; exact ha
    exact ⟨a, hb, listenAt_of_parse hb⟩
  case shutdownTimeout => rw [ho]; rfl
  case requestTimeout => rw [ho]; rfl
  case maxBody => rw [ho]; rfl
  case maxMessage => rw [hl]; rfl
  case maxFrame => rw [hl]; rfl
  case idle => rw [hl]; exact s.idleTimeout_eq_none_iff
  case idleTime =>
    intro d hd
    rw [hl] at hd
    exact eq_of_idleTimeout hd
  case header =>
    rw [hf]
    exact headerName?_eq_some hn
  case trustIncoming => rw [hf]

/-- settings with a header between blanks, in capitals, an address of version 6, and connections that may be silent
for ever -/
def traced : Settings :=
  { default with
    server := ⟨"[::1]:0", 0, 2, 1⟩
    pipeline := ⟨" X-Trace-Id\t", false⟩
    websocket := ⟨10, 10, 0⟩ }

theorem plan_of_accepted_traced : traced.accept = .ok traced ∧ ∃ p, traced.plan = .ok p ∧
    let b := { p with authenticator := some .byHeader }.build
    traced.Describes b ∧ b.factory.header = "x-trace-id" ∧ b.limits.idle = none := by
  have accepted : traced.accept = .ok traced := rfl
  obtain ⟨p, hp, h⟩ := plan_of_accepted traced accepted
  have described := h { p with authenticator := some .byHeader } rfl rfl rfl
  have header : Text.lowerAscii (Text.trim traced.pipeline.correlationHeader) = "x-trace-id" := by decide
  exact ⟨accepted, p, hp, described, described.header.trans header, described.idle.mpr rfl⟩

end Settings

end RequestPipeline
