import Mathlib.Data.List.Basic
import RequestPipeline.Proofs.Serving.Correlation

/-!
# What a handshake comes to

A handshake checks its request, writes the id of the request into its headers, asks who sends it, and settles a
subprotocol.  The correlation header must be none of `handshakeFields`, those that the handshake reads or that its
responses have of their own.

* `echo_failure`, `echo_switching`   a response goes out with the correlation header and is otherwise as it was;
* `eq_rejection_iff`     a request is refused as none that asks for a WebSocket exactly when the check fails;
* `settle_first`, `settle_isSome_iff`   the subprotocol is the first offered one that is allowed, if there is one;
* `handshake_outcome`    **what a handshake answers, opens and changes.**
-/

namespace RequestPipeline

open Socket

/-! ## fields -/

section
variable {name : String} {hs : Headers}

theorem Headers.insert_of_forall_ne (value : Bytes) (h : ∀ field ∈ hs, field.1 ≠ name) :
    hs.insert name value = hs ++ [(name, value)] := by
  induction hs with
  | nil => rfl
  | cons field rest ih =>
    have hf : field.1 ≠ name := h field List.mem_cons_self
    have hr := ih fun g hg => h g (List.mem_cons_of_mem _ hg)
    rw [List.cons_append, ← hr]
    exact if_neg hf

/-- a field that is written changes no other -/
theorem ContextFactory.getAll_correlate {factory : ContextFactory} (h : name ≠ factory.header)
    (fresh : CorrelationId) : (factory.correlate fresh hs).2.getAll name = hs.getAll name := by
  cases hi : factory.incoming? hs with
  | some u => rw [correlate_of_incoming hi]
  | none =>
    rw [correlate_of_none hi]
    exact Headers.getAll_insert_of_ne h _ hs

end

/-- a response with one more field -/
def Response.plus (response : Response) (name : String) (value : Bytes) : Response :=
  { response with headers := response.headers ++ [(name, value)] }

theorem ContextFactory.echo_eq_plus {factory : ContextFactory} {response : Response}
    (h : ∀ field ∈ response.headers, field.1 ≠ factory.header) (u : CorrelationId) :
    factory.echo u response = response.plus factory.header (Utf8.encode u.chars) := by
  have hi := Headers.insert_of_forall_ne (Utf8.encode u.chars) h
  unfold ContextFactory.echo Response.withHeader Response.plus
  rw [hi]

namespace Socket

/-- the fields that a handshake reads, and those that its responses have of their own -/
def handshakeFields : List String :=
  ["connection", "upgrade", "sec-websocket-key", "sec-websocket-version", "sec-websocket-protocol",
    "sec-websocket-accept", "content-type"]

/-- the response to a request that does not ask for a WebSocket, in plain text -/
def rejection (f : SocketFault) : Response :=
  ⟨400, [("content-type", Utf8.ofText "text/plain")], Utf8.ofText f.message⟩

/-- whether a subprotocol is allowed, in whatever case -/
def Allows (allowed : List String) (p : String) : Prop := ∃ a ∈ allowed, Text.sameAscii a p = true

/-! ## responses -/

section
variable {factory : ContextFactory} (own : factory.header ∉ handshakeFields)
include own

theorem echo_failure (e : Failure) (u : CorrelationId) : factory.echo u (.failure e u)
    = (Response.failure e u).plus factory.header (Utf8.encode u.chars) := by
  refine ContextFactory.echo_eq_plus (fun field hf he => own ?_) u
  have hn : field = ("content-type", Utf8.ofText "application/json") := List.mem_singleton.mp hf
  rw [← he, hn]
  decide

/-- every field of the response that switches protocols is one of the handshake -/
theorem echo_switching (key : String) (protocol : Option String) (u : CorrelationId) :
    factory.echo u (switching key protocol)
      = (switching key protocol).plus factory.header (Utf8.encode u.chars) := by
  refine ContextFactory.echo_eq_plus (fun field hf he => own ?_) u
  have hn : field.1 ∈ handshakeFields := by
    rcases List.mem_append.mp hf with hf | hf
    · simp only [List.mem_cons, List.not_mem_nil, or_false] at hf
      rcases hf with rfl | rfl | rfl <;> simp [handshakeFields]
    · cases protocol with
      | none => exact absurd hf List.not_mem_nil
      | some p =>
        rw [List.mem_singleton.mp hf]
        simp [handshakeFields]
  exact he ▸ hn

theorem echo_failure_ne_rejection (e : Failure) (u : CorrelationId) (f : SocketFault) :
    factory.echo u (.failure e u) ≠ rejection f := by
  intro h
  rw [echo_failure own] at h
  have hl : (2 : Nat) = 1 := congrArg (fun response : Response => response.headers.length) h
  exact absurd hl (by decide)

end

/-- the subprotocol is stated in the response, if there is one -/
theorem getAll_switching {name : String} (h : name ≠ "sec-websocket-protocol") (key : String)
    (protocol : Option String) (value : Bytes) :
    ((switching key protocol).plus name value).headers.getAll "sec-websocket-protocol"
      = protocol.toList.map Utf8.ofText := by
  unfold Response.plus Headers.getAll
  cases protocol <;> simp [switching, h]

/-! ## subprotocols -/

section
variable {allowed : List String} {headers : Headers} {p : String}

theorem allows_iff : (allowed.any fun a => Text.sameAscii a p) = true ↔ Allows allowed p :=
  List.any_eq_true

/-- whatever is offered stands in one of the lines -/
theorem mem_offered_iff : p ∈ offered headers ↔ ∃ line ∈ headers.getAll "sec-websocket-protocol",
    ∃ text, headerText? line = some text ∧ p ∈ Text.commaParts text := by
  unfold offered
  simp only [List.mem_flatMap, List.mem_filterMap]
  constructor
  · rintro ⟨text, ⟨line, hl, ht⟩, hp⟩
    exact ⟨line, hl, text, ht, hp⟩
  · rintro ⟨line, hl, text, ht, hp⟩
    exact ⟨text, ⟨line, hl, ht⟩, hp⟩

theorem settle_isSome_iff : (settle allowed headers).isSome = true ↔
    ∃ p ∈ offered headers, Allows allowed p := by
  unfold settle
  rw [List.find?_isSome]
  simp only [allows_iff]

theorem settle_first (h : settle allowed headers = some p) : Allows allowed p ∧
    ∃ before after, offered headers = before ++ p :: after ∧ ∀ q ∈ before, ¬ Allows allowed q := by
  obtain ⟨hp, before, after, ho, hb⟩ := List.find?_eq_some_iff_append.mp h
  refine ⟨allows_iff.mp hp, before, after, ho, fun q hq hn => ?_⟩
  have hf := hb q hq
  rw [allows_iff.mpr hn] at hf
  exact absurd hf (by decide)

end

/-! ## the whole -/

/-- what a handshake opens, for a key, the caller, the headers of the request, and its id -/
structure Opens (r : Request) (factory : ContextFactory) (allowed : List String) (key : String)
    (p : Option Principal) (headers : Headers) (u : CorrelationId) (upgrade : Upgrade) : Prop where
  response : upgrade.response = (switching key upgrade.protocol).plus factory.header (Utf8.encode u.chars)
  status : upgrade.response.status = 101
  /-- the id is in the response, in the session, and in the headers that the session keeps -/
  echoed : factory.Echoes u upgrade.response
  requestId : upgrade.session.requestId = u
  stored : (upgrade.session.headers.text? factory.header).bind Uuid.ofHeaderText? = some u
  principal : upgrade.session.principal = p
  headers : upgrade.session.headers = headers
  /-- a subprotocol is settled if any line offers an allowed one, and then the first of them -/
  negotiated : upgrade.protocol.isSome = true ↔ ∃ line ∈ r.headers.getAll "sec-websocket-protocol",
    ∃ text, headerText? line = some text ∧ ∃ q ∈ Text.commaParts text, Allows allowed q
  first : ∀ q, upgrade.protocol = some q → Allows allowed q ∧
    ∃ before after, offered r.headers = before ++ q :: after ∧ ∀ o ∈ before, ¬ Allows allowed o
  stated : upgrade.response.headers.getAll "sec-websocket-protocol"
    = upgrade.protocol.toList.map Utf8.ofText

/-- what a handshake comes to: its result, and the headers of the request afterwards -/
structure HandshakeOutcome (r : Request) (factory : ContextFactory) (authenticator : Authenticator)
    (allowed : List String) (fresh : CorrelationId) (result : Except Response Upgrade) (headers : Headers) :
    Prop where
  /-- a request that does not ask for a WebSocket is refused with what is wrong, and only such a request -/
  rejected : ∀ f, acceptKey r.headers = .error f → result = .error (rejection f) ∧ headers = r.headers
  rejected_only : ∀ f, result = .error (rejection f) →
    ∃ g, acceptKey r.headers = .error g ∧ g.message = f.message
  /-- no other field of the request is changed -/
  kept : ∀ name, name ≠ factory.header → headers.getAll name = r.headers.getAll name
  /-- the authenticator sees the headers as they are afterwards -/
  refused : ∀ key, acceptKey r.headers = .ok key → ∀ e, authenticator headers = .error e →
    ∃ u, factory.Gives r.headers fresh u ∧
      result = .error ((Response.failure e u).plus factory.header (Utf8.encode u.chars))
  opened : ∀ key, acceptKey r.headers = .ok key → ∀ p, authenticator headers = .ok p →
    ∃ u upgrade, factory.Gives r.headers fresh u ∧ result = .ok upgrade ∧
      Opens r factory allowed key p headers u upgrade

section
variable {r : Request} {factory : ContextFactory} {authenticator : Authenticator} {allowed : List String}
  {fresh : CorrelationId} (own : factory.header ∉ handshakeFields)
include own

theorem offered_correlate : offered (factory.correlate fresh r.headers).2 = offered r.headers := by
  have hn : "sec-websocket-protocol" ≠ factory.header := fun h => own (h ▸ by decide)
  unfold offered
  rw [ContextFactory.getAll_correlate hn]

theorem eq_rejection_iff {f : SocketFault} :
    (r.upgrade factory authenticator allowed fresh).1 = .error (rejection f) ↔
      ∃ g, acceptKey r.headers = .error g ∧ g.message = f.message := by
  cases hk : acceptKey r.headers with
  | error g =>
    rw [Request.upgrade_eq_of_no_key hk]
    constructor
    · intro h
      have hb : Utf8.encode g.message.toList = Utf8.encode f.message.toList :=
        congrArg Response.body (Except.error.inj h)
      exact ⟨g, rfl, String.toList_inj.mp (Utf8.encode_injective hb)⟩
    · rintro ⟨_, hg, hm⟩
      rw [Except.error.inj hg, hm]
      rfl
  | ok key =>
    refine ⟨fun h => ?_, fun ⟨g, hg, _⟩ => (by cases hg)⟩
    cases hc : authenticator (factory.correlate fresh r.headers).2 with
    | error e =>
      rw [Request.upgrade_eq_of_refused hk hc] at h
      exact absurd (Except.error.inj h) (echo_failure_ne_rejection own e _ f)
    | ok p =>
      rw [Request.upgrade_eq_of_identified hk hc] at h
      cases h

theorem opens_of_caller (key : String) (p : Option Principal) :
    Opens r factory allowed key p (factory.correlate fresh r.headers).2
      (factory.correlate fresh r.headers).1
      ⟨factory.echo (factory.correlate fresh r.headers).1
          (switching key (settle allowed (factory.correlate fresh r.headers).2)),
        settle allowed (factory.correlate fresh r.headers).2,
        ⟨(factory.correlate fresh r.headers).1, p, (factory.correlate fresh r.headers).2⟩⟩ := by
  have hn : factory.header ≠ "sec-websocket-protocol" := fun h => own (h ▸ by decide)
  constructor
  case response => exact echo_switching own _ _ _
  case status => rfl
  case echoed => exact ContextFactory.echoes_echo _
  case requestId => rfl
  case stored => exact ContextFactory.stored_correlate
  case principal => rfl
  case headers => rfl
  case negotiated =>
    rw [settle_isSome_iff, offered_correlate own]
    constructor
    · rintro ⟨q, hq, ha⟩
      obtain ⟨line, hl, text, ht, hp⟩ := mem_offered_iff.mp hq
      exact ⟨line, hl, text, ht, q, hp, ha⟩
    · rintro ⟨line, hl, text, ht, q, hp, ha⟩
      exact ⟨q, mem_offered_iff.mpr ⟨line, hl, text, ht, hp⟩, ha⟩
  case first =>
    intro q hq
    have hf := settle_first hq
    rwa [offered_correlate own] at hf
  case stated =>
    rw [echo_switching own]
    exact getAll_switching hn _ _ _

/-- **What a handshake answers, opens and changes.** -/
theorem handshake_outcome (r : Request) (authenticator : Authenticator) (allowed : List String)
    (fresh : CorrelationId) : HandshakeOutcome r factory authenticator allowed fresh
      (r.upgrade factory authenticator allowed fresh).1 (r.upgrade factory authenticator allowed fresh).2 := by
  have keyed : ∀ key, acceptKey r.headers = .ok key →
      (r.upgrade factory authenticator allowed fresh).2 = (factory.correlate fresh r.headers).2 := by
    intro key hk
    cases hc : authenticator (factory.correlate fresh r.headers).2 with
    | error e => rw [Request.upgrade_eq_of_refused hk hc]
    | ok p => rw [Request.upgrade_eq_of_identified hk hc]
  constructor
  case rejected =>
    intro f hf
    rw [Request.upgrade_eq_of_no_key hf]
    exact ⟨rfl, rfl⟩
  case rejected_only => exact fun f hf => (eq_rejection_iff own).mp hf
  case kept =>
    intro name hn
    cases hk : acceptKey r.headers with
    | error f => rw [Request.upgrade_eq_of_no_key hk]
    | ok key =>
      rw [keyed key hk]
      exact ContextFactory.getAll_correlate hn fresh
  case refused =>
    intro key hk e he
    rw [keyed key hk] at he
    refine ⟨_, ContextFactory.gives_correlate, ?_⟩
    rw [Request.upgrade_eq_of_refused hk he, echo_failure own]
  case opened =>
    intro key hk p hp
    rw [keyed key hk] at hp ⊢
    refine ⟨_, _, ContextFactory.gives_correlate, ?_, opens_of_caller own key p⟩
    rw [Request.upgrade_eq_of_identified hk hp]

end

/-- a handshake that offers subprotocols in two lines, with a text that is no id -/
def offering : Request :=
  ⟨"GET", ⟨"/ws", none⟩,
    [("connection", Utf8.ofText "Upgrade"), ("upgrade", Utf8.ofText "websocket"),
      ("sec-websocket-key", Utf8.ofText "dGhlIHNhbXBsZSBub25jZQ=="),
      ("sec-websocket-version", Utf8.ofText "13"), ("x-request-id", Utf8.ofText "none"),
      ("sec-websocket-protocol", Utf8.ofText "chat, "), ("sec-websocket-protocol", Utf8.ofText "JSON,xml")], []⟩

theorem handshake_outcome_offering : ContextFactory.default.header ∉ handshakeFields ∧
    ∃ upgrade, (offering.upgrade .default .byHeader ["xml", "json"] ⟨7⟩).1 = .ok upgrade ∧
      upgrade.protocol = some "JSON" ∧ upgrade.session.requestId = ⟨7⟩ ∧
      upgrade.response.headers.getAll "x-request-id" = [Utf8.ofText "00000000-0000-0000-0000-000000000007"] := by
  have own : ContextFactory.default.header ∉ handshakeFields := by decide
  have hk : acceptKey offering.headers = .ok (proof "dGhlIHNhbXBsZSBub25jZQ==") := rfl
  obtain ⟨u, upgrade, hu, hr, ho⟩ :=
    (handshake_outcome own offering .byHeader ["xml", "json"] ⟨7⟩).opened _ hk none rfl
  have hp : upgrade.protocol = some "JSON" := by rw [← Except.ok.inj hr]; rfl
  have hs : upgrade.session.requestId = ⟨7⟩ := by rw [← Except.ok.inj hr]
  refine ⟨own, upgrade, hr, hp, hs, ?_⟩
  rw [ho.response, hp, ← ho.requestId, hs]
  rfl

end Socket

end RequestPipeline
