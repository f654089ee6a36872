import RequestPipeline.Proofs.Http.Header
import RequestPipeline.Proofs.Serving.Rendering
import RequestPipeline.Proofs.Serving.Standard
import RequestPipeline.Socket.Upgrade

/-!
# The id of a request

An id comes in when it is trusted and can be read from the first value of the correlation header
(`ContextFactory.Incoming`); otherwise a request gets a fresh one.  Afterwards the header of the request holds the
id (`stored_correlate`), and so does the header of the answer, once (`getAll_echo`).

`ContextFactory.correlate_settles`: **whatever the headers of a request are, correlation leaves the id as the first value
of its header and touches nothing else, and it has nothing to do a second time.**

A handshake treats the id like the pipeline: `Request.upgrade_of_accepted` and `Request.upgrade_of_refused` say
where it goes.
-/

namespace RequestPipeline

namespace ContextFactory
variable (factory : ContextFactory) (headers : Headers) (fresh requestId : CorrelationId)

/-- whether an id comes in: ids are trusted, and the first value of the header is a text that spells this one,
with or without blanks around it -/
def Incoming : Prop :=
  factory.trustIncoming = true ∧ ∃ value text, headers.get? factory.header = some value ∧
    headerText? value = some text ∧ Uuid.parse? (Text.trimChars text.toList) = some requestId

/-- whether a request has an id: it came in, or it is fresh because none came in -/
def Gives : Prop :=
  factory.Incoming headers requestId ∨ (∀ u, ¬ factory.Incoming headers u) ∧ requestId = fresh

/-- whether a response has the correlation header once, with the text of an id -/
def Echoes (response : Response) : Prop :=
  ∃ text, requestId.Hyphenated text ∧ response.headers.getAll factory.header = [Utf8.encode text]

variable {factory headers fresh requestId}

theorem incoming?_eq_some_iff :
    factory.incoming? headers = some requestId ↔ factory.Incoming headers requestId := by
  unfold incoming? Incoming Headers.text? Uuid.ofHeaderText?
  cases factory.trustIncoming with
  | false => exact ⟨fun h => (by cases h), fun h => (by cases h.1)⟩
  | true =>
    rw [if_pos rfl, Option.bind_eq_some_iff]
    constructor
    · rintro ⟨text, h, hu⟩
      obtain ⟨value, hv, ht⟩ := Option.bind_eq_some_iff.mp h
      exact ⟨rfl, value, text, hv, ht, hu⟩
    · rintro ⟨-, value, text, hv, ht, hu⟩
      exact ⟨text, Option.bind_eq_some_iff.mpr ⟨value, hv, ht⟩, hu⟩

theorem gives_correlate : factory.Gives headers fresh (factory.correlate fresh headers).1 := by
  cases h : factory.incoming? headers with
  | some u =>
    rw [correlate_of_incoming h]
    exact .inl (incoming?_eq_some_iff.mp h)
  | none =>
    rw [correlate_of_none h]
    refine .inr ⟨fun u hu => ?_, rfl⟩
    rw [← incoming?_eq_some_iff, h] at hu
    cases hu

/-- the header of a request that is correlated holds its id -/
theorem stored_correlate : ((factory.correlate fresh headers).2.text? factory.header).bind Uuid.ofHeaderText?
    = some (factory.correlate fresh headers).1 := by
  cases h : factory.incoming? headers with
  | some u =>
    rw [correlate_of_incoming h]
    unfold incoming? at h
    split at h
    · exact h
    · cases h
  | none =>
    have hf := fresh.hyphenated_chars
    rw [correlate_of_none h]
    unfold Headers.text?
    rw [Headers.get?_insert_self, Option.bind_some, Uuid.headerText?_hyphenated hf, Option.bind_some,
      Uuid.ofHeaderText?_hyphenated hf]

theorem getAll_echo (response : Response) :
    (factory.echo requestId response).headers.getAll factory.header = [Utf8.encode requestId.chars] :=
  Headers.getAll_insert_self _ _ _

theorem echoes_echo (response : Response) : factory.Echoes requestId (factory.echo requestId response) :=
  ⟨_, requestId.hyphenated_chars, getAll_echo response⟩

/-! ## the headers of a request -/

/-- where a header holds an id and ids are trusted, there is nothing to do -/
theorem correlate_of_stored (trusting : factory.trustIncoming = true)
    (stored : (headers.text? factory.header).bind Uuid.ofHeaderText? = some requestId) :
    factory.correlate fresh headers = (requestId, headers) := by
  refine correlate_of_incoming ?_ fresh
  unfold incoming?
  rw [if_pos trusting, stored]

/-- what correlation leaves of the headers of a request -/
structure Settles (factory : ContextFactory) (headers : Headers) (fresh requestId : CorrelationId) (after : Headers) :
    Prop where
  /-- the first value of the correlation header is a text, and it is read as the id -/
  stored : (after.text? factory.header).bind Uuid.ofHeaderText? = some requestId
  /-- every other header keeps its values, in their order -/
  others : ∀ name, name ≠ factory.header → after.getAll name = headers.getAll name
  /-- and the fields of all other headers stay in the order in which they are -/
  rest : after.erase factory.header = headers.erase factory.header
  /-- an id that comes in is kept, with the headers as they are -/
  kept : ∀ id, factory.Incoming headers id → requestId = id ∧ after = headers
  /-- if none comes in, the header has one value, the text of the fresh id, which a header may have -/
  generated : (∀ id, ¬ factory.Incoming headers id) →
    requestId = fresh ∧ headerValue? fresh.render = some (Utf8.ofText fresh.render) ∧
      after.getAll factory.header = [Utf8.ofText fresh.render]
  /-- if ids are trusted, a second correlation finds the id and changes nothing -/
  again : factory.trustIncoming = true → ∀ other, factory.correlate other after = (requestId, after)

/-- **Correlation settles the header of the id and touches nothing else.** -/
theorem correlate_settles (factory : ContextFactory) (headers : Headers) (fresh : CorrelationId) :
    factory.Settles headers fresh (factory.correlate fresh headers).1 (factory.correlate fresh headers).2 := by
  have stored : ((factory.correlate fresh headers).2.text? factory.header).bind Uuid.ofHeaderText?
      = some (factory.correlate fresh headers).1 := stored_correlate
  have again : factory.trustIncoming = true → ∀ other, factory.correlate other (factory.correlate fresh headers).2
      = factory.correlate fresh headers := fun trusting _ => correlate_of_stored trusting stored
  cases h : factory.incoming? headers with
  | some u =>
    rw [correlate_of_incoming h] at stored again ⊢
    have came : factory.Incoming headers u := incoming?_eq_some_iff.mp h
    refine ⟨stored, fun _ _ => rfl, rfl, fun id hid => ⟨?_, rfl⟩, fun none => absurd came (none u), again⟩
    exact Option.some.inj (h.symm.trans (incoming?_eq_some_iff.mpr hid))
  | none =>
    rw [correlate_of_none h] at stored again ⊢
    have none (id : CorrelationId) : ¬ factory.Incoming headers id := fun hid =>
      Option.some_ne_none id ((incoming?_eq_some_iff.mpr hid).symm.trans h)
    have readable := Uuid.headerText?_hyphenated fresh.hyphenated_chars
    rw [← Uuid.ofText_render] at readable stored again ⊢
    refine ⟨stored, fun name hn => Headers.getAll_insert_of_ne hn _ _, Headers.erase_insert _ _ _,
      fun id hid => absurd hid (none id), fun _ => ⟨rfl, headerValue?_of_headerText? readable, ?_⟩, again⟩
    exact Headers.getAll_insert_self _ _ _

end ContextFactory

/-! ## handshakes -/

open Socket

/-- the first offered subprotocol that is allowed -/
def Socket.settle (allowed : List String) (headers : Headers) : Option String :=
  (offered headers).find? fun p => allowed.any fun a => Text.sameAscii a p

section
variable {r : Request} {factory : ContextFactory} {authenticator : Authenticator} {fresh : CorrelationId}

/-- a request without a key is no handshake -/
theorem Request.upgrade_eq_of_no_key {f : SocketFault} (h : acceptKey r.headers = .error f)
    (allowed : List String) : r.upgrade factory authenticator allowed fresh
      = (.error (.bytes 400 "text/plain" (Utf8.ofText f.message)), r.headers) := by
  unfold Request.upgrade
  rw [h]

variable {key : String} (keyed : acceptKey r.headers = .ok key)
include keyed

theorem Request.upgrade_eq_of_refused {f : Failure}
    (refused : authenticator (factory.correlate fresh r.headers).2 = .error f) (allowed : List String) :
    r.upgrade factory authenticator allowed fresh = (.error
      (factory.echo (factory.correlate fresh r.headers).1
        (.failure f (factory.correlate fresh r.headers).1)), (factory.correlate fresh r.headers).2) := by
  unfold Request.upgrade
  rw [keyed]
  dsimp only
  rw [refused]
  rfl

theorem Request.upgrade_eq_of_identified {p : Option Principal}
    (identified : authenticator (factory.correlate fresh r.headers).2 = .ok p) (allowed : List String) :
    r.upgrade factory authenticator allowed fresh = (.ok
      ⟨factory.echo (factory.correlate fresh r.headers).1
          (switching key (settle allowed (factory.correlate fresh r.headers).2)),
        settle allowed (factory.correlate fresh r.headers).2,
        ⟨(factory.correlate fresh r.headers).1, p, (factory.correlate fresh r.headers).2⟩⟩,
      (factory.correlate fresh r.headers).2) := by
  unfold Request.upgrade
  rw [keyed]
  dsimp only
  rw [identified]
  rfl

theorem Request.upgrade_of_refused {f : Failure}
    (refused : authenticator (factory.correlate fresh r.headers).2 = .error f) (allowed : List String) :
    (r.upgrade factory authenticator allowed fresh).1 = .error
      (factory.echo (factory.correlate fresh r.headers).1
        (.failure f (factory.correlate fresh r.headers).1)) :=
  congrArg Prod.fst (upgrade_eq_of_refused keyed refused allowed)

theorem Request.upgrade_of_identified {p : Option Principal}
    (identified : authenticator (factory.correlate fresh r.headers).2 = .ok p) (allowed : List String) :
    ∃ protocol, (r.upgrade factory authenticator allowed fresh).1 = .ok
      ⟨factory.echo (factory.correlate fresh r.headers).1 (switching key protocol), protocol,
        ⟨(factory.correlate fresh r.headers).1, p, (factory.correlate fresh r.headers).2⟩⟩ :=
  ⟨_, congrArg Prod.fst (upgrade_eq_of_identified keyed identified allowed)⟩

end

section
variable {r : Request} {factory : ContextFactory} {authenticator : Authenticator} {allowed : List String}
  {fresh : CorrelationId}

theorem Request.upgrade_of_no_key {f : SocketFault} (h : acceptKey r.headers = .error f) :
    (r.upgrade factory authenticator allowed fresh).1
      = .error (.bytes 400 "text/plain" (Utf8.ofText f.message)) :=
  congrArg Prod.fst (upgrade_eq_of_no_key h allowed)

/-- a handshake that succeeds opens a session with the id, the caller and the headers of the request -/
theorem Request.upgrade_of_accepted {upgrade : Upgrade}
    (accepted : (r.upgrade factory authenticator allowed fresh).1 = .ok upgrade) :
    authenticator (factory.correlate fresh r.headers).2 = .ok upgrade.session.principal ∧
      upgrade.session.requestId = (factory.correlate fresh r.headers).1 ∧
      upgrade.session.headers = (factory.correlate fresh r.headers).2 ∧
      ∃ key, upgrade.response
        = factory.echo (factory.correlate fresh r.headers).1 (switching key upgrade.protocol) := by
  cases hk : acceptKey r.headers with
  | error f =>
    rw [upgrade_of_no_key hk] at accepted
    cases accepted
  | ok key =>
    cases hc : authenticator (factory.correlate fresh r.headers).2 with
    | error f =>
      rw [upgrade_of_refused hk hc] at accepted
      cases accepted
    | ok p =>
      obtain ⟨protocol, ho⟩ := upgrade_of_identified hk hc allowed
      rw [ho] at accepted
      rw [← Except.ok.inj accepted]
      exact ⟨rfl, rfl, rfl, key, rfl⟩

end

end RequestPipeline
