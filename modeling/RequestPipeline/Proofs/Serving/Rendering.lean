import RequestPipeline.Proofs.Json.Print
import RequestPipeline.Proofs.Serving.Answers
import RequestPipeline.Proofs.Text.Uuid

/-!
# What a client can read off an answer

A response and a message are texts, and each tells what it was rendered from, up to how that is written:

* `Response.json_eq_iff`      the status and the text of the body of a response;
* `Socket.reply_eq_iff`       the text of the envelope in a reply to an event;
* `Socket.exception_eq_iff`   the status and the text of the body of a failure;
* `Socket.reply_ne_exception` that a reply is no failure, even to an event of that name.

A failure is written with the id of the request in it or without, but that makes no difference for telling two
failures apart (`Failure.body_chars_iff`).  Where the id is written, it can be read off
(`Failure.requestId_eq_of_chars`, `Socket.exception_requestId_eq`).
-/

namespace RequestPipeline

open Json (Value Members)

/-! ## responses -/

namespace Response

theorem json_eq_iff {s s' : Nat} {v v' : Value} :
    Response.json s v = Response.json s' v' ↔ s = s' ∧ v.chars = v'.chars := by
  constructor
  · intro h
    exact ⟨congrArg Response.status h, Utf8.encode_injective (congrArg Response.body h)⟩
  · rintro ⟨hs, hv⟩
    unfold Response.json
    rw [hs, hv]

end Response

/-! ## failures -/

namespace Failure

theorem status_ne_ok (f : Failure) : f.status ≠ 200 := by
  unfold status
  cases f.category <;> decide

theorem status_ne_switching (f : Failure) : f.status ≠ 101 := by
  unfold status
  cases f.category <;> decide

theorem isValidation_iff (f : Failure) : f.isValidation = true ↔ f.status = 400 := by
  unfold isValidation status
  cases f.category <;> decide

/-- a status is written with three digits -/
theorem length_status (f : Failure) : (Value.ofNat f.status).chars.length = 3 := by
  unfold status
  cases f.category <;> rfl

theorem status_eq_of_chars {f g : Failure}
    (h : (Value.ofNat f.status).chars = (Value.ofNat g.status).chars) : f.status = g.status := by
  unfold status at *
  revert h
  cases f.category <;> cases g.category <;> decide

/-- every failure but that of an input is rendered as an envelope -/
theorem body_of_not_isValidation {f : Failure} (h : f.isValidation = false) (id : Option String) :
    f.body id = f.envelope id := by
  cases f with
  | invalidInput property message => cases h
  | cursorConflict property message => cases h
  | _ => rfl

theorem envelope_of_status {f g : Failure} (hf : f.isValidation = false) (h : f.status = g.status)
    (id : Option String) : g.body id = g.envelope id := by
  refine body_of_not_isValidation ?_ id
  rw [Bool.eq_false_iff, ne_eq, isValidation_iff, ← h, ← isValidation_iff, hf]
  exact Bool.false_ne_true

/-- what an envelope says beside the id of the request -/
def reported (f : Failure) : Value :=
  Json.object [("code", .string f.code), ("message", .string f.message),
    ("category", .string f.category.name)]

theorem envelope_some (f : Failure) (id : String) :
    f.envelope (some id) = .object [("error", f.reported), ("request_id", .string id)] := rfl

/-- which id is written into a failure makes no difference for telling two failures of one status apart -/
theorem body_chars_iff {f g : Failure} (h : f.status = g.status) (a b : String) :
    (f.body (some a)).chars = (g.body (some a)).chars ↔
      (f.body (some b)).chars = (g.body (some b)).chars := by
  cases hf : f.isValidation with
  | true =>
    have hg : g.isValidation = true := (isValidation_iff g).mpr (h ▸ (isValidation_iff f).mp hf)
    rw [body_of_isValidation hf (some a) (some b), body_of_isValidation hg (some a) (some b)]
  | false =>
    rw [body_of_not_isValidation hf, body_of_not_isValidation hf, envelope_of_status hf h,
      envelope_of_status hf h, envelope_some, envelope_some, envelope_some, envelope_some,
      Json.chars_pair_left_iff, Json.chars_pair_left_iff]

/-- every failure but that of an input has the id of its request as a member -/
theorem get?_requestId {f : Failure} (hf : f.isValidation = false) (u : CorrelationId) :
    (f.body (some u.render)).get? "request_id" = some (.string u.render) := by
  rw [body_of_not_isValidation hf, envelope_some]
  rfl

theorem length_quote_render (u : CorrelationId) : (Value.string u.render).chars.length = 38 := by
  show (Json.quote u.render).length = 38
  rw [Uuid.quote_render, List.length_append, List.length_cons, u.hyphenated_chars.length]
  rfl

/-- and that id can be read off its text -/
theorem requestId_eq_of_chars {f g : Failure} {u v : CorrelationId} (hf : f.isValidation = false)
    (hs : f.status = g.status)
    (h : (f.body (some u.render)).chars = (g.body (some v.render)).chars) : u = v := by
  have hl : (Value.string u.render).chars.length = (Value.string v.render).chars.length := by
    rw [length_quote_render, length_quote_render]
  rw [body_of_not_isValidation hf, envelope_of_status hf hs, envelope_some, envelope_some,
    Json.chars_pair_iff hl] at h
  have hq : Json.quote u.render = Json.quote v.render := h.2
  rw [Uuid.quote_render, Uuid.quote_render, List.append_left_inj, List.cons_inj_right] at hq
  exact Uuid.chars_injective hq

end Failure

/-! ## messages -/

namespace Socket

theorem document_eq_iff {v w : Value} : Message.document v = .document w ↔ v.chars = w.chars := by
  unfold Message.document
  rw [Message.text.injEq, Json.render_eq_iff]

theorem reply_eq (event : String) (e : Envelope) :
    reply event e = .document (.object [("data", e.toJson), ("event", .string event)]) := rfl

theorem exception_eq (f : Failure) (id : CorrelationId) : exception f id = .document
    (.object [("data", .object [("error", f.body (some id.render)), ("status", .ofNat f.status)]),
      ("event", .string exceptionEvent)]) := rfl

theorem reply_eq_iff {event : String} {e e' : Envelope} :
    reply event e = reply event e' ↔ e.toJson.chars = e'.toJson.chars := by
  rw [reply_eq, reply_eq, document_eq_iff, Json.chars_pair_left_iff]

theorem exception_injective {f g : Failure} {u v : CorrelationId} (h : exception f u = exception g v) :
    f.status = g.status ∧ (f.body (some u.render)).chars = (g.body (some v.render)).chars := by
  have hl : (Value.ofNat f.status).chars.length = (Value.ofNat g.status).chars.length := by
    rw [f.length_status, g.length_status]
  rw [exception_eq, exception_eq, document_eq_iff, Json.chars_pair_left_iff, Json.chars_pair_iff hl] at h
  exact ⟨Failure.status_eq_of_chars h.2, h.1⟩

theorem exception_eq_iff {f g : Failure} {id : CorrelationId} : exception f id = exception g id ↔
    f.status = g.status ∧ (f.body (some id.render)).chars = (g.body (some id.render)).chars := by
  refine ⟨exception_injective, fun ⟨hs, hb⟩ => ?_⟩
  have hl : (Value.ofNat f.status).chars.length = (Value.ofNat g.status).chars.length := by rw [hs]
  rw [exception_eq, exception_eq, document_eq_iff, Json.chars_pair_left_iff, Json.chars_pair_iff hl]
  exact ⟨hb, by rw [hs]⟩

/-- the id of the request can be read off an exception that is not about an input -/
theorem exception_requestId_eq {f g : Failure} {u v : CorrelationId} (hf : f.isValidation = false)
    (h : exception f u = exception g v) : u = v :=
  Failure.requestId_eq_of_chars hf (exception_injective h).1 (exception_injective h).2

/-- an envelope begins with its data and the body of an exception with its error -/
theorem reply_ne_exception (event : String) (e : Envelope) (f : Failure) (id : CorrelationId) :
    reply event e ≠ exception f id := by
  intro h
  rw [reply_eq, exception_eq, document_eq_iff] at h
  have ht := congrArg (fun cs : List Char => cs[10]?) h
  change some 'd' = some 'e' at ht
  exact absurd (Option.some.inj ht) (by decide)

end Socket

end RequestPipeline
