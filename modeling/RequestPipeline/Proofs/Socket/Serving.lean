import RequestPipeline.Proofs.Serving.Rendering
import RequestPipeline.Proofs.Socket.Connection

/-!
# What happens in a session

A message is answered in the context of the session (`callsIn_handleText`), and under its id if it fails
(`sends_handleText`).  From this follows the same for texts that come one after the other, and for the loop that
serves a connection over a stream: `serve_invariant` says that whatever holds of a connection while only what a
session sends is sent (`Session.Invariant`) holds to the end.  There are two such invariants here: the connection
keeps its session, and a stream that records what is sent has recorded only that (`Connection.Recorded`).
-/

namespace RequestPipeline

namespace Socket

/-! ## messages -/

/-- what may be sent in a session: exceptions under its id only -/
inductive Session.Sends (session : Session) : Message → Prop where
  | reply (event : String) (e : Envelope) : Sends session (reply event e)
  | binary (bs : Bytes) : Sends session (.binary bs)
  | exception (f : Failure) : Sends session (exception f session.requestId)
  | close (c : Option Closing) : Sends session (.close c)

/-- whether a message that is an exception has an id in it, unless it is about an input -/
def Marks (u : CorrelationId) (m : Message) : Prop :=
  ∀ (f : Failure) (v : CorrelationId), f.isValidation = false → m = exception f v →
    v = u ∧ (f.body (some v.render)).get? "request_id" = some (.string u.render)

theorem Session.Sends.marks {session : Session} {m : Message} (h : session.Sends m) :
    Marks session.requestId m := by
  intro f v hf he
  obtain rfl : v = session.requestId := by
    cases h with
    | reply event e => exact absurd he (reply_ne_exception event e f v)
    | binary bs => cases he
    | exception g => exact exception_requestId_eq hf he.symm
    | close c => cases he
  exact ⟨rfl, Failure.get?_requestId hf _⟩

namespace Gateway

/-- whether every event of a gateway has an operation -/
def RunsOperations (g : Gateway) : Prop :=
  ∀ event e, g.find? event = some e → ∃ op : Operation, e = op.endpoint

theorem runsOperations_empty : empty.RunsOperations := by
  intro event e h
  cases h

theorem RunsOperations.on {g : Gateway} (h : g.RunsOperations) (event : String) (op : Operation) :
    (g.on event op.endpoint).RunsOperations := by
  intro name e he
  rw [find?_on] at he
  by_cases hn : name = event
  · rw [if_pos hn] at he
    exact ⟨op, (Option.some.inj he).symm⟩
  · rw [if_neg hn] at he
    exact h name e he

/-! ## one text -/

section
variable (g : Gateway) (session : Session)

theorem sends_render (event : String) (result : Except Failure Outgoing) :
    session.Sends (render session event result) := by
  cases result with
  | error f => exact .exception f
  | ok outgoing =>
    cases outgoing with
    | envelope e => exact .reply event e
    | binary b => exact .binary b.bytes

/-- a text is answered under the id of the session -/
theorem sends_handleText (text : String) : session.Sends (g.handleText session text).value := by
  cases h : EventFrame.parse text with
  | error f =>
    rw [handleText_of_malformed g session h]
    exact .exception f
  | ok frame =>
    cases he : g.find? frame.event with
    | none =>
      rw [handleText_of_unknown g session h he]
      exact .exception _
    | some e =>
      rw [value_handleText g session h he]
      exact sends_render session frame.event _

variable {g} (operations : g.RunsOperations)
include operations

/-- and in its context -/
theorem callsIn_handleText (text : String) :
    (g.handleText session text).CallsIn (session.context g.factory) := by
  cases h : EventFrame.parse text with
  | error f =>
    rw [handleText_of_malformed g session h]
    exact Run.callsIn_of_called_nil rfl
  | ok frame =>
    cases he : g.find? frame.event with
    | none =>
      rw [handleText_of_unknown g session h he]
      exact Run.callsIn_of_called_nil rfl
    | some e =>
      obtain ⟨op, rfl⟩ := operations frame.event e he
      unfold Run.CallsIn
      rw [called_handleText g session h he]
      exact callsIn_dispatch op .webSocket _ _

end

/-! ## texts one after the other -/

/-- answers text messages, one after the other -/
def handleTexts (g : Gateway) (session : Session) : List String → Run (List Message)
  | [] => pure []
  | text :: texts => do
    let m ← g.handleText session text
    let ms ← g.handleTexts session texts
    pure (m :: ms)

section
variable (g : Gateway) (session : Session)

theorem value_handleTexts (texts : List String) : (g.handleTexts session texts).value
    = texts.map fun text => (g.handleText session text).value := by
  induction texts with
  | nil => rfl
  | cons text texts ih => exact congrArg (_ :: ·) ih

theorem sends_handleTexts (texts : List String) :
    ∀ m ∈ (g.handleTexts session texts).value, session.Sends m := by
  intro m hm
  rw [value_handleTexts] at hm
  obtain ⟨text, -, rfl⟩ := List.mem_map.mp hm
  exact sends_handleText g session text

theorem callsIn_handleTexts {g : Gateway} (operations : g.RunsOperations) (texts : List String) :
    (g.handleTexts session texts).CallsIn (session.context g.factory) := by
  induction texts with
  | nil => exact Run.callsIn_pure _
  | cons text texts ih =>
    exact (callsIn_handleText session operations text).bind (ih.bind (Run.callsIn_pure _))

end

/-! ## a connection -/

section
variable (g : Gateway) (session : Session)

theorem sends_turn {received : Received} {m : Message} (h : (g.turn session received).value = .answer m) :
    session.Sends m := by
  cases received with
  | message m' =>
    cases m' with
    | text text =>
      obtain rfl : (g.handleText session text).value = m := Turn.answer.inj h
      exact sends_handleText g session text
    | binary bs =>
      obtain rfl : exception noBinary session.requestId = m := Turn.answer.inj h
      exact .exception noBinary
    | ping bs => cases h
    | pong bs => cases h
    | close c => cases h
  | failed f => cases f <;> cases h
  | _ => cases h

theorem callsIn_turn {g : Gateway} (operations : g.RunsOperations) (received : Received) :
    (g.turn session received).CallsIn (session.context g.factory) := by
  cases received with
  | message m =>
    cases m with
    | text text => exact (callsIn_handleText session operations text).bind (Run.callsIn_pure _)
    | _ => exact Run.callsIn_pure _
  | failed f => cases f <;> exact Run.callsIn_pure _
  | _ => exact Run.callsIn_pure _

end

end Gateway

/-! ## serving -/

/-- what holds of a connection while it is used, if only what a session sends is sent -/
structure Session.Invariant (session : Session) {σ : Type} (S : Stream σ) (I : Connection σ → Prop) : Prop where
  same : ∀ c, I c → c.session = session
  recv : ∀ c, I c → I (c.recv S).2
  pass : ∀ c n, I c → I { c with stream := S.pass n c.stream }
  send : ∀ c m, session.Sends m → I c → I (c.send S m).2
  flush : ∀ c, I c → I (c.flush S).2
  close : ∀ c closing, I c → I (c.close S closing).2

namespace Gateway

/-- what a gateway does with a connection after it decided about a message -/
def proceed (g : Gateway) {σ : Type} (S : Stream σ) (fuel : Nat) (c : Connection σ) :
    Turn → Run (Option (Except SocketFault Unit) × Connection σ)
  | .ignore => g.serve S fuel c
  | .answer m =>
    match c.send S m with
    | (.ok (), c) => g.serve S fuel c
    | (.error f, c) => pure (some (settle (.error f)), c)
  | .finish => pure (some (c.flush S).1, (c.flush S).2)
  | .close closing => pure (some (c.close S closing).1, (c.close S closing).2)
  | .stop result => pure (some result, c)

section
variable {g : Gateway} {session : Session} {σ : Type} {S : Stream σ} {I : Connection σ → Prop}

theorem serve_succ (fuel : Nat) (c : Connection σ) : g.serve S (fuel + 1) c = (do
    let (turn, elapsed) ← (g.turn (c.recv S).2.session (c.recv S).1).timed
    g.proceed S fuel { (c.recv S).2 with stream := S.pass elapsed (c.recv S).2.stream } turn) := by
  rw [serve]
  refine congrArg (Bind.bind _) (funext fun x => ?_)
  cases x.1 <;> rfl

variable (invariant : session.Invariant S I)
include invariant

/-- what is done after a turn keeps an invariant, if the rest of the connection does -/
theorem proceed_invariant {fuel : Nat} {context : Option RequestContext}
    (served : ∀ c, I c → (g.serve S fuel c).CallsIn context ∧ I (g.serve S fuel c).value.2)
    (c : Connection σ) (turn : Turn) (h : I c) (sends : ∀ m, turn = .answer m → session.Sends m) :
    (g.proceed S fuel c turn).CallsIn context ∧ I (g.proceed S fuel c turn).value.2 := by
  cases turn with
  | ignore => exact served c h
  | answer m =>
    have hc : I (c.send S m).2 := invariant.send c m (sends m rfl) h
    unfold proceed
    dsimp only
    cases he : c.send S m with
    | mk result c' =>
      rw [he] at hc
      cases result with
      | ok _ => exact served c' hc
      | error f => exact ⟨Run.callsIn_pure _, hc⟩
  | finish => exact ⟨Run.callsIn_pure _, invariant.flush c h⟩
  | close closing => exact ⟨Run.callsIn_pure _, invariant.close c closing h⟩
  | stop result => exact ⟨Run.callsIn_pure _, h⟩

/-- an invariant holds to the end, and all calls are made in the context of the session -/
theorem serve_invariant (operations : g.RunsOperations) (fuel : Nat) (c : Connection σ) (h : I c) :
    (g.serve S fuel c).CallsIn (session.context g.factory) ∧ I (g.serve S fuel c).value.2 := by
  induction fuel generalizing c with
  | zero => exact ⟨Run.callsIn_pure _, h⟩
  | succ fuel ih =>
    have hr : I (c.recv S).2 := invariant.recv c h
    have ht : ((g.turn session (c.recv S).1).timed).CallsIn (session.context g.factory) :=
      callsIn_turn session operations (c.recv S).1
    rw [serve_succ, invariant.same _ hr]
    obtain ⟨hc, hi⟩ := proceed_invariant invariant ih _ (g.turn session (c.recv S).1).value
      (invariant.pass _ (g.turn session (c.recv S).1).elapsed hr) fun m hm => sends_turn g session hm
    exact ⟨ht.bind hc, hi⟩

end

end Gateway

/-! ## what is sent -/

/-- a stream that records what is sent -/
def Stream.recorded {σ : Type} (S : Stream σ) : Stream (σ × List Message) where
  next limit s := ((S.next limit s.1).1, (S.next limit s.1).2, s.2)
  send m s := ((S.send m s.1).1, (S.send m s.1).2, s.2 ++ [m])
  flush s := ((S.flush s.1).1, (S.flush s.1).2, s.2)
  pass n s := (S.pass n s.1, s.2)

namespace Connection
variable {σ : Type}

section
variable (S : Stream σ) (c : Connection σ)

theorem session_recv : (c.recv S).2.session = c.session := by
  obtain ⟨s, session, limits, closed⟩ := c
  cases closed with
  | true => rfl
  | false => rw [recv_open]

theorem session_send (m : Message) : (c.send S m).2.session = c.session := by
  unfold send
  split <;> rfl

theorem session_flush : (c.flush S).2.session = c.session := by
  rw [flush_eq]

/-- closing a connection sends that it is closed, or does nothing -/
theorem close_cases (closing : Closing) : (c.close S closing).2 = c ∨
    ∃ closed, (c.close S closing).2 = { (c.send S (.close (some closing))).2 with closed := closed } := by
  unfold close
  split
  · exact .inl rfl
  · split
    · rename_i c' he
      exact .inr ⟨true, by rw [he]⟩
    · rename_i f c' he
      exact .inr ⟨c'.closed, by rw [he]⟩

/-- a connection keeps its session -/
theorem invariant_session (session : Session) : session.Invariant S fun c => c.session = session where
  same c h := h
  recv c h := (c.session_recv S).trans h
  pass c n h := h
  send c m _ h := (c.session_send S m).trans h
  flush c h := (c.session_flush S).trans h
  close c closing h := by
    rcases c.close_cases S closing with he | ⟨closed, he⟩
    · rw [he]
      exact h
    · rw [he]
      exact (c.session_send S _).trans h

end

section
variable (S : Stream σ) (c : Connection (σ × List Message))

theorem sent_recv : (c.recv S.recorded).2.stream.2 = c.stream.2 := by
  obtain ⟨s, session, limits, closed⟩ := c
  cases closed with
  | true => rfl
  | false =>
    rw [recv_open]
    rfl

theorem sent_send (m : Message) :
    (c.send S.recorded m).2.stream.2 = c.stream.2 ∨ (c.send S.recorded m).2.stream.2 = c.stream.2 ++ [m] := by
  unfold send
  split
  · exact .inl rfl
  · exact .inr rfl

theorem sent_flush : (c.flush S.recorded).2.stream.2 = c.stream.2 := by
  rw [flush_eq]
  rfl

end

/-- a connection of a session, on which only what may be sent was sent -/
structure Recorded (session : Session) (c : Connection (σ × List Message)) : Prop where
  same : c.session = session
  sent : ∀ m ∈ c.stream.2, session.Sends m

theorem Recorded.send {session : Session} {c : Connection (σ × List Message)} (h : Recorded session c)
    (S : Stream σ) {m : Message} (hm : session.Sends m) : Recorded session (c.send S.recorded m).2 where
  same := (c.session_send _ m).trans h.same
  sent := by
    intro m' hm'
    rcases sent_send S c m with he | he
    · exact h.sent m' (he ▸ hm')
    · rw [he, List.mem_append, List.mem_singleton] at hm'
      rcases hm' with hm' | rfl
      · exact h.sent m' hm'
      · exact hm

theorem invariant_recorded (S : Stream σ) (session : Session) :
    session.Invariant S.recorded (Recorded session) where
  same c h := h.same
  recv c h := ⟨(c.session_recv _).trans h.same, (sent_recv S c).symm ▸ h.sent⟩
  pass c n h := ⟨h.same, h.sent⟩
  send c m hm h := h.send S hm
  flush c h := ⟨(c.session_flush _).trans h.same, (sent_flush S c).symm ▸ h.sent⟩
  close c closing h := by
    rcases c.close_cases S.recorded closing with he | ⟨closed, he⟩
    · rw [he]
      exact h
    · have hs : Recorded session (c.send S.recorded (.close (some closing))).2 := h.send S (.close _)
      rw [he]
      exact ⟨hs.same, hs.sent⟩

end Connection

end Socket

end RequestPipeline
