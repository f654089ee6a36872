import RequestPipeline.Proofs.Socket.Serving
import RequestPipeline.Samples.Rooms

/-!
# Each frame is answered once

`Incoming` is what may come over a connection, and `Stream.Brings` says of any stream that certain things come
over it, one after the other, whatever is sent meanwhile, and that it takes what is sent about each.  A stream that
a peer has closed need not take anything more: all that is asked of it then is a flush, which may well report the
end.  `Gateway.Served` is what a gateway then has done: each text and each binary frame before the first thing that
ends the connection was answered once, in order, and only a silence has the gateway close the connection.

* `served_of_brings`      a gateway does this, by induction on what comes;
* `serve_of_finished`     and nothing more once it has finished.

`serve_answers_in_order`: **a connection is served frame by frame, and nothing is sent or called after its end.**
-/

namespace RequestPipeline

open Json (Value)

/-- a run goes on with the result of the one before it, and with nothing else of it -/
theorem Run.bind_congr_value {α β : Type} {r : Run α} {f f' : α → Run β} (h : f r.value = f' r.value) :
    r >>= f = r >>= f' := by
  show Run.bind r f = Run.bind r f'
  unfold Run.bind
  rw [h]

namespace Socket

/-! ## what comes -/

/-- what may come over a connection -/
inductive Incoming where
  | text (t : String)
  | binary (bs : Bytes)
  | ping (bs : Bytes)
  | pong (bs : Bytes)
  | close (c : Option Closing)
  | ended
  | failed (f : WireFault)
  /-- nothing comes for as long as a peer may be silent -/
  | silence

namespace Incoming

/-- what a stream gives when it comes -/
def arrival : Incoming → Arrival
  | .text t => .message (.text t)
  | .binary bs => .message (.binary bs)
  | .ping bs => .message (.ping bs)
  | .pong bs => .message (.pong bs)
  | .close c => .message (.close c)
  | .ended => .ended
  | .failed f => .failed f
  | .silence => .nothing

def ends : Incoming → Bool
  | .text _ | .binary _ | .ping _ | .pong _ => false
  | .close _ | .ended | .failed _ | .silence => true

/-- the frame that answers it in a session -/
def answer? (g : Gateway) (session : Session) : Incoming → Option Message
  | .text t => some (g.handleText session t).value
  | .binary _ => some (exception (.invalidInput "message" (some "binary frames are not supported"))
      session.requestId)
  | _ => none

/-- the calls that are made to answer it -/
def calls (g : Gateway) (session : Session) : Incoming → List Call
  | .text t => (g.handleText session t).called
  | _ => []

/-- what is sent when it ends a connection -/
def farewell : Incoming → List Message
  | .silence => [.close (some ⟨1001, "idle timeout"⟩)]
  | _ => []

/-- how a connection has ended with it -/
def result : Incoming → Except SocketFault Unit
  | .failed .finished => .ok ()
  | .failed .alreadyFinished => .ok ()
  | .failed f => .error (.wire f)
  | _ => .ok ()

end Incoming

/-! ## streams -/

section
variable {σ : Type}

/-- what a stream may be after messages were sent over it and time passed -/
inductive Stream.Later (S : Stream σ) (s : σ) : σ → Prop where
  | now : S.Later s s
  | pass {t : σ} (n : Nat) : S.Later s t → S.Later s (S.pass n t)
  | send {t : σ} (m : Message) : Connection.isClosing m = false → S.Later s t → S.Later s (S.send m t).2

/-- whether sending works when something has come: a frame can be answered, what is still to be sent goes out to a
peer that closes the connection, with which the stream may end, and a silent peer can be told -/
def Stream.Works (S : Stream σ) (s : σ) : Incoming → Prop
  | .text _ | .binary _ => ∀ m, Connection.isClosing m = false → (S.send m s).1 = .ok ()
  | .close _ => (S.flush s).1 = .ok () ∨ (S.flush s).1 = .error .finished
  | .silence => ∀ m ∈ Incoming.silence.farewell, (S.send m s).1 = .ok ()
  | .ping _ | .pong _ | .ended | .failed _ => True

/-- certain things come over a stream until one of them ends the connection, whatever is sent meanwhile, and
sending works -/
def Stream.Brings (S : Stream σ) (idle : Option Nat) : List Incoming → σ → Prop
  | [], _ => True
  | e :: es, s => (S.next idle s).1 = e.arrival ∧ (e = .silence → idle ≠ none) ∧
      ∀ t, S.Later (S.next idle s).2 t → S.Works t e ∧ (e.ends = false → S.Brings idle es t)

end

/-! ## one step of the loop -/

namespace Connection

section
variable {σ : Type} (S : Stream σ) {s : σ} {limits : Limits} {session : Session}

/-- what a connection gives of a message that comes -/
theorem recv_of_message {m : Message} (h : (S.next limits.idle s).1 = .message m) :
    (start s limits session).recv S = (.message m,
      { start (S.next limits.idle s).2 limits session with closed := isClosing m }) := by
  refine (recv_open S s session limits).trans ?_
  rw [h]
  rfl

theorem recv_of_failed {f : WireFault} (h : (S.next limits.idle s).1 = .failed f) :
    (start s limits session).recv S = (.failed (.wire f),
      { start (S.next limits.idle s).2 limits session with closed := true }) := by
  refine (recv_open S s session limits).trans ?_
  rw [h]
  rfl

theorem recv_of_ended (h : (S.next limits.idle s).1 = .ended) : (start s limits session).recv S
    = (.over, { start (S.next limits.idle s).2 limits session with closed := true }) := by
  refine (recv_open S s session limits).trans ?_
  rw [h]
  rfl

theorem recv_of_nothing {d : Nat} (h : (S.next limits.idle s).1 = .nothing) (hd : limits.idle = some d) :
    (start s limits session).recv S
      = (.failed (.idle d), start (S.next limits.idle s).2 limits session) := by
  refine (recv_open S s session limits).trans ?_
  rw [h, hd]
  rfl

theorem send_start {m : Message} (h : (S.send m s).1 = .ok ()) :
    (start s limits session).send S m = (.ok (), start (S.send m s).2 limits session) := by
  unfold send start
  dsimp only
  rw [h]
  rfl

theorem flush_of_works {c : Connection σ} {closing : Option Closing} (h : S.Works c.stream (.close closing)) :
    c.flush S = (.ok (), { c with stream := (S.flush c.stream).2 }) := by
  refine (flush_eq S c.stream c.session c.limits c.closed).trans ?_
  rcases h with hf | hf <;> rw [hf] <;> rfl

theorem close_of_sent {c : Connection σ} {closing : Closing}
    (h : (S.send (.close (some closing)) c.stream).1 = .ok ()) (ho : c.closed = false) :
    c.close S closing = (.ok (), { c with
      stream := (S.send (.close (some closing)) c.stream).2
      closed := true }) := by
  obtain ⟨s, session, limits, closed⟩ := c
  cases ho
  rw [close_open, h]
  rfl

end

end Connection

namespace Gateway

section
variable (g : Gateway) (session : Session) {σ : Type} (S : Stream σ)

/-- the connection after its next message, or what came instead, was decided about -/
def decided (c : Connection σ) : Connection σ :=
  { (c.recv S).2 with stream := S.pass (g.turn (c.recv S).2.session (c.recv S).1).elapsed (c.recv S).2.stream }

theorem value_serve_succ (fuel : Nat) (c : Connection σ) : (g.serve S (fuel + 1) c).value =
    (g.proceed S fuel (g.decided S c) (g.turn (c.recv S).2.session (c.recv S).1).value).value := by
  rw [serve_succ]
  rfl

theorem called_serve_succ (fuel : Nat) (c : Connection σ) : (g.serve S (fuel + 1) c).called =
    (g.turn (c.recv S).2.session (c.recv S).1).called ++
      (g.proceed S fuel (g.decided S c) (g.turn (c.recv S).2.session (c.recv S).1).value).called := by
  rw [serve_succ, Run.called_bind, Run.called_timed]
  rfl

theorem isClosing_handleText (text : String) :
    Connection.isClosing (g.handleText session text).value = false := by
  cases h : EventFrame.parse text with
  | error f =>
    rw [handleText_of_malformed g session h]
    rfl
  | ok frame =>
    cases he : g.find? frame.event with
    | none =>
      rw [handleText_of_unknown g session h he]
      rfl
    | some e =>
      rw [value_handleText g session h he]
      unfold render
      split <;> rfl

theorem called_turn_text (text : String) :
    (g.turn session (.message (.text text))).called = (g.handleText session text).called := by
  show (g.handleText session text >>= fun m => pure (Turn.answer m)).called = _
  rw [Run.called_bind]
  exact List.append_nil _

end

section
variable (g : Gateway) (session : Session) {limits : Limits} {σ : Type} {S : Stream σ} {s : σ} {m : Message}

/-- a frame that is answered -/
theorem serve_of_answer (arrives : (S.next limits.idle s).1 = .message m) (hm : Connection.isClosing m = false)
    {a : Message} (ha : (g.turn session (.message m)).value = .answer a)
    (sends : ∀ n, (S.send a (S.pass n (S.next limits.idle s).2)).1 = .ok ()) (fuel : Nat) :
    ∃ n, let c := Connection.start (S.send a (S.pass n (S.next limits.idle s).2)).2 limits session
      (g.serve S (fuel + 1) (.start s limits session)).value = (g.serve S fuel c).value ∧
      (g.serve S (fuel + 1) (.start s limits session)).called
        = (g.turn session (.message m)).called ++ (g.serve S fuel c).called := by
  have hr : (Connection.start s limits session).recv S = _ := Connection.recv_of_message S arrives
  rw [hm] at hr
  refine ⟨(g.turn session (.message m)).elapsed, ?_⟩
  have hd : g.decided S (.start s limits session)
      = .start (S.pass (g.turn session (.message m)).elapsed (S.next limits.idle s).2) limits session := by
    unfold decided
    rw [hr]
    rfl
  rw [value_serve_succ, called_serve_succ, hd, hr]
  show (g.proceed S fuel _ (g.turn session (.message m)).value).value = _ ∧ _ ++
    (g.proceed S fuel _ (g.turn session (.message m)).value).called = _
  rw [ha]
  unfold proceed
  dsimp only
  rw [Connection.send_start S (sends _)]
  exact ⟨rfl, rfl⟩

/-- what is decided about at once -/
theorem serve_of_turn {received : Received} {c : Connection σ}
    (hr : (Connection.start s limits session).recv S = (received, c)) (hs : c.session = session) {t : Turn}
    (ht : g.turn session received = pure t) (fuel : Nat) :
    (g.serve S (fuel + 1) (.start s limits session)).value
        = (g.proceed S fuel { c with stream := S.pass 0 c.stream } t).value ∧
      (g.serve S (fuel + 1) (.start s limits session)).called
        = (g.proceed S fuel { c with stream := S.pass 0 c.stream } t).called := by
  have ht' : g.turn ((Connection.start s limits session).recv S).2.session
      ((Connection.start s limits session).recv S).1 = pure t := by
    rw [hr]
    show g.turn c.session received = pure t
    rw [hs, ht]
  have hd : g.decided S (.start s limits session) = { c with stream := S.pass 0 c.stream } := by
    unfold decided
    rw [ht', hr]
    rfl
  rw [value_serve_succ, called_serve_succ, hd, ht']
  exact ⟨rfl, rfl⟩

/-- a message that is passed over -/
theorem serve_of_ignore (arrives : (S.next limits.idle s).1 = .message m) (hm : Connection.isClosing m = false)
    (ht : g.turn session (.message m) = pure .ignore) (fuel : Nat) :
    let c := Connection.start (S.pass 0 (S.next limits.idle s).2) limits session
    (g.serve S (fuel + 1) (.start s limits session)).value = (g.serve S fuel c).value ∧
      (g.serve S (fuel + 1) (.start s limits session)).called = (g.serve S fuel c).called := by
  have hr : (Connection.start s limits session).recv S = _ := Connection.recv_of_message S arrives
  rw [hm] at hr
  exact serve_of_turn g session hr rfl ht fuel

variable {e : Incoming} (sent : List Message) (arrives : (S.next limits.idle s).1 = e.arrival)
  (works : ∀ t, S.Later (S.next limits.idle s).2 t → S.Works t e)
include arrives works

/-- **A frame is answered once, or passed over, and then the next thing is waited for.** -/
theorem serve_of_frame (goes : e.ends = false) (fuel : Nat) : ∃ t, S.Later (S.next limits.idle s).2 t ∧
    let c := Connection.start (t, sent ++ (e.answer? g session).toList) limits session
    (g.serve S.recorded (fuel + 1) (.start (s, sent) limits session)).value
        = (g.serve S.recorded fuel c).value ∧
      (g.serve S.recorded (fuel + 1) (.start (s, sent) limits session)).called
        = e.calls g session ++ (g.serve S.recorded fuel c).called := by
  have arrives' : (S.recorded.next limits.idle (s, sent)).1 = e.arrival := arrives
  have later : ∀ n, S.Later (S.next limits.idle s).2 (S.pass n (S.next limits.idle s).2) := fun n => .pass n .now
  have silent : sent = sent ++ (none : Option Message).toList := (List.append_nil sent).symm
  cases e with
  | text text =>
    have stays := g.isClosing_handleText session text
    obtain ⟨n, hv, hc⟩ := serve_of_answer g session (m := .text text) arrives' rfl rfl
      (fun n => works _ (later n) _ stays) fuel
    rw [called_turn_text] at hc
    exact ⟨_, .send _ stays (later n), hv, hc⟩
  | binary bs =>
    obtain ⟨n, hv, hc⟩ := serve_of_answer g session (m := .binary bs) arrives' rfl rfl
      (fun n => works _ (later n) _ rfl) fuel
    exact ⟨_, .send _ rfl (later n), hv, hc⟩
  | ping bs => exact ⟨_, later 0, silent ▸ g.serve_of_ignore session (m := .ping bs) arrives' rfl rfl fuel⟩
  | pong bs => exact ⟨_, later 0, silent ▸ g.serve_of_ignore session (m := .pong bs) arrives' rfl rfl fuel⟩
  | _ => cases goes

/-- **What ends a connection calls nothing, and only a silence is told to the peer.** -/
theorem serve_of_end (timed : e = .silence → limits.idle ≠ none) (ends : e.ends = true) (fuel : Nat) :
    let r := g.serve S.recorded (fuel + 1) (.start (s, sent) limits session)
    r.value.1 = some e.result ∧ r.value.2.stream.2 = sent ++ e.farewell ∧ r.called = [] := by
  have arrives' : (S.recorded.next limits.idle (s, sent)).1 = e.arrival := arrives
  have hw : S.Works (S.pass 0 (S.next limits.idle s).2) e := works _ (.pass 0 .now)
  cases e with
  | close closing =>
    obtain ⟨hv, hc⟩ := serve_of_turn g session (Connection.recv_of_message (m := .close closing) S.recorded arrives')
      rfl rfl fuel
    unfold proceed at hv hc
    dsimp only at hv hc
    have hw' : S.recorded.Works (S.pass 0 (S.next limits.idle s).2, sent) (.close closing) := hw
    rw [Connection.flush_of_works S.recorded hw'] at hv hc
    exact ⟨congrArg Prod.fst hv, (congrArg (·.2.stream.2) hv).trans (List.append_nil _).symm, hc⟩
  | ended =>
    obtain ⟨hv, hc⟩ := serve_of_turn g session (Connection.recv_of_ended S.recorded arrives') rfl rfl fuel
    exact ⟨congrArg Prod.fst hv, (congrArg (·.2.stream.2) hv).trans (List.append_nil _).symm, hc⟩
  | failed f =>
    obtain ⟨hv, hc⟩ := serve_of_turn g session (Connection.recv_of_failed S.recorded arrives') rfl rfl fuel
    have he : some (if (SocketFault.wire f).isNormal then .ok () else .error (.wire f))
        = some (Incoming.failed f).result := by cases f <;> rfl
    exact ⟨(congrArg Prod.fst hv).trans he, (congrArg (·.2.stream.2) hv).trans (List.append_nil _).symm, hc⟩
  | silence =>
    obtain ⟨d, hd⟩ := Option.ne_none_iff_exists'.mp (timed rfl)
    obtain ⟨hv, hc⟩ := serve_of_turn g session (Connection.recv_of_nothing S.recorded arrives' hd) rfl rfl fuel
    unfold proceed at hv hc
    dsimp only at hv hc
    have told : (S.recorded.send (.close (some ⟨1001, "idle timeout"⟩))
        (S.pass 0 (S.next limits.idle s).2, sent)).1 = .ok () := hw _ (List.mem_singleton_self _)
    rw [Connection.close_of_sent S.recorded told rfl] at hv hc
    exact ⟨congrArg Prod.fst hv, congrArg (·.2.stream.2) hv, hc⟩
  | _ => cases ends

end

/-! ## a whole connection -/

/-- what a gateway has done about what came: of all that came, only what is before the first thing that ends the
connection is answered, and that thing decides about the farewell and the result -/
structure Served (g : Gateway) (session : Session) (events : List Incoming) {σ : Type} (sent : List Message)
    (r : Run (Option (Except SocketFault Unit) × Connection (σ × List Message))) : Prop where
  /-- it has finished if something ended the connection -/
  result : r.value.1 = (events.find? Incoming.ends).map Incoming.result
  sent : r.value.2.stream.2 = sent ++ (events.takeWhile fun e => !e.ends).filterMap (·.answer? g session)
    ++ ((events.find? Incoming.ends).map Incoming.farewell).getD []
  called : r.called = (events.takeWhile fun e => !e.ends).flatMap (·.calls g session)

section
variable (g : Gateway) (session : Session) (limits : Limits) {σ : Type} {S : Stream σ}

theorem served_of_brings (events : List Incoming) {s : σ} (brings : S.Brings limits.idle events s)
    (sent : List Message) :
    g.Served session events sent (g.serve S.recorded events.length (.start (s, sent) limits session)) := by
  induction events generalizing s sent with
  | nil => exact ⟨rfl, (List.append_nil _).symm.trans (List.append_nil _).symm, rfl⟩
  | cons e events ih =>
    obtain ⟨arrives, timed, rest⟩ := brings
    have works : ∀ t, S.Later (S.next limits.idle s).2 t → S.Works t e := fun t ht => (rest t ht).1
    cases he : e.ends with
    | true =>
      obtain ⟨hr, hs, hc⟩ := g.serve_of_end session sent arrives works timed he events.length
      have hf : (e :: events).find? Incoming.ends = some e := List.find?_cons_of_pos he
      have ht : ((e :: events).takeWhile fun e => !e.ends) = [] :=
        List.takeWhile_cons_of_neg (by rw [he]; exact Bool.false_ne_true)
      refine ⟨?_, ?_, ?_⟩
      · rw [hf]
        exact hr
      · rw [hf, ht]
        exact hs.trans (congrArg (· ++ e.farewell) (List.append_nil sent).symm)
      · rw [ht]
        exact hc
    | false =>
      obtain ⟨t, later, hv, hc⟩ := g.serve_of_frame session sent arrives works he events.length
      -- the stream may have changed with what was sent; what comes over it is the same
      have h := ih ((rest t later).2 he) (sent ++ (e.answer? g session).toList)
      have hf : (e :: events).find? Incoming.ends = events.find? Incoming.ends :=
        List.find?_cons_of_neg (by rw [he]; exact Bool.false_ne_true)
      have ht : ((e :: events).takeWhile fun e => !e.ends) = e :: events.takeWhile fun e => !e.ends :=
        List.takeWhile_cons_of_pos (by rw [he]; rfl)
      have ha : (e :: events.takeWhile fun e => !e.ends).filterMap (·.answer? g session)
          = (e.answer? g session).toList
            ++ (events.takeWhile fun e => !e.ends).filterMap (·.answer? g session) := by
        cases hx : e.answer? g session with
        | none => exact List.filterMap_cons_none hx
        | some m => exact List.filterMap_cons_some hx
      refine ⟨?_, ?_, ?_⟩
      · rw [hf, ← h.result]
        exact congrArg Prod.fst hv
      · rw [hf, ht, ha, ← List.append_assoc, ← h.sent]
        exact congrArg (·.2.stream.2) hv
      · rw [ht, List.flatMap_cons, ← h.called]
        exact hc

end

section
variable (g : Gateway) {σ : Type} (S : Stream σ) {fuel fuel' : Nat} {r : Except SocketFault Unit}

theorem proceed_of_finished {c : Connection σ} {t : Turn} (h : (g.proceed S fuel c t).value.1 = some r)
    (served : ∀ c, (g.serve S fuel c).value.1 = some r → g.serve S fuel' c = g.serve S fuel c) :
    g.proceed S fuel' c t = g.proceed S fuel c t := by
  cases t with
  | ignore => exact served c h
  | answer m =>
    unfold proceed at h ⊢
    dsimp only at h ⊢
    split at h
    · exact served _ h
    · rfl
  | _ => rfl

/-- nothing is done after the end -/
theorem serve_of_finished {c : Connection σ} (h : (g.serve S fuel c).value.1 = some r) (more : fuel ≤ fuel') :
    g.serve S fuel' c = g.serve S fuel c := by
  induction fuel generalizing fuel' c with
  | zero => cases h
  | succ fuel ih =>
    obtain ⟨fuel', rfl⟩ := Nat.exists_eq_add_of_le' (Nat.zero_lt_of_lt more)
    rw [value_serve_succ] at h
    rw [serve_succ, serve_succ]
    refine Run.bind_congr_value ?_
    exact g.proceed_of_finished S h fun c hc => ih hc (Nat.le_of_succ_le_succ more)

end

/-- **A connection is served frame by frame.**  Of all that comes, each text and each binary frame before the first
thing that ends the connection is answered once, in order, and only a silence has the gateway close the connection;
nothing is sent or called after the end, however long the gateway might go on. -/
theorem serve_answers_in_order (g : Gateway) (session : Session) (limits : Limits) {σ : Type} (S : Stream σ) (s : σ)
    (events : List Incoming) (brings : S.Brings limits.idle events s) :
    g.Served session events [] (g.serve S.recorded events.length (.start (s, []) limits session)) ∧
      ((∃ e ∈ events, e.ends = true) → ∀ fuel, events.length ≤ fuel →
        g.serve S.recorded fuel (.start (s, []) limits session)
          = g.serve S.recorded events.length (.start (s, []) limits session)) := by
  have h := g.served_of_brings session limits events brings []
  refine ⟨h, fun ends fuel more => ?_⟩
  obtain ⟨e, he⟩ := Option.isSome_iff_exists.mp (List.find?_isSome.mpr ends)
  have hr := h.result
  rw [he] at hr
  exact g.serve_of_finished S.recorded hr more

end Gateway

/-! ## scripts -/

/-- a stream that gives what it is made of, and takes whatever is sent -/
def Stream.script : Stream (List Incoming) where
  next _ events := ((events.head?.map Incoming.arrival).getD .ended, events.tail)
  send _ events := (.ok (), events)
  flush events := (.ok (), events)
  pass _ events := events

theorem Stream.Later.eq_of_script {events later : List Incoming} (h : script.Later events later) : later = events := by
  induction h with
  | now => rfl
  | pass n _ ih => exact ih
  | send m _ _ ih => exact ih

theorem Stream.works_script (events : List Incoming) (e : Incoming) : script.Works events e := by
  cases e with
  | text t => exact fun m _ => rfl
  | binary bs => exact fun m _ => rfl
  | close c => exact .inl rfl
  | silence => exact fun m _ => rfl
  | _ => trivial

theorem Stream.brings_script (idle : Option Nat) (events : List Incoming)
    (timed : Incoming.silence ∈ events → idle ≠ none) : script.Brings idle events events := by
  induction events with
  | nil => trivial
  | cons e events ih =>
    refine ⟨rfl, fun he => timed (he ▸ List.mem_cons_self), fun t ht => ?_⟩
    obtain rfl : t = events := ht.eq_of_script
    exact ⟨works_script _ e, fun _ => ih fun h => timed (List.mem_cons_of_mem e h)⟩

/-- a text that is no event, a ping, a ticket, a binary frame and a silence, after which something still comes -/
def visit : List Incoming :=
  [.text "hello", .ping [], .text r#"{"event":"create","data":{"title":"a","owner_id":1}}"#,
    .binary [0], .silence, .text "hello"]

/-- it is answered by two exceptions and the ticket between them, and by nothing after the farewell -/
theorem serve_answers_in_order_visit :
    Stream.script.Brings Limits.default.idle visit visit ∧
      let g := Gateway.empty.on "create" Samples.create.endpoint
      let session : Session := ⟨⟨7⟩, some ⟨3, []⟩, []⟩
      let r := g.serve Stream.script.recorded 9 (.start (visit, []) .default session)
      r.value.1 = some (.ok ()) ∧ r.value.2.stream.2 = [
        exception (.invalidInput "message" (some "malformed event frame: expected value at line 1 column 1")) ⟨7⟩,
        reply "create" ⟨Json.object [("id", .ofNat 0), ("owner_id", .ofNat 3)], none⟩,
        exception (.invalidInput "message" (some "binary frames are not supported")) ⟨7⟩,
        .close (some ⟨1001, "idle timeout"⟩)] ∧
      r.called.length = 1 := by
  have brings := Stream.brings_script Limits.default.idle visit fun _ => Option.some_ne_none _
  obtain ⟨served, final⟩ := Gateway.serve_answers_in_order (Gateway.empty.on "create" Samples.create.endpoint)
    ⟨⟨7⟩, some ⟨3, []⟩, []⟩ .default Stream.script visit visit brings
  have ends : ∃ e ∈ visit, e.ends = true := ⟨.silence, by simp [visit], rfl⟩
  dsimp only
  rw [final ends 9 (by decide)]
  refine ⟨brings, served.result, served.sent.trans ?_, ?_⟩
  · decide +kernel
  · rw [served.called]
    decide +kernel

end Socket
end RequestPipeline
