import Mathlib.Algebra.GroupWithZero.Nat
import Mathlib.Data.List.Forall2
import RequestPipeline.Proofs.Server.Precedence
import RequestPipeline.Proofs.Socket.InOrder
import RequestPipeline.Proofs.Socket.Watched
import RequestPipeline.Proofs.Telemetry.Answered

/-!
# What the counter of requests counts

A server answers requests and serves connections, any number of them at once (`Server.Job`).  Its answers are the
responses to the requests that go through the pipeline, and the frames that are sent when a text or a binary message
came (`Crossing.answers`); each tells how its request or its message ended (`SentAnswer.Tells`).

* `Recorder.count_recordAll`, `Recorder.total_recordAll`   a counter grows by what is noted under its labels;
* `Gateway.serve_fits`     what is noted over a connection are the outcomes of the frames for the texts, in order;
* `Job.fits`               the same for everything that a server does;
* `Server.counts_answers`  **in whatever order the notes arrive, each response of an endpoint and each frame for a
                           text is counted once, under its transport and its outcome, and no other answer is.**
-/

namespace RequestPipeline

/-! ## counters -/

theorem Transport.label_injective {a b : Transport} (h : a.label = b.label) : a = b := by
  cases a <;> cases b <;> first | rfl | exact absurd h (by decide)

theorem Outcome.label_injective {a b : Outcome} (h : a.label = b.label) : a = b := by
  cases a <;> cases b <;> first | rfl | exact absurd h (by decide)

namespace Telemetry

namespace Tally
variable {κ : Type} [DecidableEq κ]

/-- how often anything was counted -/
def total (t : Tally κ) : Nat := (t.map Prod.snd).sum

theorem total_bump (key : κ) (t : Tally κ) : (t.bump key).total = t.total + 1 := by
  unfold total
  induction t with
  | nil => rfl
  | cons e t ih =>
    obtain ⟨k, n⟩ := e
    unfold bump
    by_cases h : k = key
    · rw [if_pos h, List.map_cons, List.map_cons, List.sum_cons, List.sum_cons]
      omega
    · rw [if_neg h, List.map_cons, List.map_cons, List.sum_cons, List.sum_cons, ih]
      omega

theorem mem_of_count_ne_zero {key : κ} {t : Tally κ} (h : t.count key ≠ 0) : (key, t.count key) ∈ t := by
  induction t with
  | nil => exact absurd rfl h
  | cons e t ih =>
    obtain ⟨k, n⟩ := e
    unfold count at h ⊢
    by_cases hk : k = key
    · rw [if_pos hk, hk]
      exact List.mem_cons_self
    · rw [if_neg hk] at h ⊢
      exact List.mem_cons_of_mem _ (ih h)

end Tally

namespace Recorder
variable (m : Recorder)

/-- the counter of the requests and messages over a transport that ended in one way -/
def answered (transport : Transport) (outcome : Outcome) : Nat :=
  m.requests.count (transport.label, outcome.label)

theorem answered_addRequest (t transport : Transport) (o outcome : Outcome) (milliseconds : Nat) :
    (m.addRequest t.label o.label milliseconds).answered transport outcome
      = m.answered transport outcome + [(t, o)].count (transport, outcome) := by
  show (m.requests.bump (t.label, o.label)).count (transport.label, outcome.label) = _
  by_cases h : (t, o) = (transport, outcome)
  · obtain ⟨rfl, rfl⟩ := Prod.mk.inj h
    rw [Tally.count_bump_self, List.count_singleton_self]
    rfl
  · have hl : (transport.label, outcome.label) ≠ (t.label, o.label) := by
      intro he
      obtain ⟨ht, ho⟩ := Prod.mk.inj he
      exact h (Prod.mk.injEq _ _ _ _ ▸ ⟨(Transport.label_injective ht).symm, (Outcome.label_injective ho).symm⟩)
    rw [Tally.count_bump_of_ne hl, List.count_singleton, if_neg (by simpa using h)]
    rfl

/-- a note counts if it says that something was answered -/
theorem answered_record (e : Event) (transport : Transport) (outcome : Outcome) :
    (m.record e).answered transport outcome
      = m.answered transport outcome + e.answered?.toList.count (transport, outcome) := by
  cases e with
  | answered t o milliseconds => exact m.answered_addRequest t transport o outcome milliseconds
  | _ => rfl

theorem total_record (e : Event) :
    (m.record e).requests.total = m.requests.total + e.answered?.toList.length := by
  cases e with
  | answered t o milliseconds => exact Tally.total_bump _ _
  | _ => rfl

theorem filterMap_cons_eq {α β : Type} (f : α → Option β) (a : α) (as : List α) :
    (a :: as).filterMap f = (f a).toList ++ as.filterMap f := by
  rw [List.filterMap_cons]
  cases f a <;> rfl

theorem count_recordAll (log : List Event) (transport : Transport) (outcome : Outcome) :
    (m.recordAll log).answered transport outcome
      = m.answered transport outcome + (log.filterMap Event.answered?).count (transport, outcome) := by
  unfold recordAll
  induction log generalizing m with
  | nil => rfl
  | cons e log ih =>
    rw [List.foldl_cons, ih, answered_record, filterMap_cons_eq, List.count_append, Nat.add_assoc]

theorem total_recordAll (log : List Event) :
    (m.recordAll log).requests.total = m.requests.total + (log.filterMap Event.answered?).length := by
  unfold recordAll
  induction log generalizing m with
  | nil => rfl
  | cons e log ih =>
    rw [List.foldl_cons, ih, total_record, filterMap_cons_eq, List.length_append, Nat.add_assoc]

/-- the line that shows a counter of requests and messages -/
def requestLine (transport : Transport) (outcome : Outcome) : String :=
  m.line "turnstile_requests_total" [("transport", transport.label), ("outcome", outcome.label)]
    (decimal (m.answered transport outcome))

theorem mem_heading {line : String} {lines : List String} (h : line ∈ lines) (name meaning kind : String) :
    line ∈ heading name meaning kind lines := by
  unfold heading
  rw [if_neg]
  · exact List.mem_append_right _ h
  · intro he
    rw [List.isEmpty_iff.mp he] at h
    cases h

/-- a counter that has counted is shown -/
theorem requestLine_mem {transport : Transport} {outcome : Outcome} (h : m.answered transport outcome ≠ 0) :
    m.requestLine transport outcome ∈ m.lines := by
  have counted := Tally.mem_of_count_ne_zero h
  unfold lines
  refine List.mem_mergeSort.mpr (List.mem_append_left _ (List.mem_append_left _ (List.mem_append_left _ ?_)))
  exact mem_heading (List.mem_map.mpr ⟨_, counted, rfl⟩) _ _ _

end Recorder

end Telemetry

open Telemetry (Recorder)
open Socket

/-! ## answers -/

/-- an answer of a server, by what it answers -/
inductive SentAnswer where
  /-- the response to a request that reached an endpoint -/
  | served (r : Response)
  /-- the response to a request that did not -/
  | unserved (r : Response)
  /-- the frame for a text -/
  | text (m : Message)
  /-- the frame for a binary message -/
  | binary (m : Message)

namespace SentAnswer

/-- how an answer says that a request or a message ended, and over which transport it goes -/
inductive Tells : SentAnswer → Transport × Outcome → Prop where
  | served (r : Response) : Tells (.served r) (.http, .ofStatus r.status)
  | unserved (r : Response) : Tells (.unserved r) (.http, .ofStatus r.status)
  | text {m : Message} {o : Outcome} : m.Tells o → Tells (.text m) (.webSocket, o)
  | binary {m : Message} {o : Outcome} : m.Tells o → Tells (.binary m) (.webSocket, o)

theorem Tells.unique : Relator.RightUnique Tells := by
  intro a x y hx hy
  cases hx with
  | served r =>
    cases hy
    rfl
  | unserved r =>
    cases hy
    rfl
  | text h =>
    cases hy with
    | text h' => rw [h.unique h']
  | binary h =>
    cases hy with
    | binary h' => rw [h.unique h']

def isCounted : SentAnswer → Bool
  | .served _ => true
  | .text _ => true
  | .unserved _ => false
  | .binary _ => false

/-- whether answers tell how their requests and messages ended, and the counted ones tell what is noted -/
structure Fit (answers : List SentAnswer) (noted : List (Transport × Outcome)) : Prop where
  told : ∀ a ∈ answers, ∃ ended, a.Tells ended
  counted : List.Forall₂ Tells (answers.filter isCounted) noted

namespace Fit
variable {answers answers' : List SentAnswer} {noted noted' : List (Transport × Outcome)}

theorem nil : Fit [] [] := ⟨fun _ h => (by cases h), .nil⟩

theorem append (h : Fit answers noted) (h' : Fit answers' noted') : Fit (answers ++ answers') (noted ++ noted') where
  told a ha := (List.mem_append.mp ha).elim (h.told a) (h'.told a)
  counted := by
    rw [List.filter_append]
    exact List.rel_append h.counted h'.counted

theorem of_counted {a : SentAnswer} {ended : Transport × Outcome} (h : a.Tells ended) (hc : a.isCounted = true) :
    Fit [a] [ended] where
  told := by
    intro b hb
    rw [List.mem_singleton.mp hb]
    exact ⟨ended, h⟩
  counted := by
    rw [List.filter_cons_of_pos hc]
    exact .cons h .nil

theorem of_uncounted {a : SentAnswer} {ended : Transport × Outcome} (h : a.Tells ended) (hc : a.isCounted = false) :
    Fit [a] [] where
  told := by
    intro b hb
    rw [List.mem_singleton.mp hb]
    exact ⟨ended, h⟩
  counted := by
    rw [List.filter_cons_of_neg (by rw [hc]; exact Bool.false_ne_true)]
    exact .nil

theorem flatMap {α : Type 1} {as : List α} {f : α → List SentAnswer} {n : α → List (Transport × Outcome)}
    (h : ∀ a ∈ as, Fit (f a) (n a)) : Fit (as.flatMap f) (as.flatMap n) := by
  induction as with
  | nil => exact nil
  | cons a as ih =>
    rw [List.flatMap_cons, List.flatMap_cons]
    exact (h a List.mem_cons_self).append (ih fun b hb => h b (List.mem_cons_of_mem a hb))

end Fit

end SentAnswer

/-! ## connections -/

namespace Socket

/-- what a frame answers that is sent after a message came; a closing frame answers nothing -/
def Message.answerTo? (m : Message) : Option Message → Option SentAnswer
  | some (.text _) => if Connection.isClosing m then none else some (.text m)
  | some (.binary _) => if Connection.isClosing m then none else some (.binary m)
  | _ => none

/-- the frames that answer a text or a binary message, if a message came before -/
def Crossing.answers : Option Message → List Crossing → List SentAnswer
  | _, [] => []
  | _, .came m :: rest => answers (some m) rest
  | last, .sent m :: rest => (m.answerTo? last).toList ++ answers last rest

theorem Message.answerTo?_close (c : Option Closing) (last : Option Message) :
    (Message.close c).answerTo? last = none := by
  unfold answerTo?
  split <;> rfl

namespace Gateway

/-- what crosses a stream when a gateway has decided -/
def Turn.crossings : Turn → List Crossing
  | .answer m => [.sent m]
  | _ => []

section
variable {g : Gateway} {σ : Type} {S : Stream σ}

/-- only a message that does not close a connection is answered -/
theorem message_of_answer {session : Session} {received : Received} {a : Message}
    (h : (g.turn session received).value = .answer a) :
    ∃ m, received = .message m ∧ Connection.isClosing m = false := by
  cases received with
  | message m =>
    cases m with
    | close c => cases h
    | _ => exact ⟨_, rfl, rfl⟩
  | failed f => cases f <;> cases h
  | _ => cases h

/-- what follows a turn, if the rest of the connection fits -/
theorem proceed_fits {fuel : Nat}
    (served : ∀ c, ∃ rest, (g.serve S.watched fuel c).value.2.crossed = c.crossed ++ rest ∧
      ∀ last, SentAnswer.Fit (Crossing.answers last rest) (g.serve S.watched fuel c).answered)
    (c : Connection (σ × List Crossing)) (turn : Turn) (opened : ∀ m, turn = .answer m → c.closed = false) :
    ∃ rest, (g.proceed S.watched fuel c turn).value.2.crossed = c.crossed ++ (turn.crossings ++ rest) ∧
      ∀ last, SentAnswer.Fit (Crossing.answers last rest) (g.proceed S.watched fuel c turn).answered := by
  cases turn with
  | ignore => exact served c
  | answer m =>
    have hs : (c.send S.watched m).2.crossed = c.crossed ++ [.sent m] := c.crossed_send S m (opened m rfl)
    unfold proceed
    dsimp only
    cases he : c.send S.watched m with
    | mk result c' =>
      rw [he] at hs
      cases result with
      | ok _ =>
        obtain ⟨rest, hr, hf⟩ := served c'
        have ha : c'.crossed ++ rest = c.crossed ++ ([.sent m] ++ rest) := by
          rw [← List.append_assoc]
          exact congrArg (· ++ rest) hs
        exact ⟨rest, hr.trans ha, hf⟩
      | error f => exact ⟨[], hs, fun _ => .nil⟩
  | finish => exact ⟨[], (c.crossed_flush S).trans (List.append_nil _).symm, fun _ => .nil⟩
  | close closing =>
    rcases c.crossed_close S closing with hc | hc
    · exact ⟨[], hc.trans (List.append_nil _).symm, fun _ => .nil⟩
    · refine ⟨[.sent (.close (some closing))], hc, fun last => ?_⟩
      unfold Crossing.answers
      rw [Message.answerTo?_close]
      exact .nil
  | stop result => exact ⟨[], (List.append_nil _).symm, fun _ => .nil⟩

variable (quiet : g.Quiet)
include quiet

/-- one turn, and what follows it -/
theorem turn_fits (session : Session) (received : Received) {rest : List Crossing}
    {noted : List (Transport × Outcome)} (h : ∀ last, SentAnswer.Fit (Crossing.answers last rest) noted)
    (last : Option Message) :
    SentAnswer.Fit
      (Crossing.answers last (received.crossings ++ (g.turn session received).value.crossings ++ rest))
      ((g.turn session received).answered ++ noted) := by
  cases received with
  | message m =>
    cases m with
    | text text =>
      obtain ⟨outcome, tells, ha⟩ := answered_handleText session quiet text
      have hn : (g.turn session (.message (.text text))).answered = [(.webSocket, outcome)] := by
        rw [← ha]
        exact (Run.answered_bind _ _).trans (List.append_nil _)
      have hm : (g.handleText session text).value.answerTo? (some (.text text))
          = some (.text (g.handleText session text).value) := by
        unfold Message.answerTo?
        rw [isClosing_handleText]
        rfl
      rw [hn]
      show SentAnswer.Fit (((g.handleText session text).value.answerTo? (some (.text text))).toList ++ _) _
      rw [hm]
      exact (SentAnswer.Fit.of_counted (.text tells) rfl).append (h _)
    | binary bs =>
      exact (SentAnswer.Fit.of_uncounted (.binary (.exception noBinary session.requestId)) rfl).append (h _)
    | ping bs => exact h _
    | pong bs => exact h _
    | close c => exact h _
  | failed f => cases f <;> exact h _
  | _ => exact h _

theorem serve_fits (fuel : Nat) (c : Connection (σ × List Crossing)) :
    ∃ rest, (g.serve S.watched fuel c).value.2.crossed = c.crossed ++ rest ∧
      ∀ last, SentAnswer.Fit (Crossing.answers last rest) (g.serve S.watched fuel c).answered := by
  induction fuel generalizing c with
  | zero => exact ⟨[], (List.append_nil _).symm, fun _ => .nil⟩
  | succ fuel ih =>
    have opened : ∀ a, (g.turn (c.recv S.watched).2.session (c.recv S.watched).1).value = .answer a →
        (g.decided S.watched c).closed = false := by
      intro a ha
      obtain ⟨m, hr, hm⟩ := message_of_answer ha
      exact (c.closed_recv S hr).trans hm
    obtain ⟨rest, hs, hf⟩ := proceed_fits ih (g.decided S.watched c) _ opened
    have hd : (g.decided S.watched c).crossed = c.crossed ++ (c.recv S.watched).1.crossings := c.crossed_recv S
    refine ⟨(c.recv S.watched).1.crossings ++
      (g.turn (c.recv S.watched).2.session (c.recv S.watched).1).value.crossings ++ rest, ?_, ?_⟩
    · rw [value_serve_succ, hs, hd, List.append_assoc, List.append_assoc]
    · rw [serve_succ, Run.answered_bind, Run.answered_timed]
      exact turn_fits quiet _ _ hf

end

/-- the frames with which a gateway answers what comes over a new connection -/
def frames (g : Gateway) {σ : Type} (S : Stream σ) (stream : σ) (limits : Limits) (session : Session) (fuel : Nat) :
    List SentAnswer :=
  Crossing.answers none (g.serve S.watched fuel (.start (stream, []) limits session)).value.2.crossed

theorem frames_fit {g : Gateway} (quiet : g.Quiet) {σ : Type} (S : Stream σ) (stream : σ)
    (limits : Limits) (session : Session) (fuel : Nat) :
    SentAnswer.Fit (g.frames S stream limits session fuel)
      (g.serve S fuel (.start stream limits session)).answered := by
  obtain ⟨crossings, hc, hf⟩ := serve_fits quiet fuel (S := S) (.start (stream, []) limits session)
  have hn : (Connection.start (stream, ([] : List Crossing)) limits session).crossed = [] := rfl
  have hu := congrArg Run.answered (g.serve_unwatched S fuel (.start (stream, []) limits session))
  unfold frames
  rw [hc, hn, List.nil_append]
  exact hu ▸ hf none

end Gateway

end Socket

/-! ## requests -/

namespace Server

section
variable {s : Server} {r : IncomingRequest}

theorem handle_of_http {endpoint : Option HttpEndpoint} (h : s.destination r = .http endpoint) (fresh : CorrelationId)
    (uptime : Nat) : s.handle r fresh uptime = s.serveHttp endpoint r fresh := by
  unfold handle
  rw [h]

theorem answered_handle_of_not_http (h : ∀ endpoint, s.destination r ≠ .http endpoint) (fresh : CorrelationId)
    (uptime : Nat) : (s.handle r fresh uptime).answered = [] := by
  unfold handle
  cases hd : s.destination r with
  | health => rfl
  | metrics m => rfl
  | webSocket g =>
    dsimp only
    split <;> rfl
  | http endpoint => exact absurd hd (h endpoint)

end

section
variable (s : Server) (r : IncomingRequest) (fresh : CorrelationId) (uptime : Nat)

/-- the answer to a request that goes through the pipeline -/
def responses : List SentAnswer :=
  match s.destination r with
  | .http endpoint =>
    match s.reached? r fresh endpoint with
    | some _ => [.served (s.handle r fresh uptime).value]
    | none => [.unserved (s.handle r fresh uptime).value]
  | _ => []

theorem responses_fit (quiet : ∀ e, s.destination r = .http (some e) → e.endpoint.Quiet) :
    SentAnswer.Fit (s.responses r fresh uptime) (s.handle r fresh uptime).answered := by
  unfold responses
  split
  · rename_i endpoint hd
    rw [handle_of_http hd]
    cases he : s.reached? r fresh endpoint with
    | none =>
      rw [answered_serveHttp_of_unreached he]
      exact .of_uncounted (.unserved _) rfl
    | some e =>
      obtain ⟨-, -, rfl⟩ := reached?_eq_some he
      rw [answered_serveHttp_of_reached he (quiet e hd)]
      exact .of_counted (.served _) rfl
  · rename_i hd
    rw [answered_handle_of_not_http hd]
    exact .nil

end

/-! ## jobs -/

/-- something that a server does: it answers a request, or it serves a connection for some time -/
inductive Job : Type 1 where
  | request (r : IncomingRequest) (fresh : CorrelationId) (uptime : Nat)
  | connection {σ : Type} (S : Stream σ) (stream : σ) (limits : Limits) (g : Gateway) (session : Session)
      (fuel : Nat)

namespace Job
variable (s : Server)

def events : Job → List Event
  | .request r fresh uptime => (s.handle r fresh uptime).events
  | .connection S stream limits g session fuel => (g.serve S fuel (.start stream limits session)).events

def answers : Job → List SentAnswer
  | .request r fresh uptime => s.responses r fresh uptime
  | .connection S stream limits g session fuel => g.frames S stream limits session fuel

/-- whether the endpoints that may be called leave it to the server to note that something was answered -/
def Quiet : Job → Prop
  | .request r _ _ => ∀ e, s.destination r = .http (some e) → e.endpoint.Quiet
  | .connection _ _ _ g _ _ => g.Quiet

variable {s}

/-- what is noted as answered are the outcomes of the answers that are counted -/
theorem fits (j : Job) (quiet : j.Quiet s) : SentAnswer.Fit (j.answers s) ((j.events s).filterMap Event.answered?) := by
  cases j with
  | request r fresh uptime => exact s.responses_fit r fresh uptime quiet
  | connection S stream limits g session fuel => exact Gateway.frames_fit quiet S stream limits session fuel

end Job

/-! ## the whole -/

/-- what a recorder has counted while answers were given -/
structure Counts (before after : Recorder) (answers : List SentAnswer) : Prop where
  /-- every answer tells how its request or its message ended -/
  told : ∀ a ∈ answers, ∃ ended, a.Tells ended
  /-- a counter has grown by the answers that are counted and tell its transport and its outcome -/
  each : ∀ ends, List.Forall₂ SentAnswer.Tells (answers.filter SentAnswer.isCounted) ends → ∀ transport outcome,
    after.answered transport outcome = before.answered transport outcome + ends.count (transport, outcome)
  /-- all counters together have grown by one for each answer, but for those that are not counted -/
  total : after.requests.total + (answers.filter fun a => !a.isCounted).length
    = before.requests.total + answers.length
  shown : ∀ transport outcome, after.answered transport outcome ≠ 0 →
    after.requestLine transport outcome ∈ after.settle.lines

/-- **Each response of an endpoint and each frame for a text is counted once, and no other answer is.** -/
theorem counts_answers (s : Server) (jobs : List Job) (quiet : ∀ j ∈ jobs, j.Quiet s) (log : List Event)
    (noted : log.Perm (jobs.flatMap (Job.events s))) (m : Recorder) :
    Counts m (m.recordAll log) (jobs.flatMap (Job.answers s)) := by
  have hf : SentAnswer.Fit (jobs.flatMap (Job.answers s))
      (jobs.flatMap fun j => (j.events s).filterMap Event.answered?) :=
    SentAnswer.Fit.flatMap fun j hj => j.fits (quiet j hj)
  have hp : (log.filterMap Event.answered?).Perm (jobs.flatMap fun j => (j.events s).filterMap Event.answered?) := by
    rw [← List.filterMap_flatMap]
    exact noted.filterMap _
  constructor
  case told => exact hf.told
  case each =>
    intro ends told transport outcome
    rw [List.right_unique_forall₂' SentAnswer.Tells.unique told hf.counted, Recorder.count_recordAll, hp.count_eq]
  case total =>
    have hl := hf.counted.length_eq
    have hs : (jobs.flatMap (Job.answers s)).length = _ := List.length_eq_length_filter_add SentAnswer.isCounted
    rw [Recorder.total_recordAll, hp.length_eq]
    omega
  case shown => exact fun transport outcome h => Recorder.requestLine_mem (m.recordAll log).settle h

/-- a request that no route fits -/
def lost : IncomingRequest := ⟨"GET", ⟨"/nowhere", none⟩, [], [], .complete⟩

/-- a request for a ticket without a title -/
def untitled : IncomingRequest :=
  ⟨"POST", ⟨"/tickets", none⟩, [("content-type", Utf8.ofText "application/json")], [Utf8.ofText "{}"],
    .complete⟩

/-- both requests, and a connection over which two texts and a binary message come -/
def day : List Job :=
  [.request lost ⟨1⟩ 0, .request untitled ⟨2⟩ 0,
    .connection Stream.script visit .default (Gateway.empty.on "create" Samples.create.endpoint)
      ⟨⟨3⟩, some ⟨3, []⟩, []⟩ 9]

theorem quiet_day : ∀ j ∈ day, j.Quiet tickets := by
  unfold day
  rw [List.forall_mem_cons, List.forall_mem_cons, List.forall_mem_cons]
  refine ⟨?_, ?_, (Gateway.runsOperations_empty.on "create" Samples.create).quiet, List.forall_mem_nil _⟩
  · intro e he
    cases he
  · intro e he
    obtain rfl : endpointOf (Samples.create, 16) = e := Option.some.inj (Destination.http.inj he)
    exact Samples.create.quiet_endpoint

/-- of the five answers of a day three are counted, whenever they are noted -/
theorem counts_answers_day :
    (day.flatMap (Job.answers tickets)).map SentAnswer.isCounted = [false, true, true, true, false] ∧
      (∀ j ∈ day, j.Quiet tickets) ∧
      (day.flatMap (Job.events tickets)).reverse.Perm (day.flatMap (Job.events tickets)) ∧
      Counts (.start none []) ((Recorder.start none []).recordAll (day.flatMap (Job.events tickets)).reverse)
        (day.flatMap (Job.answers tickets)) :=
  ⟨by decide +kernel, quiet_day, List.reverse_perm _,
    counts_answers tickets day quiet_day _ (List.reverse_perm _) _⟩

/-- a request that no route fits is answered, and not counted -/
theorem lost_not_counted :
    (Job.request lost ⟨1⟩ 0).answers tickets = [.unserved (tickets.handle lost ⟨1⟩ 0).value] ∧
    (tickets.handle lost ⟨1⟩ 0).value.status = 404 ∧
    ((Recorder.start none []).recordAll (tickets.handle lost ⟨1⟩ 0).events).requests.total = 0 :=
  ⟨rfl, rfl, rfl⟩

end Server

end RequestPipeline
