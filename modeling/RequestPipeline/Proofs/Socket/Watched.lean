import RequestPipeline.Proofs.Socket.Connection
import RequestPipeline.Proofs.Socket.Serving

/-!
# Watching a connection

`Stream.watched` is a stream that writes down what crosses it, the messages that come and those that are sent.
Nothing else changes: a gateway does the same over it (`serve_unwatched`), so that what is written down is what crosses
the stream itself.
-/

namespace RequestPipeline

namespace Run
variable {α β γ : Type}

/-- a run with another result -/
def map (f : α → β) (r : Run α) : Run β := ⟨f r.value, r.log, r.elapsed⟩

theorem map_bind (f : β → γ) (r : Run α) (k : α → Run β) : (r >>= k).map f = r >>= fun a => (k a).map f := rfl

end Run

namespace Socket

/-- what crosses a stream -/
inductive Crossing where
  | came (m : Message)
  | sent (m : Message)

def Arrival.crossings : Arrival → List Crossing
  | .message m => [.came m]
  | _ => []

/-- what crosses a stream when a connection receives something -/
def Received.crossings : Received → List Crossing
  | .message m => [.came m]
  | _ => []

theorem Arrival.crossings_received (idle : Option Nat) (a : Arrival) : (a.received idle).crossings = a.crossings := by
  cases a with
  | nothing => cases idle <;> rfl
  | _ => rfl

/-- what is reported as a message came as one -/
theorem Arrival.isLast_of_received {idle : Option Nat} {a : Arrival} {m : Message} (h : a.received idle = .message m) :
    a.isLast = Connection.isClosing m := by
  cases a with
  | message m' =>
    obtain rfl : m' = m := Received.message.inj h
    rfl
  | nothing => cases idle <;> cases h
  | _ => cases h

/-- a stream that writes down what crosses it -/
def Stream.watched {σ : Type} (S : Stream σ) : Stream (σ × List Crossing) where
  next limit s := ((S.next limit s.1).1, (S.next limit s.1).2, s.2 ++ (S.next limit s.1).1.crossings)
  send m s := ((S.send m s.1).1, (S.send m s.1).2, s.2 ++ [.sent m])
  flush s := ((S.flush s.1).1, (S.flush s.1).2, s.2)
  pass n s := (S.pass n s.1, s.2)

theorem Stream.watched_refines {σ : Type} (S : Stream σ) : S.watched.Refines S Prod.fst where
  next _ _ := rfl
  send _ _ := rfl
  flush _ := rfl
  pass _ _ := rfl

namespace Connection
variable {σ : Type} (S : Stream σ) (c : Connection (σ × List Crossing))

/-- a connection without what was written down -/
def unwatched : Connection σ := ⟨c.stream.1, c.session, c.limits, c.closed⟩

/-! ## what is written down -/

/-- what has crossed a connection -/
def crossed : List Crossing := c.stream.2

theorem crossed_recv : (c.recv S.watched).2.crossed = c.crossed ++ (c.recv S.watched).1.crossings := by
  obtain ⟨s, session, limits, closed⟩ := c
  cases closed with
  | true => exact (List.append_nil _).symm
  | false =>
    rw [recv_open, Arrival.crossings_received]
    rfl

theorem crossed_send (m : Message) (h : c.closed = false) :
    (c.send S.watched m).2.crossed = c.crossed ++ [.sent m] := by
  unfold send
  rw [h]
  rfl

theorem crossed_flush : (c.flush S.watched).2.crossed = c.crossed := by
  rw [flush_eq]
  rfl

theorem crossed_close (closing : Closing) : (c.close S.watched closing).2.crossed = c.crossed ∨
    (c.close S.watched closing).2.crossed = c.crossed ++ [.sent (.close (some closing))] := by
  cases h : c.closed with
  | true =>
    left
    unfold close
    rw [h]
    rfl
  | false =>
    rcases c.close_cases S.watched closing with he | ⟨closed, he⟩
    · rw [he]
      exact .inl rfl
    · rw [he]
      exact .inr (c.crossed_send S _ h)

/-- a connection over which a message was received is open, unless that closes it -/
theorem closed_recv {m : Message} (h : (c.recv S.watched).1 = .message m) :
    (c.recv S.watched).2.closed = isClosing m := by
  obtain ⟨s, session, limits, closed⟩ := c
  cases closed with
  | true => cases h
  | false =>
    rw [recv_open] at h ⊢
    exact Arrival.isLast_of_received h

/-! ## nothing else changes -/

theorem recv_unwatched : c.unwatched.recv S = ((c.recv S.watched).1, (c.recv S.watched).2.unwatched) :=
  c.recv_map S.watched_refines

theorem send_unwatched (m : Message) :
    c.unwatched.send S m = ((c.send S.watched m).1, (c.send S.watched m).2.unwatched) :=
  c.send_map S.watched_refines m

theorem flush_unwatched : c.unwatched.flush S = ((c.flush S.watched).1, (c.flush S.watched).2.unwatched) :=
  c.flush_map S.watched_refines

theorem close_unwatched (closing : Closing) :
    c.unwatched.close S closing = ((c.close S.watched closing).1, (c.close S.watched closing).2.unwatched) :=
  c.close_map S.watched_refines closing

end Connection

namespace Gateway
variable (g : Gateway) {σ : Type} (S : Stream σ)

/-- the result of serving a connection, without what was written down -/
def unwatched {α : Type} (r : α × Connection (σ × List Crossing)) : α × Connection σ := (r.1, r.2.unwatched)

theorem proceed_unwatched {fuel : Nat}
    (served : ∀ c, (g.serve S.watched fuel c).map unwatched = g.serve S fuel c.unwatched)
    (c : Connection (σ × List Crossing)) (turn : Turn) :
    (g.proceed S.watched fuel c turn).map unwatched = g.proceed S fuel c.unwatched turn := by
  cases turn with
  | ignore => exact served c
  | answer m =>
    unfold proceed
    dsimp only
    rw [Connection.send_unwatched]
    cases c.send S.watched m with
    | mk result c' =>
      cases result with
      | ok _ => exact served c'
      | error f => rfl
  | finish =>
    unfold proceed
    dsimp only
    rw [Connection.flush_unwatched]
    rfl
  | close closing =>
    unfold proceed
    dsimp only
    rw [Connection.close_unwatched]
    rfl
  | stop result => rfl

/-- a gateway does the same over a stream that is watched -/
theorem serve_unwatched (fuel : Nat) (c : Connection (σ × List Crossing)) :
    (g.serve S.watched fuel c).map unwatched = g.serve S fuel c.unwatched := by
  induction fuel generalizing c with
  | zero => rfl
  | succ fuel ih =>
    rw [serve_succ, serve_succ, Run.map_bind, Connection.recv_unwatched]
    refine congrArg (Bind.bind _) (funext fun x => ?_)
    exact g.proceed_unwatched S ih _ x.1

end Gateway

end Socket

end RequestPipeline
