import RequestPipeline.Proofs.Socket.Connection

/-!
# Calls on a connection

A connection is used by one call after the other.  `Connection.step` makes a call and says what was reported, what the
stream was asked meanwhile, and whether the connection is closed after it; what the stream was asked is read off a
stream that notes it and does the same otherwise (`Stream.noting`).

`Happens` lists what a call may be, on an open connection and on a closed one, and `Runs` the calls that may follow each
other.  Every history is such a run (`runs_history`), so that what is shown of `Runs` is shown of all of them.
-/

namespace RequestPipeline.Socket

/-! ## what a stream is asked -/

/-- what a stream is asked, and what it answers -/
inductive Exchange where
  /-- it was asked for a message -/
  | arrived (a : Arrival)
  | sent (m : Message) (result : Except WireFault Unit)
  | flushed (result : Except WireFault Unit)

/-- a stream that notes what it is asked -/
def Stream.noting {σ : Type} (S : Stream σ) : Stream (σ × List Exchange) where
  next limit s := ((S.next limit s.1).1, (S.next limit s.1).2, s.2 ++ [.arrived (S.next limit s.1).1])
  send m s := ((S.send m s.1).1, (S.send m s.1).2, s.2 ++ [.sent m (S.send m s.1).1])
  flush s := ((S.flush s.1).1, (S.flush s.1).2, s.2 ++ [.flushed (S.flush s.1).1])
  pass n s := (S.pass n s.1, s.2)

theorem Stream.noting_refines {σ : Type} (S : Stream σ) : S.noting.Refines S Prod.fst where
  next _ _ := rfl
  send _ _ := rfl
  flush _ := rfl
  pass _ _ := rfl

/-! ## calls -/

/-- what may be done with a connection -/
inductive Act where
  | recv
  | send (m : Message)
  | close (closing : Closing)
  | flush
  | wait (milliseconds : Nat)

/-- what is reported of it -/
inductive Reported where
  | received (r : Received)
  | done (r : Except SocketFault Unit)
  | waited

/-- one call, with what the stream was asked meanwhile and whether the connection is closed after it -/
structure Step where
  act : Act
  reported : Reported
  exchanged : List Exchange
  closed : Bool

namespace Connection
variable {σ : Type}

/-- does something with a connection -/
def perform (S : Stream σ) (c : Connection σ) : Act → Reported × Connection σ
  | .recv => (.received (c.recv S).1, (c.recv S).2)
  | .send m => (.done (c.send S m).1, (c.send S m).2)
  | .close closing => (.done (c.close S closing).1, (c.close S closing).2)
  | .flush => (.done (c.flush S).1, (c.flush S).2)
  | .wait n => (.waited, { c with stream := S.pass n c.stream })

/-- a connection over a stream on which nothing was noted yet -/
def unnoted (c : Connection σ) : Connection (σ × List Exchange) := c.map fun s => (s, [])

def step (S : Stream σ) (c : Connection σ) (act : Act) : Step × Connection σ :=
  (⟨act, (c.perform S act).1, (c.unnoted.perform S.noting act).2.stream.2, (c.perform S act).2.closed⟩,
    (c.perform S act).2)

/-- makes one call after the other -/
def history (S : Stream σ) (c : Connection σ) : List Act → List Step × Connection σ
  | [] => ([], c)
  | act :: acts =>
    ((c.step S act).1 :: ((c.step S act).2.history S acts).1, ((c.step S act).2.history S acts).2)

theorem perform_map {τ : Type} {T : Stream τ} {S : Stream σ} {f : τ → σ} (refines : T.Refines S f) (c : Connection τ)
    (act : Act) : (c.map f).perform S act = ((c.perform T act).1, (c.perform T act).2.map f) := by
  cases act with
  | recv => exact congrArg (fun r => (Reported.received r.1, r.2)) (c.recv_map refines)
  | send m => exact congrArg (fun r => (Reported.done r.1, r.2)) (c.send_map refines m)
  | close closing => exact congrArg (fun r => (Reported.done r.1, r.2)) (c.close_map refines closing)
  | flush => exact congrArg (fun r => (Reported.done r.1, r.2)) (c.flush_map refines)
  | wait n =>
    have hp : S.pass n (c.map f).stream = f (T.pass n c.stream) := refines.pass n c.stream
    unfold perform
    dsimp only
    rw [hp]
    rfl

/-- a connection does the same while it is noted what its stream is asked -/
theorem perform_eq_unnoted (S : Stream σ) (c : Connection σ) (act : Act) : c.perform S act =
    ((c.unnoted.perform S.noting act).1, (c.unnoted.perform S.noting act).2.map Prod.fst) :=
  c.unnoted.perform_map S.noting_refines act

end Connection

/-! ## what a call may be -/

/-- the calls that there may be, with whether the connection was closed before them -/
inductive Happens : Bool → Step → Prop where
  | recv (idle : Option Nat) (a : Arrival) :
    Happens false ⟨.recv, .received (a.received idle), [.arrived a], a.isLast⟩
  /-- whatever is sent, the connection stays open -/
  | send (m : Message) (r : Except WireFault Unit) :
    Happens false ⟨.send m, .done (r.mapError .unsent), [.sent m r], false⟩
  | close (closing : Closing) :
    Happens false ⟨.close closing, .done (.ok ()), [.sent (.close (some closing)) (.ok ())], true⟩
  | closeFailed (closing : Closing) (f : WireFault) :
    Happens false ⟨.close closing, .done (.error (.unsent f)), [.sent (.close (some closing)) (.error f)], false⟩
  | recvClosed : Happens true ⟨.recv, .received .over, [], true⟩
  | sendClosed (m : Message) : Happens true ⟨.send m, .done (.error Connection.alreadyClosed), [], true⟩
  | closeClosed (closing : Closing) : Happens true ⟨.close closing, .done (.ok ()), [], true⟩
  | flush (closed : Bool) (r : Except WireFault Unit) :
    Happens closed ⟨.flush, .done (WireFault.flushed r), [.flushed r], closed⟩
  | wait (closed : Bool) (n : Nat) : Happens closed ⟨.wait n, .waited, [], closed⟩

/-- calls that follow each other -/
inductive Runs : Bool → List Step → Prop where
  | nil (closed : Bool) : Runs closed []
  | cons {closed : Bool} {s : Step} {steps : List Step} :
    Happens closed s → Runs s.closed steps → Runs closed (s :: steps)

namespace Connection
variable {σ : Type} (S : Stream σ)

/-- what is done with a connection while it is noted is one of these calls -/
theorem happens_noting (c : Connection σ) (act : Act) :
    let r := c.unnoted.perform S.noting act
    Happens c.closed ⟨act, r.1, r.2.stream.2, r.2.closed⟩ := by
  obtain ⟨s, session, limits, closed⟩ := c
  unfold perform unnoted map
  -- a call on a closed connection computes, as it does not get to the stream; one on an open connection is what the
  -- stream makes of it
  cases act with
  | recv =>
    cases closed with
    | true => exact .recvClosed
    | false =>
      dsimp only
      rw [recv_open]
      exact .recv limits.idle _
  | send m =>
    cases closed with
    | true => exact .sendClosed m
    | false => exact .send m _
  | close closing =>
    cases closed with
    | true => exact .closeClosed closing
    | false =>
      dsimp only
      rw [close_open]
      dsimp only [Stream.noting]
      cases (S.send (.close (some closing)) s).1 with
      | ok _ => exact .close closing
      | error f => exact .closeFailed closing f
  | flush =>
    dsimp only
    rw [flush_eq]
    exact .flush closed _
  | wait n => exact .wait closed n

theorem happens_step (c : Connection σ) (act : Act) : Happens c.closed (c.step S act).1 := by
  have h := c.happens_noting S act
  unfold step
  rw [perform_eq_unnoted]
  exact h

/-- **Every history of a connection is such a run.** -/
theorem runs_history (c : Connection σ) (acts : List Act) : Runs c.closed (c.history S acts).1 := by
  induction acts generalizing c with
  | nil => exact .nil _
  | cons act acts ih => exact .cons (c.happens_step S act) (ih _)

end Connection

end RequestPipeline.Socket
