import RequestPipeline.Socket.Connection

/-!
# What a connection does

A call on an open connection asks its stream once, and `recv_open`, `close_open` and `flush_eq` say what the call is made
of from what the stream answers.

A stream may do what another one does and know more about it, as one that writes down what it is asked.
`Stream.Refines` says this of two streams and a map of their states, and a connection over the one is then a connection
over the other, whatever is done with it (`recv_map` and the like).
-/

namespace RequestPipeline.Socket

/-! ## from what the stream answers -/

/-- whether what a stream gives is the last of a connection -/
def Arrival.isLast : Arrival → Bool
  | .message m => Connection.isClosing m
  | .failed _ | .ended => true
  | .nothing => false

/-- what is reported of what a stream gives, within an idle time -/
def Arrival.received (idle : Option Nat) : Arrival → Received
  | .message m => .message m
  | .failed f => .failed (.wire f)
  | .ended => .over
  | .nothing => (idle.map fun d => Received.failed (.idle d)).getD .nothing

/-- a message that was not sent -/
def SocketFault.unsent (f : WireFault) : SocketFault := .sendFailed f.message

/-- what a flush reports of what the stream says -/
def WireFault.flushed : Except WireFault Unit → Except SocketFault Unit
  | .ok () | .error .finished => .ok ()
  | .error f => .error (.wire f)

namespace Connection

section
variable {σ : Type} (S : Stream σ) (s : σ) (session : Session) (limits : Limits)

theorem recv_open : recv S ⟨s, session, limits, false⟩ =
    ((S.next limits.idle s).1.received limits.idle,
      ⟨(S.next limits.idle s).2, session, limits, (S.next limits.idle s).1.isLast⟩) := by
  unfold recv
  rw [if_neg Bool.false_ne_true]
  dsimp only
  cases (S.next limits.idle s).1 with
  | nothing => cases limits.idle <;> rfl
  | _ => rfl

theorem close_open (closing : Closing) : close S closing ⟨s, session, limits, false⟩ =
    ((S.send (.close (some closing)) s).1.mapError .unsent,
      ⟨(S.send (.close (some closing)) s).2, session, limits, (S.send (.close (some closing)) s).1.isOk⟩) := by
  unfold close send
  rw [if_neg Bool.false_ne_true]
  dsimp only
  cases (S.send (.close (some closing)) s).1 <;> rfl

theorem flush_eq (closed : Bool) : flush S ⟨s, session, limits, closed⟩ =
    (WireFault.flushed (S.flush s).1, ⟨(S.flush s).2, session, limits, closed⟩) := by
  unfold flush
  dsimp only
  cases (S.flush s).1 with
  | ok _ => rfl
  | error f => cases f <;> rfl

end

/-- a connection over a stream in another state -/
def map {τ σ : Type} (f : τ → σ) (c : Connection τ) : Connection σ := ⟨f c.stream, c.session, c.limits, c.closed⟩

end Connection

/-! ## streams that know more -/

section
variable {τ σ : Type} {T : Stream τ} {S : Stream σ} {f : τ → σ}

/-- a stream does what another one does, if its states are looked at through a map -/
structure Stream.Refines (T : Stream τ) (S : Stream σ) (f : τ → σ) : Prop where
  next : ∀ limit s, S.next limit (f s) = ((T.next limit s).1, f (T.next limit s).2)
  send : ∀ m s, S.send m (f s) = ((T.send m s).1, f (T.send m s).2)
  flush : ∀ s, S.flush (f s) = ((T.flush s).1, f (T.flush s).2)
  pass : ∀ n s, S.pass n (f s) = f (T.pass n s)

namespace Connection
variable (refines : T.Refines S f) (c : Connection τ)
include refines

theorem recv_map : (c.map f).recv S = ((c.recv T).1, (c.recv T).2.map f) := by
  obtain ⟨s, session, limits, closed⟩ := c
  cases closed with
  | true => rfl
  | false =>
    unfold map
    rw [recv_open, recv_open, refines.next]

theorem send_map (m : Message) : (c.map f).send S m = ((c.send T m).1, (c.send T m).2.map f) := by
  obtain ⟨s, session, limits, closed⟩ := c
  cases closed with
  | true => rfl
  | false =>
    unfold map send
    rw [if_neg Bool.false_ne_true, if_neg Bool.false_ne_true, refines.send]

theorem flush_map : (c.map f).flush S = ((c.flush T).1, (c.flush T).2.map f) := by
  obtain ⟨s, session, limits, closed⟩ := c
  unfold map
  rw [flush_eq, flush_eq, refines.flush]

theorem close_map (closing : Closing) :
    (c.map f).close S closing = ((c.close T closing).1, (c.close T closing).2.map f) := by
  obtain ⟨s, session, limits, closed⟩ := c
  cases closed with
  | true => rfl
  | false =>
    unfold map
    rw [close_open, close_open, refines.send]

end Connection
end

end RequestPipeline.Socket
