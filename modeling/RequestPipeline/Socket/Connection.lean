import RequestPipeline.Socket.Fault
import RequestPipeline.Socket.Message
import RequestPipeline.Socket.Session

/-!
# Connections

A connection is a session over a stream of messages.  `Stream` says what a stream can do, whatever it is
made of; a connection asks it for messages, gives up when none comes within the idle time, and remembers
whether it has been closed.
-/

namespace RequestPipeline.Socket

structure Limits where
  maxMessage : Nat
  maxFrame : Nat
  /-- how long a peer may be silent, in milliseconds -/
  idle : Option Nat
  deriving DecidableEq, Repr

/-- the limits when none are set: 64 MiB, 16 MiB and five minutes -/
def Limits.default : Limits := ⟨67108864, 16777216, some 300000⟩

/-- what a stream gives when it is asked for a message -/
inductive Arrival where
  | message (m : Message)
  | failed (f : WireFault)
  | ended
  /-- nothing came within the time that was given -/
  | nothing
  deriving DecidableEq, Repr

structure Stream (σ : Type) where
  /-- waits for a message, for so many milliseconds at most -/
  next : Option Nat → σ → Arrival × σ
  send : Message → σ → Except WireFault Unit × σ
  flush : σ → Except WireFault Unit × σ
  /-- lets time pass while nothing is asked of the stream -/
  pass : Nat → σ → σ

structure Connection (σ : Type) where
  stream : σ
  session : Session
  limits : Limits
  closed : Bool

/-- what a connection gives when it is asked for a message -/
inductive Received where
  | message (m : Message)
  | failed (f : SocketFault)
  /-- no message will come -/
  | over
  /-- no message has come yet -/
  | nothing
  deriving DecidableEq, Repr

namespace Connection

variable {σ : Type}

def start (stream : σ) (limits : Limits) (session : Session) : Connection σ :=
  ⟨stream, session, limits, false⟩

/-- what is wrong with a connection that has been closed -/
def alreadyClosed : SocketFault := .closed (some Closing.normal) "connection already closed"

def isClosing : Message → Bool
  | .close _ => true
  | _ => false

def recv (S : Stream σ) (c : Connection σ) : Received × Connection σ :=
  if c.closed then (.over, c)
  else
    let (arrival, stream) := S.next c.limits.idle c.stream
    let c := { c with stream := stream }
    match arrival with
    | .message m => (.message m, { c with closed := isClosing m })
    | .failed f => (.failed (.wire f), { c with closed := true })
    | .ended => (.over, { c with closed := true })
    | .nothing =>
      match c.limits.idle with
      | some d => (.failed (.idle d), c)
      | none => (.nothing, c)

def send (S : Stream σ) (m : Message) (c : Connection σ) :
    Except SocketFault Unit × Connection σ :=
  if c.closed then (.error alreadyClosed, c)
  else
    let (result, stream) := S.send m c.stream
    (result.mapError fun f => .sendFailed f.message, { c with stream := stream })

/-- closes a connection; closing it again does nothing -/
def close (S : Stream σ) (closing : Closing) (c : Connection σ) :
    Except SocketFault Unit × Connection σ :=
  if c.closed then (.ok (), c)
  else
    match c.send S (.close (some closing)) with
    | (.ok (), c) => (.ok (), { c with closed := true })
    | (.error f, c) => (.error f, c)

/-- sends what is still to be sent; that the connection ends with it is no fault -/
def flush (S : Stream σ) (c : Connection σ) : Except SocketFault Unit × Connection σ :=
  let (result, stream) := S.flush c.stream
  let c := { c with stream := stream }
  match result with
  | .ok () => (.ok (), c)
  | .error .finished => (.ok (), c)
  | .error f => (.error (.wire f), c)

end Connection
end RequestPipeline.Socket
