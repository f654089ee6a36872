import RequestPipeline.Socket.Connection
import RequestPipeline.Socket.EventFrame

/-!
# Gateways

A gateway has an operation for each event that it knows.  `Gateway.handleText` answers one text message, and
`Gateway.serve` answers the messages of a connection one after the other until it ends.
-/

namespace RequestPipeline.Socket

structure Gateway where
  events : List (String × Endpoint)
  factory : ContextFactory

namespace Gateway

def empty : Gateway := ⟨[], .default⟩

/-- gives an event an operation; what it had before is replaced -/
def on (g : Gateway) (event : String) (e : Endpoint) : Gateway :=
  { g with events := g.events.filter (fun (name, _) => name ≠ event) ++ [(event, e)] }

/-- a gateway for events; of two with one name the last counts -/
def ofEvents (events : List (String × Endpoint)) (factory : ContextFactory) : Gateway :=
  events.foldl (fun g (event, e) => g.on event e) ⟨[], factory⟩

def find? (g : Gateway) (event : String) : Option Endpoint := g.events.lookup event

def handles (g : Gateway) (event : String) : Bool := (g.find? event).isSome

/-- notes a message that reaches no operation, and answers it -/
def reject (session : Session) (f : Failure) : Run Message := do
  Run.note (.answered .webSocket .rejected 0)
  pure (exception f session.requestId)

def render (session : Session) (event : String) : Except Failure Outgoing → Message
  | .ok (.envelope e) => reply event e
  | .ok (.binary b) => .binary b.bytes
  | .error f => exception f session.requestId

def handleText (g : Gateway) (session : Session) (text : String) : Run Message :=
  match EventFrame.parse text with
  | .error f => reject session f
  | .ok frame =>
    match g.find? frame.event with
    | none => reject session (.notFound ("no handler for event '" ++ frame.event ++ "'"))
    | some e => do
      let (result, elapsed) ←
        (e.invoke .webSocket (session.context g.factory) frame.inbound).timed
      Run.note (.answered .webSocket (Outcome.ofResult result) elapsed)
      pure (render session frame.event result)

def noBinary : Failure := .invalidInput "message" (some "binary frames are not supported")

/-- how a silent connection is closed -/
def idleClosing : Closing := ⟨Closing.away, "idle timeout"⟩

/-- what a gateway does about what it received -/
inductive Turn where
  | answer (m : Message)
  | ignore
  /-- sends what is still to be sent, and stops -/
  | finish
  | close (c : Closing)
  | stop (result : Except SocketFault Unit)

def turn (g : Gateway) (session : Session) : Received → Run Turn
  | .message (.text t) => do return .answer (← g.handleText session t)
  | .message (.binary _) => pure (.answer (exception noBinary session.requestId))
  | .message (.close _) => pure .finish
  | .message _ => pure .ignore
  | .failed (.idle _) => pure (.close idleClosing)
  | .failed f => pure (.stop (if f.isNormal then .ok () else .error f))
  | .over => pure (.stop (.ok ()))
  | .nothing => pure (.stop (.ok ()))

/-- that a connection ended well is no fault -/
def settle : Except SocketFault Unit → Except SocketFault Unit
  | .error f => if f.isNormal then .ok () else .error f
  | .ok () => .ok ()

variable {σ : Type}

/-- Serves a connection until it ends: how it ended, and the connection then.  After `fuel` messages it
stops with nothing. -/
def serve (g : Gateway) (S : Stream σ) :
    (fuel : Nat) → Connection σ → Run (Option (Except SocketFault Unit) × Connection σ)
  | 0, c => pure (none, c)
  | fuel + 1, c => do
    let (received, c) := c.recv S
    let (turn, elapsed) ← (g.turn c.session received).timed
    let c := { c with stream := S.pass elapsed c.stream }
    match turn with
    | .ignore => g.serve S fuel c
    | .answer m =>
      match c.send S m with
      | (.ok (), c) => g.serve S fuel c
      | (.error f, c) => pure (some (settle (.error f)), c)
    | .finish =>
      let (result, c) := c.flush S
      pure (some result, c)
    | .close closing =>
      let (result, c) := c.close S closing
      pure (some result, c)
    | .stop result => pure (some result, c)

end Gateway
end RequestPipeline.Socket
