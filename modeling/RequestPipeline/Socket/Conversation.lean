import RequestPipeline.Socket.Gateway
import RequestPipeline.Socket.Wire

/-!
# Conversations

A conversation is a connection with a client at its other end, on a clock that advances only while both
wait.  The client follows a script: a step sends something or sleeps, and then lasts until nothing has come
for a millisecond.  `Conversation.served` lets the client talk to whoever serves the stream;
`Conversation.perform` takes one step of the client while the server does nothing.
-/

namespace RequestPipeline.Socket

inductive ClientStep where
  | send (m : Message)
  /-- writes bytes that may be no frame -/
  | raw (bs : Bytes)
  | sleep (milliseconds : Nat)
  | leave
  deriving DecidableEq, Repr

inductive ClientAnswer where
  /-- the messages it heard, and whether the stream ended behind them -/
  | heard (ms : List Message) (ended : Bool)
  | left
  /-- it was no longer there -/
  | gone
  deriving DecidableEq, Repr

inductive ClientMode where
  /-- it is about to take a step -/
  | ready
  | sleeping (wake : Nat)
  /-- it listens until the given time -/
  | listening (stop : Nat)
  deriving DecidableEq, Repr

structure Conversation where
  server : Wire
  client : Wire
  clock : Nat
  mode : ClientMode
  /-- what was heard in the current step -/
  heard : List Message
  script : List ClientStep
  answers : List ClientAnswer
  present : Bool
  /-- whether the client left while it was still served -/
  leftFirst : Bool
  deriving Repr

namespace Conversation

/-- how long a client listens for more -/
def patience : Nat := 1

def start (limits : Limits) (script : List ClientStep) : Conversation where
  server := .start .server limits.maxMessage limits.maxFrame
  client := .start .client Limits.default.maxMessage Limits.default.maxFrame
  clock := 0
  mode := .ready
  heard := []
  script := script
  answers := []
  present := true
  leftFirst := false

/-- carries what was sent to the other end -/
def carry (t : Conversation) : Conversation :=
  { t with
    server := { t.server with
      incoming := t.server.incoming ++ t.client.outgoing
      outgoing := [] }
    client := { t.client with
      incoming := t.client.incoming ++ t.server.outgoing
      outgoing := [] } }

/-- notes what the client says about the current step -/
def answer (t : Conversation) (a : ClientAnswer) : Conversation :=
  { t with answers := t.answers ++ [a], heard := [], mode := .ready }

def depart (t : Conversation) : Conversation :=
  let t := t.carry
  { t with present := false, server := { t.server with ended := true } }

/-- the client reads what has come, one message after the other -/
def hearAll : (fuel : Nat) → Conversation → Conversation
  | 0, t => t
  | fuel + 1, t =>
    let (reading, client) := t.client.read
    let t := { t with client := client }.carry
    match reading with
    | .nothing => t
    | .message (.close c) => (t.answer (.heard (t.heard ++ [.close c]) false)).depart
    | .message m => hearAll fuel { t with heard := t.heard ++ [m] }
    | _ => (t.answer (.heard t.heard true)).depart

def hear (t : Conversation) : Conversation :=
  let t := t.carry
  match t.mode with
  | .listening _ => hearAll (t.client.incoming.length + 1) t
  | _ => t

def act (t : Conversation) (step : ClientStep) : Conversation :=
  let listen (t : Conversation) : Conversation :=
    { t with mode := .listening (t.clock + patience) }.carry
  if ¬ t.present then t.answer .gone
  else
    match step with
    | .send m => listen { t with client := (t.client.write m).2 }
    | .raw bs => listen { t with client := { t.client with outgoing := t.client.outgoing ++ bs } }
    | .sleep n => { t with mode := .sleeping (t.clock + n) }
    | .leave => (t.answer .left).depart

/-- begins the next step that takes time; without one the client leaves -/
def takeSteps (t : Conversation) : List ClientStep → Conversation
  | [] =>
    { t.depart with script := [], leftFirst := true }
  | step :: rest =>
    let t := { t with script := rest }.act step
    match t.mode with
    | .ready => takeSteps t rest
    | _ => t

/-- what the client does next, and when -/
def clientTime (t : Conversation) : Nat :=
  match t.mode with
  | .ready => t.clock
  | .sleeping wake => wake
  | .listening stop => stop

/-- the client goes on, at its time -/
def goOn (t : Conversation) : Conversation :=
  match t.mode with
  | .ready => t.takeSteps t.script
  | .sleeping wake =>
    { t with clock := wake, mode := .listening (wake + patience) }
  | .listening stop =>
    let t := { t with clock := stop }.answer (.heard t.heard false)
    t.takeSteps t.script

/-- whether the client has left with nothing more to do -/
def isOver (t : Conversation) : Bool := t.script.isEmpty && !t.present

/-- a bound on how often a client goes on -/
def turns (t : Conversation) : Nat := 3 * t.script.length + 5

/-- takes one step of the client while the server does nothing -/
def perform (t : Conversation) (step : ClientStep) : ClientAnswer × Conversation :=
  let t := t.act step
  let t := match t.mode with
    | .sleeping _ => t.goOn
    | _ => t
  let t := t.hear
  let t := match t.mode with
    | .listening stop => { t with clock := stop }.answer (.heard t.heard false)
    | _ => t
  (t.answers.getLast?.getD .gone, t)

/-- waits for a message at the end of the server, while the client goes on -/
def await (deadline : Option Nat) : (fuel : Nat) → Conversation → Arrival × Conversation
  | 0, t => (.ended, t)
  | fuel + 1, t =>
    let (reading, server) := t.server.read
    let t := { t with server := server }.carry
    match reading with
    | .message m => (.message m, t)
    | .failed f => (.failed f, t)
    | .over => (.ended, t)
    | .nothing =>
      let t := t.hear
      if ¬ t.server.incoming.isEmpty ∧ t.server.incoming ≠ server.incoming then
        await deadline fuel t
      else
        match deadline with
        | none => await deadline fuel t.goOn
        | some d =>
          if d < t.clientTime ∧ t.present then (.nothing, { t with clock := d })
          else await deadline fuel t.goOn

def runUntil (time : Nat) : (fuel : Nat) → Conversation → Conversation
  | 0, t => { t with clock := time }
  | fuel + 1, t =>
    let t := t.hear
    if t.isOver ∨ time < t.clientTime then { t with clock := time }
    else runUntil time fuel t.goOn

/-- the stream of a conversation, in which the client follows its script -/
def served : Stream Conversation where
  next idle t := await (idle.map (t.clock + ·)) (t.turns + t.client.outgoing.length) t
  send m t :=
    let (result, server) := t.server.write m
    (result, { t with server := server })
  flush t :=
    let (result, server) := t.server.flush
    (result, { t with server := server })
  pass milliseconds t :=
    if milliseconds = 0 then t else runUntil (t.clock + milliseconds) t.turns t

/-- the stream of a conversation, in which the client does nothing by itself -/
def quiet : Stream Conversation where
  next _ t :=
    let (reading, server) := t.server.read
    let t := { t with server := server }.carry
    match reading with
    | .message m => (.message m, t)
    | .failed f => (.failed f, t)
    | .over => (.ended, t)
    | .nothing => (.nothing, t)
  send m t :=
    let (result, server) := t.server.write m
    (result, { t with server := server }.carry)
  flush t :=
    let (result, server) := t.server.flush
    (result, { t with server := server }.carry)
  pass milliseconds t := { t with clock := t.clock + milliseconds }

/-- the server hangs up, and the client comes to the end of its script -/
def finish (t : Conversation) : Conversation :=
  let t := t.carry
  let t := { t with client := { t.client with ended := true } }
  let t := match t.mode with
    | .sleeping _ => t.goOn
    | _ => t
  let t := t.hear
  if t.isOver then t
  else
    let leftFirst := t.leftFirst
    { t.takeSteps t.script with leftFirst := leftFirst }

/-- a bound on the messages of a script -/
def messageBound (script : List ClientStep) : Nat :=
  script.foldl (fun n step =>
    match step with
    | .raw bs => n + bs.length
    | _ => n + 1) 2

end Conversation

structure Service where
  answers : List ClientAnswer
  /-- whether the client left while it was still served -/
  leftFirst : Bool
  result : Option (Except SocketFault Unit)

def Gateway.converse (g : Gateway) (session : Session) (limits : Limits)
    (script : List ClientStep) : Run Service := do
  let c := Connection.start (Conversation.start limits script) limits session
  let (result, c) ← g.serve Conversation.served (Conversation.messageBound script) c
  let t := c.stream.finish
  return ⟨t.answers, t.leftFirst, result⟩

end RequestPipeline.Socket
