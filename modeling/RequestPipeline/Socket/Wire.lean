import RequestPipeline.Socket.Frame

/-!
# The wire protocol

A `Wire` is one end of a connection: the bytes that arrived, the bytes to send, and how far the closing
handshake has come.  `Wire.read` gives the next message, `Wire.write` and `Wire.flush` send.  A ping is
answered, and a closing frame acknowledged, the next time this end reads or flushes.
-/

namespace RequestPipeline.Socket

inductive Role where
  | server | client
  deriving DecidableEq, Repr

/-- how far the closing handshake has come -/
inductive Phase where
  | active | closedByUs | closedByPeer | acknowledged | terminated
  deriving DecidableEq, Repr

/-- whether the peer may still send -/
def Phase.canRead (p : Phase) : Bool := p = .active || p = .closedByUs

structure Wire where
  role : Role
  maxMessage : Nat
  maxFrame : Nat
  phase : Phase
  /-- what arrived and was not read -/
  incoming : Bytes
  /-- whether the peer has left -/
  ended : Bool
  /-- the beginning of a message that is not complete, and whether it is a text -/
  partly : Option (Bool × Bytes)
  /-- a frame that answers the peer, not yet sent -/
  answer : Option Frame
  /-- what could not be sent -/
  backlog : Bytes
  /-- what was sent and the peer has not taken -/
  outgoing : Bytes
  /-- whether reading has come to an end -/
  done : Bool
  deriving DecidableEq, Repr

namespace Wire

def start (role : Role) (maxMessage maxFrame : Nat) : Wire :=
  ⟨role, maxMessage, maxFrame, .active, [], false, none, none, [], [], false⟩

/-! ## sending -/

def writeOut (w : Wire) : Except WireFault Unit × Wire :=
  if w.backlog.isEmpty then (.ok (), w)
  else if w.ended then (.error .brokenPipe, w)
  else (.ok (), { w with backlog := [], outgoing := w.outgoing ++ w.backlog })

/-- lines up a frame; a client masks what it sends -/
def enqueue (w : Wire) (f : Frame) : Wire :=
  { w with backlog := w.backlog ++ { f with masked := decide (w.role = Role.client) }.encode }

/-- sends everything, the answer to the peer too.  A server that has answered a closing frame is done. -/
def flush (w : Wire) : Except WireFault Unit × Wire :=
  let w := match w.answer with
    | some f => { w.enqueue f with answer := none }
    | none => w
  match w.writeOut with
  | (.error f, w) => (.error f, w)
  | (.ok (), w) =>
    if w.role = .server ∧ ¬ w.phase.canRead then (.error .finished, { w with phase := .terminated })
    else (.ok (), w)

/-- keeps an answer for the peer; it replaces a pong but no closing frame -/
def setAnswer (w : Wire) (f : Frame) : Wire :=
  match w.answer with
  | some { opcode := .close, .. } => w
  | _ => { w with answer := some f }

def write (w : Wire) (m : Message) : Except WireFault Unit × Wire :=
  if w.phase = .terminated then (.error .alreadyFinished, w)
  else if w.phase ≠ .active then (.error .afterClosing, w)
  else
    match m with
    | .pong bs => (w.setAnswer (.whole .pong bs)).flush
    | .close _ => ({ w with phase := .closedByUs }.enqueue (.ofMessage m)).flush
    | m => (w.enqueue (.ofMessage m)).flush

/-! ## receiving -/

def extend (w : Wire) (isText : Bool) (start fragment : Bytes) : Except WireFault Wire :=
  if w.maxMessage < start.length + fragment.length then
    .error (.tooLong (start.length + fragment.length) w.maxMessage)
  else
    let bs := start ++ fragment
    if isText ∧ ¬ Utf8.isBegun bs then .error .notText
    else .ok { w with partly := some (isText, bs) }

/-- the message of a kind with the given payload -/
def complete (isText : Bool) (payload : Bytes) : Except WireFault Message :=
  if isText then
    match Utf8.toText? payload with
    | some t => .ok (.text t)
    | none => .error .notText
  else .ok (.binary payload)

/-- a closing frame: the peer closes, or acknowledges -/
def readClosing (w : Wire) (payload : Bytes) : Except WireFault (Option Message × Wire) :=
  match Frame.closing? payload with
  | .error f => .error f
  | .ok closing =>
    match w.phase with
    | .active =>
      let closing := closing.map fun c => if Closing.isAllowed c.code then c else .violation
      .ok (some (.close closing),
        { w with phase := .closedByPeer }.setAnswer (.ofMessage (.close closing)))
    | .closedByUs => .ok (some (.close closing), { w with phase := .acknowledged })
    | _ => .ok (none, w)

/-- a frame that belongs to a message of data -/
def readData (w : Wire) (f : Frame) : Except WireFault (Option Message × Wire) := do
  match f.opcode, w.partly with
  | .continuation, none => throw .nothingToContinue
  | .continuation, some (isText, start) =>
    let w ← w.extend isText start f.payload
    if f.isLast then
      let m ← complete isText (start ++ f.payload)
      return (some m, { w with partly := none })
    else return (none, w)
  | kind, some _ => throw (.unfinished kind.name)
  | kind, none =>
    if f.isLast then
      if w.maxMessage < f.payload.length then
        throw (.tooLong f.payload.length w.maxMessage)
      return (some (← complete (kind = .text) f.payload), w)
    else return (none, ← w.extend (kind = .text) [] f.payload)

/-- takes a frame: a message, if the frame completes one -/
def takeFrame (w : Wire) (f : Frame) : Except WireFault (Option Message × Wire) :=
  if w.role = .server ∧ ¬ f.masked then .error .unmasked
  else if ¬ w.phase.canRead then .error .receivedAfterClosing
  else if f.reserved then .error .reservedBits
  else if w.role = .client ∧ f.masked then .error .masked
  else if 8 ≤ f.opcode.number then
    if ¬ f.isLast then .error .fragmentedControl
    else if 125 < f.payload.length then .error .longControl
    else
      match f.opcode with
      | .ping =>
        .ok (some (.ping f.payload),
          if w.phase = .active then w.setAnswer (.whole .pong f.payload) else w)
      | .pong => .ok (some (.pong f.payload), w)
      | _ => w.readClosing f.payload
  else w.readData f

inductive Reading where
  | message (m : Message)
  | failed (f : WireFault)
  /-- nothing more will come -/
  | over
  /-- nothing has come yet -/
  | nothing
  deriving DecidableEq, Repr

def stop (w : Wire) (f : WireFault) : Reading × Wire :=
  let w := { w with done := true }
  match f with
  | .finished => (.over, w)
  | .alreadyFinished => (.over, w)
  | f => (.failed f, w)

/-- what is sent before anything is read -/
def answerFirst (w : Wire) : Except WireFault Unit × Wire :=
  if w.answer.isSome then w.flush
  else if w.role = .server ∧ ¬ w.phase.canRead then
    (.error .finished, { w with phase := .terminated })
  else (.ok (), w)

/-- the peer has left: properly only if it had closed -/
def hangUp (w : Wire) : Reading × Wire :=
  let properly := w.phase = .closedByPeer ∨ w.phase = .acknowledged
  stop { w with phase := .terminated } (if properly then .finished else .reset)

def readFrames : (fuel : Nat) → Wire → Reading × Wire
  | 0, w => (.nothing, w)
  | fuel + 1, w =>
    match w.answerFirst with
    | (.error f, w) => w.stop f
    | (.ok (), w) =>
      match Frame.read w.maxFrame w.incoming with
      | .error f => w.stop f
      | .ok none => if w.ended then w.hangUp else (.nothing, w)
      | .ok (some (f, rest)) =>
        match { w with incoming := rest }.takeFrame f with
        | .error f => { w with incoming := rest }.stop f
        | .ok (some m, w) => (.message m, w)
        | .ok (none, w) => readFrames fuel w

def read (w : Wire) : Reading × Wire :=
  if w.done then (.over, w)
  else if w.phase = .terminated then w.stop .alreadyFinished
  else readFrames (w.incoming.length + 1) w

end Wire
end RequestPipeline.Socket
