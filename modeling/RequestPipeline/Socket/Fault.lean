import RequestPipeline.Text.Decimal

/-!
# Faults of a connection

A `WireFault` comes from the frames on the wire, a `SocketFault` is what the user of a connection sees.
-/

namespace RequestPipeline.Socket

inductive WireFault where
  /-- both sides have closed -/
  | finished
  /-- the connection was used after it had ended -/
  | alreadyFinished
  | brokenPipe
  /-- a frame or message of `size` bytes where at most `limit` are taken -/
  | tooLong (size limit : Nat)
  | notText
  | afterClosing
  | reservedBits
  | unmasked
  | masked
  | fragmentedControl
  | longControl
  | nothingToContinue
  /-- a new message, of the named kind, before the last one was complete -/
  | unfinished (kind : String)
  /-- the peer left without a word -/
  | reset
  | opcode (code : Nat)
  | closeSequence
  /-- a peer that had closed went on -/
  | receivedAfterClosing
  deriving DecidableEq, Repr

namespace WireFault

/-- what follows the announcement that the protocol was broken -/
def violation : WireFault → Option String
  | .afterClosing => some "Sending after closing is not allowed"
  | .reservedBits => some "Reserved bits are non-zero"
  | .unmasked => some "Received an unmasked frame from client"
  | .masked => some "Received a masked frame from server"
  | .fragmentedControl => some "Fragmented control frame"
  | .longControl => some "Control frame too big (payload must be 125 bytes or less)"
  | .nothingToContinue => some "Continue frame but nothing to continue"
  | .unfinished kind => some ("While waiting for more fragments received: " ++ kind)
  | .reset => some "Connection reset without closing handshake"
  | .opcode code => some ("Encountered invalid opcode: " ++ String.ofList (Text.ofNat code))
  | .closeSequence => some "Invalid close sequence"
  | .receivedAfterClosing => some "Remote sent after having closed"
  | _ => none

def message (f : WireFault) : String :=
  match f.violation with
  | some m => "WebSocket protocol error: " ++ m
  | none =>
    match f with
    | .finished => "Connection closed normally"
    | .alreadyFinished => "Trying to work with closed connection"
    | .tooLong size limit =>
      "Space limit exceeded: Message too long: " ++ String.ofList (Text.ofNat size) ++ " > " ++
        String.ofList (Text.ofNat limit)
    | .notText => "UTF-8 encoding error"
    | _ => "IO error: broken pipe"

end WireFault

/-- a time in milliseconds, in the largest unit that it fills -/
def durationText (milliseconds : Nat) : String :=
  if milliseconds = 0 then "0ns"
  else if milliseconds < 1000 then String.ofList (Text.ofNat milliseconds) ++ "ms"
  else
    let fraction := milliseconds % 1000
    let digits := (Text.ofNat (1000 + fraction)).drop 1
    let kept := (digits.reverse.dropWhile (· = '0')).reverse
    String.ofList (Text.ofNat (milliseconds / 1000) ++
      (if kept.isEmpty then [] else '.' :: kept) ++ ['s'])

inductive SocketFault where
  | notUpgrade (reason : String)
  | handshakeFailed (reason : String)
  | closed (code : Option Nat) (reason : String)
  | idle (milliseconds : Nat)
  | sendFailed (reason : String)
  | io (reason : String)
  | wire (f : WireFault)
  deriving DecidableEq, Repr

namespace SocketFault

def message : SocketFault → String
  | .notUpgrade reason => "not a WebSocket upgrade request: " ++ reason
  | .handshakeFailed reason => "WebSocket handshake failed: " ++ reason
  | .closed _ reason => "connection closed: " ++ reason
  | .idle milliseconds => "connection idle for " ++ durationText milliseconds
  | .sendFailed reason => "failed to send message: " ++ reason
  | .io reason => "I/O error: " ++ reason
  | .wire f => "tungstenite error: " ++ f.message

def closeCode? : SocketFault → Option Nat
  | .closed code _ => code
  | _ => none

/-- whether a connection that ends like this has ended well -/
def isNormal : SocketFault → Bool
  | .closed .. => true
  | .idle _ => true
  | .wire .finished => true
  | .wire .alreadyFinished => true
  | _ => false

end SocketFault
end RequestPipeline.Socket
