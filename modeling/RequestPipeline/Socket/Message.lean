import RequestPipeline.Text.Utf8

/-!
# Messages of a WebSocket
-/

namespace RequestPipeline.Socket

structure Closing where
  code : Nat
  reason : String
  deriving DecidableEq, Repr

namespace Closing

/-- the work is done -/
def normal : Nat := 1000

/-- an endpoint goes away -/
def away : Nat := 1001

/-- a peer broke the protocol -/
def violation : Closing := ⟨1002, "Protocol violation"⟩

/-- whether a peer may close with a code -/
def isAllowed (code : Nat) : Bool :=
  (1000 ≤ code && code ≤ 1003) || (1007 ≤ code && code ≤ 1013) || (3000 ≤ code && code ≤ 4999)

end Closing

/-- a message of either side -/
inductive Message where
  | text (t : String)
  | binary (bs : Bytes)
  | ping (bs : Bytes)
  | pong (bs : Bytes)
  | close (c : Option Closing)
  deriving DecidableEq, Repr

end RequestPipeline.Socket
