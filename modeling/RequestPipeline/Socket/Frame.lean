import RequestPipeline.Digest.Sha1
import RequestPipeline.Socket.Fault
import RequestPipeline.Socket.Message

/-!
# Frames of a WebSocket

A frame has a header (whether it is the last of its message, its kind, a mask, its length) and a payload.
`Frame.encode` writes one, `Frame.read` takes one off the front of the bytes that arrived, as soon as all of
it is there.
-/

namespace RequestPipeline.Socket

inductive Opcode where
  | continuation | text | binary | close | ping | pong
  deriving DecidableEq, Repr

namespace Opcode

def number : Opcode → Nat
  | .continuation => 0
  | .text => 1
  | .binary => 2
  | .close => 8
  | .ping => 9
  | .pong => 10

def ofNumber? : Nat → Option Opcode
  | 0 => some .continuation
  | 1 => some .text
  | 2 => some .binary
  | 8 => some .close
  | 9 => some .ping
  | 10 => some .pong
  | _ => none

/-- how a kind is named in a complaint -/
def name : Opcode → String
  | .text => "TEXT"
  | .binary => "BINARY"
  | _ => "CONTINUE"

end Opcode

/-- a frame, unmasked -/
structure Frame where
  isLast : Bool
  /-- whether a bit is set that has no meaning -/
  reserved : Bool
  opcode : Opcode
  masked : Bool
  payload : Bytes
  deriving DecidableEq, Repr

namespace Frame

/-- a frame that is a whole message of the server -/
def whole (opcode : Opcode) (payload : Bytes) : Frame := ⟨true, false, opcode, false, payload⟩

def closingBytes : Option Closing → Bytes
  | none => []
  | some c => Digest.bigEndian 2 c.code ++ Utf8.ofText c.reason

def ofMessage : Message → Frame
  | .text t => whole .text (Utf8.ofText t)
  | .binary bs => whole .binary bs
  | .ping bs => whole .ping bs
  | .pong bs => whole .pong bs
  | .close c => whole .close (closingBytes c)

/-- how a closing frame closes: nothing, or a code and a reason -/
def closing? (payload : Bytes) : Except WireFault (Option Closing) :=
  match payload with
  | [] => .ok none
  | [_] => .error .closeSequence
  | a :: b :: rest =>
    match Utf8.toText? rest with
    | some reason => .ok (some ⟨a.toNat * 256 + b.toNat, reason⟩)
    | none => .error .notText

def lengthBytes (masked : Bool) (n : Nat) : Bytes :=
  let bit := if masked then 128 else 0
  if n < 126 then [(bit + n).toUInt8]
  else if n < 65536 then (bit + 126).toUInt8 :: Digest.bigEndian 2 n
  else (bit + 127).toUInt8 :: Digest.bigEndian 8 n

/-- writes a frame; a mask is all zeros -/
def encode (f : Frame) : Bytes :=
  let first := (if f.isLast then 128 else 0) + (if f.reserved then 64 else 0) + f.opcode.number
  first.toUInt8 :: lengthBytes f.masked f.payload.length ++
    (if f.masked then [0, 0, 0, 0] else []) ++ f.payload

/-- what stands in front of a payload -/
structure Header where
  isLast : Bool
  reserved : Bool
  opcode : Opcode
  mask : Option Bytes
  length : Nat
  deriving DecidableEq, Repr

/-- a number in bytes, the most significant first -/
def ofBigEndian (bs : Bytes) : Nat := bs.foldl (fun n b => 256 * n + b.toNat) 0

/-- how many bytes a length takes behind its first byte -/
def extraLength (n : Nat) : Nat := if n = 126 then 2 else if n = 127 then 8 else 0

/-- reads a header; nothing until all of it has arrived -/
def readHeader (bs : Bytes) : Except WireFault (Option (Header × Bytes)) :=
  match bs with
  | first :: second :: rest =>
    let short := second.toNat % 128
    let masked := 128 ≤ second.toNat
    let extra := extraLength short
    let maskSize := if masked then 4 else 0
    if rest.length < extra + maskSize then .ok none
    else
      match Opcode.ofNumber? (first.toNat % 16) with
      | none => .error (.opcode (first.toNat % 16))
      | some opcode =>
        let length := if extra = 0 then short else ofBigEndian (rest.take extra)
        let mask := if masked then some ((rest.drop extra).take 4) else none
        .ok (some (⟨128 ≤ first.toNat, first.toNat / 16 % 8 ≠ 0, opcode, mask, length⟩,
          rest.drop (extra + maskSize)))
  | _ => .ok none

/-- puts a mask of four bytes on a payload, or takes it off -/
def unmask : (mask : Bytes) → Bytes → Bytes
  | _, [] => []
  | [], bs => bs
  | m :: mask, b :: bs => (b ^^^ m) :: unmask (mask ++ [m]) bs
termination_by _ bs => bs.length

/-- takes a frame of at most `limit` bytes off the front; nothing until all of it has arrived -/
def read (limit : Nat) (bs : Bytes) : Except WireFault (Option (Frame × Bytes)) :=
  match readHeader bs with
  | .error f => .error f
  | .ok none => .ok none
  | .ok (some (h, rest)) =>
    if limit < h.length then .error (.tooLong h.length limit)
    else if rest.length < h.length then .ok none
    else
      let payload := unmask (h.mask.getD []) (rest.take h.length)
      .ok (some (⟨h.isLast, h.reserved, h.opcode, h.mask.isSome, payload⟩, rest.drop h.length))

end Frame
end RequestPipeline.Socket
