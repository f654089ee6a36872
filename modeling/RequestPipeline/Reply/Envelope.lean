import RequestPipeline.Reply.Exposure
import RequestPipeline.Context
import RequestPipeline.Json.Record

/-!
# Replies and their envelopes

An operation replies with data under an exposure, with an envelope that is ready, or with bytes.  Data is
projected and wrapped: the envelope of an array also states how many items it has.  Envelopes and bytes go
out as they are.
-/

namespace RequestPipeline

open Json (Value Members Reader)

/-- data with the number of its items, if it is a sequence -/
structure Envelope where
  data : Value
  size : Option Nat
  deriving Repr

namespace Envelope

def wrap (data : Value) : Envelope :=
  match data with
  | .array vs => ⟨data, some vs.length⟩
  | _ => ⟨data, none⟩

/-- whether an envelope states a size -/
def isSequence (e : Envelope) : Bool := e.size.isSome

def toJson (e : Envelope) : Value :=
  let info :=
    match e.size with
    | some n => [("size", Value.ofNat n)]
    | none => []
  Json.object [("data", e.data), ("meta", Json.object info)]

/-- how an envelope is read; what it states about its data may be left out -/
def reader : Reader :=
  .record "ResponseEnvelope" false
    [⟨"data", .any, true⟩,
      ⟨"meta", .record "Meta" false [⟨"size", .optional .size, false⟩], false⟩]

def ofRecord (v : Value) : Envelope :=
  ⟨(v.get? "data").getD .null, ((v.get? "meta").bind fun m => m.get? "size").bind Value.nat?⟩

def ofJson (v : Value) : Except String Envelope := (reader.convert v).map ofRecord

end Envelope

structure Blob where
  contentType : String
  bytes : Bytes
  deriving DecidableEq, Repr

inductive Reply where
  | data (value : Value) (exposure : Exposure)
  | envelope (e : Envelope)
  | binary (b : Blob)

namespace Reply

/-- the reply with a result under its exposure, if the result can be written as a value -/
def ofResult (result : Except String Value) (exposure : Exposure) : Except Failure Reply :=
  match result with
  | .ok v => .ok (.data v exposure)
  | .error e => .error (.internal "failed to serialize reply" (some e))

/-- the reply with the items of a list under their exposure, if each of them can be written as a value -/
def list {α : Type} (write : α → Except String Value) (items : List α) (exposure : Exposure) : Except Failure Reply :=
  ofResult ((items.mapM write).map .array) exposure

/-- a reply of which no object shows anything -/
def untyped (v : Value) : Reply := .data v .nothing

def isPassThrough : Reply → Bool
  | .data .. => false
  | _ => true

end Reply

/-- a reply of which only what is exposed is left -/
inductive Filtered where
  | data (value : Value)
  | envelope (e : Envelope)
  | binary (b : Blob)

/-- keeps of a reply what is exposed -/
def Reply.filter : Reply → Filtered
  | .data value exposure => .data (exposure.project value)
  | .envelope e => .envelope e
  | .binary b => .binary b

inductive Outgoing where
  | envelope (e : Envelope)
  | binary (b : Blob)

inductive ReplyKind where
  | data | envelope | binary
  deriving DecidableEq, Repr

def ReplyKind.label : ReplyKind → String
  | .data => "data"
  | .envelope => "envelope"
  | .binary => "binary"

namespace Filtered

def kind : Filtered → ReplyKind
  | .data _ => .data
  | .envelope _ => .envelope
  | .binary _ => .binary

def outgoing : Filtered → Outgoing
  | .data v => .envelope (.wrap v)
  | .envelope e => .envelope e
  | .binary b => .binary b

end Filtered
end RequestPipeline
