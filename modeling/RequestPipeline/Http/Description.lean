import RequestPipeline.Extraction.Body
import RequestPipeline.Failure.Description
import RequestPipeline.Text.Ascii

/-!
# Descriptions of requests and responses

Bytes are described by a text, by hexadecimal digits or by a text and a number of repetitions, and are shown
as a text where they are one and as hexadecimal digits elsewhere.
-/

namespace RequestPipeline

open Json (Value)

def bytesOfHex : List Char → Bytes
  | a :: b :: cs =>
    ((Text.hexDigit? a).getD 0 * 16 + (Text.hexDigit? b).getD 0).toUInt8 :: bytesOfHex cs
  | _ => []

def Bytes.ofJson (v : Value) : Bytes :=
  match v with
  | .string t => Utf8.ofText t
  | v =>
    match (v.part "hex").text? with
    | some digits => bytesOfHex digits.toList
    | none =>
      let repeated := v.part "repeat"
      (List.replicate ((repeated.item 1).nat?.getD 0) (Utf8.ofText (repeated.itemText 0))).flatten

def Bytes.toJson (bs : Bytes) : Value :=
  match Utf8.toText? bs with
  | some t => .string t
  | none => Json.object [("hex", .string (String.ofList (bs.flatMap Text.hexByte)))]

def fieldName (v : Value) : String :=
  String.ofList (((Utf8.toText? (Bytes.ofJson v)).getD "").toList.map Text.lowerChar)

/-- the fields of a description: pairs of a name and a value -/
def Headers.ofJson (v : Value) : Headers :=
  (v.items?.getD []).map fun h => (fieldName (h.item 0), Bytes.ofJson (h.item 1))

def Headers.toJson (hs : Headers) : Value :=
  .array ((hs.mergeSort fun a b => a.1 ≤ b.1).map fun (n, v) => .array [.string n, Bytes.toJson v])

def Request.ofJson (v : Value) : Request :=
  ⟨v.textOr "method" "GET", .parse (v.textOr "uri" "/"), Headers.ofJson (v.part "headers"),
    Bytes.ofJson (v.part "body")⟩

def Response.toJson (r : Response) : Value :=
  Json.object
    [("status", .ofNat r.status), ("headers", Headers.toJson r.headers), ("body", Bytes.toJson r.body)]

namespace ExtractionFault

def kind : ExtractionFault → String
  | .malformed .. => "Malformed"
  | .tooLarge .. => "PayloadTooLarge"
  | .mediaType .. => "UnsupportedMediaType"

/-- a fault as a value, with the failure that reports it -/
def toJson (f : ExtractionFault) : Value :=
  Json.object
    [("error", .string f.kind), ("message", .string f.message), ("status", .ofNat f.status),
      ("source", .string f.part.name), ("api", f.failure.toJson)]

end ExtractionFault
end RequestPipeline
