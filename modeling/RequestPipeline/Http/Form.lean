import RequestPipeline.Text.Utf8
import RequestPipeline.Text.Ascii
import RequestPipeline.Json.Value

/-!
# Query strings

A query string is a list of pairs between ampersands.  `Form.pairs` decodes them: a plus is a space, a
percent sign with two hexadecimal digits is a byte, and bytes that are no text become U+FFFD.
`Query.collect` gathers the pairs into an object: a key that occurs once holds a text, one that occurs
more often the array of its texts in order.
-/

namespace RequestPipeline

namespace Form

/-- the pieces between the bytes `sep` -/
def split (sep : UInt8) : Bytes → List Bytes
  | [] => [[]]
  | b :: bs =>
    match split sep bs with
    | [] => [[b]]
    | piece :: pieces => if b = sep then [] :: piece :: pieces else (b :: piece) :: pieces

def hexDigit? (b : UInt8) : Option Nat := Text.hexDigit? (Char.ofNat b.toNat)

/-- the bytes of an encoded part; a percent sign without two digits stays -/
def unescape : Bytes → Bytes
  | [] => []
  | 43 :: rest => 32 :: unescape rest
  | 37 :: a :: b :: rest =>
    match hexDigit? a, hexDigit? b with
    | some x, some y => (x * 16 + y).toUInt8 :: unescape rest
    | _, _ => 37 :: unescape (a :: b :: rest)
  | b :: rest => b :: unescape rest

def decode (part : Bytes) : String := String.ofList (Utf8.decodeLossy (unescape part))

/-- the key and the value of an encoded pair; without an equals sign the value is empty -/
def pair (part : Bytes) : String × String :=
  (decode (part.takeWhile (· != 61)), decode ((part.dropWhile (· != 61)).drop 1))

def pairs (query : String) : List (String × String) :=
  ((split 38 (Utf8.ofText query)).filter fun p => !p.isEmpty).map pair

end Form

namespace Query

open Json (Value Members)

/-- one more value for a key -/
def add (key value : String) (acc : Members) : Members :=
  match acc.get? key with
  | none => acc.insert key (.string value)
  | some (.array vs) => acc.insert key (.array (vs ++ [.string value]))
  | some first => acc.insert key (.array [first, .string value])

def collect (pairs : List (String × String)) : Members :=
  pairs.foldl (fun acc (k, v) => add k v acc) []

def parse (query : String) : Members := collect (Form.pairs query)

end Query
end RequestPipeline
