import RequestPipeline.Text.Blank
import RequestPipeline.Text.Ascii
import RequestPipeline.Text.Split

/-!
# Universally unique identifiers

An identifier is a number of 128 bits.  `Uuid.render` writes it as lower-case hexadecimal digits in the
groups 8-4-4-4-12; `Uuid.parse?` reads that form in either case, also between braces or behind
`urn:uuid:`, and the 32 digits without hyphens.
-/

namespace RequestPipeline

/-- an identifier of 128 bits -/
structure Uuid where
  value : BitVec 128
  deriving DecidableEq, Repr

namespace Uuid

/-- the number that a list of hexadecimal digits denotes, continuing from `acc` -/
def hexValue (acc : Nat) : List Char → Option Nat
  | [] => some acc
  | c :: cs =>
    match Text.hexDigit? c with
    | some d => hexValue (acc * 16 + d) cs
    | none => none

/-- the lowest `n` hexadecimal digits of a number -/
def hexDigits : Nat → Nat → List Char
  | 0, _ => []
  | n + 1, v => hexDigits n (v / 16) ++ [Text.hexChar (v % 16)]

def parseDigits? (cs : List Char) : Option Uuid :=
  if cs.length = 32 then (hexValue 0 cs).map fun n => ⟨BitVec.ofNat 128 n⟩ else none

/-- reads digits in the groups 8-4-4-4-12 -/
def parseGroups? (cs : List Char) : Option Uuid :=
  match Text.split '-' cs with
  | [a, b, c, d, e] =>
    if a.length = 8 ∧ b.length = 4 ∧ c.length = 4 ∧ d.length = 4 ∧ e.length = 12 then
      parseDigits? (a ++ b ++ c ++ d ++ e)
    else none
  | _ => none

def unbraced? (cs : List Char) : Option (List Char) :=
  match cs with
  | '{' :: rest =>
    match rest.reverse with
    | '}' :: inner => some inner.reverse
    | _ => none
  | _ => none

/-- reads an identifier in any of its four spellings -/
def parse? (cs : List Char) : Option Uuid :=
  if cs.length = 32 then parseDigits? cs
  else if cs.length = 36 then parseGroups? cs
  else if cs.length = 38 then (unbraced? cs).bind parseGroups?
  else if cs.length = 45 then (Text.dropFront? "urn:uuid:".toList cs).bind parseGroups?
  else none

def digits (u : Uuid) : List Char := hexDigits 32 u.value.toNat

/-- lower-case digits in the groups 8-4-4-4-12 -/
def chars (u : Uuid) : List Char :=
  let ds := u.digits
  ds.take 8 ++ '-' :: ((ds.drop 8).take 4 ++ '-' :: ((ds.drop 12).take 4 ++ '-' ::
    ((ds.drop 16).take 4 ++ '-' :: ds.drop 20)))

def render (u : Uuid) : String := String.ofList u.chars

/-- the version that an identifier states in its thirteenth digit -/
def version (u : Uuid) : Nat := (u.value.toNat >>> 76) % 16

/-- the identifier that ties the answer to a request together: blanks around it do not matter -/
def ofHeaderText? (s : String) : Option Uuid := parse? (Text.trimChars s.toList)

end Uuid
end RequestPipeline
