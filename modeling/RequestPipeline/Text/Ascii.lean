/-!
# The ASCII part of texts

Case folding, digits and classes that concern the 128 ASCII characters alone: names of header
fields, tokens and media types are compared this way.
-/

namespace RequestPipeline.Text

/-- `A` to `Z` become `a` to `z`, every other character stays -/
def lowerChar (c : Char) : Char :=
  if 'A' ≤ c ∧ c ≤ 'Z' then Char.ofNat (c.toNat + 32) else c

def lowerAscii (s : String) : String := String.ofList (s.toList.map lowerChar)

/-- whether two texts differ at most in the case of ASCII letters -/
def sameAscii (s t : String) : Bool := s.toList.map lowerChar == t.toList.map lowerChar

def digit? (c : Char) : Option Nat :=
  if '0' ≤ c ∧ c ≤ '9' then some (c.toNat - '0'.toNat) else none

/-- the value of a hexadecimal digit of either case -/
def hexDigit? (c : Char) : Option Nat :=
  if '0' ≤ c ∧ c ≤ '9' then some (c.toNat - '0'.toNat)
  else if 'a' ≤ c ∧ c ≤ 'f' then some (c.toNat - 'a'.toNat + 10)
  else if 'A' ≤ c ∧ c ≤ 'F' then some (c.toNat - 'A'.toNat + 10)
  else none

/-- the character with the given code in hexadecimal digits -/
def codePoint? (digits : List Char) : Option Char := do
  let ds ← digits.mapM hexDigit?
  let n := ds.foldl (fun n d => 16 * n + d) 0
  if h : n.isValidChar then some (Char.ofNatAux n h) else none

def hexChar (n : Nat) : Char :=
  if n < 10 then Char.ofNat ('0'.toNat + n) else Char.ofNat ('a'.toNat + (n - 10))

def hexByte (b : UInt8) : List Char := [hexChar (b.toNat / 16), hexChar (b.toNat % 16)]

def isAlnum (c : Char) : Bool := c.isAlphanum

end RequestPipeline.Text
