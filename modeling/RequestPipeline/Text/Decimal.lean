import RequestPipeline.Text.Ascii

/-!
# Decimal integers in texts

`Text.natural?` reads a non-empty run of decimal digits, `Text.integer?` one with an optional sign
in front, and `Text.bounded?` keeps an integer only inside a range.  A digit run denotes the number that
`Text.foldDigits` computes, most significant digit first.
-/

namespace RequestPipeline.Text

/-- the value of a list of digits, most significant first, continuing from `acc` -/
def foldDigits (acc : Nat) : List Char → Option Nat
  | [] => some acc
  | c :: cs =>
    match digit? c with
    | some d => foldDigits (acc * 10 + d) cs
    | none => none

def natural? : List Char → Option Nat
  | [] => none
  | cs => foldDigits 0 cs

/-- reads an optional sign followed by one or more decimal digits -/
def integer? : List Char → Option Int
  | '+' :: cs => (natural? cs).map Int.ofNat
  | '-' :: cs => (natural? cs).map fun n => -Int.ofNat n
  | cs => (natural? cs).map Int.ofNat

def bounded? (lo hi : Int) (i : Int) : Option Int :=
  if lo ≤ i ∧ i ≤ hi then some i else none

def minInt64 : Int := -9223372036854775808

def maxInt64 : Int := 9223372036854775807

def maxUInt64 : Int := 18446744073709551615

def maxUInt32 : Int := 4294967295

def int64? (cs : List Char) : Option Int := (integer? cs).bind (bounded? minInt64 maxInt64)

/-- reads an unsigned integer of 64 bits: a plus sign is allowed, a minus sign is not -/
def uint64? : List Char → Option Nat
  | '-' :: _ => none
  | cs => ((integer? cs).bind (bounded? 0 maxUInt64)).map Int.toNat

def ofNat (n : Nat) : List Char := Nat.toDigits 10 n

/-- the decimal digits of an integer, with a minus sign below zero -/
def ofInt : Int → List Char
  | .ofNat n => ofNat n
  | .negSucc n => '-' :: ofNat (n + 1)

end RequestPipeline.Text
