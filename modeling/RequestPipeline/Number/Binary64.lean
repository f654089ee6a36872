/-!
# Floating-point numbers of 64 bits, exactly

A finite number is a sign, a mantissa and a power of two, kept in its one canonical form, so that
two numbers of one value are equal (except the two zeros, which differ in sign).  All arithmetic
goes through `Finite64.ofRatio`, which rounds an exact quotient of natural numbers to the nearest
number, a tie to the even mantissa.  Comparison is exact: `Finite64.scaled` gives a number as a whole
multiple of the least positive one.
-/

namespace RequestPipeline

/-- a finite number: `(-1)^negative * mantissa * 2^exponent`; the mantissa is below `2^53`, and at least
`2^52` unless the exponent is the least one -/
structure Finite64 where
  negative : Bool
  mantissa : Nat
  exponent : Int
  canonical : mantissa < 9007199254740992 ∧ -1074 ≤ exponent ∧ exponent ≤ 971 ∧
    (4503599627370496 ≤ mantissa ∨ exponent = -1074)
  deriving DecidableEq, Repr

namespace Finite64

def zero (negative : Bool) : Finite64 := ⟨negative, 0, -1074, by decide⟩

instance : Inhabited Finite64 := ⟨zero false⟩

/-- a number from its parts, if they are in canonical form -/
def ofParts? (negative : Bool) (mantissa : Nat) (exponent : Int) : Option Finite64 :=
  if h : mantissa < 9007199254740992 ∧ -1074 ≤ exponent ∧ exponent ≤ 971 ∧
      (4503599627370496 ≤ mantissa ∨ exponent = -1074) then
    some ⟨negative, mantissa, exponent, h⟩
  else none

/-- the quotient rounded to the nearest whole number, a tie to the even one -/
def divEven (num den : Nat) : Nat :=
  let q := num / den
  let r := num % den
  if 2 * r < den then q
  else if den < 2 * r then q + 1
  else if q % 2 = 0 then q else q + 1

/-- `num / den` times `2^(-e)`, as a quotient of natural numbers -/
def scaleRatio (num den : Nat) (e : Int) : Nat × Nat :=
  match e with
  | .ofNat k => (num, den * Nat.pow 2 k)
  | .negSucc k => (num * Nat.pow 2 (k + 1), den)

/-- the greatest `e` with `2^e ≤ num / den` -/
def binaryOrder (num den : Nat) : Int :=
  let k : Int := (num.log2 : Int) - (den.log2 : Int)
  let (n, d) := scaleRatio num den k
  if d ≤ n then k else k - 1

/-- the number nearest to `num / den`, a tie to the even mantissa; nothing if that is past the
greatest number -/
def ofRatio (negative : Bool) (num den : Nat) : Option Finite64 :=
  if num = 0 ∨ den = 0 then some (zero negative)
  else
    let q := max (binaryOrder num den - 52) (-1074)
    let (n, d) := scaleRatio num den q
    let m := divEven n d
    if m = 9007199254740992 then ofParts? negative 4503599627370496 (q + 1)
    else ofParts? negative m q

def ofInt (i : Int) : Option Finite64 := ofRatio (i < 0) i.natAbs 1

/-- the number nearest to `digits * 10^exponent`; nothing if that is past the greatest number -/
def ofDecimal (negative : Bool) (digits : Nat) (exponent : Int) : Option Finite64 :=
  if digits = 0 then some (zero negative)
  else
    let size : Int := (Nat.toDigits 10 digits).length
    if 400 < size + exponent then none
    else if size + exponent < -400 then some (zero negative)
    else
      match exponent with
      | .ofNat k => ofRatio negative (digits * Nat.pow 10 k) 1
      | .negSucc k => ofRatio negative digits (Nat.pow 10 (k + 1))

/-- numerator and denominator of the magnitude -/
def ratio (f : Finite64) : Nat × Nat :=
  match f.exponent with
  | .ofNat k => (f.mantissa * Nat.pow 2 k, 1)
  | .negSucc k => (f.mantissa, Nat.pow 2 (k + 1))

def mul (f g : Finite64) : Option Finite64 :=
  let (a, b) := f.ratio
  let (c, d) := g.ratio
  ofRatio (f.negative != g.negative) (a * c) (b * d)

/-- the quotient, rounded; the divisor is not zero -/
def div (f g : Finite64) : Option Finite64 :=
  let (a, b) := f.ratio
  let (c, d) := g.ratio
  ofRatio (f.negative != g.negative) (a * d) (b * c)

def neg (f : Finite64) : Finite64 := { f with negative := !f.negative }

/-- the denominator of the least positive number: `2^1074` -/
def unit : Nat := Nat.pow 2 1074

/-- the number as a multiple of `2^(-1074)` -/
def scaled (f : Finite64) : Int :=
  let n : Int := (f.mantissa * Nat.pow 2 (f.exponent + 1074).toNat : Nat)
  if f.negative then -n else n

def add (f g : Finite64) : Option Finite64 :=
  let s := f.scaled + g.scaled
  if s = 0 then some (zero (f.negative && g.negative)) else ofRatio (s < 0) s.natAbs unit

def le (f g : Finite64) : Bool := decide (f.scaled ≤ g.scaled)

def lt (f g : Finite64) : Bool := decide (f.scaled < g.scaled)

/-- the value, if it is a whole number -/
def toInt? (f : Finite64) : Option Int :=
  if f.scaled % (unit : Int) = 0 then some (f.scaled / (unit : Int)) else none

end Finite64

inductive Float64 where
  | finite (value : Finite64)
  | infinite (negative : Bool)
  | nan
  deriving DecidableEq, Repr

namespace Float64

instance : Inhabited Float64 := ⟨.finite default⟩

/-- a rounded result, where what is past the greatest number is infinite -/
def ofRounded (negative : Bool) : Option Finite64 → Float64
  | some f => .finite f
  | none => .infinite negative

def finite? : Float64 → Option Finite64
  | .finite f => some f
  | _ => none

/-- the number `digits * 10^exponent`, rounded -/
def ofDecimal (negative : Bool) (digits : Nat) (exponent : Int) : Float64 :=
  ofRounded negative (Finite64.ofDecimal negative digits exponent)

/-- whether `a` is at most `b`; false when either is not a number -/
def le : Float64 → Float64 → Bool
  | .nan, _ => false
  | _, .nan => false
  | .infinite true, _ => true
  | _, .infinite false => true
  | .infinite false, _ => false
  | _, .infinite true => false
  | .finite f, .finite g => f.le g

end Float64
end RequestPipeline
