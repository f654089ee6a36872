import RequestPipeline.Number.Binary64
import RequestPipeline.Text.Decimal

/-!
# The shortest decimal that reads back

`Finite64.shortest` gives the fewest decimal digits whose value rounds to a given number, the nearest
such value when several have that many digits.  Decimal points are set by two records of choices:
`Decimal.plain` always writes positions, `Finite64.text` changes to a power of ten outside
`10^(-5) .. 10^15` and always shows that the number has a fraction part.
-/

namespace RequestPipeline

/-- `digits * 10^exponent`, with a digit before the point at `order` -/
structure Decimal where
  digits : Nat
  exponent : Int
  deriving DecidableEq, Repr

namespace Finite64

/-- `num / den` times `10^(-e)`, as a quotient of natural numbers -/
def scaleTen (num den : Nat) (e : Int) : Nat × Nat :=
  match e with
  | .ofNat k => (num, den * Nat.pow 10 k)
  | .negSucc k => (num * Nat.pow 10 (k + 1), den)

/-- the greatest `e` with `10^e ≤ num / den` -/
def decimalOrder (num den : Nat) : Int :=
  let guess : Int := binaryOrder num den * 30103 / 100000
  let fits (e : Int) : Bool :=
    let (n, d) := scaleTen num den e
    d ≤ n
  if fits (guess + 1) then guess + 1 else if fits guess then guess else guess - 1

/-- Four times the magnitude and the ends of the interval of values that round to it, all over one
denominator; the last part says whether the ends belong to the interval. -/
structure Interval where
  low : Nat
  mid : Nat
  high : Nat
  den : Nat
  closed : Bool

/-- the interval of values that round to a positive number -/
def interval (f : Finite64) : Interval :=
  let step := if f.mantissa = 4503599627370496 ∧ f.exponent ≠ -1074 then 1 else 2
  let (up, den) : Nat × Nat :=
    match f.exponent with
    | .ofNat k => (Nat.pow 2 k, 4)
    | .negSucc k => (1, 4 * Nat.pow 2 (k + 1))
  { low := (4 * f.mantissa - step) * up
    mid := 4 * f.mantissa * up
    high := (4 * f.mantissa + 2) * up
    den := den
    closed := f.mantissa % 2 = 0 }

def Interval.contains (i : Interval) (d : Nat) (e : Int) : Bool :=
  let (n, c) : Nat × Nat :=
    match e with
    | .ofNat k => (d * Nat.pow 10 k, 1)
    | .negSucc k => (d, Nat.pow 10 (k + 1))
  let x := n * i.den
  if i.closed then i.low * c ≤ x && x ≤ i.high * c else i.low * c < x && x < i.high * c

/-- The point of the grid `10^e` that lies in the interval and is nearest to its middle, if any: only
the two neighbours of the middle come into question. -/
def Interval.onGrid (i : Interval) (e : Int) : Option Nat :=
  let (n, d) := scaleTen i.mid i.den e
  let below := n / d
  let r := n % d
  let lowFits := i.contains below e
  let highFits := i.contains (below + 1) e
  if lowFits && highFits then
    if 2 * r < d then some below
    else if d < 2 * r then some (below + 1)
    else if below % 2 = 0 then some below else some (below + 1)
  else if lowFits then some below
  else if highFits then some (below + 1)
  else none

/-- the first of the grids `10^(order - k)`, `10^(order - k - 1)`, ... with a point in the interval -/
def Interval.search (i : Interval) (order : Int) : Nat → Nat → Decimal
  | 0, k =>
    let e := order - k
    let (n, d) := scaleTen i.mid i.den e
    ⟨n / d, e⟩
  | fuel + 1, k =>
    match i.onGrid (order - k) with
    | some d => ⟨d, order - k⟩
    | none => i.search order fuel (k + 1)

/-- the fewest digits that read back as the magnitude of a number -/
def shortest (f : Finite64) : Decimal :=
  if f.mantissa = 0 then ⟨0, 0⟩
  else
    let i := f.interval
    i.search (decimalOrder i.mid i.den) 17 0

end Finite64

namespace Decimal

/-- the digits and the power of ten of the first digit -/
def scientific (d : Decimal) : List Char × Int :=
  let ds := Text.ofNat d.digits
  (ds, d.exponent + (ds.length : Int) - 1)

/-- digits with a point after the digit of `10^0`, and no point when nothing follows it -/
def positional (digits : List Char) (order : Int) : List Char × List Char :=
  match order with
  | .ofNat k =>
    if digits.length ≤ k + 1 then (digits ++ List.replicate (k + 1 - digits.length) '0', [])
    else (digits.take (k + 1), digits.drop (k + 1))
  | .negSucc k => (['0'], List.replicate k '0' ++ digits)

def dropZeros (digits : List Char) : List Char :=
  match (digits.reverse.dropWhile (· == '0')).reverse with
  | [] => ['0']
  | ds => ds

end Decimal

namespace Finite64

/-- the sign of a number in front of its digits -/
def withSign (f : Finite64) (cs : List Char) : List Char :=
  if f.negative then '-' :: cs else cs

/-- The text of a number in a document: the shortest digits, positions while the first digit stands
for `10^(-5)` to `10^15` and a signed power of ten otherwise; positions always have a fraction part. -/
def text (f : Finite64) : List Char :=
  if f.mantissa = 0 then f.withSign "0.0".toList
  else
    let (ds, order) := f.shortest.scientific
    let ds := Decimal.dropZeros ds
    f.withSign <|
      if -5 ≤ order ∧ order ≤ 15 then
        let (whole, part) := Decimal.positional ds order
        whole ++ '.' :: (if part.isEmpty then ['0'] else part)
      else
        let sign := if order < 0 then '-' else '+'
        let tail := match ds with
          | [d] => [d]
          | d :: rest => d :: '.' :: rest
          | [] => []
        tail ++ 'e' :: sign :: Text.ofNat order.natAbs

/-- the text of a number in plain positions, without a fraction part when it is whole -/
def plainText (f : Finite64) : List Char :=
  if f.mantissa = 0 then f.withSign ['0']
  else
    let (ds, order) := f.shortest.scientific
    let (whole, part) := Decimal.positional (Decimal.dropZeros ds) order
    f.withSign (if part.isEmpty then whole else whole ++ '.' :: part)

end Finite64

/-- the text of a number in plain positions, with names for what is not finite -/
def Float64.plainText : Float64 → List Char
  | .finite f => f.plainText
  | .infinite negative => if negative then "-inf".toList else "inf".toList
  | .nan => "NaN".toList

end RequestPipeline
