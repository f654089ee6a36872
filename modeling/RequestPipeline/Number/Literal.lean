import RequestPipeline.Number.Binary64
import RequestPipeline.Text.Decimal

/-!
# Decimal literals in texts

`Float64.parse?` reads a whole text as a number: an optional sign, digits with an optional point (a
digit on at least one side of it), an optional power of ten, or one of the words `inf`, `infinity` and
`nan` in any case.  Every such literal is rounded once, so the result is the nearest number.
-/

namespace RequestPipeline

/-- a run of digits: their value on top of `acc`, how many there were, and the rest -/
def Text.digitRun (acc count : Nat) : List Char → Nat × Nat × List Char
  | [] => (acc, count, [])
  | c :: cs =>
    match Text.digit? c with
    | some d => Text.digitRun (acc * 10 + d) (count + 1) cs
    | none => (acc, count, c :: cs)

namespace Float64

def exponent? : List Char → Option Int
  | [] => some 0
  | c :: cs =>
    if c = 'e' ∨ c = 'E' then Text.integer? cs else none

def parseMagnitude? (negative : Bool) (cs : List Char) : Option Float64 :=
  let (whole, n, rest) := Text.digitRun 0 0 cs
  let (digits, m, rest) :=
    match rest with
    | '.' :: rest => Text.digitRun whole 0 rest
    | rest => (whole, 0, rest)
  if n + m = 0 then
    match String.ofList (cs.map Text.lowerChar) with
    | "inf" | "infinity" => some (.infinite negative)
    | "nan" => some .nan
    | _ => none
  else (exponent? rest).map fun e => ofDecimal negative digits (e - m)

def parse? : List Char → Option Float64
  | '-' :: cs => parseMagnitude? true cs
  | '+' :: cs => parseMagnitude? false cs
  | cs => parseMagnitude? false cs

end Float64
end RequestPipeline
