import RequestPipeline.Validation.Schema
import RequestPipeline.Number.Literal
import RequestPipeline.Text.Split

/-!
# Coercion

Values from query strings are texts, and values from bodies are JSON of any kind; `coerce` turns either
into the kind that a field asks for, or says that it cannot.  An integer is a whole number of 64 bits:
from a floating-point number only when it is whole and of magnitude below `2^53`.  A list may be given as
an array, as a text with commas, or as one number.
-/

namespace RequestPipeline.Validation

open RequestPipeline.Json (Value Members Number)

/-- the whole number of a floating-point number of magnitude below `2^53` -/
def wholeFloat? (f : Finite64) : Option Int :=
  f.toInt?.bind fun i => if i.natAbs < 9007199254740992 then some i else none

def integer? : Value → Option Int
  | .number n =>
    match n.int64? with
    | some i => some i
    | none => n.toFloat?.bind wholeFloat?
  | .string s => Text.int64? (Text.trimChars s.toList)
  | _ => none

def number? : Value → Option Number
  | .number n => some n
  | .string s =>
    let cs := Text.trimChars s.toList
    match Text.int64? cs with
    | some i => some (.int i)
    | none => ((Float64.parse? cs).bind Float64.finite?).map .float
  | _ => none

def boolean? : Value → Option Bool
  | .bool b => some b
  | .string s =>
    match Text.trim s with
    | "true" => some true
    | "1" => some true
    | "false" => some false
    | "0" => some false
    | _ => none
  | _ => none

/-- a text itself -/
def text? : Value → Option String
  | .string s => some s
  | _ => none

/-- the items that one item of an array stands for -/
def expandItem : Value → List Value
  | .string s => (Text.commaParts s).map .string
  | v => [v]

def listItems? : Value → Option (List Value)
  | .array vs => some (vs.flatMap expandItem)
  | .string s => some ((Text.commaParts s).map .string)
  | .number n => some [.number n]
  | _ => none

/-- `f` on every item, if it is possible on each -/
def allItems? {α β : Type} (f : α → Option β) : List α → Option (List β)
  | [] => some []
  | a :: as => (f a).bind fun b => (allItems? f as).map (b :: ·)

def coerce (v : Value) : Kind → Option Value
  | .integer => (integer? v).map .ofInt
  | .number => (number? v).map .number
  | .boolean => (boolean? v).map .bool
  | .string => (text? v).map .string
  | .integerList => (listItems? v).bind fun vs =>
    (allItems? integer? vs).map fun is => .array (is.map .ofInt)
  | .stringList => (listItems? v).bind fun vs =>
    (allItems? text? vs).map fun ss => .array (ss.map .string)
  | .object =>
    match v with
    | .object ms => some (.object ms)
    | _ => none
  | .any => some v

end RequestPipeline.Validation
