import RequestPipeline.Text.Utf8
import RequestPipeline.Text.Quoted
import RequestPipeline.Json.Print

/-!
# What can be wrong with a JSON document

A document can break the grammar (`Flaw`), or it can be a document whose values are not those of the
record it is read into (`Mismatch`).  A `Fault` is one of these with the place where reading stopped:
the number of bytes that were left.  `Fault.message` is its wording, with the line and the column of
that place when there is one.
-/

namespace RequestPipeline.Json

inductive Flaw where
  | endInValue | endInList | endInObject | endInString
  | expectedColon | expectedListComma | expectedObjectComma | expectedWord | expectedValue
  | badNumber | numberRange | badEscape | controlCharacter | badCodePoint | loneSurrogate
  | endOfHexEscape | keyNotText | trailingComma | trailingCharacters | tooDeep
  deriving DecidableEq, Repr

def Flaw.message : Flaw → String
  | .endInValue => "EOF while parsing a value"
  | .endInList => "EOF while parsing a list"
  | .endInObject => "EOF while parsing an object"
  | .endInString => "EOF while parsing a string"
  | .expectedColon => "expected `:`"
  | .expectedListComma => "expected `,` or `]`"
  | .expectedObjectComma => r"expected `,` or `}`"
  | .expectedWord => "expected ident"
  | .expectedValue => "expected value"
  | .badNumber => "invalid number"
  | .numberRange => "number out of range"
  | .badEscape => "invalid escape"
  | .controlCharacter => "control character (\\u0000-\\u001F) found while parsing a string"
  | .badCodePoint => "invalid unicode code point"
  | .loneSurrogate => "lone leading surrogate in hex escape"
  | .endOfHexEscape => "unexpected end of hex escape"
  | .keyNotText => "key must be a string"
  | .trailingComma => "trailing comma"
  | .trailingCharacters => "trailing characters"
  | .tooDeep => "recursion limit exceeded"

/-- a value that is not the one a record asks for -/
inductive Mismatch where
  /-- a value of another kind -/
  | kind (found : Value) (expected : String)
  /-- a value of the right kind outside its range -/
  | range (found : Value) (expected : String)
  /-- a list with too few or too many items for a record -/
  | length (found : Nat) (expected : String)
  | unknownField (name : String) (fields : List String)
  | missingField (name : String)
  | duplicateField (name : String)
  deriving Repr

/-- names in backticks, as a choice -/
def fieldChoice : List String → String
  | [] => "there are no fields"
  | [a] => "expected `" ++ a ++ "`"
  | [a, b] => "expected `" ++ a ++ "` or `" ++ b ++ "`"
  | as => "expected one of " ++ ", ".intercalate (as.map fun a => "`" ++ a ++ "`")

/-- a value as a complaint names it -/
def Value.described : Value → String
  | .null => "null"
  | .bool b => "boolean `" ++ (if b then "true" else "false") ++ "`"
  | .number (.int i) => "integer `" ++ String.ofList (Text.ofInt i) ++ "`"
  | .number (.float f) => "floating point `" ++ String.ofList f.text ++ "`"
  | .string s => "string " ++ Text.quoted s
  | .array _ => "sequence"
  | .object _ => "map"

def Mismatch.message : Mismatch → String
  | .kind found expected => "invalid type: " ++ found.described ++ ", expected " ++ expected
  | .range found expected => "invalid value: " ++ found.described ++ ", expected " ++ expected
  | .length found expected =>
    "invalid length " ++ String.ofList (Text.ofNat found) ++ ", expected " ++ expected
  | .unknownField name fields => "unknown field `" ++ name ++ "`, " ++ fieldChoice fields
  | .missingField name => "missing field `" ++ name ++ "`"
  | .duplicateField name => "duplicate field `" ++ name ++ "`"

inductive Cause where
  | flaw (f : Flaw)
  | mismatch (m : Mismatch)
  deriving Repr

def Cause.message : Cause → String
  | .flaw f => f.message
  | .mismatch m => m.message

/-- What is wrong, and how many bytes of the document were left there; a mismatch is noticed before
its place is known. -/
structure Fault where
  cause : Cause
  left : Option Nat
  deriving Repr

/-- what a step of reading gives: a result and the bytes that follow it -/
abbrev Reading (α : Type) := Except Fault (α × Bytes)

/-- a breach of the grammar before `rest` -/
def flawAt {α : Type} (f : Flaw) (rest : Bytes) : Except Fault α :=
  .error ⟨.flaw f, some rest.length⟩

/-- a breach of the grammar by the first byte of `rest`, whose place is just behind that byte -/
def flawBy {α : Type} (f : Flaw) (rest : Bytes) : Except Fault α :=
  .error ⟨.flaw f, some (rest.length - 1)⟩

/-- a mismatch whose place is not yet known -/
def mismatch {α : Type} (m : Mismatch) : Except Fault α := .error ⟨.mismatch m, none⟩

/-- gives a fault without a place the place before `rest` -/
def Fault.placed (f : Fault) (rest : Bytes) : Fault :=
  match f.left with
  | some _ => f
  | none => { f with left := some rest.length }

/-- line and column after the first `n` bytes -/
def lineColumn : Nat → (line column : Nat) → Bytes → Nat × Nat
  | 0, line, column, _ => (line, column)
  | _ + 1, line, column, [] => (line, column)
  | n + 1, line, column, b :: bs =>
    if b = 10 then lineColumn n (line + 1) 0 bs else lineColumn n line (column + 1) bs

def Fault.message (document : Bytes) (f : Fault) : String :=
  match f.left with
  | none => f.cause.message
  | some left =>
    let (line, column) := lineColumn (document.length - left) 1 0 document
    f.cause.message ++ " at line " ++ String.ofList (Text.ofNat line) ++ " column " ++
      String.ofList (Text.ofNat column)

end RequestPipeline.Json
