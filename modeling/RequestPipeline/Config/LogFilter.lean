import RequestPipeline.Number.Literal
import RequestPipeline.Pattern.Validity
import RequestPipeline.Text.Alphanumeric
import RequestPipeline.Text.Decimal
import RequestPipeline.Text.Split

/-!
# Log filters

A log filter is a list of directives with commas between them.  A directive is a level, or a target with an
optional span, an optional field of that span and an optional level behind an equals sign.
`LogFilter.isLevel` knows the levels, `LogFilter.isField` the fields, and `LogFilter.isFilter` reads
directives as the logging subsystem does, character by character.
-/

namespace RequestPipeline.LogFilter

/-- whether a text is a level: a name in any case, a number from 0 to 5, or nothing -/
def isLevel (cs : List Char) : Bool :=
  let name := String.ofList (cs.map Text.lowerChar)
  ["", "error", "warn", "info", "debug", "trace", "off"].contains name ||
    ((Text.uint64? cs).any fun n => n ≤ 5)

/-- whether a field may have a value: a truth value, a number or a pattern for its text -/
def isFieldValue (cs : List Char) : Bool :=
  ["true", "false"].contains (String.ofList cs) || (Float64.parse? cs).isSome || Pattern.isValid cs

/-- whether a field can be read: a name, and a value between its first equals sign and the second -/
def isField (cs : List Char) : Bool :=
  match Text.split '=' cs with
  | _ :: value :: _ => isFieldValue value
  | _ => true

/-! ## directives -/

/-- the characters behind the first bytes of a text -/
def dropBytes (bytes : Nat) : List Char → List Char
  | [] => []
  | c :: cs => if bytes = 0 then c :: cs else dropBytes (bytes - c.utf8Size) cs

/-- the characters in the first bytes of a text -/
def takeBytes (bytes : Nat) : List Char → List Char
  | [] => []
  | c :: cs => if bytes = 0 then [] else c :: takeBytes (bytes - c.utf8Size) cs

/-- what has been read of a directive -/
inductive State where
  | start
  /-- a level or a target, which cannot be told apart yet -/
  | word
  | span
  /-- a field that begins at this position -/
  | field (position : Nat)
  | afterField
  | afterSpan
  /-- a level that begins at this position -/
  | level (position : Nat)
  | bad
  deriving DecidableEq, Repr

/-- Reads one more character of a directive, which stands at `position`.  Positions count bytes from the
first character that is no blank, and yet what stands at them is taken from the directive with its blanks. -/
def State.step (directive : List Char) (position : Nat) (c : Char) : State → State
  | .start =>
    if c = '[' then .span
    else if c = '-' ∨ c = ':' ∨ c = '_' ∨ Text.isAlphanumeric c then .word
    else .bad
  | .word =>
    if c = '=' then .level (position + 1) else if c = '[' then .span else .word
  | .span =>
    if c = ']' then .afterSpan else if c = '{' then .field (position + 1) else .span
  | .field p =>
    if c = '}' then
      let field := takeBytes (position - p) (dropBytes p directive)
      if ¬ field.isEmpty ∧ isField field then .afterField else .bad
    else .field p
  | .afterField => if c = ']' then .afterSpan else .bad
  | .afterSpan => if c = '=' then .level (position + 1) else .bad
  | .level p => .level p
  | .bad => .bad

def State.run (directive : List Char) (position : Nat) (s : State) : List Char → State
  | [] => s
  | c :: cs => State.run directive (position + c.utf8Size) (s.step directive position c) cs

def isDirective (cs : List Char) : Bool :=
  match State.run cs 0 .start (Text.trimChars cs) with
  | .word => true
  | .afterSpan => true
  | .level p =>
    let level := dropBytes p cs
    level.isEmpty || isLevel level
  | _ => false

/-- whether every directive of a filter can be read; empty ones are skipped -/
def isFilter (filter : String) : Bool :=
  (Text.split ',' filter.toList).all fun d => d.isEmpty || isDirective d

/-- the level part of a directive: what stands behind its last equals sign -/
def levelPart (directive : List Char) : List Char :=
  match Text.cutLast '=' directive with
  | some (_, level) => level
  | none => directive

/-- the first directive whose level part is no level -/
def firstBadLevel (filter : String) : Option String :=
  (Text.commaParts filter).find? fun d => !isLevel (levelPart d.toList)

end RequestPipeline.LogFilter
