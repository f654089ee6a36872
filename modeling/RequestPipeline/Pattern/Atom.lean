import RequestPipeline.Pattern.Mode
import RequestPipeline.Text.Ascii

/-!
# The smallest parts of a pattern

An atom is a character, a class of characters with a letter for its name, or a place between characters.
Most of them can be written with a backslash, which `escape?` reads.  Tables of scripts are not at hand:
what needs them is refused, and so is what would match a part of a character (`Atom.isAllowed`,
`Atom.isElement`).
-/

namespace RequestPipeline.Pattern

/-- a part of a pattern that has no parts -/
inductive Atom where
  /-- a character; `byte` if it is given by the two digits of its code -/
  | literal (c : Char) (byte : Bool)
  /-- any character but a line end -/
  | any
  /-- digits, blanks or parts of words, or every character but those -/
  | kind (negated : Bool)
  /-- the start or the end of a line or of the text -/
  | edge
  /-- a place where a word starts or ends, or one where none does -/
  | boundary
  deriving DecidableEq, Repr

namespace Atom

def isAllowed (m : Mode) : Atom → Bool
  | .literal c byte => if m.unicode then !m.caseless else !byte || c.toNat < 128
  | .any => m.unicode
  | .kind negated => !m.unicode && !negated
  | .edge => true
  | .boundary => !m.unicode

def isElement (m : Mode) : Atom → Bool
  | .literal c _ => if m.unicode then !m.caseless else c.toNat < 128
  | .kind negated => !m.unicode && !negated
  | _ => false

end Atom

/-- reads some hexadecimal digits, which may have gaps between them -/
def hexDigits? (m : Mode) : (count : Nat) → Reading (List Char)
  | 0, cs => some ([], cs)
  | n + 1, cs =>
    match m.skip cs with
    | [] => none
    | c :: cs =>
      if (Text.hexDigit? c).isSome then (hexDigits? m n cs).map fun (ds, cs) => (c :: ds, cs)
      else none

def code? (m : Mode) (digits : Nat) (cs : List Char) : Option (Atom × List Char) := do
  let (ds, cs) ← hexDigits? m digits cs
  return (.literal (← Text.codePoint? ds) (digits = 2), cs)

/-- the character that a letter behind a backslash stands for -/
def special? (c : Char) : Option Char :=
  [('a', '\x07'), ('f', '\x0c'), ('t', '\t'), ('n', '\n'), ('r', '\r'), ('v', '\x0b')].lookup c

def escape? (m : Mode) : Reading Atom
  | [] => none
  | c :: cs =>
    if c = 'x' then code? m 2 cs
    else if c = 'u' then code? m 4 cs
    else if c = 'U' then code? m 8 cs
    else if ['d', 's', 'w'].contains c then some (.kind false, cs)
    else if ['D', 'S', 'W'].contains c then some (.kind true, cs)
    else if ['A', 'z'].contains c then some (.edge, cs)
    else if ['b', 'B', '<', '>'].contains c then some (.boundary, cs)
    else
      match special? c with
      | some d => some (.literal d false, cs)
      | none =>
        if c.toNat < 128 ∧ ¬ Text.isAlnum c then some (.literal c false, cs) else none

/-- an atom outside of brackets; signs with a meaning of their own must have been read before -/
def atom? (m : Mode) : Reading Atom
  | [] => none
  | c :: cs =>
    if c = '\\' then escape? m cs
    else if c = '.' then some (.any, cs)
    else if c = '^' ∨ c = '$' then some (.edge, cs)
    else some (.literal c false, cs)

end RequestPipeline.Pattern
