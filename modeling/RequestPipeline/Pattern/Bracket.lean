import RequestPipeline.Pattern.Atom
import RequestPipeline.Text.Split

/-!
# Classes of characters in brackets

Brackets hold characters, ranges of them, named classes such as `[:alpha:]` and further brackets, and
operators between sets of them.  `bracket?` reads what stands behind a first bracket, up to the one that
closes it, and tells how deep the brackets and operators lie in one another.
-/

namespace RequestPipeline.Pattern

/-- how deep parts that stand side by side lie in one another: two or more make a layer of their own -/
def layer : List Nat → Nat
  | [] => 0
  | [d] => d
  | ds => ds.foldl max 0 + 1

def classNames : List String :=
  ["alnum", "alpha", "ascii", "blank", "cntrl", "digit", "graph", "lower", "print", "punct", "space",
    "upper", "word", "xdigit"]

/-- reads a named class behind its bracket, and whether it is negated -/
def named? : Reading Bool
  | ':' :: cs =>
    let negated := cs.head? = some '^'
    let cs := if negated then cs.tail else cs
    let name := cs.takeWhile (· ≠ ':')
    if classNames.contains (String.ofList name) then
      (Text.dropFront? [':', ']'] (cs.drop name.length)).map (negated, ·)
    else none
  | _ => none

/-- reads a character or a class with a letter for its name -/
def element? (m : Mode) : Reading Atom
  | [] => none
  | c :: cs => if c = '\\' then escape? m cs else some (.literal c false, cs)

def rangeEnd? (m : Mode) (low : Atom) (cs : List Char) : Option (List Char) := do
  let (high, cs) ← element? m (m.skip cs)
  match low, high with
  | .literal a _, .literal b _ =>
    if a ≤ b ∧ low.isElement m ∧ high.isElement m then some cs else none
  | _, _ => none

/-- Reads an element of brackets, or a range of characters.  A dash in front of another dash or of the end
makes no range. -/
def member? (m : Mode) (cs : List Char) : Option (List Char) := do
  let (low, cs) ← element? m cs
  let single := if low.isElement m then some (m.skip cs) else none
  match m.skip cs with
  | '-' :: rest =>
    if m.beyond rest = some ']' ∨ m.beyond rest = some '-' then single else rangeEnd? m low rest
  | _ => single

structure Inside where
  /-- only dashes have been read -/
  front : Bool
  /-- how deep what stands in front of the last operator is -/
  left : Option Nat
  /-- how deep what stands behind it is, one by one -/
  members : List Nat
  deriving DecidableEq, Repr

namespace Inside

def start : Inside := ⟨true, none, []⟩

def add (s : Inside) (front : Bool) (depth : Nat) : Inside :=
  ⟨front, s.left, depth :: s.members⟩

def depth (s : Inside) : Nat :=
  match s.left with
  | none => layer s.members
  | some d => max d (layer s.members) + 1

end Inside

/-- whether a character doubled is an operator -/
def isOperator (c : Char) : Bool := c = '&' || c = '-' || c = '~'

/-- reads the sign of a negation behind a bracket; on bytes it is refused, as it would match parts of
characters -/
def negation? (m : Mode) (cs : List Char) : Option (List Char) :=
  match m.skip cs with
  | '^' :: cs => if m.unicode then some cs else none
  | cs => some cs

def isNamedAllowed (m : Mode) (negated : Bool) : Bool :=
  if m.unicode then !m.caseless else !negated

/-- reads the inside of brackets, up to the bracket that closes them -/
def inside? (m : Mode) : (fuel : Nat) → Inside → Reading Nat
  | 0, _, _ => none
  | fuel + 1, s, cs =>
    match m.skip cs with
    | [] => none
    | c :: cs =>
      if s.front ∧ (c = '-' ∨ c = ']' ∧ s.members.isEmpty) then
        if (Atom.literal c false).isElement m then inside? m fuel (s.add (c = '-') 0) cs else none
      else if c = ']' then some (s.depth + 1, cs)
      else if c = '[' then
        match named? cs with
        | some (negated, cs) =>
          if isNamedAllowed m negated then inside? m fuel (s.add false 0) cs else none
        | none => do
          let (depth, cs) ← inside? m fuel .start (← negation? m cs)
          inside? m fuel (s.add false depth) cs
      else if isOperator c ∧ cs.head? = some c then
        inside? m fuel ⟨false, some s.depth, []⟩ cs.tail
      else (member? m (c :: cs)).bind (inside? m fuel (s.add false 0))

/-- reads brackets behind the first one: how deep they are -/
def bracket? (m : Mode) (cs : List Char) : Option (Nat × List Char) :=
  (negation? m cs).bind (inside? m (cs.length + 1) .start)

end RequestPipeline.Pattern
