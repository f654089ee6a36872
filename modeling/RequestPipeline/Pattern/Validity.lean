import RequestPipeline.Pattern.Bracket
import RequestPipeline.Text.Alphanumeric

/-!
# Patterns that can be compiled

A pattern is a regular expression.  `Pattern.outline?` reads one, and keeps how deep its parts lie in one
another and which names its groups have; `Pattern.isValid` accepts it if it is not too deep and no name
stands twice.  Patterns stand within braces, where no brace can be closed: a repetition with a count, which
would need one, is refused.
-/

namespace RequestPipeline.Pattern

/-- what is kept of a part of a pattern -/
structure Outline where
  /-- how deep its parts lie in one another -/
  depth : Nat
  names : List (List Char)
  deriving DecidableEq, Repr

namespace Outline

def leaf : Outline := ⟨0, []⟩

/-- a part within another one -/
def wrap (o : Outline) : Outline := { o with depth := o.depth + 1 }

def group (name : Option (List Char)) (o : Outline) : Outline := ⟨o.depth + 1, name.toList ++ o.names⟩

/-- parts side by side -/
def join (os : List Outline) : Outline := ⟨layer (os.map depth), os.flatMap names⟩

end Outline

/-! ## the start of a group -/

inductive Opening where
  /-- a change of mode for the rest of the group that it stands in -/
  | flags (mode : Mode)
  /-- a group, read in a mode -/
  | group (name : Option (List Char)) (mode : Mode)
  deriving DecidableEq, Repr

def flagLetters : List Char := ['i', 'm', 's', 'U', 'u', 'R', 'x']

/-- reads flags; behind a dash they are taken away.  `seen` holds what was read, last first: nothing stands
twice, and a dash not at the end. -/
def flags? (m : Mode) (seen : List Char) : Reading Opening
  | [] => none
  | c :: cs =>
    if c = ':' ∨ c = ')' then
      if seen.head? = some '-' then none
      else if c = ':' then some (.group none m, cs)
      else if seen.isEmpty then none
      else some (.flags m, cs)
    else if seen.contains c then none
    else if c = '-' then flags? m (c :: seen) cs
    else if flagLetters.contains c then flags? (m.set c !seen.contains '-') (c :: seen) cs
    else none

def isName : List Char → Bool
  | [] => false
  | c :: cs =>
    (c = '_' || Text.isAlphabetic c) &&
      cs.all fun c => ['_', '.', '[', ']'].contains c || Text.isAlphanumeric c

def name? (cs : List Char) : Option (List Char × List Char) := do
  let (name, cs) ← Text.cutFirst '>' cs
  if isName name then some (name, cs) else none

def opening? (m : Mode) (cs : List Char) : Option (Opening × List Char) :=
  match m.skip cs with
  | '?' :: 'P' :: '<' :: cs => (name? cs).map fun (name, cs) => (.group (some name) m, cs)
  | '?' :: '<' :: cs => (name? cs).map fun (name, cs) => (.group (some name) m, cs)
  | '?' :: cs => flags? m [] cs
  | cs => some (.group none m, cs)

/-! ## sequences and alternatives -/

/-- whether a character repeats what stands in front of it -/
def isRepetition (c : Char) : Bool := c = '?' || c = '*' || c = '+'

/-- what was read of the alternatives of a group, last first -/
structure Progress where
  /-- the alternatives that have ended -/
  earlier : List Outline
  /-- the parts of the current one; nothing where flags change, which cannot be repeated -/
  parts : List (Option Outline)
  deriving DecidableEq, Repr

namespace Progress

def start : Progress := ⟨[], []⟩

def add (p : Progress) (part : Option Outline) : Progress := { p with parts := part :: p.parts }

def next (p : Progress) : Progress := ⟨.join (p.parts.map fun o => o.getD .leaf) :: p.earlier, []⟩

def outline (p : Progress) : Outline := .join p.next.earlier

/-- repeats the last part, if there is one that can be repeated -/
def repeat? (p : Progress) : Option Progress :=
  match p.parts with
  | some o :: parts => some { p with parts := some o.wrap :: parts }
  | _ => none

end Progress

/-- reads alternatives up to the end of their group or of the text -/
def alternatives? : (fuel : Nat) → Mode → Progress → Reading Outline
  | 0, _, _, _ => none
  | fuel + 1, m, p, cs =>
    match m.skip cs with
    | [] => some (p.outline, [])
    | c :: cs =>
      if c = ')' then some (p.outline, c :: cs)
      else if c = '|' then alternatives? fuel m p.next cs
      else if c = '(' then
        match opening? m cs with
        | none => none
        | some (.flags m, cs) => alternatives? fuel m (p.add none) cs
        | some (.group name inner, cs) =>
          match alternatives? fuel inner .start cs with
          | some (o, ')' :: cs) => alternatives? fuel m (p.add (some (o.group name))) cs
          | _ => none
      else if c = '[' then do
        let (depth, cs) ← bracket? m cs
        alternatives? fuel m (p.add (some ⟨depth, []⟩)) cs
      else if isRepetition c then do
        alternatives? fuel m (← p.repeat?) ((Text.dropFront? ['?'] cs).getD cs)
      else if c = '{' then none
      else do
        let (a, cs) ← atom? m (c :: cs)
        if a.isAllowed m then alternatives? fuel m (p.add (some .leaf)) cs else none

def outline? (cs : List Char) : Option Outline :=
  match alternatives? (cs.length + 1) .start .start cs with
  | some (o, []) => some o
  | _ => none

def maxDepth : Nat := 250

/-- whether a pattern can be compiled -/
def isValid (cs : List Char) : Bool :=
  (outline? cs).any fun o => o.depth ≤ maxDepth && decide o.names.Nodup

end RequestPipeline.Pattern
