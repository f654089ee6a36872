import RequestPipeline.Text.Blank

/-!
# The mode that a pattern is read in

Flags in a pattern change how what follows is read.  Of them `Mode` keeps those that decide what can be
read at all; `Mode.skip` leaves out the blanks and comments of a pattern that is written with gaps.
-/

namespace RequestPipeline.Pattern

/-- what is read at the front of the characters that are left, and the rest -/
abbrev Reading (α : Type) := List Char → Option (α × List Char)

structure Mode where
  /-- letters stand for both of their cases -/
  caseless : Bool
  /-- what is matched are characters, not bytes -/
  unicode : Bool
  /-- blanks and comments stand for nothing -/
  spaced : Bool
  deriving DecidableEq, Repr

namespace Mode

def start : Mode := ⟨false, true, false⟩

/-- sets the flag of a letter; the others change what matches, but not what can be read -/
def set (m : Mode) (flag : Char) (on : Bool) : Mode :=
  if flag = 'i' then { m with caseless := on }
  else if flag = 'u' then { m with unicode := on }
  else if flag = 'x' then { m with spaced := on }
  else m

end Mode

/-- the characters behind blanks and comments, where `comment` says whether a comment has begun -/
def skipGaps (comment : Bool) : List Char → List Char
  | [] => []
  | c :: cs =>
    if comment then skipGaps (c ≠ '\n') cs
    else if Text.isBlank c then skipGaps false cs
    else if c = '#' then skipGaps true cs
    else c :: cs

def Mode.skip (m : Mode) (cs : List Char) : List Char := if m.spaced then skipGaps false cs else cs

/-- The character that decides whether a dash in front of a text makes a range.  In a comment it is the
first one of the comment's text. -/
def Mode.beyond (m : Mode) (cs : List Char) : Option Char :=
  if m.spaced then
    match Text.trimFront cs with
    | '#' :: cs => (Text.trimFront cs).head?
    | cs => cs.head?
  else cs.head?

end RequestPipeline.Pattern
