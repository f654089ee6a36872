import RequestPipeline.Config.Variables
import RequestPipeline.Text.Alphanumeric
import RequestPipeline.Text.Blank
import RequestPipeline.Text.Split

/-!
# Files of variables

A `.env` file holds one variable on a line, `NAME=value`.  A value may be quoted, and then go on over several
lines; `$NAME` stands for the value of a variable.  `Dotenv.entries` cuts a file into entries, `entry?`
reads one, and `load?` sets the variables that a process does not have yet.

Files are texts without the character NUL: the operating system takes no variable whose value holds one, and a
program that sets such a variable is stopped.
-/

namespace RequestPipeline.Dotenv

/-! ## cutting a file into entries -/

/-- where a scan stands within a value -/
inductive Scan where
  | plain | blank | escape
  | strong | strongEscape
  | weak | weakEscape
  deriving DecidableEq, Repr

/-- the state behind one more character; nothing in front of a comment -/
def Scan.step (c : Char) : Scan → Option Scan
  | .plain =>
    if Text.isBlank c ∧ c ≠ '\n' ∧ c ≠ '\r' then some .blank
    else if c = '\\' then some .escape
    else if c = '"' then some .weak
    else if c = '\'' then some .strong
    else some .plain
  | .blank =>
    if c = '#' then none
    else if c = '\\' then some .escape
    else if c = '"' then some .weak
    else if c = '\'' then some .strong
    else some .plain
  | .escape => some .plain
  | .strong =>
    if c = '\\' then some .strongEscape else if c = '\'' then some .plain else some .strong
  | .strongEscape => some .strong
  | .weak => if c = '\\' then some .weakEscape else if c = '"' then some .plain else some .weak
  | .weakEscape => some .weak

/-- scans a line: the state behind it, or the characters in front of a comment -/
def Scan.line (s : Scan) : List Char → Scan ⊕ List Char
  | [] => .inl s
  | c :: cs =>
    match s.step c with
    | none => .inr []
    | some s =>
      match s.line cs with
      | .inl s => .inl s
      | .inr front => .inr (c :: front)

def rawLines : List Char → List (List Char)
  | [] => []
  | c :: cs =>
    if c = '\n' then ['\n'] :: rawLines cs
    else
      match rawLines cs with
      | [] => [[c]]
      | l :: ls => (c :: l) :: ls

/-- takes off a line end -/
def chomp (cs : List Char) : List Char :=
  match cs.reverse with
  | '\n' :: '\r' :: rest => rest.reverse
  | '\n' :: rest => rest.reverse
  | _ => cs

/-- Cuts lines into entries: an entry goes on while a quote is open, and a comment behind it is left out.
An entry that the text ends within is nothing. -/
def gather (buffer : List Char) (s : Scan) : List (List Char) → List (Option (List Char))
  | [] => if s = .plain then [] else [none]
  | l :: ls =>
    let text := buffer ++ l
    if (Text.trimFront text).head? = some '#' then some [] :: gather [] .plain ls
    else
      match s.line l with
      | .inr front => some (buffer ++ front) :: gather [] .plain ls
      | .inl .plain => some (chomp text) :: gather [] .plain ls
      | .inl s => gather text s ls

def entries (text : String) : List (Option (List Char)) := gather [] .plain (rawLines text.toList)

/-! ## reading an entry -/

/-- what the earlier entries of a file defined -/
abbrev Defined := List (String × String)

/-- the value that a reference stands for: of the process, else of the file, else nothing -/
def resolve (vs : Variables) (defined : Defined) (name : List Char) : List Char :=
  let name := String.ofList name
  ((vs.find? name).getD ((defined.lookup name).getD "")).toList

inductive Mode where
  | plain | strong | ended
  | weak
  /-- behind a backslash, within weak quotes or not -/
  | escape (weak : Bool)
  /-- within a reference whose name so far is given, in braces or not -/
  | reference (weak braces : Bool) (name : List Char)
  deriving DecidableEq, Repr

def backTo (weak : Bool) : Mode := if weak then .weak else .plain

def value? (find : List Char → List Char) (out : List Char) :
    Mode → List Char → Option (List Char)
  | .plain, [] => some out
  | .ended, [] => some out
  | .escape false, [] => some out
  | .reference false false name, [] => some (out ++ find name)
  | _, [] => none
  | .ended, c :: cs =>
    if c = ' ' ∨ c = '\t' then value? find out .ended cs
    else if c = '#' then some out
    else none
  | .escape weak, c :: cs =>
    if c = 'n' then value? find (out ++ ['\n']) (backTo weak) cs
    else if c = '\\' ∨ c = '\'' ∨ c = '"' ∨ c = '$' ∨ c = ' ' then
      value? find (out ++ [c]) (backTo weak) cs
    else none
  | .strong, c :: cs =>
    if c = '\'' then value? find out .plain cs else value? find (out ++ [c]) .strong cs
  | .reference weak false name, c :: cs =>
    if Text.isAlphanumeric c then value? find out (.reference weak false (name ++ [c])) cs
    else if c = '{' ∧ name.isEmpty then value? find out (.reference weak true []) cs
    else if c = '$' then value? find (out ++ find name) (.reference weak false []) cs
    else value? find (out ++ find name ++ [c]) (backTo weak) cs
  | .reference weak true name, c :: cs =>
    if c = '}' then value? find (out ++ find name) (backTo weak) cs
    else value? find out (.reference weak true (name ++ [c])) cs
  | .weak, c :: cs =>
    if c = '$' then value? find out (.reference true false []) cs
    else if c = '"' then value? find out .plain cs
    else if c = '\\' then value? find out (.escape true) cs
    else value? find (out ++ [c]) .weak cs
  | .plain, c :: cs =>
    if c = '$' then value? find out (.reference false false []) cs
    else if c = '\'' then value? find out .strong cs
    else if c = '"' then value? find out .weak cs
    else if c = '\\' then value? find out (.escape false) cs
    else if c = ' ' ∨ c = '\t' then value? find out .ended cs
    else value? find (out ++ [c]) .plain cs

def isNameStart (c : Char) : Bool := c.isAlpha || c = '_'

def name? (cs : List Char) : Option (String × List Char) :=
  if cs.head?.any isNameStart then
    let isPart (c : Char) : Bool := c.isAlphanum || c = '_' || c = '.'
    some (String.ofList (cs.takeWhile isPart), Text.trimFront (cs.dropWhile isPart))
  else none

def afterEquals? : List Char → Option (List Char)
  | '=' :: cs => some (Text.trimFront cs)
  | _ => none

/-- a name with the text of its value; the word `export` may stand in front -/
def assignment? (cs : List Char) : Option (String × List Char) := do
  let (name, cs) ← name? cs
  match afterEquals? cs with
  | some cs => return (name, cs)
  | none =>
    if name = "export" then do
      let (name, cs) ← name? cs
      return (name, ← afterEquals? cs)
    else none

/-- reads an entry: a name and its value, or nothing where a line is blank or a comment -/
def entry? (vs : Variables) (defined : Defined) (cs : List Char) :
    Option (Option (String × String)) :=
  let cs := Text.trimFront (Text.trimBack cs)
  if cs.isEmpty ∨ cs.head? = some '#' then some none
  else do
    let (name, cs) ← assignment? cs
    if cs.isEmpty ∨ cs.head? = some '#' then return some (name, "")
    let value ← value? (resolve vs defined) [] .plain cs
    return some (name, String.ofList value)

def loadEntries (vs : Variables) (defined : Defined) : List (Option (List Char)) → Option Variables
  | [] => some vs
  | none :: _ => none
  | some cs :: rest =>
    match entry? vs defined cs with
    | none => none
    | some none => loadEntries vs defined rest
    | some (some (name, value)) =>
      loadEntries (vs.setNew name value) ((name, value) :: defined) rest

/-- sets the variables of a file that a process does not have yet; a byte order mark is skipped.
Nothing if an entry cannot be read. -/
def load? (vs : Variables) (text : String) : Option Variables :=
  let text := match text.toList with
    | '\ufeff' :: cs => String.ofList cs
    | _ => text
  loadEntries vs [] (entries text)

end RequestPipeline.Dotenv
