import RequestPipeline.Json.Value

/-!
# Looking into values

A description is a value of which any part may be left out.  These functions look for a part and give
something when it is not there or is of another kind: null, no items, or what the caller names.
-/

namespace RequestPipeline.Json.Value

/-- the value of a key, or null -/
def part (v : Value) (key : String) : Value := (v.get? key).getD .null

def has (v : Value) (key : String) : Bool := (v.get? key).isSome

def textOr (v : Value) (key missing : String) : String := ((v.part key).text?).getD missing

def isSet (v : Value) (key : String) : Bool := ((v.part key).bool?).getD false

def natOr (v : Value) (key : String) (missing : Nat) : Nat := ((v.part key).nat?).getD missing

def list (v : Value) (key : String) : List Value := ((v.part key).items?).getD []

def texts (v : Value) (key : String) : List String := (v.list key).filterMap text?

def item (v : Value) (i : Nat) : Value := ((v.items?.getD [])[i]?).getD .null

def itemText (v : Value) (i : Nat) : String := ((v.item i).text?).getD ""

/-- what a function makes of a value that may be missing, or null -/
def ofOptional {α : Type} (f : α → Value) : Option α → Value
  | some a => f a
  | none => .null

end RequestPipeline.Json.Value
