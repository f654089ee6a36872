import RequestPipeline.Number.Binary64

/-!
# Tables of a TOML document

A TOML document is a tree of tables that grows line by line.  A table remembers how it came to be, because
that decides what may still be added to it: a table that stands in a header is closed to a second header, a
table made by a dotted key is open to dotted keys only.  `Table.descend` walks along keys and makes the
tables that are missing; `Table.assign`, `Table.openTable` and `Table.openRow` are the three things a line
can do.
-/

namespace RequestPipeline.Toml

/-- how a table came to be -/
inductive Origin where
  /-- it stands in a header, or is the document itself -/
  | header
  /-- a header names a table inside it -/
  | implied
  /-- a dotted key leads through it -/
  | dotted
  deriving DecidableEq, Repr

inductive Item where
  | text (s : String)
  | integer (i : Int)
  | float (x : Float64)
  | boolean (b : Bool)
  | date
  | array (items : List Item)
  /-- a table in braces, which is complete -/
  | inlineTable (entries : List (String × Item))
  | table (origin : Origin) (entries : List (String × Item))
  /-- a list of tables that grows by headers; the last one is still open -/
  | rows (earlier : List (List (String × Item))) (last : List (String × Item))

/-- the entries of a table, in order -/
abbrev Table := List (String × Item)

namespace Table

def find? (t : Table) (key : String) : Option Item := t.lookup key

/-- gives a key a value, at its place if it has one -/
def set (key : String) (item : Item) : Table → Table
  | [] => [(key, item)]
  | (k, i) :: t => if k = key then (k, item) :: t else (k, i) :: set key item t

/-- changes the table that a path leads to.  Tables that are missing are made: by a dotted key if
`dotted`, by a header otherwise.  A dotted key does not go through tables of headers. -/
def descend (dotted : Bool) (change : Origin → Table → Option Table) :
    List String → Origin → Table → Option Table
  | [], origin, t => change origin t
  | key :: path, _, t =>
    match t.find? key with
    | none =>
      let made := if dotted then Origin.dotted else Origin.implied
      (descend dotted change path made []).map fun inner => t.set key (.table made inner)
    | some (.table origin inner) =>
      if dotted ∧ origin = .header then none
      else (descend dotted change path origin inner).map fun inner =>
        t.set key (.table origin inner)
    | some (.rows earlier last) =>
      (descend dotted change path .header last).map fun last => t.set key (.rows earlier last)
    | some _ => none

def add (key : String) (item : Item) (t : Table) : Option Table :=
  if (t.find? key).isSome then none else some (t.set key item)

/-- splits a path into the keys on the way and the key at its end -/
def endOf : List String → List String × String
  | [] => ([], "")
  | [key] => ([], key)
  | key :: path => (key :: (endOf path).1, (endOf path).2)

/-- a dotted key with its value: it extends a table of its own, never one that a header opened -/
def assign (path : List String) (item : Item) (origin : Origin) (t : Table) : Option Table :=
  let (way, key) := endOf path
  descend true (fun origin t =>
    if origin = .dotted ↔ way.isEmpty then none else t.add key item) way origin t

/-- the header of a table, which may have been implied before -/
def openTable (path : List String) (t : Table) : Option Table :=
  let (way, key) := endOf path
  descend false (fun _ t =>
    match t.find? key with
    | none => some (t.set key (.table .header []))
    | some (.table .implied inner) => some (t.set key (.table .header inner))
    | some _ => none) way .header t

/-- the header of one more table in a list of tables -/
def openRow (path : List String) (t : Table) : Option Table :=
  let (way, key) := endOf path
  descend false (fun _ t =>
    match t.find? key with
    | none => some (t.set key (.rows [] []))
    | some (.rows earlier last) => some (t.set key (.rows (earlier ++ [last]) []))
    | some _ => none) way .header t

/-- a key with its value below the header that stands above it -/
def assignBelow (header path : List String) (item : Item) (t : Table) : Option Table :=
  descend false (assign path item) header .header t

end Table

end RequestPipeline.Toml
