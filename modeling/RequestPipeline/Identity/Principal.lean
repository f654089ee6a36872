import RequestPipeline.Json.Record

/-!
# Principals

A principal is the number of an authenticated caller with the set of its roles.  A set of roles is kept
as a list in increasing order without repetition, so equal sets are equal lists.
-/

namespace RequestPipeline

/-- a set of role names, in increasing order -/
abbrev Roles := List String

namespace Roles

def insert (role : String) : Roles → Roles
  | [] => [role]
  | r :: rs =>
    if role = r then r :: rs
    else if role < r then role :: r :: rs
    else r :: insert role rs

def ofList (names : List String) : Roles := names.foldl (fun acc r => insert r acc) []

end Roles

structure Principal where
  id : Int
  roles : Roles
  deriving DecidableEq, Repr

namespace Principal

def withRoles (p : Principal) (names : List String) : Principal :=
  { p with roles := names.foldl (fun acc r => Roles.insert r acc) p.roles }

/-- how a principal is read: a number, and roles that may be left out -/
def reader : Json.Reader :=
  .record "Principal" false [⟨"id", .int64, true⟩, ⟨"roles", .list .text, false⟩]

def ofRecord (v : Json.Value) : Principal where
  id := ((v.get? "id").bind Json.Value.int?).getD 0
  roles := Roles.ofList ((((v.get? "roles").bind Json.Value.items?).getD []).filterMap
    Json.Value.text?)

def ofJson (v : Json.Value) : Except String Principal := (reader.convert v).map ofRecord

def toJson (p : Principal) : Json.Value :=
  Json.object [("id", .ofInt p.id), ("roles", .ofTexts p.roles)]

end Principal
end RequestPipeline
