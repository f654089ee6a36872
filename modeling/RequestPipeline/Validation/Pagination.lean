import RequestPipeline.Validation.Check

/-!
# Pagination

A list is asked for in pages: a limit, and either an offset or a cursor but not both.  `Pagination.target`
checks these three parameters, and `Pagination.page` says which page they name.
-/

namespace RequestPipeline.Validation

open RequestPipeline.Json (Value Members Reader)

structure Pagination where
  limit : Nat
  offset : Option Nat
  cursor : Option Nat
  deriving DecidableEq, Repr

/-- which part of a list is asked for -/
inductive Page where
  | first (limit : Nat)
  | offset (limit offset : Nat)
  | cursor (limit cursor : Nat)
  deriving DecidableEq, Repr

namespace Pagination

def defaultLimit : Nat := 100

def maxLimit : Nat := 100

def default : Pagination := ⟨defaultLimit, none, none⟩

def page (p : Pagination) : Page :=
  match p.offset, p.cursor with
  | _, some c => .cursor p.limit c
  | some o, none => .offset p.limit o
  | none, none => .first p.limit

/-- an optional whole number with constraints -/
def parameter (name : String) (rules : List Rule) : FieldSpec :=
  ⟨name, .integer, true, false, rules.map fun r => ⟨r, false, none⟩⟩

def fields : List FieldSpec :=
  [parameter "limit" [.min 0, .max maxLimit], parameter "offset" [.min 0],
    parameter "cursor" [.min 0]]

/-- an offset and a cursor may not be given together -/
def conflict : ObjectRule := .exclusive "offset" "cursor" .cursorConflict false

def schema : Schema := ⟨"PaginationParams", fields, [conflict]⟩

/-- the record of a page, where each field may be left out -/
def reader : Reader :=
  .record "PaginationParams" false
    [⟨"limit", .uint32, false⟩, ⟨"offset", .optional .uint64, false⟩,
      ⟨"cursor", .optional .uint64, false⟩]

def ofRecord (v : Value) : Pagination :=
  ⟨((v.get? "limit").bind Value.nat?).getD defaultLimit, (v.get? "offset").bind Value.nat?,
    (v.get? "cursor").bind Value.nat?⟩

/-- the parameters that a value holds, without any check of their ranges -/
def ofJson (v : Value) : Except String Pagination := (reader.convert v).map ofRecord

def optional : Option Nat → Value
  | some n => .ofNat n
  | none => .null

def toJson (p : Pagination) : Value :=
  Json.object
    [("limit", .ofNat p.limit), ("offset", optional p.offset), ("cursor", optional p.cursor)]

def target : Target Pagination where
  schema := schema
  bind ms := ofJson (.object ms)

def validate (query : Value) : Except Failure Pagination :=
  Validation.validate target query none

end Pagination

def Page.toJson (p : Page) : Value :=
  match p with
  | .first l => Json.object [("first", Json.object [("limit", .ofNat l)])]
  | .offset l o =>
    Json.object [("offset", Json.object [("limit", .ofNat l), ("offset", .ofNat o)])]
  | .cursor l c =>
    Json.object [("cursor", Json.object [("limit", .ofNat l), ("cursor", .ofNat c)])]

end RequestPipeline.Validation
