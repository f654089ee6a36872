import RequestPipeline.Context

/-!
# Schemas of input objects

A schema names the fields of an input object, the kind of value each holds and what is asked of it, and
rules about the object as a whole.  A rule either forbids two fields to be given together or is a check:
a function of the coerced object and of the caller's context that may find a violation.
-/

namespace RequestPipeline.Validation

open RequestPipeline.Json (Value Members)

/-- what a violation is about -/
inductive Code where
  | required | type | min | max | minLength | maxLength | notEmpty | oneOf | whitelist | exclusive
  | cursorConflict | custom
  deriving DecidableEq, Repr

namespace Code

def all : List Code :=
  [.required, .type, .min, .max, .minLength, .maxLength, .notEmpty, .oneOf, .whitelist, .exclusive,
    .cursorConflict, .custom]

def name : Code → String
  | .required => "required"
  | .type => "type"
  | .min => "min"
  | .max => "max"
  | .minLength => "min_length"
  | .maxLength => "max_length"
  | .notEmpty => "not_empty"
  | .oneOf => "one_of"
  | .whitelist => "whitelist"
  | .exclusive => "exclusive"
  | .cursorConflict => "cursor_conflict"
  | .custom => "custom"

/-- whether a violation of this code is reported before all others -/
def failsFast : Code → Bool
  | .exclusive => true
  | .cursorConflict => true
  | _ => false

def ofName? (name : String) : Option Code := all.find? fun c => c.name == name

end Code

/-- one thing that is wrong with an input; the message of a general one is not shown to the client -/
structure Violation where
  property : String
  code : Code
  message : String
  general : Bool
  deriving DecidableEq, Repr

namespace Violation

def reported (v : Violation) : Option String := if v.general then none else some v.message

def failure (v : Violation) : Failure :=
  match v.code with
  | .cursorConflict => .cursorConflict v.property v.reported
  | _ => .invalidInput v.property v.reported

end Violation

/-- the kind of value that a field holds -/
inductive Kind where
  | integer | number | boolean | string | integerList | stringList | object | any
  deriving DecidableEq, Repr

namespace Kind

def describe : Kind → String
  | .integer => "an integer number"
  | .number => "a number"
  | .boolean => "a boolean value"
  | .string => "a string"
  | .integerList => "a list of integer numbers"
  | .stringList => "a list of strings"
  | .object => "an object"
  | .any => "any value"

def isList : Kind → Bool
  | .integerList => true
  | .stringList => true
  | _ => false

end Kind

/-- what is asked of a value beyond its kind -/
inductive Rule where
  | min (bound : Int)
  | max (bound : Int)
  | minLength (bound : Nat)
  | maxLength (bound : Nat)
  | notEmpty
  | oneOf (allowed : List String)
  deriving DecidableEq, Repr

def Rule.code : Rule → Code
  | .min _ => .min
  | .max _ => .max
  | .minLength _ => .minLength
  | .maxLength _ => .maxLength
  | .notEmpty => .notEmpty
  | .oneOf _ => .oneOf

/-- a rule with the way its violation is reported -/
structure Constraint where
  rule : Rule
  general : Bool
  message : Option String
  deriving DecidableEq, Repr

structure FieldSpec where
  name : String
  kind : Kind
  optional : Bool
  general : Bool
  constraints : List Constraint
  deriving DecidableEq, Repr

inductive ObjectRule where
  /-- two fields that may not be given together -/
  | exclusive (first second : String) (code : Code) (general : Bool)
  /-- a function that may find a violation -/
  | check (name : String) (find : Members → Option RequestContext → Option Violation)

/-- the fields of an input object and the rules about it -/
structure Schema where
  name : String
  fields : List FieldSpec
  rules : List ObjectRule

namespace Schema

def empty : Schema := ⟨"Empty", [], []⟩

def field? (s : Schema) (name : String) : Option FieldSpec :=
  s.fields.find? fun f => f.name == name

def declares (s : Schema) (name : String) : Bool := s.fields.any fun f => f.name == name

def position? (s : Schema) (name : String) : Option Nat :=
  s.fields.findIdx? fun f => f.name == name

end Schema
end RequestPipeline.Validation
