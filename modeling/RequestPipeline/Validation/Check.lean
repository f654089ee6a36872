import RequestPipeline.Validation.Coercion

/-!
# Checking an input object

`check` goes over an input object once and reports everything that is wrong with it, with the coerced
values of the fields that are right.  Fields come first, in the order of the schema, then keys that the
schema does not have, in their order, then the rules about the whole object.  `Report.selected` is the one
violation that a client is told, and `validate` turns it into a failure.
-/

namespace RequestPipeline.Validation

open RequestPipeline.Json (Value Members)

/-- the violations of one field, at least one -/
structure FieldFailure where
  property : String
  violations : List Violation
  deriving DecidableEq, Repr

structure Report where
  fieldFailures : List FieldFailure
  objectViolations : List Violation
  value : Members
  deriving Repr

/-! ## one field -/

mutual

def satisfies (rule : Rule) : Value → Bool
  | .array items =>
    match rule with
    | .min _ => allSatisfy rule items
    | .max _ => allSatisfy rule items
    | .minLength n => n ≤ items.length
    | .maxLength n => items.length ≤ n
    | .notEmpty => !items.isEmpty
    | .oneOf _ => true
  | .number n =>
    match rule with
    | .min b => (n.toFloat?.bind fun f => (Finite64.ofInt b).map fun g => g.le f).getD false
    | .max b => (n.toFloat?.bind fun f => (Finite64.ofInt b).map fun g => f.le g).getD false
    | _ => true
  | .string s =>
    match rule with
    | .minLength n => n ≤ s.length
    | .maxLength n => s.length ≤ n
    | .notEmpty => !(Text.trimChars s.toList).isEmpty
    | .oneOf allowed => allowed.contains s
    | _ => true
  | .object ms =>
    match rule with
    | .notEmpty => !ms.isEmpty
    | _ => true
  | _ => true

def allSatisfy (rule : Rule) : List Value → Bool
  | [] => true
  | v :: vs => satisfies rule v && allSatisfy rule vs

end

def brokenRule (f : FieldSpec) (rule : Rule) : String :=
  let each := if f.kind.isList then "each value in " else ""
  let count (n : Nat) := String.ofList (Text.ofNat n)
  match rule with
  | .min b => each ++ f.name ++ " must not be less than " ++ String.ofList (Text.ofInt b)
  | .max b => each ++ f.name ++ " must not be greater than " ++ String.ofList (Text.ofInt b)
  | .minLength n =>
    if f.kind.isList then f.name ++ " must contain at least " ++ count n ++ " elements"
    else f.name ++ " must be longer than or equal to " ++ count n ++ " characters"
  | .maxLength n =>
    if f.kind.isList then f.name ++ " must contain no more than " ++ count n ++ " elements"
    else f.name ++ " must be shorter than or equal to " ++ count n ++ " characters"
  | .notEmpty => f.name ++ " should not be empty"
  | .oneOf allowed =>
    f.name ++ " must be one of the following values: " ++ ", ".intercalate allowed

def Constraint.violation (f : FieldSpec) (c : Constraint) : Violation :=
  ⟨f.name, c.rule.code, c.message.getD (brokenRule f c.rule), c.general⟩

inductive FieldOutcome where
  | absent
  | valid (value : Value)
  | invalid (violations : List Violation)

/-- checks the value of a field; null counts as missing -/
def checkField (f : FieldSpec) (raw : Option Value) : FieldOutcome :=
  match raw.filter fun v => !v.isNull with
  | none =>
    if f.optional then .absent
    else .invalid [⟨f.name, .required, f.name ++ " should not be null or undefined", f.general⟩]
  | some raw =>
    match coerce raw f.kind with
    | none => .invalid [⟨f.name, .type, f.name ++ " must be " ++ f.kind.describe, f.general⟩]
    | some v =>
      match f.constraints.filter fun c => !satisfies c.rule v with
      | [] => .valid v
      | broken => .invalid (broken.map fun c => c.violation f)

/-! ## the whole object -/

/-- the coerced values of the fields that are right; of two fields with one name the later counts -/
def coercedFields (fields : List FieldSpec) (input : Members) : Members :=
  fields.foldl (fun acc f =>
    match checkField f (input.get? f.name) with
    | .valid v => acc.insert f.name v
    | _ => acc) []

/-- the failures of the declared fields, in the order of the schema -/
def declaredFailures (fields : List FieldSpec) (input : Members) : List FieldFailure :=
  fields.filterMap fun f =>
    match checkField f (input.get? f.name) with
    | .invalid vs => some ⟨f.name, vs⟩
    | _ => none

def undeclaredFailure (key : String) : FieldFailure :=
  ⟨key, [⟨key, .whitelist, "property " ++ key ++ " should not exist", false⟩]⟩

/-- the failures of the keys that the schema does not have, in the order of the object -/
def undeclaredFailures (s : Schema) (input : Members) : List FieldFailure :=
  (input.keys.filter fun k => !s.declares k).map undeclaredFailure

/-- whether an object has a value that is not null under a key -/
def isPresent (input : Members) (key : String) : Bool :=
  match input.get? key with
  | some v => !v.isNull
  | none => false

def ObjectRule.violation? (input value : Members) (context : Option RequestContext) :
    ObjectRule → Option Violation
  | .exclusive first second code general =>
    if isPresent input first && isPresent input second then
      some ⟨second, code, first ++ " and " ++ second ++ " cannot be used together", general⟩
    else none
  | .check _ find => find value context

/-- all that is wrong with an input object, and the coerced values of what is right -/
def check (s : Schema) (input : Members) (context : Option RequestContext) : Report :=
  let value := coercedFields s.fields input
  { fieldFailures := declaredFailures s.fields input ++ undeclaredFailures s input
    objectViolations := s.rules.filterMap fun r => r.violation? input value context
    value := value }

namespace Report

def isValid (r : Report) : Bool := r.fieldFailures.isEmpty && r.objectViolations.isEmpty

/-- every violation, those of fields first -/
def violations (r : Report) : List Violation :=
  r.fieldFailures.flatMap FieldFailure.violations ++ r.objectViolations

/-- The violation that is reported: the first one of the whole object that fails fast, else the first
one of the first failing field, else the first one of the whole object. -/
def selected (r : Report) : Option Violation :=
  (r.objectViolations.find? fun v => v.code.failsFast).or
    ((r.fieldFailures.head?.bind fun f => f.violations.head?).or r.objectViolations.head?)

/-- the failure that reports what is wrong, if anything is -/
def failure? (r : Report) : Option Failure := r.selected.map Violation.failure

end Report

/-! ## validated input -/

/-- the schema of an input and the way a checked object is bound to its target -/
structure Target (α : Type) where
  schema : Schema
  bind : Members → Except String α

def Target.map {α β : Type} (f : α → β) (t : Target α) : Target β :=
  ⟨t.schema, fun ms => (t.bind ms).map f⟩

/-- the object that a value stands for as an input: null counts as the empty object -/
def inputObject? : Value → Option Members
  | .object ms => some ms
  | .null => some []
  | _ => none

def Target.bound {α : Type} (t : Target α) (value : Members) : Except Failure α :=
  match t.bind value with
  | .ok a => .ok a
  | .error e => .error (.internal ("failed to bind " ++ t.schema.name) (some e))

def validate {α : Type} (t : Target α) (input : Value) (context : Option RequestContext) :
    Except Failure α :=
  match inputObject? input with
  | none => .error (.invalidInput t.schema.name (some (t.schema.name ++ " must be an object")))
  | some object =>
    let report := check t.schema object context
    match report.failure? with
    | some f => .error f
    | none => t.bound report.value

/-- checks the body of a payload in its context, and binds it -/
def validatePayload {α : Type} (t : Target α) (p : Payload Value) : Except Failure (Payload α) :=
  (validate t p.body p.context).map fun a => p.map fun _ => a

end RequestPipeline.Validation
