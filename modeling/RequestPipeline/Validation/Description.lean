import RequestPipeline.Failure.Description
import RequestPipeline.Text.Quoted
import RequestPipeline.Text.Split
import RequestPipeline.Validation.Pagination

/-!
# Descriptions of schemas

A schema can be written as a value and read from one.  A description names the checks of a schema; what a
name stands for is given by whoever reads the description.
-/

namespace RequestPipeline.Validation

open RequestPipeline.Json (Value Members)

/-- what may be found in a coerced object in the context of a caller -/
abbrev Finding := Members → Option RequestContext → Option Violation

/-! ## reading -/

def Kind.ofName : String → Kind
  | "integer" => .integer
  | "number" => .number
  | "boolean" => .boolean
  | "string" => .string
  | "integer_list" => .integerList
  | "string_list" => .stringList
  | "object" => .object
  | _ => .any

def Rule.ofJson (v : Value) : Rule :=
  match v.part "min", v.part "max", v.part "min_length", v.part "max_length", v.part "one_of" with
  | .number (.int i), _, _, _, _ => .min i
  | _, .number (.int i), _, _, _ => .max i
  | _, _, .number (.int i), _, _ => .minLength i.toNat
  | _, _, _, .number (.int i), _ => .maxLength i.toNat
  | _, _, _, _, .array _ => .oneOf (v.texts "one_of")
  | _, _, _, _, _ => .notEmpty

def Constraint.ofJson (v : Value) : Constraint :=
  ⟨Rule.ofJson v, v.isSet "general", (v.part "message").text?⟩

def FieldSpec.ofJson (v : Value) : FieldSpec :=
  ⟨v.textOr "name" "", .ofName (v.textOr "kind" ""), v.isSet "optional", v.isSet "general",
    (v.list "constraints").map Constraint.ofJson⟩

def ObjectRule.ofJson (checks : String → Finding) (v : Value) : ObjectRule :=
  match v.part "check" with
  | .string name => .check name (checks name)
  | _ =>
    let fields := v.part "exclusive"
    .exclusive (fields.itemText 0) (fields.itemText 1)
      ((Code.ofName? (v.textOr "code" "")).getD .exclusive) (v.isSet "general")

/-- the schema of a description; a text stands for the schema of a page -/
def Schema.ofJson (checks : String → Finding) (v : Value) : Schema :=
  match v with
  | .string _ => Pagination.schema
  | .object _ =>
    ⟨v.textOr "name" "Input", (v.list "fields").map FieldSpec.ofJson,
      (v.list "rules").map (ObjectRule.ofJson checks)⟩
  | _ => .empty

/-! ## writing -/

def Violation.toJson (x : Violation) : Value :=
  Json.object
    [("property", .string x.property), ("code", .string x.code.name), ("message", .string x.message),
      ("general", .bool x.general), ("reported", .ofOption x.reported)]

def Report.toJson (r : Report) : Value :=
  Json.object
    [("valid", .bool r.isValid),
      ("fields", .array (r.fieldFailures.map fun f =>
        .array [.string f.property, .array (f.violations.map Violation.toJson)])),
      ("object", .array (r.objectViolations.map Violation.toJson)),
      ("codes", .ofTexts (r.violations.map fun x => x.code.name)),
      ("selected", .ofOptional Violation.toJson r.selected),
      ("reported", .ofOptional (fun f => f.body none) r.failure?), ("value", .object r.value)]

def FieldSpec.toJson (f : FieldSpec) : Value :=
  Json.object
    [("name", .string f.name), ("kind", .string f.kind.describe), ("optional", .bool f.optional),
      ("general", .bool f.general),
      ("rules", .array (f.constraints.map fun c =>
        .array [.string c.rule.code.name, .bool c.general, .ofOption c.message]))]

/-- the name of a code with capitals in place of its underscores -/
def Code.title (c : Code) : String := String.join ((Text.splitText '_' c.name).map String.capitalize)

/-- a rule about an object in one line -/
def ObjectRule.text : ObjectRule → String
  | .exclusive first second code general =>
    r"Exclusive { first: " ++ Text.quoted first ++ ", second: " ++ Text.quoted second ++ ", code: " ++
      code.title ++ ", general: " ++ (if general then "true" else "false") ++ r" }"
  | .check name _ => r"Check { name: " ++ Text.quoted name ++ r" }"

/-- a schema as a value, with what it says about some names -/
def Schema.toJson (s : Schema) (names : List String) : Value :=
  Json.object
    [("name", .string s.name), ("names", .ofTexts (s.fields.map (·.name))),
      ("fields", .array (s.fields.map FieldSpec.toJson)),
      ("rules", .ofTexts (s.rules.map ObjectRule.text)),
      ("lookup", .array (names.map fun n =>
        .array [.string n, .bool (s.declares n), .ofOptional .ofNat (s.position? n),
          .ofOption ((s.field? n).map fun f => f.kind.describe)]))]

/-- the parameters of a page as a value, with the page they name -/
def Pagination.described (p : Pagination) : Value :=
  Json.object [("params", p.toJson), ("page", p.page.toJson)]

end RequestPipeline.Validation
