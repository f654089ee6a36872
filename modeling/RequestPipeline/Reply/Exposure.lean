import RequestPipeline.Json.Value

/-!
# Exposure of results

A result shows only what its exposure lists: `Exposure.project` keeps the listed members of an object, each
projected through the exposure of its entry.  A plain entry shows nothing of the objects inside its value,
so scalars and lists of scalars pass, and objects come out empty.  When a name is listed twice the later
entry counts.
-/

namespace RequestPipeline

open Json (Value Members)

/-- which members of an object are shown, each with what is shown inside it -/
inductive Exposure where
  | mk (name : String) (entries : List (String × Option Exposure))
  deriving Repr, Inhabited

namespace Exposure

def name : Exposure → String
  | .mk n _ => n

/-- the listed names, each with the exposure of what is inside it -/
def entries : Exposure → List (String × Option Exposure)
  | .mk _ es => es

/-- shows no member of any object -/
def nothing : Exposure := .mk "None" []

def exposes (e : Exposure) (key : String) : Bool := e.entries.any fun entry => entry.1 == key

/-- what is shown inside the member of a name, if the name is listed -/
def inside? (e : Exposure) (key : String) : Option Exposure :=
  (e.entries.reverse.find? fun entry => entry.1 == key).map fun entry => entry.2.getD nothing

mutual

def project (e : Exposure) : Value → Value
  | .object ms => .object (projectMembers e ms)
  | .array vs => .array (projectItems e vs)
  | .null => .null
  | .bool b => .bool b
  | .number n => .number n
  | .string s => .string s

def projectItems (e : Exposure) : List Value → List Value
  | [] => []
  | v :: vs => project e v :: projectItems e vs

def projectMembers (e : Exposure) : List (String × Value) → List (String × Value)
  | [] => []
  | (k, v) :: ms =>
    match e.inside? k with
    | some inner => (k, project inner v) :: projectMembers e ms
    | none => projectMembers e ms

end

theorem projectItems_eq_map (e : Exposure) (vs : List Value) :
    projectItems e vs = vs.map (project e) := by
  induction vs with
  | nil => rfl
  | cons v vs ih => simp [projectItems, ih]

end Exposure
end RequestPipeline
