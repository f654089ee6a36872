/-!
# Environment variables

The variables of a process keep the order in which they were first set.  Names and values are texts: a variable
that is not Unicode, which stops a program that asks for all variables, is left out.
-/

namespace RequestPipeline

/-- the variables of a process: names with values, each name once -/
abbrev Variables := List (String × String)

namespace Variables

def find? (vs : Variables) (name : String) : Option String := vs.lookup name

/-- sets a variable, at its place if it has one -/
def set (name value : String) : Variables → Variables
  | [] => [(name, value)]
  | (n, v) :: vs => if n = name then (n, value) :: vs else (n, v) :: set name value vs

/-- sets a variable that has no value yet -/
def setNew (name value : String) (vs : Variables) : Variables :=
  match vs.find? name with
  | some _ => vs
  | none => vs.set name value

/-- variables from names with values; a later value replaces an earlier one -/
def ofList (pairs : List (String × String)) : Variables :=
  pairs.foldl (fun vs (name, value) => vs.set name value) []

theorem find?_set_self (name value : String) (vs : Variables) :
    (vs.set name value).find? name = some value := by
  induction vs with
  | nil => simp [set, find?]
  | cons e vs ih =>
    obtain ⟨n, v⟩ := e
    by_cases h : n = name
    · simp [set, find?, h]
    · have h' : (name == n) = false := by simpa using fun e => h e.symm
      simpa [set, find?, h, h', List.lookup_cons] using ih

theorem find?_set_of_ne {name other : String} (h : other ≠ name) (value : String)
    (vs : Variables) : (vs.set name value).find? other = vs.find? other := by
  induction vs with
  | nil =>
    have h' : (other == name) = false := by simpa using h
    simp [set, find?, List.lookup_cons, h']
  | cons e vs ih =>
    obtain ⟨n, v⟩ := e
    by_cases hn : n = name
    · subst hn
      have h' : (other == n) = false := by simpa using h
      simp [set, find?, List.lookup_cons, h']
    · simp only [set, if_neg hn, find?, List.lookup_cons]
      split
      · rfl
      · exact ih

end Variables
end RequestPipeline
