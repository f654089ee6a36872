import RequestPipeline.Proofs.Config.Overrides

/-!
# What a file of variables assigns

A `.env` file is a list of assignments.  It is loaded into variables one by one, and a name that has a value keeps
it: so variables that were there before stay, and of two assignments to one name the first one counts.

* `Variables.fill`       variables with those of a list that they do not have yet;
* `find?_fill`           what they hold then;
* `assignments?`         the assignments of a file, where a reference to a name stands for what the name has by then.

`load?_eq`: **a file is loaded as far as its assignments can be read, and they fill the variables.**
-/

namespace RequestPipeline

namespace Variables
variable {vs : Variables}

theorem find?_set (vs : Variables) (name value other : String) :
    (vs.set name value).find? other = if other = name then some value else vs.find? other := by
  by_cases h : other = name
  · rw [if_pos h, h, find?_set_self]
  · rw [if_neg h, find?_set_of_ne h]

theorem find?_setNew (vs : Variables) (name value other : String) :
    (vs.setNew name value).find? other = (vs.find? other).or (if other = name then some value else none) := by
  unfold setNew
  split
  · rename_i v hv
    by_cases h : other = name
    · rw [h, hv, Option.some_or]
    · rw [if_neg h, Option.or_none]
  · rename_i hv
    rw [find?_set]
    by_cases h : other = name
    · rw [h, hv, if_pos rfl, Option.none_or]
    · rw [if_neg h, if_neg h, Option.or_none]

theorem mem_names_set {name value n : String} (h : n ∈ (vs.set name value).map Prod.fst) :
    n = name ∨ n ∈ vs.map Prod.fst := by
  induction vs with
  | nil => exact .inl (List.mem_singleton.mp h)
  | cons e vs ih =>
    obtain ⟨m, v⟩ := e
    rw [set] at h
    split at h
    · exact .inr h
    · rcases List.mem_cons.mp h with rfl | h
      · exact .inr List.mem_cons_self
      · exact (ih h).imp id (List.mem_cons_of_mem _)

theorem Named.set (named : vs.Named) (name value : String) : (vs.set name value).Named := by
  induction vs with
  | nil => exact List.nodup_cons.mpr ⟨List.not_mem_nil, List.nodup_nil⟩
  | cons e vs ih =>
    obtain ⟨m, v⟩ := e
    obtain ⟨hm, hvs⟩ := List.nodup_cons.mp named
    rw [Variables.set]
    split
    · exact named
    · rename_i hne
      refine List.nodup_cons.mpr ⟨fun h => ?_, ih hvs⟩
      exact (mem_names_set h).elim hne hm

theorem Named.setNew (named : vs.Named) (name value : String) : (vs.setNew name value).Named := by
  unfold Variables.setNew
  split
  · exact named
  · exact named.set name value

/-- variables with those of a list that they do not have yet -/
def fill (vs : Variables) (pairs : List (String × String)) : Variables :=
  pairs.foldl (fun vs p => vs.setNew p.1 p.2) vs

theorem fill_concat (vs : Variables) (pairs : List (String × String)) (p : String × String) :
    vs.fill (pairs ++ [p]) = (vs.fill pairs).setNew p.1 p.2 := by
  unfold fill
  rw [List.foldl_append]
  rfl

theorem Named.fill (named : vs.Named) (pairs : List (String × String)) : (vs.fill pairs).Named :=
  List.foldlRecOn (motive := Named) pairs _ named fun _ h p _ => h.setNew p.1 p.2

theorem find?_fill (vs : Variables) (pairs : List (String × String)) (name : String) :
    (vs.fill pairs).find? name = (vs.find? name).or (find? pairs name) := by
  induction pairs generalizing vs with
  | nil => exact Option.or_none.symm
  | cons p pairs ih =>
    show ((vs.setNew p.1 p.2).fill pairs).find? name = _
    rw [ih, find?_setNew, find?_cons, Option.or_assoc]
    split <;> rfl

theorem find?_reverse_eq_none {pairs : List (String × String)} {name : String} (h : find? pairs name = none) :
    find? pairs.reverse name = none := by
  refine Keyed.lookup_eq_none_iff.mpr fun hm => Keyed.lookup_eq_none_iff.mp h ?_
  rw [List.map_reverse] at hm
  exact List.mem_reverse.mp hm

end Variables

namespace Dotenv

/-- the assignments of entries behind earlier ones, whose values they may refer to -/
def assign (vs : Variables) (earlier : Defined) : List (Option (List Char)) → Option Defined
  | [] => some earlier
  | none :: _ => none
  | some cs :: rest =>
    match entry? vs earlier cs with
    | none => none
    | some none => assign vs earlier rest
    | some (some assignment) => assign vs (earlier ++ [assignment]) rest

/-- the assignments of a file, in their order; a reference stands for a variable, else for the first assignment before
it.  Nothing if an entry cannot be read. -/
def assignments? (vs : Variables) (text : String) : Option Defined :=
  assign vs [] <| entries <| match text.toList with
    | '\ufeff' :: cs => String.ofList cs
    | _ => text

theorem entry?_congr {vs ws : Variables} {defined earlier : Defined} (h : resolve vs defined = resolve ws earlier)
    (cs : List Char) : entry? vs defined cs = entry? ws earlier cs := by
  unfold entry?
  rw [h]

theorem resolve_fill (vs : Variables) (earlier : Defined) :
    resolve (vs.fill earlier) earlier.reverse = resolve vs earlier := by
  funext name
  show (((vs.fill earlier).find? (.ofList name)).getD
      ((Variables.find? earlier.reverse (.ofList name)).getD "")).toList =
    ((vs.find? (.ofList name)).getD ((Variables.find? earlier (.ofList name)).getD "")).toList
  rw [Variables.find?_fill]
  cases vs.find? (.ofList name) with
  | some v => rfl
  | none =>
    -- what the file has assigned is among the variables, so that its last assignments are not asked
    cases he : Variables.find? earlier (.ofList name) with
    | some v => rfl
    | none => rw [Variables.find?_reverse_eq_none he, Option.none_or]

theorem loadEntries_eq (vs : Variables) (earlier : Defined) (cuts : List (Option (List Char))) :
    loadEntries (vs.fill earlier) earlier.reverse cuts = (assign vs earlier cuts).map vs.fill := by
  induction cuts generalizing earlier with
  | nil => rfl
  | cons cut cuts ih =>
    cases cut with
    | none => rfl
    | some cs =>
      rw [loadEntries, assign, entry?_congr (resolve_fill vs earlier)]
      cases entry? vs earlier cs with
      | none => rfl
      | some read =>
        cases read with
        | none => exact ih earlier
        | some assignment =>
          have next := ih (earlier ++ [assignment])
          rw [Variables.fill_concat, List.reverse_concat] at next
          exact next

theorem load?_eq (vs : Variables) (text : String) : load? vs text = (assignments? vs text).map vs.fill :=
  loadEntries_eq vs [] _

end Dotenv

end RequestPipeline
