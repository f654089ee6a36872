import RequestPipeline.Proofs.Keyed
import RequestPipeline.Toml.Parse

/-!
# Tables that were read

A table grows only by keys that it does not have, at whatever depth: `Tidy` says that no key comes twice in a table,
nor in one inside it.

* `tidy_descend`                            what changes the table at the end of a path keeps the one around it tidy;
* `tidy_assign`, `tidy_openTable`, `tidy_openRow`   the three things that a line can do;
* `tidy_read`                               a table in braces is tidy.

`tidy_parse?`: **no key of a document comes twice.**
-/

namespace RequestPipeline.Toml

/-- the entries inside a value, as far as it is still open to keys or complete -/
def Item.inside : Item → Table
  | .inlineTable entries => entries
  | .table _ entries => entries
  | .rows _ last => last
  | _ => []

/-- in a table, and in those inside it, no key comes twice -/
inductive Tidy : Table → Prop
  | intro {t : Table} (nodup : (t.map Prod.fst).Nodup) (inside : ∀ e ∈ t, Tidy e.2.inside) : Tidy t

namespace Tidy
variable {t : Table}

theorem nil : Tidy [] := ⟨List.nodup_nil, nofun⟩

theorem nodup (h : Tidy t) : (t.map Prod.fst).Nodup := by
  cases h with
  | intro nodup inside => exact nodup

theorem of_mem (h : Tidy t) {e : String × Item} (he : e ∈ t) : Tidy e.2.inside := by
  cases h with
  | intro nodup inside => exact inside e he

end Tidy

namespace Table
variable {t t' : Table} {key : String} {item : Item}

theorem find?_cons (e : String × Item) (t : Table) (key : String) :
    find? (e :: t) key = if key = e.1 then some e.2 else t.find? key := Keyed.lookup_cons e t key

theorem mem_set {e : String × Item} (h : e ∈ t.set key item) : e = (key, item) ∨ e ∈ t := by
  induction t with
  | nil => exact .inl (List.mem_singleton.mp h)
  | cons d t ih =>
    obtain ⟨k, i⟩ := d
    rw [set] at h
    split at h
    · rename_i hk
      subst hk
      exact (List.mem_cons.mp h).imp id (List.mem_cons_of_mem _)
    · rcases List.mem_cons.mp h with rfl | h
      · exact .inr List.mem_cons_self
      · exact (ih h).imp id (List.mem_cons_of_mem _)

theorem nodup_set (h : (t.map Prod.fst).Nodup) (key : String) (item : Item) :
    ((t.set key item).map Prod.fst).Nodup := by
  induction t with
  | nil => exact List.nodup_cons.mpr ⟨List.not_mem_nil, List.nodup_nil⟩
  | cons d t ih =>
    obtain ⟨k, i⟩ := d
    obtain ⟨hk, ht⟩ := List.nodup_cons.mp h
    rw [set]
    split
    · exact h
    · rename_i hne
      refine List.nodup_cons.mpr ⟨fun hm => ?_, ih ht⟩
      obtain ⟨e, he, hek⟩ := List.mem_map.mp hm
      rcases mem_set he with rfl | he
      · exact hne hek.symm
      · exact hk (hek ▸ List.mem_map_of_mem he)

theorem tidy_set (h : Tidy t) (key : String) (hi : Tidy item.inside) : Tidy (t.set key item) := by
  refine ⟨nodup_set h.nodup key item, fun e he => ?_⟩
  rcases mem_set he with rfl | he
  · exact hi
  · exact h.of_mem he

/-! ## growing -/

theorem tidy_descend {dotted : Bool} {change : Origin → Table → Option Table}
    (keeps : ∀ {origin t t'}, Tidy t → change origin t = some t' → Tidy t') {path : List String} {origin : Origin}
    (ht : Tidy t) (h : descend dotted change path origin t = some t') : Tidy t' := by
  -- along the path: the table at its end is tidy again, and each one around it takes it back under its own key
  induction path generalizing origin t t' with
  | nil => exact keeps ht h
  | cons key path ih =>
    rw [descend] at h
    split at h
    · obtain ⟨inner, hi, rfl⟩ := Option.map_eq_some_iff.mp h
      exact tidy_set ht key (ih .nil hi)
    · rename_i o inner hf
      split at h
      · cases h
      · obtain ⟨inner', hi, rfl⟩ := Option.map_eq_some_iff.mp h
        exact tidy_set ht key (ih (ht.of_mem (Keyed.mem_of_lookup hf)) hi)
    · rename_i earlier last hf
      obtain ⟨last', hi, rfl⟩ := Option.map_eq_some_iff.mp h
      exact tidy_set ht key (ih (ht.of_mem (Keyed.mem_of_lookup hf)) hi)
    · cases h

theorem tidy_assign {path : List String} {origin : Origin} (hi : Tidy item.inside) (ht : Tidy t)
    (h : assign path item origin t = some t') : Tidy t' := by
  refine tidy_descend (fun ht h => ?_) ht h
  split at h
  · cases h
  · unfold add at h
    split at h
    · cases h
    · cases h
      exact tidy_set ht _ hi

theorem tidy_openTable {path : List String} (ht : Tidy t) (h : openTable path t = some t') : Tidy t' := by
  refine tidy_descend (fun ht h => ?_) ht h
  split at h
  · cases h
    exact tidy_set ht _ .nil
  · rename_i inner hf
    cases h
    exact tidy_set ht _ (ht.of_mem (Keyed.mem_of_lookup hf))
  · cases h

theorem tidy_openRow {path : List String} (ht : Tidy t) (h : openRow path t = some t') : Tidy t' := by
  refine tidy_descend (fun ht h => ?_) ht h
  split at h
  · cases h
    exact tidy_set ht _ .nil
  · cases h
    exact tidy_set ht _ .nil
  · cases h

end Table

/-! ## reading -/

section
variable {fuel : Nat} {cs rest : List Char} {v : Item}

theorem inside_of_bounded? {i : Int} (h : bounded? i = some v) : v.inside = [] := by
  obtain ⟨j, -, rfl⟩ := Option.map_eq_some_iff.mp h
  rfl

theorem inside_of_float? {negative : Bool} {whole fraction : List Char} {exponent : Int}
    (h : float? negative whole fraction exponent = some v) : v.inside = [] := by
  unfold float? at h
  split at h <;> cases h
  rfl

theorem inside_of_decimal? {negative : Bool} (h : decimal? negative cs = some (v, rest)) : v.inside = [] := by
  obtain ⟨⟨whole, cs⟩, -, h⟩ := Option.bind_eq_some_iff.mp h
  dsimp only at h
  split at h
  · obtain ⟨⟨fraction, cs⟩, -, h⟩ := Option.bind_eq_some_iff.mp h
    obtain ⟨x, hx, h⟩ := Option.bind_eq_some_iff.mp h
    cases h
    exact inside_of_float? hx
  · split at h
    · obtain ⟨x, hx, h⟩ := Option.bind_eq_some_iff.mp h
      cases h
      exact inside_of_float? hx
    · obtain ⟨x, hx, h⟩ := Option.bind_eq_some_iff.mp h
      cases h
      exact inside_of_bounded? hx

theorem inside_of_based {base : Nat} {read : Option (List Char × List Char)}
    (h : (read.bind fun (ds, cs) => (bounded? (inBase base ds)).map (·, cs)) = some (v, rest)) : v.inside = [] := by
  obtain ⟨⟨ds, cs⟩, -, h⟩ := Option.bind_eq_some_iff.mp h
  obtain ⟨x, hx, h⟩ := Option.map_eq_some_iff.mp h
  cases h
  exact inside_of_bounded? hx

/-- a number has no keys -/
theorem inside_of_number? (h : number? cs = some (v, rest)) : v.inside = [] := by
  unfold number? at h
  split at h
  · exact inside_of_based h
  · exact inside_of_based h
  · exact inside_of_based h
  · dsimp only at h
    split at h
    · cases h
      rfl
    · cases h
      rfl
    · exact inside_of_decimal? h

/-- an array has no keys of its own -/
theorem inside_of_items? (h : items? fuel cs = some (v, rest)) : v.inside = [] := by
  cases fuel with
  | zero => cases h
  | succ fuel =>
    rw [items?] at h
    split at h
    · cases h
      rfl
    · obtain ⟨⟨w, cs⟩, -, h⟩ := Option.bind_eq_some_iff.mp h
      dsimp only at h
      split at h
      · cases h
        rfl
      · obtain ⟨⟨vs, cs⟩, -, h⟩ := Option.bind_eq_some_iff.mp h
        dsimp only at h
        split at h
        · cases h
          rfl
        · cases h
      · cases h

theorem tidy_of_inside (h : v.inside = []) : Tidy v.inside := h ▸ .nil

theorem tidy_value_succ (members : ∀ {t cs rest v}, Tidy t → members? fuel t cs = some (v, rest) → Tidy v.inside)
    (h : value? (fuel + 1) cs = some (v, rest)) : Tidy v.inside := by
  cases cs with
  | nil => cases h
  | cons c cs =>
    rw [value?] at h
    split at h
    · obtain ⟨⟨text, cs⟩, -, h⟩ := Option.map_eq_some_iff.mp h
      cases h
      exact .nil
    · split at h
      · exact tidy_of_inside (inside_of_items? h)
      · split at h
        · exact members .nil h
        · split at h
          · cases h
            exact .nil
          · cases h
            exact .nil
          · split at h
            · cases h
              exact .nil
            · exact tidy_of_inside (inside_of_number? h)

theorem tidy_members_succ (values : ∀ {cs rest v}, value? fuel cs = some (v, rest) → Tidy v.inside)
    (members : ∀ {t cs rest v}, Tidy t → members? fuel t cs = some (v, rest) → Tidy v.inside) {t : Table}
    (ht : Tidy t) (h : members? (fuel + 1) t cs = some (v, rest)) : Tidy v.inside := by
  unfold members? at h
  split at h
  · cases h
    exact .nil
  · obtain ⟨⟨path, cs⟩, -, h⟩ := Option.bind_eq_some_iff.mp h
    obtain ⟨signed, -, h⟩ := Option.bind_eq_some_iff.mp h
    obtain ⟨⟨w, cs⟩, hw, h⟩ := Option.bind_eq_some_iff.mp h
    obtain ⟨t', ht', h⟩ := Option.bind_eq_some_iff.mp h
    have grown : Tidy t' := Table.tidy_assign (values hw) ht ht'
    split at h
    · cases h
      exact grown
    · exact members grown h
    · cases h

/-- a value is tidy, and so is a table in braces behind members that are -/
theorem tidy_read (fuel : Nat) :
    (∀ {cs rest v}, value? fuel cs = some (v, rest) → Tidy v.inside) ∧
      ∀ {t cs rest v}, Tidy t → members? fuel t cs = some (v, rest) → Tidy v.inside := by
  induction fuel with
  | zero =>
    refine ⟨?_, ?_⟩
    · intro cs rest v h
      cases h
    · intro t cs rest v ht h
      cases h
  | succ fuel ih => exact ⟨tidy_value_succ ih.2, tidy_members_succ ih.1 ih.2⟩

end

/-! ## documents -/

section
variable {header header' : List String} {t t' : Table} {cs rest : List Char}

theorem tidy_line (ht : Tidy t) (h : line header t cs = some (header', t', rest)) : Tidy t' := by
  unfold line at h
  split at h
  · obtain ⟨⟨path, cs⟩, -, h⟩ := Option.bind_eq_some_iff.mp h
    obtain ⟨_, -, h⟩ := Option.bind_eq_some_iff.mp h
    obtain ⟨_, -, h⟩ := Option.bind_eq_some_iff.mp h
    obtain ⟨_, -, h⟩ := Option.bind_eq_some_iff.mp h
    obtain ⟨grown, hg, h⟩ := Option.bind_eq_some_iff.mp h
    cases h
    exact Table.tidy_openRow ht hg
  · obtain ⟨⟨path, cs⟩, -, h⟩ := Option.bind_eq_some_iff.mp h
    obtain ⟨_, -, h⟩ := Option.bind_eq_some_iff.mp h
    obtain ⟨_, -, h⟩ := Option.bind_eq_some_iff.mp h
    obtain ⟨grown, hg, h⟩ := Option.bind_eq_some_iff.mp h
    cases h
    exact Table.tidy_openTable ht hg
  · obtain ⟨⟨path, cs⟩, -, h⟩ := Option.bind_eq_some_iff.mp h
    obtain ⟨_, -, h⟩ := Option.bind_eq_some_iff.mp h
    obtain ⟨⟨v, cs⟩, hv, h⟩ := Option.bind_eq_some_iff.mp h
    obtain ⟨_, -, h⟩ := Option.bind_eq_some_iff.mp h
    obtain ⟨grown, hg, h⟩ := Option.bind_eq_some_iff.mp h
    cases h
    exact Table.tidy_descend (fun ht h => Table.tidy_assign ((tidy_read _).1 hv) ht h) ht hg

theorem tidy_lines {fuel : Nat} (ht : Tidy t) (h : lines fuel header t cs = some t') : Tidy t' := by
  induction fuel generalizing header t cs with
  | zero => cases h
  | succ fuel ih =>
    rw [lines] at h
    dsimp only at h
    split at h
    · cases h
      exact ht
    · obtain ⟨⟨below, grown, cs⟩, hl, h⟩ := Option.bind_eq_some_iff.mp h
      exact ih (tidy_line ht hl) h

/-- **No key of a document comes twice, whatever table it is in.** -/
theorem tidy_parse? {document : String} (h : parse? document = some t) : Tidy t := tidy_lines .nil h

end

end RequestPipeline.Toml
