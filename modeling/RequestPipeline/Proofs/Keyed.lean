/-!
# Lists with keys

Variables, the entries of a table and the members of an object are lists of values with keys.  What a key leads to is
the first value with that key (`lookup_cons`), which is any value with it if no key comes twice (`lookup_of_mem`).
Keys may also be of another kind (`lookup_filter_ne`), and what has a name of its own is looked up in the same way
(`find?_name_iff`).
-/

namespace RequestPipeline.Keyed

variable {α : Type} {l : List (String × α)} {key : String} {a : α}

theorem lookup_cons (e : String × α) (l : List (String × α)) (key : String) :
    (e :: l).lookup key = if key = e.1 then some e.2 else l.lookup key := by
  rw [List.lookup_cons]
  by_cases h : key = e.1
  · rw [beq_iff_eq.mpr h, if_pos h]
  · rw [beq_eq_false_iff_ne.mpr h, if_neg h]

theorem mem_of_lookup (h : l.lookup key = some a) : (key, a) ∈ l := by
  induction l with
  | nil => cases h
  | cons e l ih =>
    rw [lookup_cons] at h
    split at h
    · rename_i hk
      cases h
      exact hk ▸ List.mem_cons_self
    · exact List.mem_cons_of_mem _ (ih h)

theorem lookup_eq_none_iff : l.lookup key = none ↔ key ∉ l.map Prod.fst := by
  induction l with
  | nil => simp
  | cons e l ih =>
    rw [lookup_cons, List.map_cons, List.mem_cons, not_or, ← ih]
    split
    · rename_i h
      simp [h]
    · rename_i h
      simp [h]

theorem lookup_of_mem (nodup : (l.map Prod.fst).Nodup) (h : (key, a) ∈ l) : l.lookup key = some a := by
  induction l with
  | nil => cases h
  | cons e l ih =>
    obtain ⟨he, hl⟩ := List.nodup_cons.mp nodup
    rw [lookup_cons]
    rcases List.mem_cons.mp h with rfl | h
    · exact if_pos rfl
    · have hne : key ≠ e.1 := fun hk => he (hk ▸ List.mem_map_of_mem h)
      rw [if_neg hne]
      exact ih hl h

theorem keys_zip (names : List String) (as : List α) : (names.zip as).map Prod.fst = names.take as.length := by
  induction names generalizing as with
  | nil => simp
  | cons name names ih =>
    cases as with
    | nil => rfl
    | cons a as => exact congrArg (name :: ·) (ih as)

theorem nodup_zip {names : List String} (nodup : names.Nodup) (as : List α) : ((names.zip as).map Prod.fst).Nodup := by
  rw [keys_zip]
  exact nodup.sublist (List.take_sublist _ _)

/-! ## keys of any kind -/

section
variable {κ : Type} [BEq κ] [LawfulBEq κ]

/-- without the entries of one key, the other keys lead to what they led to -/
theorem lookup_filter_ne (entries : List (κ × α)) (key k : κ) :
    (entries.filter fun e => e.1 != key).lookup k = if k == key then none else entries.lookup k := by
  induction entries with
  | nil => exact (ite_self none).symm
  | cons e entries ih =>
    obtain ⟨n, a⟩ := e
    by_cases hn : n = key
    · rw [List.filter_cons_of_neg (by simp [hn]), ih, List.lookup_cons, hn]
      cases k == key <;> rfl
    · rw [List.filter_cons_of_pos (by simp [hn]), List.lookup_cons, List.lookup_cons, ih]
      by_cases h : k = n
      · subst h
        rw [beq_self_eq_true, beq_eq_false_iff_ne.mpr hn]
        rfl
      · rw [beq_eq_false_iff_ne.mpr h]

end

/-! ## names -/

section
variable {β γ : Type} [BEq γ] [LawfulBEq γ] {name : β → γ} {bs : List β} {b : β} {n : γ}

theorem name_of_find? (h : (bs.find? fun b => name b == n) = some b) : name b = n := by
  have found := List.find?_some h
  exact beq_iff_eq.mp found

/-- what names tell apart is found by its name -/
theorem find?_name_iff (apart : ∀ a ∈ bs, ∀ b ∈ bs, name a = name b → a = b) :
    (bs.find? fun b => name b == n) = some b ↔ b ∈ bs ∧ name b = n := by
  refine ⟨fun h => ⟨List.mem_of_find?_eq_some h, name_of_find? h⟩, fun ⟨hb, hn⟩ => ?_⟩
  cases hf : bs.find? fun b => name b == n with
  | none => exact absurd (beq_iff_eq.mpr hn) (List.find?_eq_none.mp hf b hb)
  | some a => rw [apart a (List.mem_of_find?_eq_some hf) b hb ((name_of_find? hf).trans hn.symm)]

end

end RequestPipeline.Keyed
