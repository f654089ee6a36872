import RequestPipeline.Json.Value

/-!
# Objects in key order

An object is a list of members, and `Members.insert` keeps the list in strictly increasing order of its
keys.  In this form an object is determined by what it holds under each key:

* `sorted_insert`       inserting keeps the order;
* `get?_eq_none_iff`    an object holds nothing under the keys that it does not have;
* `eq_of_sorted`        two objects in key order with the same value under every key are equal.
-/

namespace RequestPipeline.Json.Members

theorem sorted_nil : Sorted [] := List.Pairwise.nil

theorem get?_cons_self (key : String) (value : Value) (ms : Members) :
    get? key ((key, value) :: ms) = some value := if_pos rfl

theorem get?_cons_of_ne {k key : String} (h : k ≠ key) (value : Value) (ms : Members) :
    get? key ((k, value) :: ms) = get? key ms := if_neg h

theorem get?_insert (key other : String) (value : Value) (ms : Members) :
    get? other (insert key value ms) = if other = key then some value else get? other ms := by
  by_cases h : other = key
  · rw [h, if_pos rfl, get?_insert_self]
  · rw [if_neg h, get?_insert_of_ne h]

theorem get?_eq_none_iff {key : String} {ms : Members} : get? key ms = none ↔ key ∉ keys ms := by
  induction ms with
  | nil => simp [get?, keys]
  | cons m ms ih =>
    obtain ⟨k, v⟩ := m
    by_cases h : k = key
    · simp [get?, keys, h]
    · simpa [get?, keys, h, Ne.symm h] using ih

theorem mem_of_get?_eq_some {key : String} {value : Value} {ms : Members}
    (h : get? key ms = some value) : (key, value) ∈ ms := by
  induction ms with
  | nil => simp [get?] at h
  | cons m ms ih =>
    obtain ⟨k, v⟩ := m
    unfold get? at h
    split at h
    · rename_i hk
      cases h
      rw [hk]
      exact List.mem_cons_self
    · exact List.mem_cons_of_mem _ (ih h)

/-- every member after an insertion is the new one or an old one -/
theorem mem_insert {key : String} {value : Value} {ms : Members} {m : String × Value}
    (h : m ∈ insert key value ms) : m = (key, value) ∨ m ∈ ms := by
  induction ms with
  | nil => simpa [insert] using h
  | cons n ms ih =>
    obtain ⟨k, v⟩ := n
    unfold insert at h
    split at h
    · rcases List.mem_cons.mp h with h | h
      · exact .inl h
      · exact .inr (List.mem_cons_of_mem _ h)
    · split at h
      · exact List.mem_cons.mp h
      · rcases List.mem_cons.mp h with h | h
        · exact .inr (h ▸ List.mem_cons_self)
        · exact (ih h).imp_right (List.mem_cons_of_mem _)

theorem sorted_insert {ms : Members} (h : ms.Sorted) (key : String) (value : Value) :
    (ms.insert key value).Sorted := by
  induction ms with
  | nil => exact List.pairwise_singleton _ _
  | cons m ms ih =>
    obtain ⟨k, v⟩ := m
    obtain ⟨hm, hms⟩ := List.pairwise_cons.mp h
    unfold insert
    split
    · rename_i hk
      exact List.pairwise_cons.mpr ⟨hk ▸ hm, hms⟩
    · rename_i hk
      split
      · rename_i hlt
        refine List.pairwise_cons.mpr ⟨fun n hn => ?_, h⟩
        rcases List.mem_cons.mp hn with rfl | hn
        · exact hlt
        · exact String.lt_trans hlt (hm n hn)
      · rename_i hlt
        have hgt : k < key := String.not_le.mp fun hle =>
          hk (String.le_antisymm hle (String.not_lt.mp hlt))
        refine List.pairwise_cons.mpr ⟨fun n hn => ?_, ih hms⟩
        rcases mem_insert hn with rfl | hn
        · exact hgt
        · exact hm n hn

theorem nodup_keys {ms : Members} (h : ms.Sorted) : (keys ms).Nodup := by
  refine List.pairwise_map.mpr (h.imp ?_)
  intro m n hlt he
  exact String.lt_irrefl n.1 (he ▸ hlt)

/-- a key below all others of an object in key order occurs once -/
theorem get?_tail_of_sorted {key : String} {value : Value} {ms : Members}
    (h : Sorted ((key, value) :: ms)) : get? key ms = none := by
  rw [get?_eq_none_iff]
  intro hk
  obtain ⟨m, hm, e⟩ := List.mem_map.mp hk
  have hlt := (List.pairwise_cons.mp h).1 m hm
  exact String.lt_irrefl key (e ▸ hlt)

/-- an object in key order holds each of its members under its key -/
theorem get?_of_mem {ms : Members} (h : ms.Sorted) {m : String × Value} (hm : m ∈ ms) : ms.get? m.1 = some m.2 := by
  induction ms with
  | nil => cases hm
  | cons n ms ih =>
    obtain ⟨hn, hms⟩ := List.pairwise_cons.mp h
    rcases List.mem_cons.mp hm with rfl | hm
    · exact get?_cons_self _ _ _
    · have hne : n.1 ≠ m.1 := fun e => String.lt_irrefl _ (e ▸ hn m hm)
      exact (get?_cons_of_ne hne _ _).trans (ih hms hm)

/-- an object in key order of which only some members are kept -/
theorem get?_filter {ms : Members} (h : ms.Sorted) (p : String × Value → Bool) (key : String) :
    get? key (ms.filter p) = (get? key ms).filter fun v => p (key, v) := by
  induction ms with
  | nil => rfl
  | cons m ms ih =>
    obtain ⟨k, v⟩ := m
    have hms : Sorted ms := (List.pairwise_cons.mp h).2
    by_cases hk : k = key
    · subst hk
      -- no later member has this key
      have hrest : get? k (ms.filter p) = none := by rw [ih hms, get?_tail_of_sorted h, Option.filter_none]
      rw [get?_cons_self, List.filter_cons]
      cases hp : p (k, v) with
      | true => rw [if_pos rfl, get?_cons_self, Option.filter_some, if_pos hp]
      | false => rw [if_neg Bool.false_ne_true, hrest, Option.filter_some, if_neg (by rw [hp]; exact Bool.false_ne_true)]
    · rw [get?_cons_of_ne hk, List.filter_cons, ← ih hms]
      split
      · exact get?_cons_of_ne hk _ _
      · rfl

/-- a new member is the only one that is kept if no other is -/
theorem filter_insert {ms : Members} {p : String × Value → Bool} (h : ∀ m ∈ ms, ¬ p m = true) (key : String)
    (value : Value) : (insert key value ms).filter p = [(key, value)].filter p := by
  induction ms with
  | nil => rfl
  | cons m ms ih =>
    obtain ⟨k, v⟩ := m
    obtain ⟨hm, hms⟩ := List.forall_mem_cons.mp h
    have hall : List.filter p ((k, v) :: ms) = [] := List.filter_eq_nil_iff.mpr h
    have hrest : ms.filter p = [] := List.filter_eq_nil_iff.mpr hms
    unfold insert
    split
    · rw [List.filter_cons, hrest, List.filter_cons, List.filter_nil]
    · split
      · rw [List.filter_cons, hall, List.filter_cons, List.filter_nil]
      · rw [List.filter_cons_of_neg hm, ih hms]

/-- members with distinct keys hold each of them under its key -/
theorem get?_of_mem_of_nodup {ms : Members} (h : (keys ms).Nodup) {key : String} {value : Value}
    (hm : (key, value) ∈ ms) : ms.get? key = some value := by
  induction ms with
  | nil => cases hm
  | cons n ms ih =>
    obtain ⟨hn, hms⟩ := List.nodup_cons.mp h
    rcases List.mem_cons.mp hm with rfl | hm
    · exact get?_cons_self _ _ _
    · have hne : n.1 ≠ key := fun e => hn (e ▸ List.mem_map_of_mem hm)
      exact (get?_cons_of_ne hne _ _).trans (ih hms hm)

/-- members with distinct keys that are put on top of others stand before them -/
theorem get?_foldl_insert {ms : Members} (h : (keys ms).Nodup) (acc : Members) (key : String) :
    (ms.foldl (fun acc m => insert m.1 m.2 acc) acc).get? key = (ms.get? key).or (acc.get? key) := by
  induction ms generalizing acc with
  | nil => rfl
  | cons m ms ih =>
    obtain ⟨k, v⟩ := m
    obtain ⟨hk, hms⟩ := List.nodup_cons.mp h
    rw [List.foldl_cons, ih hms, get?_insert]
    by_cases he : key = k
    · rw [he, if_pos rfl, get?_cons_self, get?_eq_none_iff.mpr hk]
      rfl
    · rw [if_neg he, get?_cons_of_ne (Ne.symm he)]

theorem get?_ofList {ms : Members} (h : (keys ms).Nodup) (key : String) : (ofList ms).get? key = ms.get? key := by
  unfold ofList
  rw [get?_foldl_insert h, get?_nil, Option.or_none]

/-- the first keys of two objects in key order agree when each object has the first key of the other -/
theorem head_key_eq {k l : String} {v w : Value} {ms ns : Members} (hm : Sorted ((k, v) :: ms))
    (hn : Sorted ((l, w) :: ns)) (hk : get? k ((l, w) :: ns) ≠ none)
    (hl : get? l ((k, v) :: ms) ≠ none) : k = l := by
  refine Decidable.byContradiction fun hne => ?_
  have hlk : l < k := by
    obtain ⟨x, hx⟩ := Option.ne_none_iff_exists'.mp hk
    rw [get?_cons_of_ne (Ne.symm hne)] at hx
    exact (List.pairwise_cons.mp hn).1 _ (mem_of_get?_eq_some hx)
  have hkl : k < l := by
    obtain ⟨x, hx⟩ := Option.ne_none_iff_exists'.mp hl
    rw [get?_cons_of_ne hne] at hx
    exact (List.pairwise_cons.mp hm).1 _ (mem_of_get?_eq_some hx)
  exact String.lt_asymm hlk hkl

/-- **An object in key order is determined by its values.** -/
theorem eq_of_sorted {ms ns : Members} (hm : ms.Sorted) (hn : ns.Sorted)
    (h : ∀ key, ms.get? key = ns.get? key) : ms = ns := by
  induction ms generalizing ns with
  | nil =>
    cases ns with
    | nil => rfl
    | cons n ns =>
      have hn' := h n.1
      simp [get?] at hn'
  | cons m ms ih =>
    obtain ⟨k, v⟩ := m
    cases ns with
    | nil =>
      have hk := h k
      simp [get?] at hk
    | cons n ns =>
      obtain ⟨l, w⟩ := n
      have hkl : k = l := head_key_eq hm hn (by rw [← h k]; simp [get?]) (by rw [h l]; simp [get?])
      subst hkl
      have hv : v = w := by simpa [get?] using h k
      subst hv
      congr 1
      refine ih (List.pairwise_cons.mp hm).2 (List.pairwise_cons.mp hn).2 fun key => ?_
      by_cases hkey : k = key
      · rw [← hkey, get?_tail_of_sorted hm, get?_tail_of_sorted hn]
      · simpa [get?, hkey] using h key

end RequestPipeline.Json.Members
