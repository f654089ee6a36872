import RequestPipeline.Http.Header

/-!
# The values of a field

What a message says under a name is the list of the values that stand there, and the first value is the first of them
(`get?_eq_head?`).  A value is a text unless it has a byte that is not printable (`headerText?_eq_none_iff`).  Where the
values of a name are replaced, the fields of other names stay in their order (`erase_insert`).
-/

namespace RequestPipeline

/-- a value that is no text has a byte that is neither printable ASCII nor a space nor a tab -/
theorem headerText?_eq_none_iff {value : Bytes} : headerText? value = none ↔ ∃ b ∈ value, isVisible b = false := by
  have hall : value.all isVisible = false ↔ ∃ b ∈ value, isVisible b = false := by simp
  rw [← hall]
  unfold headerText?
  cases value.all isVisible with
  | true => exact ⟨nofun, nofun⟩
  | false => exact ⟨fun _ => rfl, fun _ => rfl⟩

/-- a text that can be read from a value can be written as one -/
theorem headerValue?_of_headerText? {s t : String} (h : headerText? (Utf8.ofText s) = some t) :
    headerValue? s = some (Utf8.ofText s) := by
  unfold headerText? at h
  have visible : (Utf8.ofText s).all isVisible = true := (Option.ite_none_right_eq_some.mp h).1
  refine if_pos (List.all_eq_true.mpr fun b hb => ?_)
  exact isValueByte_of_isVisible (List.all_eq_true.mp visible b hb)

namespace Headers
variable {name : String} {hs hs' : Headers}

theorem get?_eq_head? (name : String) (hs : Headers) : get? name hs = (getAll name hs).head? := by
  induction hs with
  | nil => rfl
  | cons field rest ih =>
    obtain ⟨n, v⟩ := field
    unfold get? getAll
    by_cases h : n = name
    · simp [h]
    · rw [if_neg h, ih]
      simp [getAll, h]

theorem get?_eq_none_iff : get? name hs = none ↔ getAll name hs = [] := by
  rw [get?_eq_head?, List.head?_eq_none_iff]

/-- the first value of a name as a text depends on the values of this name alone -/
theorem text?_congr (h : getAll name hs = getAll name hs') : text? name hs = text? name hs' := by
  unfold text?
  rw [get?_eq_head?, get?_eq_head?, h]

theorem erase_insert (name : String) (value : Bytes) (hs : Headers) :
    erase name (insert name value hs) = erase name hs := by
  induction hs with
  | nil => exact List.filter_cons_of_neg (by simp)
  | cons field rest ih =>
    obtain ⟨n, v⟩ := field
    unfold insert
    by_cases h : n = name
    · subst h
      rw [if_pos rfl]
      unfold erase
      rw [List.filter_cons_of_neg (by simp), List.filter_cons_of_neg (by simp), List.filter_filter]
      simp only [Bool.and_self]
    · rw [if_neg h]
      unfold erase at ih ⊢
      rw [List.filter_cons_of_pos (by simpa using h), List.filter_cons_of_pos (by simpa using h), ih]

end Headers
end RequestPipeline
