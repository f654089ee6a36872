import Mathlib.Tactic.SplitIfs
import RequestPipeline.Proofs.Json.Entries

/-!
# Reading goes forward

What a step of reading leaves is not longer than what it was given, and what a value leaves is shorter
(`length_readValue`).  An array with `n` items is therefore at least `n + 1` bytes long (`length_readItems`), and the
bound on the repetitions of a step is never reached.
-/

namespace RequestPipeline.Json

section
variable {input rest : Bytes}

theorem length_skipBlank (input : Bytes) : (skipBlank input).length ≤ input.length := by
  induction input with
  | nil => exact Nat.le_refl _
  | cons b bs ih =>
    unfold skipBlank
    split
    · exact Nat.le_succ_of_le ih
    · exact Nat.le_refl _

theorem length_of_skipBlank {b : UInt8} (h : skipBlank input = b :: rest) : rest.length < input.length := by
  have hs := length_skipBlank input
  rw [h] at hs
  exact hs

theorem length_word {letters : Bytes} (h : word letters input = .ok rest) : rest.length ≤ input.length := by
  induction letters generalizing input with
  | nil =>
    cases h
    exact Nat.le_refl _
  | cons l ls ih =>
    cases input with
    | nil => cases h
    | cons b bs =>
      unfold word at h
      split at h
      · exact Nat.le_succ_of_le (ih h)
      · cases h

/-! ## numbers -/

theorem length_readDigits (acc count : Nat) (input : Bytes) :
    (readDigits acc count input).2.2.length ≤ input.length := by
  induction input generalizing acc count with
  | nil => exact Nat.le_refl _
  | cons b bs ih =>
    unfold readDigits
    split
    · exact Nat.le_succ_of_le (ih _ _)
    · exact Nat.le_refl _

theorem length_skipDigits (count : Nat) (input : Bytes) : (skipDigits count input).2.length ≤ input.length := by
  induction input generalizing count with
  | nil => exact Nat.le_refl _
  | cons b bs ih =>
    unfold skipDigits
    split
    · exact Nat.le_succ_of_le (ih _)
    · exact Nat.le_refl _

theorem length_readExponent (acc : Nat) (input : Bytes) : (readExponent acc input).2.length ≤ input.length := by
  induction input generalizing acc with
  | nil => exact Nat.le_refl _
  | cons b bs ih =>
    unfold readExponent
    dsimp only
    split
    · split
      · exact Nat.le_succ_of_le (ih _)
      · exact Nat.le_succ _
    · exact Nat.le_refl _

variable {n : Number} {negative : Bool} {significand dropped : Nat} {exponent : Int} {whole : Number}

theorem rest_finishFloat (h : finishFloat negative significand exponent input = .ok (n, rest)) : rest = input := by
  unfold finishFloat at h
  split at h
  · cases h
    rfl
  · cases h

theorem length_readPower (h : readPower negative significand exponent input = .ok (n, rest)) :
    rest.length ≤ input.length := by
  unfold readPower at h
  dsimp only at h
  split at h
  · cases h
  rename_i b digits hd
  have hb : digits.length ≤ input.length := by
    have hl := congrArg List.length hd
    split at hl <;> simp only [List.length_cons] at hl ⊢ <;> omega
  split at h
  · have he := length_readExponent (b.toNat - 48) digits
    split at h
    · rename_i e after hr
      rw [hr] at he
      rw [rest_finishFloat h]
      exact Nat.le_trans he hb
    · rename_i after hr
      rw [hr] at he
      split_ifs at h
      · cases h
      · cases h
        exact Nat.le_trans (length_skipDigits 0 after) (Nat.le_trans he hb)
  · cases h

theorem length_readFraction (h : readFraction negative significand exponent input = .ok (n, rest)) :
    rest.length ≤ input.length := by
  unfold readFraction at h
  have hd := length_readDigits significand 0 input
  generalize readDigits significand 0 input = read at h hd
  obtain ⟨digits, count, after⟩ := read
  dsimp only at h hd
  have hs := length_skipDigits 0 after
  split at h
  · split at h <;> cases h
  · split at h
    · rename_i b tail ht
      rw [ht] at hs
      have hle := Nat.le_trans hs hd
      split at h
      · exact Nat.le_trans (length_readPower h) (Nat.le_of_succ_le hle)
      · rw [rest_finishFloat h]
        exact hle
    · rw [rest_finishFloat h]
      exact Nat.zero_le _

theorem length_readTail (h : readTail negative significand dropped whole input = .ok (n, rest)) :
    rest.length ≤ input.length := by
  unfold readTail at h
  split at h
  · exact Nat.le_succ_of_le (length_readFraction h)
  · exact Nat.le_succ_of_le (length_readPower h)
  · exact Nat.le_succ_of_le (length_readPower h)
  · split at h
    · cases h
      exact Nat.le_refl _
    · exact Nat.le_of_eq (congrArg List.length (rest_finishFloat h))

theorem length_readNumber (h : readNumber negative input = .ok (n, rest)) : rest.length < input.length := by
  unfold readNumber at h
  split at h
  · cases h
  rename_i b tail
  split at h
  · split at h
    · cases h
    · exact Nat.lt_succ_of_le (length_readTail h)
  · split at h
    · have ht := length_readTail h
      have hs := length_skipDigits 0 (readDigits (b.toNat - 48) 1 tail).2.2
      have hd := length_readDigits (b.toNat - 48) 1 tail
      exact Nat.lt_succ_of_le (Nat.le_trans ht (Nat.le_trans hs hd))
    · cases h

/-! ## texts -/

theorem length_readHex {hex : Nat} (h : readHex input = .ok (hex, rest)) : rest.length ≤ input.length := by
  unfold readHex at h
  split at h
  · split at h
    · cases h
      simp only [List.length_cons]
      omega
    · cases h
  · cases h

theorem length_readLowSurrogate {high : Nat} {bytes : Bytes} (h : readLowSurrogate high input = .ok (bytes, rest)) :
    rest.length ≤ input.length := by
  unfold readLowSurrogate at h
  split at h
  · cases h
  · cases h
  · obtain ⟨⟨low, after⟩, hr, h⟩ := bind_eq_ok_iff.mp h
    have hl := length_readHex hr
    dsimp only at h
    split at h
    · cases h
    · have e : after = rest := (Prod.mk.inj (Except.ok.inj h)).2
      exact e ▸ Nat.le_succ_of_le (Nat.le_succ_of_le hl)
  · cases h
  · cases h

/-- an escape of one letter reads nothing but this letter -/
theorem rest_or_of_escape {letter : Prop} [Decidable letter] {byte : UInt8} {tail bytes : Bytes} {other : Reading Bytes}
    (h : (if letter then .ok ([byte], tail) else other) = .ok (bytes, rest)) : rest = tail ∨ other = .ok (bytes, rest) := by
  by_cases hl : letter
  · rw [if_pos hl] at h
    cases h
    exact .inl rfl
  · rw [if_neg hl] at h
    exact .inr h

theorem length_readEscape {bytes : Bytes} (h : readEscape input = .ok (bytes, rest)) :
    rest.length ≤ input.length := by
  unfold readEscape at h
  split at h
  · cases h
  rename_i b tail
  -- the eight escapes of one byte
  iterate 8
    obtain rfl | h := rest_or_of_escape h
    · exact Nat.le_succ _
  split at h
  · obtain ⟨⟨hex, after⟩, hr, h⟩ := bind_eq_ok_iff.mp h
    have hl := Nat.le_succ_of_le (length_readHex hr)
    dsimp only at h
    split_ifs at h
    · cases h
    · exact Nat.le_trans (length_readLowSurrogate h) hl
    · cases h
      exact hl
  · cases h

theorem length_readText {fuel : Nat} {acc : Bytes} {s : String} (h : readText fuel acc input = .ok (s, rest)) :
    rest.length < input.length := by
  induction fuel generalizing acc input with
  | zero => cases h
  | succ fuel ih =>
    cases input with
    | nil => cases h
    | cons b tail =>
      rw [readText] at h
      split_ifs at h
      · split at h
        · cases h
          exact Nat.lt_succ_self _
        · cases h
      · split at h
        · rename_i bytes after hr
          exact Nat.lt_succ_of_lt (Nat.lt_of_lt_of_le (ih h) (length_readEscape hr))
        · cases h
      · cases h
      · exact Nat.lt_succ_of_lt (ih h)

/-! ## arrays and objects -/

variable {first more : Bool} {fuel size depth : Nat} {item : Bytes → Reading Value} {v : Value} {vs : List Value}
  {ms : Members}

theorem length_nextItem (h : nextItem first input = .ok (more, rest)) : rest.length ≤ input.length := by
  unfold nextItem at h
  split at h
  · cases h
  rename_i b tail hb
  have hl := length_of_skipBlank hb
  split_ifs at h
  · cases h
    exact Nat.le_of_lt hl
  · cases h
    exact hl
  · split at h
    · cases h
    · rename_i c after hc
      split at h
      · cases h
      · cases h
        exact Nat.le_trans (length_of_skipBlank hc) (Nat.le_of_lt hl)
  · cases h

theorem length_nextKey (h : nextKey first input = .ok (more, rest)) : rest.length < input.length := by
  unfold nextKey at h
  split at h
  · cases h
  rename_i b tail hb
  have hl := length_of_skipBlank hb
  split_ifs at h
  · cases h
    exact hl
  · cases h
    exact hl
  · cases h
  · split at h
    · cases h
    · rename_i c after hc
      split_ifs at h
      · cases h
        exact Nat.lt_trans (length_of_skipBlank hc) hl
      · cases h
      · cases h
  · cases h

theorem length_colon (h : colon input = .ok rest) : rest.length < input.length := by
  unfold colon at h
  split at h
  · cases h
  · rename_i b tail hb
    split at h
    · cases h
      exact length_of_skipBlank hb
    · cases h

theorem length_nextItem_close (h : nextItem first input = .ok (false, rest)) : rest.length < input.length := by
  unfold nextItem at h
  split at h
  · cases h
  rename_i b tail hb
  split_ifs at h
  · cases h
    exact length_of_skipBlank hb
  · cases h
  · split at h
    · cases h
    · split at h <;> cases h
  · cases h

section
variable (forward : ∀ {input v rest}, item input = .ok (v, rest) → rest.length < input.length)
include forward

/-- an array is longer than it has items -/
theorem length_readItems (h : readItems item fuel first [] input = .ok (vs, rest)) :
    rest.length + vs.length < input.length := by
  induction fuel generalizing first input vs with
  | zero => cases h
  | succ fuel ih =>
    rcases readItems_succ.mp h with ⟨hk, rfl⟩ | ⟨head, v, after, others, hk, hv, ho, rfl⟩
    · exact length_nextItem_close hk
    · have h1 := length_nextItem hk
      have h2 := forward hv
      have h3 := ih ho
      rw [List.length_cons]
      omega

theorem length_readMembers {acc : Members} (h : readMembers size item fuel first acc input = .ok (ms, rest)) :
    rest.length < input.length := by
  induction fuel generalizing first acc input with
  | zero => cases h
  | succ fuel ih =>
    rw [readMembers] at h
    split at h
    · cases h
    · rename_i r hk
      cases h
      exact length_nextKey hk
    · rename_i named hk
      split at h
      · cases h
      rename_i key valued ht
      split at h
      · cases h
      rename_i value hc
      split at h
      · cases h
      rename_i v after hv
      have h1 := length_nextKey hk
      have h2 := length_readText ht
      have h3 := length_colon hc
      have h4 := forward hv
      have h5 := ih h
      omega

end

/-- a value leaves less than it was given, if its items do -/
theorem length_readNode {inner : Option (Bytes → Reading Value)}
    (forward : ∀ item, inner = some item → ∀ {input v rest}, item input = .ok (v, rest) → rest.length < input.length)
    (h : readNode size inner input = .ok (v, rest)) : rest.length < input.length := by
  unfold readNode at h
  split at h
  · cases h
  rename_i b tail hb
  have hl := length_of_skipBlank hb
  -- what is left by the part behind the first byte
  have behind : ∀ {after : Bytes}, after.length ≤ tail.length → rest = after → rest.length < input.length :=
    fun ha e => e ▸ Nat.lt_of_le_of_lt ha hl
  split_ifs at h with h110 h116 h102 h45 hd h34 h91 h123
  · obtain ⟨after, hw, e⟩ := map_eq_ok_iff.mp h
    exact behind (length_word hw) (Prod.mk.inj e).2.symm
  · obtain ⟨after, hw, e⟩ := map_eq_ok_iff.mp h
    exact behind (length_word hw) (Prod.mk.inj e).2.symm
  · obtain ⟨after, hw, e⟩ := map_eq_ok_iff.mp h
    exact behind (length_word hw) (Prod.mk.inj e).2.symm
  · obtain ⟨⟨n, after⟩, hn, e⟩ := map_eq_ok_iff.mp h
    exact behind (Nat.le_of_lt (length_readNumber hn)) (Prod.mk.inj e).2.symm
  · obtain ⟨⟨n, after⟩, hn, e⟩ := map_eq_ok_iff.mp h
    exact behind (Nat.le_of_lt_succ (length_readNumber hn)) (Prod.mk.inj e).2.symm
  · obtain ⟨⟨s, after⟩, ht, e⟩ := map_eq_ok_iff.mp h
    exact behind (Nat.le_of_lt (length_readText ht)) (Prod.mk.inj e).2.symm
  · split at h
    · cases h
    · rename_i item
      obtain ⟨⟨vs, after⟩, hr, e⟩ := map_eq_ok_iff.mp h
      have ha := length_readItems (forward item rfl) hr
      exact behind (by omega) (Prod.mk.inj e).2.symm
  · split at h
    · cases h
    · rename_i item
      obtain ⟨⟨ms, after⟩, hr, e⟩ := map_eq_ok_iff.mp h
      exact behind (Nat.le_of_lt (length_readMembers (forward item rfl) hr)) (Prod.mk.inj e).2.symm
  · cases h

/-- **What follows a value is shorter than what it was read from.** -/
theorem length_readValue (h : readValue size depth input = .ok (v, rest)) : rest.length < input.length := by
  induction depth generalizing input v rest with
  | zero =>
    refine length_readNode ?_ h
    intro item hi
    cases hi
  | succ depth ih =>
    refine length_readNode ?_ h
    intro item hi input v rest hr
    cases hi
    exact ih hr

end

end RequestPipeline.Json
