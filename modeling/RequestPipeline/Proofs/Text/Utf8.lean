import RequestPipeline.Text.Utf8

/-!
# Reading what was written

* `next_encodeChar`    the bytes of a character are read as that character, whatever follows them;
* `decode_encode`      **the bytes of a text are read as that text**;
* `encode_injective`   so no two texts have the same bytes.

A character has one to four bytes, by its number: the first byte says how many, and carries what the others,
with six bits each, leave of the number.
-/

namespace RequestPipeline.Utf8

/-! ## single bytes -/

theorem toNat_toUInt8 {n : Nat} (h : n < 256) : n.toUInt8.toNat = n := Nat.mod_eq_of_lt h

/-- comparing a byte that is given by a number -/
theorem toUInt8_lt_iff {n : Nat} (h : n < 256) (b : UInt8) : n.toUInt8 < b ↔ n < b.toNat := by
  rw [UInt8.lt_iff_toNat_lt, toNat_toUInt8 h]

theorem le_toUInt8_iff {n : Nat} (h : n < 256) (b : UInt8) : b ≤ n.toUInt8 ↔ b.toNat ≤ n := by
  rw [UInt8.le_iff_toNat_le, toNat_toUInt8 h]

/-- the byte that carries the lowest six bits of a number -/
def tail (n : Nat) : UInt8 := (0x80 + n % 64).toUInt8

theorem toNat_tail (n : Nat) : (tail n).toNat = 0x80 + n % 64 := toNat_toUInt8 (by omega)

theorem isContinuation_tail (n : Nat) : isContinuation (tail n) = true := by
  have h : 0x80 + n % 64 < 256 := by omega
  have h₁ : (0x80 : UInt8) ≤ tail n := (le_toUInt8_iff h _).mpr (Nat.le_add_right _ _)
  have h₂ : tail n < 0xC0 := (toUInt8_lt_iff h _).mpr (by show 0x80 + n % 64 < 0xC0; omega)
  unfold isContinuation
  rw [decide_eq_true h₁, decide_eq_true h₂]
  rfl

theorem bits_tail (n : Nat) : bits (tail n) = n % 64 := by
  unfold bits
  rw [toNat_tail]
  omega

/-- only the least and the greatest first byte ask something of the second -/
theorem secondOfThree_tail {a : UInt8} {n : Nat} (h : a.toNat = 0xE0 → 0x20 ≤ n % 64)
    (h' : a.toNat = 0xED → n % 64 < 0x20) : secondOfThree a (tail n) = true := by
  have hn : 0x80 + n % 64 < 256 := by omega
  have h₁ : a ≠ 0xE0 ∨ 0xA0 ≤ tail n := by
    by_cases ha : a = 0xE0
    · have hl : 0x20 ≤ n % 64 := h (congrArg UInt8.toNat ha)
      exact .inr ((le_toUInt8_iff hn _).mpr (by show 0xA0 ≤ 0x80 + n % 64; omega))
    · exact .inl ha
  have h₂ : a ≠ 0xED ∨ tail n < 0xA0 := by
    by_cases ha : a = 0xED
    · have hl : n % 64 < 0x20 := h' (congrArg UInt8.toNat ha)
      exact .inr ((toUInt8_lt_iff hn _).mpr (by show 0x80 + n % 64 < 0xA0; omega))
    · exact .inl ha
  unfold secondOfThree
  rw [isContinuation_tail, Bool.true_and, Bool.and_eq_true, Bool.or_eq_true, Bool.or_eq_true,
    bne_iff_ne, bne_iff_ne, decide_eq_true_iff, decide_eq_true_iff]
  exact ⟨h₁, h₂⟩

theorem secondOfFour_tail {a : UInt8} {n : Nat} (h : a.toNat = 0xF0 → 0x10 ≤ n % 64)
    (h' : a.toNat = 0xF4 → n % 64 < 0x10) : secondOfFour a (tail n) = true := by
  have hn : 0x80 + n % 64 < 256 := by omega
  have h₁ : a ≠ 0xF0 ∨ 0x90 ≤ tail n := by
    by_cases ha : a = 0xF0
    · have hl : 0x10 ≤ n % 64 := h (congrArg UInt8.toNat ha)
      exact .inr ((le_toUInt8_iff hn _).mpr (by show 0x90 ≤ 0x80 + n % 64; omega))
    · exact .inl ha
  have h₂ : a ≠ 0xF4 ∨ tail n < 0x90 := by
    by_cases ha : a = 0xF4
    · have hl : n % 64 < 0x10 := h' (congrArg UInt8.toNat ha)
      exact .inr ((toUInt8_lt_iff hn _).mpr (by show 0x80 + n % 64 < 0x90; omega))
    · exact .inl ha
  unfold secondOfFour
  rw [isContinuation_tail, Bool.true_and, Bool.and_eq_true, Bool.or_eq_true, Bool.or_eq_true,
    bne_iff_ne, bne_iff_ne, decide_eq_true_iff, decide_eq_true_iff]
  exact ⟨h₁, h₂⟩

/-! ## characters of one to four bytes -/

section
variable {n : Nat} (rest : Bytes)

theorem next_one (h : n < 0x80) : next (n.toUInt8 :: rest) = .char (Char.ofNat n) rest := by
  have ha : n.toUInt8 < 0x80 := (toUInt8_lt_iff (by omega) _).mpr h
  unfold next
  dsimp only
  rw [if_pos ha, toNat_toUInt8 (by omega)]

theorem next_two (h : 0x80 ≤ n) (h' : n < 0x800) :
    next ((0xC0 + n / 64).toUInt8 :: tail n :: rest) = .char (Char.ofNat n) rest := by
  have hn : 0xC0 + n / 64 < 256 := by omega
  have h₁ : ¬ (0xC0 + n / 64).toUInt8 < 0x80 := by
    rw [toUInt8_lt_iff hn]; show ¬ 0xC0 + n / 64 < 0x80; omega
  have h₂ : ¬ (0xC0 + n / 64).toUInt8 < 0xC2 := by
    rw [toUInt8_lt_iff hn]; show ¬ 0xC0 + n / 64 < 0xC2; omega
  have h₃ : (0xC0 + n / 64).toUInt8 < 0xE0 := by
    rw [toUInt8_lt_iff hn]; show 0xC0 + n / 64 < 0xE0; omega
  have hv : (0xC0 + n / 64) % 32 * 64 + n % 64 = n := by omega
  unfold next
  dsimp only
  rw [if_neg h₁, if_neg h₂, if_pos h₃]
  show (if isContinuation (tail n) then _ else _) = _
  rw [if_pos (isContinuation_tail n), toNat_toUInt8 hn, bits_tail, hv]

theorem next_three (h : 0x800 ≤ n) (h' : n < 0xD800 ∨ 0xDFFF < n ∧ n < 0x10000) :
    next ((0xE0 + n / 4096).toUInt8 :: tail (n / 64) :: tail n :: rest) = .char (Char.ofNat n) rest := by
  have hn : 0xE0 + n / 4096 < 256 := by omega
  have h₁ : ¬ (0xE0 + n / 4096).toUInt8 < 0x80 := by
    rw [toUInt8_lt_iff hn]; show ¬ 0xE0 + n / 4096 < 0x80; omega
  have h₂ : ¬ (0xE0 + n / 4096).toUInt8 < 0xC2 := by
    rw [toUInt8_lt_iff hn]; show ¬ 0xE0 + n / 4096 < 0xC2; omega
  have h₃ : ¬ (0xE0 + n / 4096).toUInt8 < 0xE0 := by
    rw [toUInt8_lt_iff hn]; show ¬ 0xE0 + n / 4096 < 0xE0; omega
  have h₄ : (0xE0 + n / 4096).toUInt8 < 0xF0 := by
    rw [toUInt8_lt_iff hn]; show 0xE0 + n / 4096 < 0xF0; omega
  have hs : secondOfThree (0xE0 + n / 4096).toUInt8 (tail (n / 64)) = true := by
    refine secondOfThree_tail ?_ ?_ <;> rw [toNat_toUInt8 hn] <;> omega
  have hv : (0xE0 + n / 4096) % 16 * 4096 + n / 64 % 64 * 64 + n % 64 = n := by omega
  unfold next
  dsimp only
  rw [if_neg h₁, if_neg h₂, if_neg h₃, if_pos h₄, if_pos hs, if_pos (isContinuation_tail n),
    toNat_toUInt8 hn, bits_tail, bits_tail, hv]

theorem next_four (h : 0x10000 ≤ n) (h' : n < 0x110000) :
    next ((0xF0 + n / 262144).toUInt8 :: tail (n / 4096) :: tail (n / 64) :: tail n :: rest)
      = .char (Char.ofNat n) rest := by
  have hn : 0xF0 + n / 262144 < 256 := by omega
  have h₁ : ¬ (0xF0 + n / 262144).toUInt8 < 0x80 := by
    rw [toUInt8_lt_iff hn]; show ¬ 0xF0 + n / 262144 < 0x80; omega
  have h₂ : ¬ (0xF0 + n / 262144).toUInt8 < 0xC2 := by
    rw [toUInt8_lt_iff hn]; show ¬ 0xF0 + n / 262144 < 0xC2; omega
  have h₃ : ¬ (0xF0 + n / 262144).toUInt8 < 0xE0 := by
    rw [toUInt8_lt_iff hn]; show ¬ 0xF0 + n / 262144 < 0xE0; omega
  have h₄ : ¬ (0xF0 + n / 262144).toUInt8 < 0xF0 := by
    rw [toUInt8_lt_iff hn]; show ¬ 0xF0 + n / 262144 < 0xF0; omega
  have h₅ : (0xF0 + n / 262144).toUInt8 < 0xF5 := by
    rw [toUInt8_lt_iff hn]; show 0xF0 + n / 262144 < 0xF5; omega
  have hs : secondOfFour (0xF0 + n / 262144).toUInt8 (tail (n / 4096)) = true := by
    refine secondOfFour_tail ?_ ?_ <;> rw [toNat_toUInt8 hn] <;> omega
  have hv : (0xF0 + n / 262144) % 8 * 262144 + n / 4096 % 64 * 4096 + n / 64 % 64 * 64 + n % 64 = n := by
    omega
  unfold next
  dsimp only
  rw [if_neg h₁, if_neg h₂, if_neg h₃, if_neg h₄, if_pos h₅, if_pos hs,
    if_pos (isContinuation_tail _), if_pos (isContinuation_tail n), toNat_toUInt8 hn, bits_tail,
    bits_tail, bits_tail, hv]

end

/-! ## texts -/

/-- **A character is read back from its bytes, whatever follows them.** -/
theorem next_encodeChar (c : Char) (rest : Bytes) : next (encodeChar c ++ rest) = .char c rest := by
  have hc : Char.ofNat c.toNat = c := Char.ofNat_toNat c
  have hv : c.toNat < 0xD800 ∨ 0xDFFF < c.toNat ∧ c.toNat < 0x110000 := c.valid
  have hr : next (encodeChar c ++ rest) = .char (Char.ofNat c.toNat) rest := by
    unfold encodeChar
    dsimp only
    by_cases h₁ : c.toNat < 0x80
    · rw [if_pos h₁]
      exact next_one rest h₁
    rw [if_neg h₁]
    by_cases h₂ : c.toNat < 0x800
    · rw [if_pos h₂]
      exact next_two rest (Nat.not_lt.mp h₁) h₂
    rw [if_neg h₂]
    by_cases h₃ : c.toNat < 0x10000
    · rw [if_pos h₃]
      exact next_three rest (Nat.not_lt.mp h₂) (hv.imp_right fun h => ⟨h.1, h₃⟩)
    · rw [if_neg h₃]
      exact next_four rest (Nat.not_lt.mp h₃) (by omega)
  rw [hr, hc]

theorem encode_cons (c : Char) (cs : List Char) : encode (c :: cs) = encodeChar c ++ encode cs := rfl

theorem encode_of_ascii {cs : List Char} (h : ∀ c ∈ cs, c.toNat < 0x80) :
    encode cs = cs.map fun c => c.toNat.toUInt8 := by
  induction cs with
  | nil => rfl
  | cons c cs ih =>
    have hc : encodeChar c = [c.toNat.toUInt8] := if_pos (h c List.mem_cons_self)
    rw [encode_cons, hc, ih fun d hd => h d (List.mem_cons_of_mem _ hd)]
    rfl

theorem encodeChar_ne_nil (c : Char) : encodeChar c ≠ [] := by
  intro h
  have hn := next_encodeChar c []
  rw [h] at hn
  cases hn

theorem length_le_encode (cs : List Char) : cs.length ≤ (encode cs).length := by
  induction cs with
  | nil => exact Nat.le_refl 0
  | cons c cs ih =>
    have hc : 0 < (encodeChar c).length := List.length_pos_iff.mpr (encodeChar_ne_nil c)
    rw [encode_cons, List.length_append, List.length_cons]
    omega

/-- with fuel for every character, a text is read on top of what was read before -/
theorem decodeAux_encode {cs : List Char} {fuel : Nat} (h : cs.length ≤ fuel) (acc : List Char) :
    decodeAux fuel acc (encode cs) = some (acc.reverse ++ cs) := by
  induction cs generalizing fuel acc with
  | nil => cases fuel <;> exact congrArg some (List.append_nil _).symm
  | cons c cs ih =>
    cases fuel with
    | zero => cases h
    | succ fuel =>
      rw [encode_cons, decodeAux, next_encodeChar]
      show decodeAux fuel (c :: acc) (encode cs) = _
      rw [ih (Nat.le_of_succ_le_succ h), List.reverse_cons, List.append_assoc]
      rfl

/-- **A text is read back from its bytes.** -/
theorem decode_encode (cs : List Char) : decode (encode cs) = some cs :=
  decodeAux_encode (length_le_encode cs) []

theorem encode_injective {cs ds : List Char} (h : encode cs = encode ds) : cs = ds := by
  have hd : some cs = some ds := by rw [← decode_encode cs, ← decode_encode ds, h]
  exact Option.some.inj hd

end RequestPipeline.Utf8
