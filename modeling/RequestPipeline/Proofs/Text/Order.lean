import Mathlib.Algebra.Group.Nat.Defs
import RequestPipeline.Proofs.Text.Utf8

/-!
# The order of texts is that of their bytes

A character is a first byte, which says how many bytes follow, and six bits in each of these.  A greater character
has a greater first byte, or one of the same kind and greater bits behind it (`encodeChar_append_lt`).

`ofText_lt_iff`: **texts are in the order of their bytes.**
-/

namespace RequestPipeline.Utf8

section
variable {x y : Bytes}

theorem cons_lt_cons_of_lt {a b : Nat} (hb : b < 256) (h : a < b) : a.toUInt8 :: x < b.toUInt8 :: y := by
  have hab : a.toUInt8 < b.toUInt8 := by
    rw [toUInt8_lt_iff (by omega), toNat_toUInt8 hb]
    exact h
  exact List.cons_lt_cons_iff.mpr (.inl hab)

theorem cons_lt_cons_self {b : UInt8} (h : x < y) : b :: x < b :: y := List.cons_lt_cons_iff.mpr (.inr ⟨rfl, h⟩)

/-! ## characters -/

/-- the bytes behind the first one, six bits in each -/
def tails : Nat → Nat → Bytes
  | 0, _ => []
  | k + 1, n => tail (n / 64 ^ k) :: tails k n

/-- of two numbers with the same bits above, the greater has the greater bytes -/
theorem tails_append_lt {k n m : Nat} (above : n / 64 ^ k = m / 64 ^ k) (h : n < m) :
    tails k n ++ x < tails k m ++ y := by
  induction k with
  | zero =>
    rw [Nat.pow_zero, Nat.div_one, Nat.div_one] at above
    omega
  | succ k ih =>
    show tail (n / 64 ^ k) :: (tails k n ++ x) < tail (m / 64 ^ k) :: (tails k m ++ y)
    -- either the first of these bytes decides, or what is behind it
    by_cases he : n / 64 ^ k = m / 64 ^ k
    · rw [he]
      exact cons_lt_cons_self (ih he)
    · have hle : n / 64 ^ k ≤ m / 64 ^ k := Nat.div_le_div_right (Nat.le_of_lt h)
      rw [Nat.pow_succ, ← Nat.div_div_eq_div_mul, ← Nat.div_div_eq_div_mul] at above
      exact cons_lt_cons_of_lt (by omega) (by omega)

/-- how many bytes are behind the first one -/
def width (n : Nat) : Nat := if n < 0x80 then 0 else if n < 0x800 then 1 else if n < 0x10000 then 2 else 3

/-- the first byte -/
def lead (n : Nat) : Nat :=
  if n < 0x80 then n
  else if n < 0x800 then 0xC0 + n / 64
  else if n < 0x10000 then 0xE0 + n / 4096
  else 0xF0 + n / 262144

theorem width_cases (n : Nat) : width n = 0 ∧ lead n = n ∧ n < 0x80 ∨
    width n = 1 ∧ lead n = 0xC0 + n / 64 ∧ 0x80 ≤ n ∧ n < 0x800 ∨
    width n = 2 ∧ lead n = 0xE0 + n / 4096 ∧ 0x800 ≤ n ∧ n < 0x10000 ∨
    width n = 3 ∧ lead n = 0xF0 + n / 262144 ∧ 0x10000 ≤ n := by
  unfold width lead
  split
  · omega
  · split
    · omega
    · split <;> omega

theorem encodeChar_eq (c : Char) : encodeChar c = (lead c.toNat).toUInt8 :: tails (width c.toNat) c.toNat := by
  unfold encodeChar
  dsimp only
  generalize c.toNat = n
  rcases width_cases n with ⟨hw, hl, h⟩ | ⟨hw, hl, h, h'⟩ | ⟨hw, hl, h, h'⟩ | ⟨hw, hl, h⟩
  · rw [hw, hl, if_pos h]
    rfl
  · rw [hw, hl, if_neg (by omega), if_pos h']
    show _ = [_, tail (n / 1)]
    rw [Nat.div_one]
    rfl
  · rw [hw, hl, if_neg (by omega), if_neg (by omega), if_pos h']
    show _ = [_, tail (n / 64), tail (n / 1)]
    rw [Nat.div_one]
    rfl
  · rw [hw, hl, if_neg (by omega), if_neg (by omega), if_neg (by omega)]
    show _ = [_, tail (n / 4096), tail (n / 64), tail (n / 1)]
    rw [Nat.div_one]
    rfl

/-- a greater number has a greater first byte, or in a first byte of the same kind the same bits -/
theorem lead_lt_or {n m : Nat} (h : n < m) (hm : m < 0x110000) : lead m < 256 ∧
    (lead n < lead m ∨ lead n = lead m ∧ width n = width m ∧ n / 64 ^ width n = m / 64 ^ width n) := by
  rcases width_cases n with hn | hn | hn | hn <;> rcases width_cases m with hk | hk | hk | hk <;>
    (rw [hn.1, hk.1]; omega)

theorem encodeChar_append_lt {c d : Char} (h : c < d) : encodeChar c ++ x < encodeChar d ++ y := by
  have hd : d.toNat < 0x110000 := by
    have hv : d.toNat < 0xD800 ∨ 0xDFFF < d.toNat ∧ d.toNat < 0x110000 := d.valid
    omega
  have hn : c.toNat < d.toNat := h
  rw [encodeChar_eq, encodeChar_eq]
  obtain ⟨hb, hl | ⟨hl, hw, above⟩⟩ := lead_lt_or hn hd
  · exact cons_lt_cons_of_lt hb hl
  · rw [hl, ← hw]
    exact cons_lt_cons_self (tails_append_lt above hn)

end

/-! ## texts -/

theorem encode_lt {cs ds : List Char} (h : cs < ds) : encode cs < encode ds := by
  induction ds generalizing cs with
  | nil => exact absurd h (List.not_lt_nil cs)
  | cons d ds ih =>
    rw [encode_cons]
    cases cs with
    | nil =>
      cases hb : encodeChar d with
      | nil => exact absurd hb (encodeChar_ne_nil d)
      | cons b bs => exact List.nil_lt_cons _ _
    | cons c cs =>
      rw [encode_cons]
      rcases List.cons_lt_cons_iff.mp h with hlt | ⟨rfl, hlt⟩
      · exact encodeChar_append_lt hlt
      · exact List.append_left_lt (ih hlt)

/-- **Texts are in the order of their bytes.** -/
theorem ofText_lt_iff {s t : String} : ofText s < ofText t ↔ s < t := by
  show ofText s < ofText t ↔ s.toList < t.toList
  constructor
  · intro h
    refine Decidable.byContradiction fun hn => ?_
    rcases List.le_iff_lt_or_eq.mp (List.not_lt.mp hn) with hlt | he
    · exact List.lt_irrefl _ (List.lt_trans h (encode_lt hlt))
    · unfold ofText at h
      rw [he] at h
      exact List.lt_irrefl _ h
  · exact encode_lt

end RequestPipeline.Utf8
