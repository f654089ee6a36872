import RequestPipeline.Json.Print
import RequestPipeline.Proofs.Number.Literal
import RequestPipeline.Proofs.Number.Rounding

/-!
# The value of a JSON number

A number is kept as a whole number of 64 bits, with a sign or without one, or as a floating-point number.  `value` is
what it stands for, exactly.

* `toInt?_eq_some_iff`   a floating-point number is taken for an integer only if its value is that integer;
* `Rounds.le_value`      an integer from `2^53` on is rounded to no value below `2^53`;
* `trimChars_render`     there is no blank in the text of a number.
-/

namespace RequestPipeline

namespace Finite64

def value (f : Finite64) : ℚ := (if f.negative then -(f.mantissa : ℚ) else f.mantissa) * 2 ^ f.exponent

theorem cast_unit : (unit : ℚ) = 2 ^ ((1074 : ℕ) : ℤ) := by
  rw [unit_eq]
  generalize 1074 = k
  rw [Nat.cast_pow, Nat.cast_ofNat, zpow_natCast]

/-- numbers are compared in units of the least positive one -/
theorem value_mul_unit (f : Finite64) : f.value * unit = f.scaled := by
  have hcanonical := f.canonical
  obtain ⟨k, hk⟩ := Int.eq_ofNat_of_zero_le (show 0 ≤ f.exponent + 1074 by omega)
  have hpow : (2 : ℚ) ^ f.exponent * unit = 2 ^ k := by
    rw [cast_unit, ← zpow_add₀ (by norm_num), Nat.cast_ofNat, hk, zpow_natCast]
  have hmag : (f.magnitude : ℚ) = f.mantissa * 2 ^ k := by
    unfold magnitude
    rw [hk, Int.toNat_natCast, Nat.cast_mul, Nat.cast_pow, Nat.cast_ofNat]
  unfold value
  rw [mul_assoc, hpow, scaled_eq]
  split
  · rw [Int.cast_neg, Int.cast_natCast, hmag, neg_mul]
  · rw [Int.cast_natCast, hmag]

/-- a number is an integer just when it is that many times the unit -/
theorem value_eq_iff {f : Finite64} {i : ℤ} : f.value = i ↔ f.scaled = i * (unit : ℤ) := by
  have hu : (unit : ℚ) ≠ 0 := Nat.cast_ne_zero.mpr (Nat.pos_iff_ne_zero.mp unit_pos)
  rw [← mul_left_inj' hu, value_mul_unit]
  exact_mod_cast Iff.rfl

theorem toInt?_eq_some_iff {f : Finite64} {i : ℤ} : f.toInt? = some i ↔ f.value = i := by
  have hu : (unit : ℤ) ≠ 0 := Int.natCast_ne_zero.mpr (Nat.pos_iff_ne_zero.mp unit_pos)
  rw [value_eq_iff]
  unfold toInt?
  generalize (unit : ℤ) = u at hu
  constructor
  · intro h
    obtain ⟨hmod, hdiv⟩ := Option.ite_none_right_eq_some.mp h
    rw [← Option.some.inj hdiv, Int.ediv_mul_cancel (Int.dvd_of_emod_eq_zero hmod)]
  · intro h
    rw [h, Int.mul_emod_left, Int.mul_ediv_cancel _ hu]
    rfl

/-- an integer from `2^53` on is rounded to no value below `2^53` -/
theorem Rounds.le_value {i j : ℤ} {f : Finite64} (h : Rounds i f) (hi : 2 ^ 53 ≤ i.natAbs) (hj : f.value = j) :
    2 ^ 53 ≤ j.natAbs := by
  have hu : 0 < unit := unit_pos
  have hfar : 2 ^ 53 * unit ≤ nearest i.natAbs := le_nearest hi
  have habs : f.scaled.natAbs = nearest i.natAbs := by
    rw [h.scaled_eq]
    split <;> omega
  rw [value_eq_iff.mp hj, Int.natAbs_mul, Int.natAbs_natCast] at habs
  rw [← habs] at hfar
  generalize unit = u at hfar hu
  exact Nat.le_of_mul_le_mul_right hfar hu

end Finite64

namespace Json.Number

/-- the numbers that can be kept: whole numbers of 64 bits, with a sign or without one, and floating-point numbers -/
def Stored : Number → Prop
  | .int i => Text.minInt64 ≤ i ∧ i ≤ Text.maxUInt64
  | .float _ => True

def value : Number → ℚ
  | .int i => i
  | .float f => f.value

theorem trimChars_render (n : Number) : Text.trimChars n.render = n.render := by
  refine Text.trimChars_of_not_blank ?_
  cases n with
  | int i => exact (Text.denotes_ofInt i).not_blank
  | float f =>
    intro c hc
    rcases f.mem_text hc with hd | hm
    · exact Text.isBlank_of_isDigit hd
    · have hmarks : ∀ c ∈ ['.', 'e', '+', '-'], Text.isBlank c = false := by simp [Text.isBlank]
      exact hmarks c hm

end Json.Number

end RequestPipeline
