import Mathlib.Algebra.Order.Field.Power
import Mathlib.Tactic.FieldSimp
import Mathlib.Tactic.Linarith
import Mathlib.Tactic.Positivity
import RequestPipeline.Number.Binary64

/-!
# The number nearest to a value

A number covers the values that it is nearest to: from half a unit of its mantissa below it (a quarter at a power of
two, where the numbers below lie twice as close) to half a unit above it, both ends only if its mantissa is even.

* `scaleRatio_div`, `binaryOrder_bounds`   what the steps of rounding compute, as rational numbers;
* `ofRatio_of_covers`     **a quotient is rounded to the number that covers it**;
* `ofDecimal_of_covers`   and so is a decimal, whose size is always within the bounds that are looked at first.
-/

namespace RequestPipeline.Finite64

/-! ## what a number covers -/

/-- how far a number covers the values below it, in units of its mantissa -/
def reach (f : Finite64) : ℚ := if f.mantissa = 4503599627370496 ∧ f.exponent ≠ -1074 then 1 / 4 else 1 / 2

/-- a number is the nearest one to a value; of two the one with the even mantissa -/
structure Covers (f : Finite64) (x : ℚ) : Prop where
  low : (f.mantissa - f.reach) * 2 ^ f.exponent ≤ x
  high : x ≤ (f.mantissa + 1 / 2) * 2 ^ f.exponent
  inner : f.mantissa % 2 = 1 →
    (f.mantissa - f.reach) * 2 ^ f.exponent < x ∧ x < (f.mantissa + 1 / 2) * 2 ^ f.exponent

theorem two_zpow_pos (e : ℤ) : (0 : ℚ) < 2 ^ e := zpow_pos (by norm_num) e

theorem reach_le (f : Finite64) : f.reach ≤ 1 / 2 := by
  unfold reach
  split <;> norm_num

theorem le_reach (f : Finite64) : 1 / 4 ≤ f.reach := by
  unfold reach
  split <;> norm_num

theorem ofParts?_self (f : Finite64) : ofParts? f.negative f.mantissa f.exponent = some f := dif_pos f.canonical

theorem one_le_mantissa {f : Finite64} (hm : f.mantissa ≠ 0) : (1 : ℚ) ≤ f.mantissa := by
  exact_mod_cast Nat.one_le_iff_ne_zero.mpr hm

/-! ## the steps of rounding -/

section
variable {n d m : ℕ}

/-- the whole number that a quotient is within a half of, of two the even one -/
theorem divEven_of_near (hd : 0 < d) (low : (m : ℚ) - 1 / 2 ≤ n / d) (high : (n : ℚ) / d ≤ m + 1 / 2)
    (inner : m % 2 = 1 → (m : ℚ) - 1 / 2 < n / d ∧ (n : ℚ) / d < m + 1 / 2) : divEven n d = m := by
  have hdq : (0 : ℚ) < d := by exact_mod_cast hd
  have hn : d * (n / d) + n % d = n := Nat.div_add_mod n d
  have hr : n % d < d := Nat.mod_lt n hd
  rw [le_div_iff₀ hdq] at low
  rw [div_le_iff₀ hdq] at high
  rw [lt_div_iff₀ hdq, div_lt_iff₀ hdq] at inner
  unfold divEven
  dsimp only
  generalize n / d = q at hn
  generalize n % d = r at hn hr
  have hnq : (n : ℚ) = d * q + r := by exact_mod_cast hn.symm
  have hrq : (r : ℚ) < d := by exact_mod_cast hr
  have hr0 : (0 : ℚ) ≤ r := Nat.cast_nonneg r
  rw [hnq] at low high inner
  -- only the quotient and the next number are near enough
  have hlow : q ≤ m := by
    by_contra hlt
    have hq : (m : ℚ) + 1 ≤ q := by exact_mod_cast Nat.lt_of_not_le hlt
    nlinarith
  have hhigh : m ≤ q + 1 := by
    by_contra hlt
    have hq : (q : ℚ) + 2 ≤ m := by exact_mod_cast Nat.lt_of_not_le hlt
    nlinarith
  obtain rfl | rfl : m = q ∨ m = q + 1 := by omega
  · have h2 : 2 * r ≤ d := by
      have : (2 : ℚ) * r ≤ d := by linarith
      exact_mod_cast this
    have hodd : m % 2 = 1 → 2 * r < d := by
      intro h
      have : (2 : ℚ) * r < d := by linarith [(inner h).2]
      exact_mod_cast this
    split
    · rfl
    · rw [if_neg (by omega), if_pos (by omega)]
  · push_cast at low inner
    have h2 : d ≤ 2 * r := by
      have : (d : ℚ) ≤ 2 * r := by linarith
      exact_mod_cast this
    have hodd : (q + 1) % 2 = 1 → d < 2 * r := by
      intro h
      have : (d : ℚ) < 2 * r := by linarith [(inner h).1]
      exact_mod_cast this
    rw [if_neg (by omega)]
    split
    · rfl
    · rw [if_neg (by omega)]

end

section
variable {num den : ℕ}

/-- `num / den` times `b^(-e)`, as a quotient of natural numbers -/
def scaleBy (b num den : ℕ) (e : ℤ) : ℕ × ℕ :=
  match e with
  | .ofNat k => (num, den * b ^ k)
  | .negSucc k => (num * b ^ (k + 1), den)

theorem scaleBy_div (b num den : ℕ) (e : ℤ) :
    ((scaleBy b num den e).1 : ℚ) / (scaleBy b num den e).2 = num / den / (b : ℚ) ^ e := by
  cases e with
  | ofNat k =>
    show (num : ℚ) / ((den * b ^ k : ℕ) : ℚ) = num / den / (b : ℚ) ^ (k : ℤ)
    rw [zpow_natCast, Nat.cast_mul, Nat.cast_pow, div_div]
  | negSucc k =>
    show ((num * b ^ (k + 1) : ℕ) : ℚ) / den = num / den / (b : ℚ) ^ Int.negSucc k
    rw [zpow_negSucc, Nat.cast_mul, Nat.cast_pow, div_inv_eq_mul, div_mul_eq_mul_div]

theorem scaleBy_pos {b : ℕ} (hb : 0 < b) (hd : den ≠ 0) (e : ℤ) : 0 < (scaleBy b num den e).2 := by
  cases e with
  | ofNat k => exact Nat.mul_pos (Nat.pos_of_ne_zero hd) (Nat.pow_pos hb)
  | negSucc k => exact Nat.pos_of_ne_zero hd

theorem scaleRatio_eq (num den : ℕ) (e : ℤ) : scaleRatio num den e = scaleBy 2 num den e := by
  cases e <;> rfl

theorem scaleRatio_div (num den : ℕ) (e : ℤ) :
    ((scaleRatio num den e).1 : ℚ) / (scaleRatio num den e).2 = num / den / 2 ^ e := by
  rw [scaleRatio_eq]
  exact scaleBy_div 2 num den e

theorem scaleRatio_pos (hd : den ≠ 0) (e : ℤ) : 0 < (scaleRatio num den e).2 := by
  rw [scaleRatio_eq]
  exact scaleBy_pos (by decide) hd e

variable (hn : num ≠ 0) (hd : den ≠ 0)
include hn hd

/-- the quotient lies between the powers of two that the sizes of its sides tell -/
theorem log2_bounds : (2 : ℚ) ^ ((num.log2 : ℤ) - den.log2 - 1) < num / den ∧
    (num : ℚ) / den < 2 ^ ((num.log2 : ℤ) - den.log2 + 1) := by
  have hdq : (0 : ℚ) < den := by exact_mod_cast Nat.pos_of_ne_zero hd
  have nlow : (2 : ℚ) ^ (num.log2 : ℤ) ≤ num := by exact_mod_cast Nat.log2_self_le hn
  have nhigh : (num : ℚ) < 2 ^ ((num.log2 : ℤ) + 1) := by exact_mod_cast (Nat.lt_log2_self (n := num))
  have dlow : (2 : ℚ) ^ (den.log2 : ℤ) ≤ den := by exact_mod_cast Nat.log2_self_le hd
  have dhigh : (den : ℚ) < 2 ^ ((den.log2 : ℤ) + 1) := by exact_mod_cast (Nat.lt_log2_self (n := den))
  constructor
  · rw [lt_div_iff₀ hdq]
    calc (2 : ℚ) ^ ((num.log2 : ℤ) - den.log2 - 1) * den
        < 2 ^ ((num.log2 : ℤ) - den.log2 - 1) * 2 ^ ((den.log2 : ℤ) + 1) :=
          mul_lt_mul_of_pos_left dhigh (two_zpow_pos _)
      _ = 2 ^ (num.log2 : ℤ) := by
          rw [← zpow_add₀ (by norm_num)]
          congr 1
          omega
      _ ≤ num := nlow
  · rw [div_lt_iff₀ hdq]
    calc (num : ℚ) < 2 ^ ((num.log2 : ℤ) + 1) := nhigh
      _ = 2 ^ ((num.log2 : ℤ) - den.log2 + 1) * 2 ^ (den.log2 : ℤ) := by
          rw [← zpow_add₀ (by norm_num)]
          congr 1
          omega
      _ ≤ 2 ^ ((num.log2 : ℤ) - den.log2 + 1) * den := mul_le_mul_of_nonneg_left dlow (two_zpow_pos _).le

theorem binaryOrder_bounds : (2 : ℚ) ^ binaryOrder num den ≤ num / den ∧
    (num : ℚ) / den < 2 ^ (binaryOrder num den + 1) := by
  obtain ⟨low, high⟩ := log2_bounds hn hd
  have hs := scaleRatio_div num den ((num.log2 : ℤ) - den.log2)
  have hp : 0 < (scaleRatio num den ((num.log2 : ℤ) - den.log2)).2 := scaleRatio_pos hd _
  unfold binaryOrder
  dsimp only
  generalize (num.log2 : ℤ) - den.log2 = k at low high hs hp
  generalize scaleRatio num den k = s at hs hp
  have hpq : (0 : ℚ) < s.2 := by exact_mod_cast hp
  split
  · rename_i h
    refine ⟨?_, high⟩
    have h1 : (1 : ℚ) ≤ num / den / 2 ^ k := by
      rw [← hs, le_div_iff₀ hpq, one_mul]
      exact_mod_cast h
    rwa [le_div_iff₀ (two_zpow_pos k), one_mul] at h1
  · rename_i h
    refine ⟨low.le, ?_⟩
    have h1 : (num : ℚ) / den / 2 ^ k < 1 := by
      rw [← hs, div_lt_iff₀ hpq, one_mul]
      exact_mod_cast Nat.lt_of_not_le h
    rwa [div_lt_iff₀ (two_zpow_pos k), one_mul, ← sub_add_cancel k 1] at h1

/-- the exponent that a quotient is rounded with, from the powers of two around it -/
theorem exponent_of_bounds {q : ℤ} (hq : -1074 ≤ q) (high : (num : ℚ) / den < 2 ^ (q + 53))
    (low : q = -1074 ∨ (2 : ℚ) ^ (q + 52) ≤ num / den) : max (binaryOrder num den - 52) (-1074) = q := by
  obtain ⟨hle, hlt⟩ := binaryOrder_bounds hn hd
  have hb : binaryOrder num den < q + 53 := (zpow_lt_zpow_iff_right₀ (by norm_num)).mp (hle.trans_lt high)
  rcases low with rfl | low
  · omega
  · have hq : q + 52 < binaryOrder num den + 1 := (zpow_lt_zpow_iff_right₀ (by norm_num)).mp (low.trans_lt hlt)
    omega

end

/-! ## rounding -/

section
variable {f : Finite64} {x : ℚ}

theorem Covers.lt (h : f.Covers x) : x < 2 ^ (f.exponent + 53) := by
  have hm : (f.mantissa : ℚ) + 1 ≤ 2 ^ 53 := by exact_mod_cast f.canonical.1
  have hp := two_zpow_pos f.exponent
  calc x ≤ (f.mantissa + 1 / 2) * 2 ^ f.exponent := h.high
    _ < 2 ^ 53 * 2 ^ f.exponent := mul_lt_mul_of_pos_right (by linarith) hp
    _ = 2 ^ (f.exponent + 53) := by
      rw [zpow_add₀ (by norm_num), mul_comm]
      rfl

theorem Covers.pos (h : f.Covers x) (hm : f.mantissa ≠ 0) : 0 < x := by
  have h1 := one_le_mantissa hm
  have hr := f.reach_le
  exact lt_of_lt_of_le (mul_pos (by linarith) (two_zpow_pos _)) h.low

/-- what a number covers below its own power of two is covered by the least mantissa, up to a quarter of its unit -/
theorem Covers.of_lt (h : f.Covers x) (he : f.exponent ≠ -1074) (hx : x < 2 ^ (f.exponent + 52)) :
    f.mantissa = 4503599627370496 ∧ (9007199254740992 - 1 / 2) * 2 ^ (f.exponent - 1) ≤ x := by
  have hp := two_zpow_pos f.exponent
  have hm : 4503599627370496 ≤ f.mantissa := f.canonical.2.2.2.resolve_right he
  have hl : (f.mantissa - 1 / 2 : ℚ) * 2 ^ f.exponent < 4503599627370496 * 2 ^ f.exponent := by
    calc (f.mantissa - 1 / 2 : ℚ) * 2 ^ f.exponent
        ≤ (f.mantissa - f.reach) * 2 ^ f.exponent := by nlinarith [f.reach_le]
      _ ≤ x := h.low
      _ < 2 ^ (f.exponent + 52) := hx
      _ = 4503599627370496 * 2 ^ f.exponent := by
        rw [zpow_add₀ (by norm_num), mul_comm]
        norm_num
  have hlt : (f.mantissa : ℚ) < 4503599627370497 := by linarith [lt_of_mul_lt_mul_right hl hp.le]
  have heq : f.mantissa = 4503599627370496 := by
    have : f.mantissa < 4503599627370497 := by exact_mod_cast hlt
    omega
  have hr : f.reach = 1 / 4 := if_pos ⟨heq, he⟩
  refine ⟨heq, ?_⟩
  have hlow := h.low
  rw [hr, heq] at hlow
  rw [zpow_sub_one₀ (by norm_num)]
  push_cast at hlow
  linarith

end

section
variable {f : Finite64} {num den : ℕ} (hd : den ≠ 0) (h : f.Covers (num / den))
include hd h

theorem Covers.divEven_eq :
    divEven (scaleRatio num den f.exponent).1 (scaleRatio num den f.exponent).2 = f.mantissa := by
  have hp := two_zpow_pos f.exponent
  have hr := f.reach_le
  refine divEven_of_near (scaleRatio_pos hd _) ?_ ?_ fun hodd => ?_
  · rw [scaleRatio_div, le_div_iff₀ hp]
    exact le_trans (mul_le_mul_of_nonneg_right (by linarith) hp.le) h.low
  · rw [scaleRatio_div, div_le_iff₀ hp]
    exact h.high
  · rw [scaleRatio_div, lt_div_iff₀ hp, div_lt_iff₀ hp]
    exact ⟨lt_of_le_of_lt (mul_le_mul_of_nonneg_right (by linarith) hp.le) (h.inner hodd).1, (h.inner hodd).2⟩

/-- just below a power of two the unit is half as great, and rounding carries -/
theorem Covers.carries (hn : num ≠ 0) (he : f.exponent ≠ -1074) (hx : (num : ℚ) / den < 2 ^ (f.exponent + 52)) :
    max (binaryOrder num den - 52) (-1074) = f.exponent - 1 ∧
      divEven (scaleRatio num den (f.exponent - 1)).1 (scaleRatio num den (f.exponent - 1)).2 = 9007199254740992 := by
  have hlow := (h.of_lt he hx).2
  have hp := two_zpow_pos (f.exponent - 1)
  have hmin : -1074 ≤ f.exponent := f.canonical.2.1
  have hhigh : (num : ℚ) / den < 9007199254740992 * 2 ^ (f.exponent - 1) := by
    calc (num : ℚ) / den < 2 ^ (f.exponent + 52) := hx
      _ = 2 ^ ((53 : ℤ) + (f.exponent - 1)) := by
        congr 1
        omega
      _ = 9007199254740992 * 2 ^ (f.exponent - 1) := by
        rw [zpow_add₀ (by norm_num)]
        norm_num
  constructor
  · refine exponent_of_bounds hn hd (by omega) ?_ (.inr ?_)
    · rwa [show f.exponent - 1 + 53 = f.exponent + 52 by omega]
    · refine le_trans ?_ hlow
      rw [zpow_add₀ (by norm_num), mul_comm]
      exact mul_le_mul_of_nonneg_right (by norm_num) hp.le
  · refine divEven_of_near (scaleRatio_pos hd _) ?_ ?_ fun hodd => absurd hodd (by decide)
    · rw [scaleRatio_div, le_div_iff₀ hp]
      exact_mod_cast hlow
    · rw [scaleRatio_div, div_le_iff₀ hp]
      exact le_trans hhigh.le (mul_le_mul_of_nonneg_right (by norm_num) hp.le)

/-- **A quotient is rounded to the number that covers it.** -/
theorem ofRatio_of_covers (hn : num ≠ 0) : ofRatio f.negative num den = some f := by
  unfold ofRatio
  rw [if_neg (not_or.mpr ⟨hn, hd⟩)]
  dsimp only
  by_cases hb : f.exponent = -1074 ∨ (2 : ℚ) ^ (f.exponent + 52) ≤ num / den
  · rw [exponent_of_bounds hn hd f.canonical.2.1 h.lt hb, h.divEven_eq hd, if_neg (Nat.ne_of_lt f.canonical.1)]
    exact ofParts?_self f
  · obtain ⟨he, hx⟩ := not_or.mp hb
    rw [not_le] at hx
    obtain ⟨hq, hdiv⟩ := h.carries hd hn he hx
    rw [hq, hdiv, if_pos rfl, sub_add_cancel, ← (h.of_lt he hx).1]
    exact ofParts?_self f

end

/-! ## decimals -/

theorem ten_zpow_pos (e : ℤ) : (0 : ℚ) < 10 ^ e := zpow_pos (by norm_num) e

/-- the count of its digits bounds a number -/
theorem length_bounds {d : ℕ} (hd : d ≠ 0) : (10 : ℚ) ^ ((Nat.toDigits 10 d).length - 1 : ℤ) ≤ d ∧
    (d : ℚ) < 10 ^ ((Nat.toDigits 10 d).length : ℤ) := by
  have hpos : 0 < (Nat.toDigits 10 d).length := List.length_pos_of_ne_nil Nat.toDigits_ne_nil
  have hlt : d < 10 ^ (Nat.toDigits 10 d).length := (Nat.length_toDigits_le_iff (by decide) hpos).mp le_rfl
  have hle : 10 ^ ((Nat.toDigits 10 d).length - 1) ≤ d := by
    rcases Nat.eq_zero_or_pos ((Nat.toDigits 10 d).length - 1) with h | h
    · rw [h]
      exact Nat.pos_of_ne_zero hd
    · by_contra hlt
      have := (Nat.length_toDigits_le_iff (by decide) h).mpr (Nat.lt_of_not_le hlt)
      omega
  rw [← Nat.cast_pred hpos, zpow_natCast, zpow_natCast]
  exact ⟨by exact_mod_cast hle, by exact_mod_cast hlt⟩

theorem two_zpow_le_ten (k : ℕ) : (2 : ℚ) ^ (3 * (k : ℤ)) ≤ 10 ^ (k : ℤ) := by
  rw [zpow_mul, zpow_natCast, zpow_natCast]
  exact pow_le_pow_left₀ (by norm_num) (by norm_num) k

section
variable {f : Finite64} {d : ℕ} {e : ℤ} (hm : f.mantissa ≠ 0) (h : f.Covers (d * 10 ^ e))
include hm h

theorem Covers.digits_ne_zero : d ≠ 0 := by
  rintro rfl
  have hx := h.pos hm
  rw [Nat.cast_zero, zero_mul] at hx
  exact lt_irrefl _ hx

/-- a covered decimal is not too large to be looked at -/
theorem Covers.size_le : ((Nat.toDigits 10 d).length : ℤ) + e ≤ 400 := by
  have hlt : (10 : ℚ) ^ ((Nat.toDigits 10 d).length - 1 + e : ℤ) < 10 ^ ((399 : ℕ) : ℤ) := by
    calc (10 : ℚ) ^ ((Nat.toDigits 10 d).length - 1 + e : ℤ)
        = 10 ^ ((Nat.toDigits 10 d).length - 1 : ℤ) * 10 ^ e := zpow_add₀ (by norm_num) _ _
      _ ≤ d * 10 ^ e := mul_le_mul_of_nonneg_right (length_bounds (h.digits_ne_zero hm)).1 (ten_zpow_pos e).le
      _ < 2 ^ (f.exponent + 53) := h.lt
      _ ≤ 2 ^ (3 * ((399 : ℕ) : ℤ)) := zpow_le_zpow_right₀ (by norm_num) (by
          have := f.canonical.2.2.1
          omega)
      _ ≤ 10 ^ ((399 : ℕ) : ℤ) := two_zpow_le_ten 399
  have := (zpow_lt_zpow_iff_right₀ (by norm_num)).mp hlt
  omega

/-- and not too small -/
theorem Covers.le_size : -400 ≤ ((Nat.toDigits 10 d).length : ℤ) + e := by
  have h1 := one_le_mantissa hm
  have hr := f.reach_le
  have hlt : (10 : ℚ) ^ (-((400 : ℕ) : ℤ)) < 10 ^ ((Nat.toDigits 10 d).length + e : ℤ) := by
    calc (10 : ℚ) ^ (-((400 : ℕ) : ℤ)) = (10 ^ ((400 : ℕ) : ℤ))⁻¹ := zpow_neg _ _
      _ ≤ (2 ^ (3 * ((400 : ℕ) : ℤ)))⁻¹ := inv_anti₀ (two_zpow_pos _) (two_zpow_le_ten 400)
      _ = 2 ^ (-(3 * ((400 : ℕ) : ℤ))) := (zpow_neg _ _).symm
      _ ≤ 2 ^ (f.exponent - 1) := zpow_le_zpow_right₀ (by norm_num) (by
          have := f.canonical.2.1
          omega)
      _ = 1 / 2 * 2 ^ f.exponent := by
          rw [zpow_sub_one₀ (by norm_num), mul_comm]
          norm_num
      _ ≤ (f.mantissa - f.reach) * 2 ^ f.exponent :=
          mul_le_mul_of_nonneg_right (by linarith) (two_zpow_pos _).le
      _ ≤ d * 10 ^ e := h.low
      _ < 10 ^ ((Nat.toDigits 10 d).length : ℤ) * 10 ^ e :=
          mul_lt_mul_of_pos_right (length_bounds (h.digits_ne_zero hm)).2 (ten_zpow_pos e)
      _ = 10 ^ ((Nat.toDigits 10 d).length + e : ℤ) := (zpow_add₀ (by norm_num) _ _).symm
  have := (zpow_lt_zpow_iff_right₀ (by norm_num)).mp hlt
  omega

/-- **A decimal is rounded to the number that covers it.** -/
theorem ofDecimal_of_covers : ofDecimal f.negative d e = some f := by
  have hd : d ≠ 0 := h.digits_ne_zero hm
  have hsize := h.size_le hm
  have hsize' := h.le_size hm
  unfold ofDecimal
  rw [if_neg hd]
  dsimp only
  rw [if_neg (by omega), if_neg (by omega)]
  cases e with
  | ofNat k =>
    have hx : (d : ℚ) * 10 ^ Int.ofNat k = ((d * 10 ^ k : ℕ) : ℚ) / (1 : ℕ) := by
      rw [Int.ofNat_eq_natCast, zpow_natCast]
      push_cast
      rw [div_one]
    have hp : 10 ^ k ≠ 0 := pow_ne_zero k (by decide)
    exact ofRatio_of_covers one_ne_zero (hx ▸ h) (Nat.mul_ne_zero hd hp)
  | negSucc k =>
    have hx : (d : ℚ) * 10 ^ Int.negSucc k = (d : ℚ) / ((10 ^ (k + 1) : ℕ) : ℚ) := by
      rw [zpow_negSucc]
      push_cast
      rw [div_eq_mul_inv]
    have hp : 10 ^ (k + 1) ≠ 0 := pow_ne_zero (k + 1) (by decide)
    exact ofRatio_of_covers hp (hx ▸ h) hd

end

end RequestPipeline.Finite64
