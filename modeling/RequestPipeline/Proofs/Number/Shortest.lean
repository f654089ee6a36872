import Mathlib.Data.Nat.Cast.Order.Field
import Mathlib.Tactic.Ring
import RequestPipeline.Number.Shortest
import RequestPipeline.Proofs.Number.Nearest

/-!
# Seventeen digits are enough

The search for the shortest decimal goes over finer and finer grids and takes a point that lies in the interval of a
number.  That interval holds the values that the number covers (`contains_interval_iff`), and a grid of seventeen
digits always has a point in it (`isSome_onGrid_seventeen`): the next point is at most half a step away, a step is at most
`10^(-16)` of the value, and a quarter of the last bit is more than half of that.

`covers_shortest`: **the shortest decimal of a number is covered by it.**
-/

namespace RequestPipeline.Finite64

/-! ## the interval of a number -/

/-- an interval holds the decimals whose value lies in it -/
theorem contains_iff (d : ℕ) (e : ℤ) (i : Interval) (hden : 0 < i.den) :
    i.contains d e = true ↔
      if i.closed then (i.low : ℚ) / i.den ≤ d * 10 ^ e ∧ (d : ℚ) * 10 ^ e ≤ i.high / i.den
      else (i.low : ℚ) / i.den < d * 10 ^ e ∧ (d : ℚ) * 10 ^ e < i.high / i.den := by
  have hq : (0 : ℚ) < i.den := by exact_mod_cast hden
  -- the two forms of the quotient `n / c` that the decimal is
  have key : ∀ n c : ℕ, 0 < c → (d : ℚ) * 10 ^ e = n / c →
      ((if i.closed then decide (i.low * c ≤ n * i.den) && decide (n * i.den ≤ i.high * c)
        else decide (i.low * c < n * i.den) && decide (n * i.den < i.high * c)) = true ↔
      if i.closed then (i.low : ℚ) / i.den ≤ d * 10 ^ e ∧ (d : ℚ) * 10 ^ e ≤ i.high / i.den
      else (i.low : ℚ) / i.den < d * 10 ^ e ∧ (d : ℚ) * 10 ^ e < i.high / i.den) := by
    intro n c hc hx
    have hcq : (0 : ℚ) < c := by exact_mod_cast hc
    rw [hx, div_le_div_iff₀ hq hcq, div_le_div_iff₀ hcq hq, div_lt_div_iff₀ hq hcq, div_lt_div_iff₀ hcq hq]
    split
    · rw [Bool.and_eq_true, decide_eq_true_iff, decide_eq_true_iff]
      norm_cast
    · rw [Bool.and_eq_true, decide_eq_true_iff, decide_eq_true_iff]
      norm_cast
  cases e with
  | ofNat k =>
    refine key (d * 10 ^ k) 1 Nat.one_pos ?_
    rw [Int.ofNat_eq_natCast, zpow_natCast]
    push_cast
    rw [div_one]
  | negSucc k =>
    refine key d (10 ^ (k + 1)) (Nat.pow_pos (by decide)) ?_
    rw [zpow_negSucc]
    push_cast
    rw [div_eq_mul_inv]

/-- a quarter of the unit of the mantissa, as the quotient that the interval is written with -/
theorem exists_quarter (f : Finite64) : ∃ up den : ℕ, 0 < den ∧ (up : ℚ) / den = 2 ^ f.exponent / 4 ∧
    f.interval = ⟨(4 * f.mantissa - if f.mantissa = 4503599627370496 ∧ f.exponent ≠ -1074 then 1 else 2) * up,
      4 * f.mantissa * up, (4 * f.mantissa + 2) * up, den, decide (f.mantissa % 2 = 0)⟩ := by
  obtain ⟨s, m, e, hc⟩ := f
  cases e with
  | ofNat k =>
    refine ⟨2 ^ k, 4, by decide, ?_, rfl⟩
    show ((2 ^ k : ℕ) : ℚ) / (4 : ℕ) = 2 ^ (k : ℤ) / 4
    rw [zpow_natCast]
    push_cast
    rfl
  | negSucc k =>
    refine ⟨1, 4 * 2 ^ (k + 1), by positivity, ?_, rfl⟩
    show ((1 : ℕ) : ℚ) / ((4 * 2 ^ (k + 1) : ℕ) : ℚ) = 2 ^ Int.negSucc k / 4
    rw [zpow_negSucc]
    push_cast
    field_simp

/-- the ends and the middle of the interval of a number -/
structure Interval.Spans (i : Interval) (f : Finite64) : Prop where
  den : 0 < i.den
  low : (i.low : ℚ) / i.den = (f.mantissa - f.reach) * 2 ^ f.exponent
  mid : (i.mid : ℚ) / i.den = f.mantissa * 2 ^ f.exponent
  high : (i.high : ℚ) / i.den = (f.mantissa + 1 / 2) * 2 ^ f.exponent
  closed : i.closed = decide (f.mantissa % 2 = 0)

theorem spans_interval {f : Finite64} (hm : f.mantissa ≠ 0) : f.interval.Spans f := by
  obtain ⟨up, den, hden, hq, hi⟩ := f.exists_quarter
  have h1 : 1 ≤ f.mantissa := Nat.one_le_iff_ne_zero.mpr hm
  have part : ∀ a : ℕ, ((a * up : ℕ) : ℚ) / den = a * (2 ^ f.exponent / 4) := by
    intro a
    rw [Nat.cast_mul, mul_div_assoc, hq]
  rw [hi]
  refine ⟨hden, ?_, ?_, ?_, rfl⟩
  · refine (part _).trans ?_
    unfold reach
    split
    · rw [Nat.cast_sub (by omega)]
      push_cast
      ring
    · rw [Nat.cast_sub (by omega)]
      push_cast
      ring
  · refine (part _).trans ?_
    push_cast
    ring
  · refine (part _).trans ?_
    push_cast
    ring

/-- the interval of a number holds the decimals that it covers -/
theorem contains_interval_iff {f : Finite64} (hm : f.mantissa ≠ 0) (d : ℕ) (e : ℤ) :
    f.interval.contains d e = true ↔ f.Covers (d * 10 ^ e) := by
  obtain ⟨hden, hlow, -, hhigh, hclosed⟩ := spans_interval hm
  rw [contains_iff d e _ hden, hlow, hhigh, hclosed]
  by_cases h : f.mantissa % 2 = 0
  · rw [if_pos (decide_eq_true h)]
    exact ⟨fun hx => ⟨hx.1, hx.2, fun hodd => by omega⟩, fun hx => ⟨hx.low, hx.high⟩⟩
  · rw [if_neg (by rw [decide_eq_true_iff]; exact h)]
    exact ⟨fun hx => ⟨hx.1.le, hx.2.le, fun _ => hx⟩, fun hx => hx.inner (by omega)⟩

/-! ## the search -/

theorem contains_onGrid {i : Interval} {e : ℤ} {d : ℕ} (h : i.onGrid e = some d) : i.contains d e = true := by
  unfold Interval.onGrid at h
  dsimp only at h
  split at h
  · rename_i hboth
    obtain ⟨hlow, hhigh⟩ := Bool.and_eq_true_iff.mp hboth
    split at h
    · exact Option.some.inj h ▸ hlow
    · split at h
      · exact Option.some.inj h ▸ hhigh
      · split at h
        · exact Option.some.inj h ▸ hlow
        · exact Option.some.inj h ▸ hhigh
  · split at h
    · rename_i hlow
      exact Option.some.inj h ▸ hlow
    · split at h
      · rename_i hhigh
        exact Option.some.inj h ▸ hhigh
      · cases h

/-- the search ends on the first grid that has a point -/
theorem contains_search {i : Interval} {order : ℤ} {j : ℕ} (hj : (i.onGrid (order - j)).isSome) :
    ∀ {fuel k : ℕ}, k ≤ j → j < k + fuel →
      i.contains (i.search order fuel k).digits (i.search order fuel k).exponent = true := by
  intro fuel
  induction fuel with
  | zero =>
    intro k hk hlt
    omega
  | succ fuel ih =>
    intro k hk hlt
    unfold Interval.search
    cases hg : i.onGrid (order - k) with
    | some d => exact contains_onGrid hg
    | none =>
      have hne : k ≠ j := by
        rintro rfl
        rw [hg] at hj
        cases hj
      exact ih (by omega) (by omega)

/-! ## the order of the first digit -/

theorem scaleTen_eq (num den : ℕ) (e : ℤ) : scaleTen num den e = scaleBy 10 num den e := by
  cases e <;> rfl

theorem scaleTen_div (num den : ℕ) (e : ℤ) :
    ((scaleTen num den e).1 : ℚ) / (scaleTen num den e).2 = num / den / 10 ^ e := by
  rw [scaleTen_eq]
  exact scaleBy_div 10 num den e

theorem scaleTen_pos {num den : ℕ} (hd : den ≠ 0) (e : ℤ) : 0 < (scaleTen num den e).2 := by
  rw [scaleTen_eq]
  exact scaleBy_pos (by decide) hd e

/-- `3/10` is below the logarithm of two -/
theorem ten_pow_le_two_pow {k b : ℕ} (h : 10 * k ≤ 3 * b) : 10 ^ k ≤ 2 ^ b := by
  refine (Nat.pow_le_pow_iff_left (by decide : 3 ≠ 0)).mp ?_
  calc (10 ^ k) ^ 3 = (10 ^ 3) ^ k := by rw [← pow_mul, ← pow_mul, mul_comm]
    _ ≤ (2 ^ 10) ^ k := Nat.pow_le_pow_left (by decide) k
    _ = 2 ^ (10 * k) := (pow_mul 2 10 k).symm
    _ ≤ 2 ^ (3 * b) := Nat.pow_le_pow_right (by decide) h
    _ = (2 ^ b) ^ 3 := by rw [← pow_mul, mul_comm]

/-- and `28/93` is above it -/
theorem two_pow_le_ten_pow {c j : ℕ} (h : 28 * c ≤ 93 * j) : 2 ^ c ≤ 10 ^ j := by
  refine (Nat.pow_le_pow_iff_left (by decide : 93 ≠ 0)).mp ?_
  calc (2 ^ c) ^ 93 = (2 ^ 93) ^ c := by rw [← pow_mul, ← pow_mul, mul_comm]
    _ ≤ (10 ^ 28) ^ c := Nat.pow_le_pow_left (by decide) c
    _ = 10 ^ (28 * c) := (pow_mul 10 28 c).symm
    _ ≤ 10 ^ (93 * j) := Nat.pow_le_pow_right (by decide) h
    _ = (10 ^ j) ^ 93 := by rw [← pow_mul, mul_comm]

/-- the guess of an order is at most one too great -/
theorem ten_zpow_guess_le {b : ℤ} (hb : -1074 ≤ b ∧ b ≤ 1023) : (10 : ℚ) ^ (b * 30103 / 100000 - 1) ≤ 2 ^ b := by
  rcases Int.le_total 0 b with h | h
  · obtain ⟨n, rfl⟩ := Int.eq_ofNat_of_zero_le h
    rcases Int.lt_or_le ((n : ℤ) * 30103 / 100000 - 1) 0 with hk | hk
    · calc (10 : ℚ) ^ ((n : ℤ) * 30103 / 100000 - 1) ≤ 10 ^ (0 : ℤ) := zpow_le_zpow_right₀ (by norm_num) hk.le
        _ = 2 ^ (0 : ℤ) := by rw [zpow_zero, zpow_zero]
        _ ≤ 2 ^ (n : ℤ) := zpow_le_zpow_right₀ (by norm_num) h
    · obtain ⟨k, hk⟩ := Int.eq_ofNat_of_zero_le hk
      rw [hk, zpow_natCast, zpow_natCast]
      exact_mod_cast ten_pow_le_two_pow (k := k) (b := n) (by omega)
  · obtain ⟨c, rfl⟩ : ∃ c : ℕ, b = -(c : ℤ) := ⟨b.natAbs, by omega⟩
    obtain ⟨j, hj⟩ : ∃ j : ℕ, -(c : ℤ) * 30103 / 100000 - 1 = -(j : ℤ) :=
      ⟨(-(c : ℤ) * 30103 / 100000 - 1).natAbs, by omega⟩
    rw [hj, zpow_neg, zpow_neg, zpow_natCast, zpow_natCast]
    refine inv_anti₀ (by positivity) ?_
    exact_mod_cast two_pow_le_ten_pow (c := c) (j := j) (by omega)

/-- the order of the first digit is not too great -/
theorem decimalOrder_le {num den : ℕ} (hn : num ≠ 0) (hd : den ≠ 0)
    (hb : -1074 ≤ binaryOrder num den ∧ binaryOrder num den ≤ 1023) : (10 : ℚ) ^ decimalOrder num den ≤ num / den := by
  have fits : ∀ e : ℤ, decide ((scaleTen num den e).2 ≤ (scaleTen num den e).1) = true →
      (10 : ℚ) ^ e ≤ num / den := by
    intro e he
    have hp : (0 : ℚ) < (scaleTen num den e).2 := by exact_mod_cast scaleTen_pos hd e
    have h1 : (1 : ℚ) ≤ num / den / 10 ^ e := by
      rw [← scaleTen_div, le_div_iff₀ hp, one_mul]
      exact_mod_cast of_decide_eq_true he
    rwa [le_div_iff₀ (ten_zpow_pos e), one_mul] at h1
  unfold decimalOrder
  dsimp only
  split
  · rename_i h
    exact fits _ h
  · split
    · rename_i h
      exact fits _ h
    · exact (ten_zpow_guess_le hb).trans (binaryOrder_bounds hn hd).1

/-! ## seventeen digits -/

theorem isSome_onGrid {i : Interval} {e : ℤ} {below : ℕ}
    (hb : (scaleTen i.mid i.den e).1 / (scaleTen i.mid i.den e).2 = below)
    (h : i.contains below e = true ∨ i.contains (below + 1) e = true) : (i.onGrid e).isSome := by
  subst hb
  unfold Interval.onGrid
  dsimp only
  split
  · split
    · rfl
    · split
      · rfl
      · split <;> rfl
  · split
    · rfl
    · rename_i hlow
      rw [if_pos (h.resolve_left hlow)]
      rfl

section
variable {f : Finite64}

theorem covers_of_near {x : ℚ} (low : (f.mantissa - f.reach) * 2 ^ f.exponent < x)
    (high : x < (f.mantissa + 1 / 2) * 2 ^ f.exponent) : f.Covers x :=
  ⟨low.le, high.le, fun _ => ⟨low, high⟩⟩

/-- half of `10^(-16)` of a number is less than it reaches -/
theorem half_step_lt {w : ℚ} (h : w * 10 ^ 16 ≤ f.mantissa * 2 ^ f.exponent) : w / 2 < f.reach * 2 ^ f.exponent := by
  have hp := two_zpow_pos f.exponent
  unfold reach
  split
  · rename_i hc
    rw [hc.1] at h
    push_cast at h
    linarith
  · have hm : (f.mantissa : ℚ) ≤ 9007199254740992 := by exact_mod_cast f.canonical.1.le
    have hle := mul_le_mul_of_nonneg_right hm hp.le
    linarith

variable (hm : f.mantissa ≠ 0)
include hm

theorem mid_ne_zero : f.interval.mid ≠ 0 := by
  intro h
  have hmid := (spans_interval hm).mid
  have h1 := one_le_mantissa hm
  rw [h, Nat.cast_zero, zero_div] at hmid
  exact absurd hmid.symm (mul_pos (by linarith) (two_zpow_pos _)).ne'

/-- the binary orders that numbers have -/
theorem binaryOrder_interval :
    -1074 ≤ binaryOrder f.interval.mid f.interval.den ∧ binaryOrder f.interval.mid f.interval.den ≤ 1023 := by
  have hs := spans_interval hm
  obtain ⟨hle, hlt⟩ := binaryOrder_bounds (mid_ne_zero hm) hs.den.ne'
  rw [hs.mid] at hle hlt
  obtain ⟨hc, he, he', -⟩ := f.canonical
  have hp := two_zpow_pos f.exponent
  constructor
  · have h1 := one_le_mantissa hm
    have hlow : (2 : ℚ) ^ f.exponent < 2 ^ (binaryOrder f.interval.mid f.interval.den + 1) :=
      lt_of_le_of_lt (le_mul_of_one_le_left hp.le h1) hlt
    have := (zpow_lt_zpow_iff_right₀ (by norm_num)).mp hlow
    omega
  · have hhigh : (2 : ℚ) ^ binaryOrder f.interval.mid f.interval.den < 2 ^ (f.exponent + 53) := by
      have hx : f.Covers (f.mantissa * 2 ^ f.exponent) := by
        have hr := f.le_reach
        exact covers_of_near (mul_lt_mul_of_pos_right (by linarith) hp) (mul_lt_mul_of_pos_right (by linarith) hp)
      exact lt_of_le_of_lt hle hx.lt
    have := (zpow_lt_zpow_iff_right₀ (by norm_num)).mp hhigh
    omega

/-- a grid of seventeen digits has a point that the number covers -/
theorem isSome_onGrid_seventeen :
    (f.interval.onGrid (decimalOrder f.interval.mid f.interval.den - (16 : ℕ))).isSome := by
  have hs := spans_interval hm
  have horder := decimalOrder_le (mid_ne_zero hm) hs.den.ne' (binaryOrder_interval hm)
  generalize decimalOrder f.interval.mid f.interval.den = order at horder
  rw [hs.mid] at horder
  have hp := two_zpow_pos f.exponent
  have hw := ten_zpow_pos (order - (16 : ℕ))
  have hstep : (10 : ℚ) ^ (order - (16 : ℕ)) * 10 ^ 16 = 10 ^ order := by
    rw [← zpow_natCast, ← zpow_add₀ (by norm_num), sub_add_cancel]
  have hreach := half_step_lt (hstep.le.trans horder)
  have hhalf : f.reach * 2 ^ f.exponent ≤ 1 / 2 * 2 ^ f.exponent := mul_le_mul_of_nonneg_right f.reach_le hp.le
  -- the middle lies between two points of the grid
  have hdiv := scaleTen_div f.interval.mid f.interval.den (order - (16 : ℕ))
  have hpos : 0 < (scaleTen f.interval.mid f.interval.den (order - (16 : ℕ))).2 := scaleTen_pos hs.den.ne' _
  refine isSome_onGrid rfl ?_
  rw [contains_interval_iff hm, contains_interval_iff hm]
  rw [hs.mid, eq_div_iff hw.ne'] at hdiv
  generalize scaleTen f.interval.mid f.interval.den (order - (16 : ℕ)) = s at hdiv hpos
  generalize (10 : ℚ) ^ (order - (16 : ℕ)) = w at hw hreach hdiv
  have hlow : ((s.1 / s.2 : ℕ) : ℚ) ≤ s.1 / s.2 := Nat.cast_div_le
  have hhigh : (s.1 : ℚ) / s.2 < (s.1 / s.2 : ℕ) + 1 := by
    rw [div_lt_iff₀ (by exact_mod_cast hpos)]
    exact_mod_cast Nat.lt_mul_of_div_lt (Nat.lt_succ_self _) hpos
  have hlow' := mul_le_mul_of_nonneg_right hlow hw.le
  have hhigh' := mul_lt_mul_of_pos_right hhigh hw
  rw [hdiv] at hlow' hhigh'
  push_cast
  generalize ((s.1 / s.2 : ℕ) : ℚ) = q at hlow' hhigh'
  rcases le_or_gt (f.mantissa * 2 ^ f.exponent - q * w) (w / 2) with hnear | hnear
  · exact .inl (covers_of_near (by linarith) (by linarith))
  · exact .inr (covers_of_near (by linarith) (by linarith))

/-- **The shortest decimal of a number is covered by it.** -/
theorem covers_shortest : f.Covers (f.shortest.digits * 10 ^ f.shortest.exponent) := by
  rw [← contains_interval_iff hm]
  unfold shortest
  rw [if_neg hm]
  exact contains_search (isSome_onGrid_seventeen hm) (Nat.zero_le _) (by decide)

end

end RequestPipeline.Finite64
