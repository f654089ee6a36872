import Mathlib.Algebra.Group.Nat.Defs
import RequestPipeline.Number.Binary64

/-!
# Whole numbers as floating-point numbers

A whole number is rounded to 53 bits: `nearest` is the number nearest to it, in the unit in which numbers are
compared, and `exists_ofInt` says that it is what an integer becomes.

* `nearest_mono`    rounding keeps the order;
* `nearest_of_lt`   below `2^53` nothing is lost;
* `le_nearest`      and nothing from `2^53` on falls below it;
* `ofInt_inj_of_lt` so no other integer is rounded to one below `2^53`.

`ofInt_le_iff`: **rounded integers compare as the integers do, except that two with one rounding are equal.**
-/

namespace RequestPipeline.Finite64

/-! ## rounded quotients -/

section
variable {q n d : Nat}

theorem divEven_mul_right (n d : Nat) {c : Nat} (hc : 0 < c) : divEven (n * c) (d * c) = divEven n d := by
  have hq : n * c / (d * c) = n / d := Nat.mul_div_mul_right n d hc
  have hr : n * c % (d * c) = n % d * c := Nat.mul_mod_mul_right c n d
  have hl : 2 * (n % d * c) < d * c ↔ 2 * (n % d) < d := by
    rw [← Nat.mul_assoc, Nat.mul_lt_mul_right hc]
  have hg : d * c < 2 * (n % d * c) ↔ d < 2 * (n % d) := by
    rw [← Nat.mul_assoc, Nat.mul_lt_mul_right hc]
  unfold divEven
  simp only [hq, hr, hl, hg]

/-- a whole quotient is not rounded -/
theorem divEven_mul_self (n : Nat) (hd : 0 < d) : divEven (n * d) d = n := by
  unfold divEven
  simp only [Nat.mul_div_cancel n hd, Nat.mul_mod_left, Nat.mul_zero, if_pos hd]

theorem divEven_bounds (n d : Nat) : n / d ≤ divEven n d ∧ divEven n d ≤ n / d + 1 := by
  unfold divEven
  dsimp only
  split
  · omega
  · split
    · omega
    · split <;> omega

theorem divEven_mono {m n : Nat} (d : Nat) (h : m ≤ n) : divEven m d ≤ divEven n d := by
  rcases Nat.lt_or_eq_of_le (Nat.div_le_div_right (c := d) h) with hq | hq
  · -- the quotients differ, and rounding adds at most one
    exact Nat.le_trans (divEven_bounds m d).2 (Nat.le_trans hq (divEven_bounds n d).1)
  · -- one quotient: the greater remainder is rounded up if the lesser one is
    have hr : m % d ≤ n % d := by
      have hm : d * (m / d) + m % d = m := Nat.div_add_mod m d
      have hn : d * (n / d) + n % d = n := Nat.div_add_mod n d
      rw [hq] at hm
      omega
    unfold divEven
    simp only [hq]
    grind

theorem le_divEven (hd : 0 < d) (h : q * d ≤ n) : q ≤ divEven n d :=
  Nat.le_trans ((Nat.le_div_iff_mul_le hd).mpr h) (divEven_bounds n d).1

theorem divEven_le (h : n < q * d) : divEven n d ≤ q :=
  Nat.le_trans (divEven_bounds n d).2 (Nat.div_lt_of_lt_mul (Nat.mul_comm q d ▸ h))

end

/-! ## a whole number -/

theorem log2_lt_of_lt {n k : Nat} (hk : 0 < k) (h : n < 2 ^ k) : n.log2 < k := by
  by_cases hn : n = 0
  · rw [hn]
    exact hk
  · exact (Nat.log2_lt hn).mpr h

theorem log2_mono {m n : Nat} (h : m ≤ n) : m.log2 ≤ n.log2 := by
  by_cases hm : m = 0
  · rw [hm]
    exact Nat.zero_le _
  · exact (Nat.le_log2 (by omega)).mpr (Nat.le_trans (Nat.log2_self_le hm) h)

theorem binaryOrder_one {n : Nat} (hn : n ≠ 0) : binaryOrder n 1 = n.log2 := by
  have h : 2 ^ n.log2 ≤ n := Nat.log2_self_le hn
  unfold binaryOrder
  rw [show Nat.log2 1 = 0 from rfl]
  show (if 1 * 2 ^ n.log2 ≤ n then _ else _) = _
  rw [Nat.one_mul, if_pos h]
  exact Int.sub_zero _

/-- the rounded quotient is the same whichever side of it is scaled -/
theorem divEven_scaleRatio_one (n l : Nat) :
    divEven (scaleRatio n 1 (l - 52)).1 (scaleRatio n 1 (l - 52)).2 = divEven (n * 2 ^ 52) (2 ^ l) := by
  -- from 52 on the divisor is scaled up, and below it the number itself
  by_cases h : 52 ≤ l
  · obtain ⟨k, rfl⟩ := Nat.exists_eq_add_of_le' h
    have hk : ((k + 52 : Nat) : Int) - 52 = k := by omega
    rw [hk, Nat.pow_add, divEven_mul_right _ _ (Nat.two_pow_pos 52)]
    show divEven n (1 * 2 ^ k) = _
    rw [Nat.one_mul]
  · obtain ⟨k, hk⟩ := Nat.exists_eq_add_of_lt (Nat.lt_of_not_le h)
    have hl : (l : Int) - 52 = Int.negSucc k := by omega
    have hp : 2 ^ 52 = 2 ^ (k + 1) * 2 ^ l := by
      rw [← Nat.pow_add, hk]
      congr 1
      omega
    have hs : divEven (n * 2 ^ (k + 1) * 2 ^ l) (1 * 2 ^ l) = divEven (n * 2 ^ (k + 1)) 1 :=
      divEven_mul_right _ _ (Nat.two_pow_pos l)
    rw [Nat.one_mul] at hs
    rw [hl, hp, ← Nat.mul_assoc, hs]
    rfl

/-- the magnitude as a multiple of the least positive number -/
def magnitude (f : Finite64) : Nat := f.mantissa * 2 ^ (f.exponent + 1074).toNat

theorem scaled_eq (f : Finite64) : f.scaled = if f.negative then -(f.magnitude : Int) else f.magnitude := rfl

theorem exists_ofParts? (negative : Bool) {m : Nat} {e : Int}
    (h : 4503599627370496 ≤ m ∧ m < 9007199254740992 ∧ -1074 ≤ e ∧ e ≤ 971) :
    ∃ f, ofParts? negative m e = some f ∧ f.negative = negative ∧
      f.magnitude = m * 2 ^ (e + 1074).toNat := by
  have hc : m < 9007199254740992 ∧ -1074 ≤ e ∧ e ≤ 971 ∧ (4503599627370496 ≤ m ∨ e = -1074) :=
    ⟨h.2.1, h.2.2.1, h.2.2.2, .inl h.1⟩
  exact ⟨⟨negative, m, e, hc⟩, dif_pos hc, rfl, rfl⟩

theorem unit_eq : unit = 2 ^ 1074 := by
  unfold unit
  generalize 1074 = k
  exact Nat.pow_eq

theorem unit_pos : 0 < unit := by
  unfold unit
  generalize 1074 = k
  exact Nat.two_pow_pos k

/-- the number nearest to a whole number, as a multiple of the least positive number -/
def nearest (n : Nat) : Nat := divEven (n * 2 ^ 52) (2 ^ n.log2) * 2 ^ (n.log2 + 1022)

theorem nearest_zero : nearest 0 = 0 := by
  unfold nearest
  generalize 1022 = k
  exact Nat.zero_mul _

theorem le_divEven_log2 {n : Nat} (hn : n ≠ 0) : 2 ^ 52 ≤ divEven (n * 2 ^ 52) (2 ^ n.log2) :=
  le_divEven (Nat.two_pow_pos _) (Nat.mul_comm n _ ▸ Nat.mul_le_mul_left _ (Nat.log2_self_le hn))

theorem divEven_log2_le (n : Nat) : divEven (n * 2 ^ 52) (2 ^ n.log2) ≤ 2 ^ 53 := by
  have h : n * 2 ^ 52 < 2 ^ (n.log2 + 1) * 2 ^ 52 :=
    Nat.mul_lt_mul_of_pos_right Nat.lt_log2_self (Nat.two_pow_pos 52)
  have h53 : 2 * 2 ^ 52 = 2 ^ 53 := rfl
  rw [pow_succ 2 n.log2, Nat.mul_assoc, h53, Nat.mul_comm (2 ^ n.log2)] at h
  exact divEven_le h

theorem exists_ofRatio_one (negative : Bool) {n : Nat} (hn : n ≠ 0) (hl : n.log2 < 1023) :
    ∃ f, ofRatio negative n 1 = some f ∧ f.negative = negative ∧ f.magnitude = nearest n := by
  have hq : max (binaryOrder n 1 - 52) (-1074) = n.log2 - 52 := by
    rw [binaryOrder_one hn]
    omega
  have low : 4503599627370496 ≤ divEven (n * 2 ^ 52) (2 ^ n.log2) := le_divEven_log2 hn
  have high : divEven (n * 2 ^ 52) (2 ^ n.log2) ≤ 9007199254740992 := divEven_log2_le n
  have he : ((n.log2 : Int) - 52 + 1074).toNat = n.log2 + 1022 := by omega
  unfold ofRatio nearest
  rw [if_neg (by simp [hn]), hq]
  dsimp only
  rw [divEven_scaleRatio_one]
  generalize divEven (n * 2 ^ 52) (2 ^ n.log2) = m at low high
  split
  · -- one bit too many: half the mantissa, of twice the unit
    rename_i hm
    obtain ⟨f, hf, hs, hg⟩ := exists_ofParts? negative (m := 4503599627370496) (e := n.log2 - 52 + 1) (by omega)
    have he' : ((n.log2 : Int) - 52 + 1 + 1074).toNat = n.log2 + 1022 + 1 := by omega
    refine ⟨f, hf, hs, ?_⟩
    rw [hg, he', hm, Nat.pow_succ, Nat.mul_comm _ 2, ← Nat.mul_assoc]
  · obtain ⟨f, hf, hs, hg⟩ := exists_ofParts? negative (m := m) (e := n.log2 - 52) (by omega)
    exact ⟨f, hf, hs, he ▸ hg⟩

/-- one bit more of the mantissa is half of the unit -/
theorem carry (e : Nat) : 2 ^ 53 * 2 ^ e = 2 ^ 52 * 2 ^ (e + 1) := by
  rw [pow_succ 2 e]
  omega

theorem nearest_mono {m n : Nat} (h : m ≤ n) : nearest m ≤ nearest n := by
  have hl : m.log2 ≤ n.log2 := log2_mono h
  unfold nearest
  rcases Nat.lt_or_eq_of_le hl with hlt | heq
  · -- the greatest mantissa of the lesser order is the least one of the next order
    have hn : n ≠ 0 := by
      rintro rfl
      exact Nat.not_lt_zero _ hlt
    calc divEven (m * 2 ^ 52) (2 ^ m.log2) * 2 ^ (m.log2 + 1022)
        ≤ 2 ^ 53 * 2 ^ (m.log2 + 1022) := Nat.mul_le_mul_right _ (divEven_log2_le m)
      _ = 2 ^ 52 * 2 ^ (m.log2 + 1022 + 1) := carry _
      _ ≤ 2 ^ 52 * 2 ^ (n.log2 + 1022) :=
        Nat.mul_le_mul_left _ (Nat.pow_le_pow_right (by decide) (by omega))
      _ ≤ divEven (n * 2 ^ 52) (2 ^ n.log2) * 2 ^ (n.log2 + 1022) := Nat.mul_le_mul_right _ (le_divEven_log2 hn)
  · rw [heq]
    exact Nat.mul_le_mul_right _ (divEven_mono _ (Nat.mul_le_mul_right _ h))

theorem nearest_pos {n : Nat} (hn : n ≠ 0) : 0 < nearest n := by
  unfold nearest
  exact Nat.mul_pos (Nat.lt_of_lt_of_le (Nat.two_pow_pos 52) (le_divEven_log2 hn)) (Nat.two_pow_pos _)

theorem nearest_of_lt {n : Nat} (h : n < 2 ^ 53) : nearest n = n * unit := by
  have hl : n.log2 ≤ 52 := Nat.le_of_lt_succ (log2_lt_of_lt (by decide) h)
  obtain ⟨k, hk⟩ := Nat.exists_eq_add_of_le hl
  have hd : n * 2 ^ 52 = n * 2 ^ k * 2 ^ n.log2 := by
    rw [hk, Nat.add_comm, Nat.pow_add, Nat.mul_assoc]
  have hu : 2 ^ k * 2 ^ (n.log2 + 1022) = unit := by
    calc 2 ^ k * 2 ^ (n.log2 + 1022) = 2 ^ (k + (n.log2 + 1022)) := (pow_add 2 k _).symm
      _ = 2 ^ 1074 := congrArg (2 ^ ·) (by omega)
      _ = unit := unit_eq.symm
  unfold nearest
  rw [hd, divEven_mul_self _ (Nat.two_pow_pos _), Nat.mul_assoc, hu]

theorem le_nearest {n : Nat} (h : 2 ^ 53 ≤ n) : 2 ^ 53 * unit ≤ nearest n := by
  have hn : n ≠ 0 := by omega
  have hl : 53 ≤ n.log2 := (Nat.le_log2 hn).mpr h
  obtain ⟨k, hk⟩ := Nat.exists_eq_add_of_le' hl
  have hu : 2 ^ (n.log2 + 1022) = 2 ^ k * 2 * unit := by
    calc 2 ^ (n.log2 + 1022) = 2 ^ (k + 1 + 1074) := congrArg (2 ^ ·) (by omega)
      _ = 2 ^ (k + 1) * 2 ^ 1074 := pow_add 2 (k + 1) 1074
      _ = 2 ^ k * 2 * unit := by rw [unit_eq, pow_succ 2 k]
  unfold nearest
  rw [hu, ← Nat.mul_assoc]
  refine Nat.mul_le_mul_right unit ?_
  calc 2 ^ 53 = 2 ^ 52 * (1 * 2) := rfl
    _ ≤ divEven (n * 2 ^ 52) (2 ^ n.log2) * (2 ^ k * 2) :=
      Nat.mul_le_mul (le_divEven_log2 hn) (Nat.mul_le_mul_right 2 (Nat.two_pow_pos k))

/-- no other whole number is rounded to one below `2^53` -/
theorem nearest_inj_of_lt {m n : Nat} (hn : n < 2 ^ 53) (h : nearest m = nearest n) : m = n := by
  have hu : 0 < unit := unit_pos
  rw [nearest_of_lt hn] at h
  by_cases hm : m < 2 ^ 53
  · rw [nearest_of_lt hm] at h
    generalize unit = u at h hu
    exact Nat.eq_of_mul_eq_mul_right hu h
  · have far : 2 ^ 53 * unit ≤ nearest m := le_nearest (Nat.not_lt.mp hm)
    rw [h] at far
    generalize unit = u at far hu
    exact absurd (Nat.le_of_mul_le_mul_right far hu) (Nat.not_le.mpr hn)

/-! ## an integer -/

/-- the canonical form: a sign and a magnitude are those of one number -/
theorem eq_of_magnitude {f g : Finite64} (hs : f.negative = g.negative) (hm : f.magnitude = g.magnitude) : f = g := by
  obtain ⟨s, m, e, hf⟩ := f
  obtain ⟨t, n, d, hg⟩ := g
  -- of two exponents the greater one has a mantissa of 53 bits, which is more than the other can make up for
  have less : ∀ {m n : Nat} {a b : Nat}, m < 2 ^ 53 → 2 ^ 52 ≤ n → a < b → m * 2 ^ a < n * 2 ^ b := by
    intro m n a b hm hn hab
    calc m * 2 ^ a < 2 ^ 53 * 2 ^ a := Nat.mul_lt_mul_of_pos_right hm (Nat.two_pow_pos a)
      _ = 2 ^ 52 * 2 ^ (a + 1) := carry a
      _ ≤ n * 2 ^ b := Nat.mul_le_mul hn (Nat.pow_le_pow_right (by decide) hab)
  replace hm : m * 2 ^ (e + 1074).toNat = n * 2 ^ (d + 1074).toNat := hm
  obtain rfl : s = t := hs
  have he : e = d := by
    rcases Int.lt_trichotomy e d with h | h | h
    · exact absurd hm (Nat.ne_of_lt (less hf.1 (hg.2.2.2.resolve_right (by omega)) (by omega)))
    · exact h
    · exact absurd hm.symm (Nat.ne_of_lt (less hg.1 (hf.2.2.2.resolve_right (by omega)) (by omega)))
  subst he
  obtain rfl : m = n := Nat.eq_of_mul_eq_mul_right (Nat.two_pow_pos _) hm
  rfl

/-- a number is the one that an integer is rounded to: the nearest one, with its sign -/
structure Rounds (i : Int) (f : Finite64) : Prop where
  negative : f.negative = decide (i < 0)
  magnitude : f.magnitude = nearest i.natAbs

theorem exists_ofInt {i : Int} (hl : i.natAbs.log2 < 1023) : ∃ f, ofInt i = some f ∧ Rounds i f := by
  by_cases h0 : i = 0
  · subst h0
    have hm : (zero (decide ((0 : Int) < 0))).magnitude = nearest 0 := by
      rw [nearest_zero]
      exact Nat.zero_mul _
    exact ⟨zero (decide ((0 : Int) < 0)), rfl, rfl, hm⟩
  · obtain ⟨f, hf, hs, hm⟩ := exists_ofRatio_one (decide (i < 0)) (Int.natAbs_ne_zero.mpr h0) hl
    exact ⟨f, hf, hs, hm⟩

/-- an integer of 64 bits is within the greatest number -/
theorem exists_ofInt_of_lt {i : Int} (h : i.natAbs < 2 ^ 64) : ∃ f, ofInt i = some f ∧ Rounds i f :=
  exists_ofInt (Nat.lt_trans (log2_lt_of_lt (by decide) h) (by decide))

namespace Rounds
variable {i j : Int} {f g : Finite64}

theorem scaled_eq (h : Rounds i f) :
    f.scaled = if i < 0 then -(nearest i.natAbs : Int) else nearest i.natAbs := by
  rw [Finite64.scaled_eq, h.negative, h.magnitude]
  simp only [decide_eq_true_eq]

/-- rounding keeps the order of integers -/
theorem scaled_mono (hf : Rounds i f) (hg : Rounds j g) (h : i ≤ j) : f.scaled ≤ g.scaled := by
  rw [hf.scaled_eq, hg.scaled_eq]
  by_cases hi : i < 0
  · by_cases hj : j < 0
    · have : nearest j.natAbs ≤ nearest i.natAbs := nearest_mono (by omega)
      rw [if_pos hi, if_pos hj]
      omega
    · rw [if_pos hi, if_neg hj]
      omega
  · have : nearest i.natAbs ≤ nearest j.natAbs := nearest_mono (by omega)
    rw [if_neg hi, if_neg (by omega)]
    omega

theorem eq_of_scaled (hf : Rounds i f) (hg : Rounds j g) (h : f.scaled = g.scaled) : f = g := by
  have pos : ∀ k : Int, k < 0 → 0 < nearest k.natAbs := fun k hk => nearest_pos (by omega)
  rw [hf.scaled_eq, hg.scaled_eq] at h
  have hs : i < 0 ↔ j < 0 := by
    have hi := pos i
    have hj := pos j
    split at h <;> split at h <;> omega
  have hm : nearest i.natAbs = nearest j.natAbs := by
    simp only [hs] at h
    split at h <;> omega
  refine eq_of_magnitude ?_ ?_
  · rw [hf.negative, hg.negative, decide_eq_decide.mpr hs]
  · rw [hf.magnitude, hg.magnitude, hm]

/-- no other integer is rounded to one below `2^53` -/
theorem inj_of_lt (hf : Rounds i f) (hg : Rounds j f) (hj : j.natAbs < 2 ^ 53) : i = j := by
  have hs : i < 0 ↔ j < 0 := decide_eq_decide.mp (hf.negative.symm.trans hg.negative)
  have hm : i.natAbs = j.natAbs := nearest_inj_of_lt hj (hf.magnitude.symm.trans hg.magnitude)
  omega

end Rounds

/-- **Rounded integers compare as the integers do, except that two with one rounding are equal.** -/
theorem ofInt_le_iff {i j : Int} (hi : i.natAbs.log2 < 1023) (hj : j.natAbs.log2 < 1023) :
    ∃ f g, ofInt i = some f ∧ ofInt j = some g ∧ (f.le g = true ↔ i ≤ j ∨ ofInt i = ofInt j) := by
  obtain ⟨f, hf, hfr⟩ := exists_ofInt hi
  obtain ⟨g, hg, hgr⟩ := exists_ofInt hj
  refine ⟨f, g, hf, hg, ?_⟩
  rw [hf, hg, Option.some_inj]
  show decide (f.scaled ≤ g.scaled) = true ↔ _
  rw [decide_eq_true_iff]
  constructor
  · intro hle
    by_cases h : i ≤ j
    · exact .inl h
    · exact .inr (hfr.eq_of_scaled hgr (Int.le_antisymm hle (hgr.scaled_mono hfr (by omega))))
  · rintro (h | rfl)
    · exact hfr.scaled_mono hgr h
    · exact Int.le_refl _

theorem ofInt_inj_of_lt {i j : Int} (hi : i.natAbs.log2 < 1023) (hj : j.natAbs < 2 ^ 53) :
    ofInt i = ofInt j ↔ i = j := by
  refine ⟨fun h => ?_, congrArg _⟩
  obtain ⟨f, hf, hfr⟩ := exists_ofInt hi
  obtain ⟨g, hg, hgr⟩ := exists_ofInt (Nat.lt_trans (log2_lt_of_lt (by decide) hj) (by decide))
  rw [hf, hg, Option.some_inj] at h
  subst h
  exact hfr.inj_of_lt hgr hj

end RequestPipeline.Finite64
