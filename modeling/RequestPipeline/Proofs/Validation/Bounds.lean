import RequestPipeline.Proofs.Number.Rounding
import RequestPipeline.Proofs.Validation.Coercion
import RequestPipeline.Validation.Check

/-!
# Numeric bounds

A bound and the integer that it is about are rounded to 53 bits before they are compared.  `Integers` are the integers
of a coerced value: the one that it is, or the items of a list.

* `satisfies_min_iff`, `satisfies_max_iff`   one integer;
* `satisfies_integers`                       a list keeps a bound if every item does.

`bounds_up_to_rounding`: **a bound is kept exactly by the integers on its side and by those with its rounding; below
`2^53` it is exact.**  From `2^53` on it is not: `below_least_accepted`.
-/

namespace RequestPipeline.Validation

open Json (Value Members)

/-! ## one integer -/

section
variable {i b : Int}

theorem isInt64_of_lt (h : b.natAbs < 2 ^ 53) : IsInt64 b := by
  unfold IsInt64
  omega

theorem log2_lt_of_isInt64 (h : IsInt64 i) : i.natAbs.log2 < 1023 := by
  have hn : i.natAbs < 2 ^ 64 := by
    unfold IsInt64 at h
    omega
  exact Nat.lt_trans (Finite64.log2_lt_of_lt (by decide) hn) (by decide)

theorem satisfies_min_iff (hi : IsInt64 i) (hb : IsInt64 b) :
    satisfies (.min b) (.ofInt i) = true ↔ b ≤ i ∨ Finite64.ofInt b = Finite64.ofInt i := by
  obtain ⟨g, f, hg, hf, hle⟩ := Finite64.ofInt_le_iff (log2_lt_of_isInt64 hb) (log2_lt_of_isInt64 hi)
  show ((Finite64.ofInt i).bind fun f => (Finite64.ofInt b).map fun g => g.le f).getD false = true ↔ _
  rw [← hle, hf, hg]
  rfl

theorem satisfies_max_iff (hi : IsInt64 i) (hb : IsInt64 b) :
    satisfies (.max b) (.ofInt i) = true ↔ i ≤ b ∨ Finite64.ofInt i = Finite64.ofInt b := by
  obtain ⟨f, g, hf, hg, hle⟩ := Finite64.ofInt_le_iff (log2_lt_of_isInt64 hi) (log2_lt_of_isInt64 hb)
  show ((Finite64.ofInt i).bind fun f => (Finite64.ofInt b).map fun g => f.le g).getD false = true ↔ _
  rw [← hle, hf, hg]
  rfl

/-- no other integer has the rounding of a bound below `2^53` -/
theorem satisfies_min_iff_of_lt (hi : IsInt64 i) (hb : b.natAbs < 2 ^ 53) :
    satisfies (.min b) (.ofInt i) = true ↔ b ≤ i := by
  rw [satisfies_min_iff hi (isInt64_of_lt hb), eq_comm, Finite64.ofInt_inj_of_lt (log2_lt_of_isInt64 hi) hb]
  exact or_iff_left_of_imp fun h => Int.le_of_eq h.symm

theorem satisfies_max_iff_of_lt (hi : IsInt64 i) (hb : b.natAbs < 2 ^ 53) :
    satisfies (.max b) (.ofInt i) = true ↔ i ≤ b := by
  rw [satisfies_max_iff hi (isInt64_of_lt hb), Finite64.ofInt_inj_of_lt (log2_lt_of_isInt64 hi) hb]
  exact or_iff_left_of_imp Int.le_of_eq

end

/-! ## a coerced value -/

/-- the integers of a coerced value: the one that it is, or the items of a list -/
inductive Integers : Value → List Int → Prop
  | one (i : Int) : Integers (.ofInt i) [i]
  | list (is : List Int) : Integers (.array (is.map .ofInt)) is

theorem exists_integers {kind : Kind} {v w : Value} (hk : kind = .integer ∨ kind = .integerList)
    (h : coerce v kind = some w) : ∃ is, Integers w is ∧ ∀ i ∈ is, IsInt64 i := by
  rcases hk with rfl | rfl
  · obtain ⟨i, hi, rfl⟩ := Option.map_eq_some_iff.mp h
    exact ⟨[i], .one i, List.forall_mem_singleton.mpr (isInt64_of_integer? hi)⟩
  · obtain ⟨vs, -, hvs⟩ := Option.bind_eq_some_iff.mp h
    obtain ⟨is, his, rfl⟩ := Option.map_eq_some_iff.mp hvs
    refine ⟨is, .list is, fun i hi => ?_⟩
    obtain ⟨v, -, hv⟩ := exists_of_mem_allItems? his i hi
    exact isInt64_of_integer? hv

theorem allSatisfy_iff (rule : Rule) (vs : List Value) :
    allSatisfy rule vs = true ↔ ∀ v ∈ vs, satisfies rule v = true := by
  induction vs with
  | nil => simp [allSatisfy]
  | cons v vs ih => simp [allSatisfy, ih]

theorem satisfies_integers {rule : Rule} {b : Int} (hr : rule = .min b ∨ rule = .max b) {w : Value} {is : List Int}
    (h : Integers w is) : satisfies rule w = true ↔ ∀ i ∈ is, satisfies rule (.ofInt i) = true := by
  cases h with
  | one i =>
    rw [List.forall_mem_singleton]
  | list is =>
    have hall : satisfies rule (.array (is.map .ofInt)) = allSatisfy rule (is.map .ofInt) := by
      rcases hr with rfl | rfl <;> rfl
    rw [hall, allSatisfy_iff, List.forall_mem_map]

/-- **Bounds up to rounding.**  The coerced value of a field of integers is an integer or a list of them, each of 64
bits.  A least value is kept exactly if every integer is at least it or is rounded to the same number of 53 bits, and a
greatest value likewise; a bound below `2^53` in magnitude is kept exactly if every integer is on its side. -/
theorem bounds_up_to_rounding {kind : Kind} {v w : Value} {lo hi : Int}
    (hk : kind = .integer ∨ kind = .integerList) (hw : coerce v kind = some w) (hlo : IsInt64 lo) (hhi : IsInt64 hi) :
    ∃ is, Integers w is ∧ (∀ i ∈ is, IsInt64 i) ∧
      (satisfies (.min lo) w = true ↔ ∀ i ∈ is, lo ≤ i ∨ Finite64.ofInt lo = Finite64.ofInt i) ∧
      (satisfies (.max hi) w = true ↔ ∀ i ∈ is, i ≤ hi ∨ Finite64.ofInt i = Finite64.ofInt hi) ∧
      (lo.natAbs < 2 ^ 53 → (satisfies (.min lo) w = true ↔ ∀ i ∈ is, lo ≤ i)) ∧
      (hi.natAbs < 2 ^ 53 → (satisfies (.max hi) w = true ↔ ∀ i ∈ is, i ≤ hi)) := by
  obtain ⟨is, his, h64⟩ := exists_integers hk hw
  have least := satisfies_integers (.inl rfl : Rule.min lo = .min lo ∨ _) his
  have greatest := satisfies_integers (.inr rfl : _ ∨ Rule.max hi = .max hi) his
  refine ⟨is, his, h64, ?_, ?_, fun h => ?_, fun h => ?_⟩
  · exact least.trans (forall₂_congr fun i hi => satisfies_min_iff (h64 i hi) hlo)
  · exact greatest.trans (forall₂_congr fun i hi => satisfies_max_iff (h64 i hi) hhi)
  · exact least.trans (forall₂_congr fun i hi => satisfies_min_iff_of_lt (h64 i hi) h)
  · exact greatest.trans (forall₂_congr fun i hi => satisfies_max_iff_of_lt (h64 i hi) h)

theorem bounds_up_to_rounding_pair :
    let w : Value := .array ([3, 9007199254740992].map .ofInt)
    coerce (.string "3,9007199254740992") .integerList = some w ∧
    ∃ is, Integers w is ∧ (∀ i ∈ is, IsInt64 i) ∧
      (satisfies (.min 3) w = true ↔ ∀ i ∈ is, 3 ≤ i ∨ Finite64.ofInt 3 = Finite64.ofInt i) ∧
      (satisfies (.max 9007199254740993) w = true ↔
        ∀ i ∈ is, i ≤ 9007199254740993 ∨ Finite64.ofInt i = Finite64.ofInt 9007199254740993) ∧
      ((3 : Int).natAbs < 2 ^ 53 → (satisfies (.min 3) w = true ↔ ∀ i ∈ is, 3 ≤ i)) ∧
      ((9007199254740993 : Int).natAbs < 2 ^ 53 →
        (satisfies (.max 9007199254740993) w = true ↔ ∀ i ∈ is, i ≤ 9007199254740993)) := by
  intro w
  have hw : coerce (.string "3,9007199254740992") .integerList = some w := by rfl
  exact ⟨hw, bounds_up_to_rounding (.inr rfl) hw (by unfold IsInt64; omega) (by unfold IsInt64; omega)⟩

/-- a field whose least value is odd and needs 54 bits -/
def oddSchema : Schema :=
  ⟨"Input", [⟨"n", .integer, false, false, [⟨.min 9007199254740993, false, none⟩]⟩], []⟩

/-- `2^53` is below the least value `2^53 + 1`, and nothing is wrong with it -/
theorem below_least_accepted :
    coerce (.ofInt 9007199254740992) .integer = some (.ofInt 9007199254740992) ∧
      ¬ (9007199254740993 : Int) ≤ 9007199254740992 ∧
      satisfies (.min 9007199254740993) (.ofInt 9007199254740992) = true ∧
      (check oddSchema [("n", .ofInt 9007199254740992)] none).selected = none :=
  ⟨rfl, by decide, by decide +kernel, by decide +kernel⟩

end RequestPipeline.Validation
