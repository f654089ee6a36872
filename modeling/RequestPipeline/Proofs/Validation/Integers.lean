import RequestPipeline.Proofs.Json.Number
import RequestPipeline.Proofs.Validation.Lists

/-!
# Integers keep their value

An integer is read off a number or off a text, and in a list off every element.

* `wholeFloat?_eq_some_iff`     a floating-point number stands for its value, if that is an integer below `2^53`;
* `integer?_number_iff`         so does a number, and a whole number of 64 bits with a sign;
* `integer?_string_iff`         a text stands for the integer that it denotes, white space aside;
* `coerce_integerList_iff`      a list of integers has one for each element.

`integers_exact`: **no integer differs from the value that it was taken from**, and which values give one.
-/

namespace RequestPipeline.Validation

open Json (Value Number)

/-! ## numbers -/

/-- whether an integer that is the value of a number is taken from it: 64 bits with a sign from a number that is kept as
a whole number, and a magnitude below `2^53` from a floating-point one -/
def Fits (i : ℤ) : Number → Prop
  | .int _ => IsInt64 i
  | .float _ => i.natAbs < 2 ^ 53

theorem wholeFloat?_eq_some_iff {f : Finite64} {i : ℤ} : wholeFloat? f = some i ↔ f.value = i ∧ i.natAbs < 2 ^ 53 := by
  unfold wholeFloat?
  rw [Option.bind_eq_some_iff]
  constructor
  · rintro ⟨j, hj, h⟩
    obtain ⟨hlt, he⟩ := Option.ite_none_right_eq_some.mp h
    obtain rfl := Option.some.inj he
    exact ⟨Finite64.toInt?_eq_some_iff.mp hj, hlt⟩
  · rintro ⟨hv, hlt⟩
    exact ⟨i, Finite64.toInt?_eq_some_iff.mpr hv, if_pos hlt⟩

/-- an integer from `2^63` on is not taken, neither as a whole number nor as the floating-point number nearest to it -/
theorem integer?_of_lt {i : ℤ} (low : Text.maxInt64 < i) (high : i ≤ Text.maxUInt64) :
    integer? (.number (.int i)) = none := by
  unfold Text.maxInt64 at low
  unfold Text.maxUInt64 at high
  obtain ⟨f, hf, hrounds⟩ := Finite64.exists_ofInt_of_lt (show i.natAbs < 2 ^ 64 by omega)
  have hint : (Number.int i).int64? = none := if_neg (by omega)
  have hfloat : (Number.int i).toFloat? = some f := hf
  rw [integer?_number, hint, hfloat, Option.none_or, Option.bind_some]
  refine Option.eq_none_iff_forall_ne_some.mpr fun j hj => ?_
  obtain ⟨hv, hlt⟩ := wholeFloat?_eq_some_iff.mp hj
  have hge : 2 ^ 53 ≤ j.natAbs := hrounds.le_value (by omega) hv
  omega

theorem integer?_number_iff {n : Number} (h : n.Stored) {i : ℤ} :
    integer? (.number n) = some i ↔ n.value = i ∧ Fits i n := by
  cases n with
  | float f => exact wholeFloat?_eq_some_iff
  | int j =>
    obtain ⟨low, high⟩ := h
    have hvalue : (Number.int j).value = i ↔ j = i := Int.cast_inj
    rw [hvalue]
    by_cases hj : IsInt64 j
    · rw [show integer? (.number (.int j)) = some j from integer?_ofInt hj, Option.some_inj]
      exact ⟨fun he => ⟨he, he ▸ hj⟩, And.left⟩
    · have hlt : Text.maxInt64 < j := by
        unfold Text.minInt64 at low
        unfold IsInt64 at hj
        unfold Text.maxInt64
        omega
      rw [integer?_of_lt hlt high]
      exact ⟨nofun, fun ⟨he, hi⟩ => absurd hi (he ▸ hj)⟩

/-! ## texts -/

/-- a text denotes an integer between the white space around it -/
def Spells (s : String) (i : ℤ) : Prop :=
  ∃ lead core trail, s.toList = lead ++ (core ++ trail) ∧ (∀ c ∈ lead, Text.isBlank c = true) ∧
    (∀ c ∈ trail, Text.isBlank c = true) ∧ Text.Denotes core i

theorem spells_iff {s : String} {i : ℤ} : Spells s i ↔ Text.Denotes (Text.trimChars s.toList) i := by
  constructor
  · rintro ⟨lead, core, trail, hs, hlead, htrail, hcore⟩
    have htrimmed : Text.Trimmed core :=
      ⟨fun c hc => hcore.not_blank c (List.mem_of_mem_head? hc),
        fun c hc => hcore.not_blank c (List.mem_of_mem_getLast? hc)⟩
    rwa [hs, Text.trimChars_append hlead htrail hcore.ne_nil htrimmed]
  · intro h
    obtain ⟨lead, trail, hs, hlead, htrail⟩ := Text.exists_trimChars s.toList
    exact ⟨lead, _, trail, hs, hlead, htrail, h⟩

theorem integer?_string_iff {s : String} {i : ℤ} : integer? (.string s) = some i ↔ Spells s i ∧ IsInt64 i := by
  rw [spells_iff]
  exact Text.int64?_eq_some_iff

/-! ## coercion -/

theorem coerce_integer_iff {v w : Value} : coerce v .integer = some w ↔ ∃ i, w = .ofInt i ∧ integer? v = some i := by
  show (integer? v).map Value.ofInt = some w ↔ _
  rw [Option.map_eq_some_iff]
  exact exists_congr fun i => ⟨fun ⟨hi, hw⟩ => ⟨hw.symm, hi⟩, fun ⟨hw, hi⟩ => ⟨hi, hw.symm⟩⟩

theorem coerce_integer_ofInt_iff {v : Value} {i : ℤ} : coerce v .integer = some (.ofInt i) ↔ integer? v = some i := by
  rw [coerce_integer_iff]
  constructor
  · rintro ⟨j, hj, h⟩
    obtain rfl : i = j := Number.int.inj (Value.number.inj hj)
    exact h
  · exact fun h => ⟨i, rfl, h⟩

theorem coerce_integer_eq_none_iff {v : Value} : coerce v .integer = none ↔ integer? v = none := Option.map_eq_none_iff

/-- a list of integers has one for each element -/
theorem coerce_integerList_iff {v w : Value} : coerce v .integerList = some w ↔ ∃ items is, Elements v items ∧
    List.Forall₂ (fun item i => coerce item .integer = some (.ofInt i)) items is ∧ w = .array (is.map .ofInt) := by
  show ((listItems? v).bind fun vs => (allItems? integer? vs).map fun is => Value.array (is.map .ofInt)) = some w ↔ _
  simp only [Option.bind_eq_some_iff, Option.map_eq_some_iff, listItems?_eq_some_iff, allItems?_eq_some_iff,
    coerce_integer_ofInt_iff]
  constructor
  · rintro ⟨items, hitems, is, his, hw⟩
    exact ⟨items, is, hitems, his, hw.symm⟩
  · rintro ⟨items, is, hitems, his, hw⟩
    exact ⟨items, hitems, is, his, hw.symm⟩

/-- one element that is no integer is enough for a list to fail -/
theorem coerce_integerList_eq_none_iff {v : Value} {items : List Value} (h : Elements v items) :
    coerce v .integerList = none ↔ ∃ item ∈ items, coerce item .integer = none := by
  show ((listItems? v).bind fun vs => (allItems? integer? vs).map fun is => Value.array (is.map .ofInt)) = none ↔ _
  rw [listItems?_eq_some_iff.mpr h, Option.bind_some, Option.map_eq_none_iff, allItems?_eq_none_iff]
  simp only [coerce_integer_eq_none_iff]

/-- **Integers keep their value.**  A number gives an integer exactly if that is its value, has 64 bits with a sign for a
number that is kept as a whole number, and is below `2^53` in magnitude for a floating-point one.  A text gives one
exactly if it denotes it, white space around it aside, and it has 64 bits with a sign.  A list gives one for each of its
elements, by the same rule, and nothing as soon as one of them gives none. -/
theorem integers_exact :
    (∀ (n : Number) (w : Value), n.Stored →
      (coerce (.number n) .integer = some w ↔ ∃ i : ℤ, w = .ofInt i ∧ n.value = i ∧ Fits i n)) ∧
    (∀ (s : String) (w : Value), coerce (.string s) .integer = some w ↔ ∃ i, w = .ofInt i ∧ Spells s i ∧ IsInt64 i) ∧
    (∀ v w : Value, coerce v .integerList = some w ↔ ∃ items is, Elements v items ∧
      List.Forall₂ (fun item i => coerce item .integer = some (.ofInt i)) items is ∧ w = .array (is.map .ofInt)) ∧
    ∀ (v : Value) (items : List Value), Elements v items →
      (coerce v .integerList = none ↔ ∃ item ∈ items, coerce item .integer = none) := by
  refine ⟨fun n w h => ?_, fun s w => ?_, fun v w => coerce_integerList_iff,
    fun v items => coerce_integerList_eq_none_iff⟩
  · rw [coerce_integer_iff]
    exact exists_congr fun i => and_congr_right fun _ => integer?_number_iff h
  · rw [coerce_integer_iff]
    exact exists_congr fun i => and_congr_right fun _ => integer?_string_iff

/-- the number `7.0`, and a list with an element that is no integer -/
theorem integers_exact_seven :
    let n : Number := .float ⟨false, 7881299347898368, -50, by decide⟩
    n.Stored ∧ coerce (.number n) .integer = some (.ofInt 7) ∧
    Elements (.string "7, x") [.string "7", .string "x"] ∧ coerce (.string "7, x") .integerList = none := by
  intro n
  have hvalue : n.value = (7 : ℤ) := by norm_num [n, Number.value, Finite64.value]
  have hfits : Fits 7 n := show (7 : ℤ).natAbs < 2 ^ 53 by decide
  have helements : Elements (.string "7, x") [.string "7", .string "x"] := listItems?_eq_some_iff.mp rfl
  have hfails : ∃ item ∈ [Value.string "7", .string "x"], coerce item .integer = none :=
    ⟨.string "x", List.mem_cons_of_mem _ List.mem_cons_self, rfl⟩
  exact ⟨trivial, (integers_exact.1 n (.ofInt 7) trivial).mpr ⟨7, rfl, hvalue, hfits⟩, helements,
    (integers_exact.2.2.2 _ _ helements).mpr hfails⟩

end RequestPipeline.Validation
