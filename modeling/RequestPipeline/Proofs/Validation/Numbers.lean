import RequestPipeline.Proofs.Json.Number
import RequestPipeline.Proofs.Validation.Coercion

/-!
# Numbers in texts

A text is tried as an integer of 64 bits with a sign first, and then as a floating-point number.

* `number?_float`        the text of a floating-point number is no integer, and is read as the number;
* `number?_of_le`        the text of an integer with a sign is read as the integer;
* `number?_of_lt`        the text of a greater one is read as the number nearest to it.

`coerce_render`: **a number and its text are coerced to one value exactly if it is no integer from `2^63` on.**  Of
such an integer the text loses digits: `greatest_rounded`.
-/

namespace RequestPipeline

/-- the digits of a whole number that is not too long are read as the number nearest to it -/
theorem Float64.parse?_ofNat {n : ℕ} (hn : n < 10 ^ 20) :
    parse? (Text.ofNat n) = some (ofRounded false (Finite64.ofInt n)) := by
  have hd : ∀ c ∈ Text.ofNat n, c.isDigit = true := fun _ => Text.isDigit_of_mem_ofNat
  have hread := parseMagnitude?_whole (Text.ofNat_ne_nil n) hd .absent false
  rw [List.append_nil, Text.ofDigitChars_ofNat] at hread
  rw [parse?_of_head fun c hc => hd c (List.mem_of_mem_head? hc), hread]
  unfold ofDecimal Finite64.ofDecimal
  have hlen : (Nat.toDigits 10 n).length ≤ 20 := (Nat.length_toDigits_le_iff (by decide) (by decide)).mpr hn
  split
  · rename_i hzero
    subst hzero
    rfl
  · dsimp only
    rw [if_neg (by omega), if_neg (by omega)]
    show some (ofRounded false (Finite64.ofRatio false (n * 1) 1)) = _
    rw [Nat.mul_one]
    rfl

namespace Validation

open Json (Value Number)

theorem number?_render (n : Number) : number? (.string (Value.number n).render) =
    ((Text.int64? n.render).map .int).or (((Float64.parse? n.render).bind Float64.finite?).map .float) := by
  unfold number?
  dsimp only
  rw [show (Value.number n).render.toList = n.render from String.toList_ofList, n.trimChars_render]
  cases Text.int64? n.render <;> rfl

theorem number?_float (f : Finite64) : number? (.string (Value.number (.float f)).render) = some (.float f) := by
  have hint : Text.int64? f.text = none :=
    Option.eq_none_iff_forall_ne_some.mpr fun i hi => f.not_denotes_text i (Text.int64?_eq_some_iff.mp hi).1
  rw [number?_render]
  show ((Text.int64? f.text).map Number.int).or (((Float64.parse? f.text).bind Float64.finite?).map .float) = _
  rw [hint, f.parse?_text]
  rfl

theorem number?_of_le {i : ℤ} (low : Text.minInt64 ≤ i) (high : i ≤ Text.maxInt64) :
    number? (.string (Value.number (.int i)).render) = some (.int i) := by
  have hint : Text.int64? (Text.ofInt i) = some i := Text.int64?_eq_some_iff.mpr ⟨Text.denotes_ofInt i, low, high⟩
  rw [number?_render]
  show ((Text.int64? (Text.ofInt i)).map Number.int).or _ = _
  rw [hint]
  rfl

theorem number?_of_lt {i : ℤ} (low : Text.maxInt64 < i) (high : i ≤ Text.maxUInt64) :
    ∃ f, Finite64.ofInt i = some f ∧ number? (.string (Value.number (.int i)).render) = some (.float f) := by
  unfold Text.maxInt64 at low
  unfold Text.maxUInt64 at high
  obtain ⟨n, rfl⟩ := Int.eq_ofNat_of_zero_le (show 0 ≤ i by omega)
  have hint : Text.int64? (Text.ofInt n) = none := by
    refine Option.eq_none_iff_forall_ne_some.mpr fun j hj => ?_
    -- a text denotes one integer, and this one is too great
    obtain ⟨hd, -, hle⟩ := Text.int64?_eq_some_iff.mp hj
    have hsame := (Text.integer?_eq_some_iff.mpr hd).symm.trans (Text.integer?_eq_some_iff.mpr (Text.denotes_ofInt n))
    obtain rfl := Option.some.inj hsame
    unfold Text.maxInt64 at hle
    omega
  obtain ⟨f, hf, -⟩ := Finite64.exists_ofInt_of_lt (show (n : ℤ).natAbs < 2 ^ 64 by omega)
  refine ⟨f, hf, ?_⟩
  rw [number?_render]
  show ((Text.int64? (Text.ofInt n)).map Number.int).or
    (((Float64.parse? (Text.ofNat n)).bind Float64.finite?).map .float) = _
  rw [hint, Float64.parse?_ofNat (by omega), hf]
  rfl

/-- **A number and its text.**  A number is its own coercion, and the coercion of its text is the number again exactly if
it is no integer from `2^63` on; the text of such an integer becomes the floating-point number nearest to it. -/
theorem coerce_render {n : Number} (h : n.Stored) :
    coerce (.number n) .number = some (.number n) ∧
    (coerce (.string (Value.number n).render) .number = some (.number n) ↔ ∀ i, n = .int i → i ≤ Text.maxInt64) ∧
    ∀ i, n = .int i → Text.maxInt64 < i → ∃ f, Finite64.ofInt i = some f ∧
      coerce (.string (Value.number n).render) .number = some (.number (.float f)) := by
  refine ⟨rfl, ?_⟩
  show (((number? (.string (Value.number n).render)).map Value.number = _ ↔ _) ∧
    ∀ i, _ → _ → ∃ f, _ ∧ (number? (.string (Value.number n).render)).map Value.number = _)
  cases n with
  | float f =>
    rw [number?_float]
    exact ⟨⟨fun _ => nofun, fun _ => rfl⟩, nofun⟩
  | int i =>
    obtain ⟨low, high⟩ := h
    rcases Int.lt_or_le Text.maxInt64 i with hlt | hle
    · obtain ⟨f, hf, hread⟩ := number?_of_lt hlt high
      rw [hread]
      refine ⟨⟨nofun, fun hle => absurd (hle i rfl) (Int.not_le.mpr hlt)⟩, ?_⟩
      rintro j hj -
      obtain rfl := Number.int.inj hj
      exact ⟨f, hf, rfl⟩
    · rw [number?_of_le low hle]
      refine ⟨⟨fun _ j hj => Number.int.inj hj ▸ hle, fun _ => rfl⟩, ?_⟩
      rintro j hj hlt
      obtain rfl := Number.int.inj hj
      exact absurd hle (Int.not_le.mpr hlt)

theorem coerce_render_greatest :
    let n : Number := .int 18446744073709551615
    n.Stored ∧ coerce (.number n) .number = some (.number n) ∧
    (coerce (.string (Value.number n).render) .number = some (.number n) ↔ ∀ i, n = .int i → i ≤ Text.maxInt64) ∧
    ∀ i, n = .int i → Text.maxInt64 < i → ∃ f, Finite64.ofInt i = some f ∧
      coerce (.string (Value.number n).render) .number = some (.number (.float f)) := by
  intro n
  have h : n.Stored := ⟨by decide, by decide⟩
  exact ⟨h, coerce_render h⟩

/-- the greatest integer of 64 bits without a sign stays as it is, and its text is read as `2^64` -/
theorem greatest_rounded :
    coerce (.ofInt 18446744073709551615) .number = some (.ofInt 18446744073709551615) ∧
    (Value.ofInt 18446744073709551615).render = "18446744073709551615" ∧
    coerce (.string "18446744073709551615") .number
      = some (.number (.float ⟨false, 4503599627370496, 12, by decide⟩)) ∧
    coerce (.string "18446744073709551615") .number ≠ coerce (.ofInt 18446744073709551615) .number := by
  have hread : number? (.string "18446744073709551615") = some (.float ⟨false, 4503599627370496, 12, by decide⟩) := by
    decide +kernel
  refine ⟨rfl, by decide +kernel, congrArg (Option.map Value.number) hread, ?_⟩
  show (number? (.string "18446744073709551615")).map Value.number ≠ _
  rw [hread]
  exact nofun

end Validation

end RequestPipeline
