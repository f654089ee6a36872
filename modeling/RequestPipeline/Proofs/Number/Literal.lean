import Mathlib.Data.List.TakeWhile
import RequestPipeline.Proofs.Number.Shortest
import RequestPipeline.Proofs.Text.Decimal

/-!
# The text of a number is read as the number

The text of a number is a layout of the digits of its shortest decimal: in positions, or with a power of ten.  Every
layout is a literal (`reads_layout`), whose value is that of the decimal whatever zeros were dropped or added, and the
number covers it.

`parse?_text`: **the text of a number is read as that number**, sign and all.
-/

namespace RequestPipeline

namespace Text

theorem ofDigitChars_append_zeros (ds : List Char) (k : ℕ) :
    Nat.ofDigitChars 10 (ds ++ List.replicate k '0') 0 = Nat.ofDigitChars 10 ds 0 * 10 ^ k := by
  rw [Nat.ofDigitChars_append, Nat.ofDigitChars_replicate_zero, Nat.mul_comm]

theorem ofDigitChars_zeros_append (ds : List Char) (k : ℕ) :
    Nat.ofDigitChars 10 (List.replicate k '0' ++ ds) 0 = Nat.ofDigitChars 10 ds 0 := by
  rw [Nat.ofDigitChars_append, Nat.ofDigitChars_replicate_zero, Nat.mul_zero]

end Text

open Text (Denotes)

/-! ## literals -/

namespace Float64

/-- what may end a literal: nothing, or a power of ten -/
inductive Power : List Char → ℤ → Prop
  | absent : Power [] 0
  | given {cs : List Char} {e : ℤ} (h : Denotes cs e) : Power ('e' :: cs) e

theorem Power.exponent? {power : List Char} {e : ℤ} (h : Power power e) : exponent? power = some e := by
  cases h with
  | absent => rfl
  | @given cs e h =>
    show (if 'e' = 'e' ∨ 'e' = 'E' then Text.integer? cs else none) = some e
    rw [if_pos (.inl rfl)]
    exact Text.integer?_eq_some_iff.mpr h

theorem Power.head {power : List Char} {e : ℤ} (h : Power power e) :
    ∀ c, power.head? = some c → c.isDigit = false := by
  cases h with
  | absent => exact nofun
  | given h =>
    rintro c hc
    obtain rfl := Option.some.inj hc
    rfl

/-- the digits behind a point, if there is one, on top of those before it -/
def readPoint (whole : ℕ) : List Char → ℕ × ℕ × List Char
  | '.' :: rest => Text.digitRun whole 0 rest
  | rest => (whole, 0, rest)

theorem Power.readPoint {power : List Char} {e : ℤ} (h : Power power e) (whole : ℕ) :
    readPoint whole power = (whole, 0, power) := by
  cases h <;> rfl

/-- a text with a digit is read as digits, a point and a power of ten -/
theorem parseMagnitude?_of_digits {cs rest power : List Char} {whole n digits m : ℕ}
    (hw : Text.digitRun 0 0 cs = (whole, n, rest)) (hp : readPoint whole rest = (digits, m, power)) (hn : n + m ≠ 0)
    (negative : Bool) :
    parseMagnitude? negative cs = (exponent? power).map fun e => ofDecimal negative digits (e - m) := by
  have hif : (Text.digitRun 0 0 cs).2.1
      + (readPoint (Text.digitRun 0 0 cs).1 (Text.digitRun 0 0 cs).2.2).2.1 ≠ 0 := by
    rw [hw]
    dsimp only
    rwa [hp]
  refine (if_neg hif).trans ?_
  rw [hw]
  show (exponent? (readPoint whole rest).2.2).map
    (fun e => ofDecimal negative (readPoint whole rest).1 (e - (readPoint whole rest).2.1)) = _
  rw [hp]

section
variable {whole part power : List Char} {e : ℤ} (nonempty : whole ≠ []) (hw : ∀ c ∈ whole, c.isDigit = true)
  (hp : ∀ c ∈ part, c.isDigit = true) (h : Power power e)
include nonempty hw h

theorem parseMagnitude?_whole (negative : Bool) :
    parseMagnitude? negative (whole ++ power) = some (ofDecimal negative (Nat.ofDigitChars 10 whole 0) e) := by
  have hlen : 0 < whole.length := List.length_pos_of_ne_nil nonempty
  rw [parseMagnitude?_of_digits (Text.digitRun_append hw h.head 0 0) (h.readPoint _) (by omega), h.exponent?]
  exact congrArg (fun e => some (ofDecimal negative _ e)) (Int.sub_zero e)

include hp

theorem parseMagnitude?_point (negative : Bool) : parseMagnitude? negative (whole ++ '.' :: (part ++ power))
    = some (ofDecimal negative (Nat.ofDigitChars 10 (whole ++ part) 0) (e - part.length)) := by
  have hlen : 0 < whole.length := List.length_pos_of_ne_nil nonempty
  have hpoint : ∀ c, ('.' :: (part ++ power)).head? = some c → c.isDigit = false := by
    rintro c hc
    obtain rfl := Option.some.inj hc
    rfl
  rw [parseMagnitude?_of_digits (Text.digitRun_append hw hpoint 0 0) (Text.digitRun_append hp h.head _ 0) (by omega),
    h.exponent?, Nat.ofDigitChars_append, Nat.zero_add]
  rfl

end

/-- a text that begins with a digit has no sign -/
theorem parse?_of_head {cs : List Char} (h : ∀ c, cs.head? = some c → c.isDigit = true) :
    parse? cs = parseMagnitude? false cs := by
  unfold parse?
  split
  · exact absurd (h '-' rfl) (by decide)
  · exact absurd (h '+' rfl) (by decide)
  · rfl

end Float64

/-! ## layouts -/

namespace Decimal

/-- digits with their first one at a power of ten, as a text -/
def layout (ds : List Char) (order : ℤ) : List Char :=
  if -5 ≤ order ∧ order ≤ 15 then
    (positional ds order).1 ++ '.' :: (if (positional ds order).2.isEmpty then ['0'] else (positional ds order).2)
  else
    (match ds with
      | [d] => [d]
      | d :: rest => d :: '.' :: rest
      | [] => []) ++ 'e' :: (if order < 0 then '-' else '+') :: Text.ofNat order.natAbs

end Decimal

theorem Finite64.text_eq (f : Finite64) : f.text = if f.mantissa = 0 then f.withSign "0.0".toList
    else f.withSign (Decimal.layout (Decimal.dropZeros f.shortest.scientific.1) f.shortest.scientific.2) := rfl

namespace Decimal

/-- the sign and the digits of a power of ten -/
theorem denotes_power (order : ℤ) :
    Denotes ((if order < 0 then '-' else '+') :: Text.ofNat order.natAbs) order := by
  have hd : ∀ c ∈ Text.ofNat order.natAbs, c.isDigit = true := fun _ => Text.isDigit_of_mem_ofNat
  split
  · have h := Denotes.minus (Text.ofNat_ne_nil order.natAbs) hd
    rw [Text.ofDigitChars_ofNat] at h
    rwa [show -((order.natAbs : ℕ) : ℤ) = order by omega] at h
  · have h := Denotes.plus (Text.ofNat_ne_nil order.natAbs) hd
    rw [Text.ofDigitChars_ofNat] at h
    rwa [show ((order.natAbs : ℕ) : ℤ) = order by omega] at h

section
variable {ds : List Char} (nonempty : ds ≠ []) (hd : ∀ c ∈ ds, c.isDigit = true)
include nonempty hd

/-- positions keep the digits and their value -/
theorem positional_spec (order : ℤ) : (positional ds order).1 ≠ [] ∧
    (∀ c ∈ (positional ds order).1, c.isDigit = true) ∧ (∀ c ∈ (positional ds order).2, c.isDigit = true) ∧
    (Nat.ofDigitChars 10 ((positional ds order).1 ++ (positional ds order).2) 0 : ℚ)
        * 10 ^ (-((positional ds order).2.length : ℤ))
      = Nat.ofDigitChars 10 ds 0 * 10 ^ (order + 1 - ds.length) := by
  have zeros : ∀ k, ∀ c ∈ List.replicate k '0', c.isDigit = true := by
    intro k c hc
    rw [(List.mem_replicate.mp hc).2]
    rfl
  unfold positional
  cases order with
  | ofNat k =>
    dsimp only
    split
    · -- zeros up to the point
      rename_i hlen
      refine ⟨by simp [nonempty], fun c hc => (List.mem_append.mp hc).elim (hd c) (zeros _ c), nofun, ?_⟩
      rw [List.append_nil, Text.ofDigitChars_append_zeros, Nat.cast_mul, Nat.cast_pow, mul_assoc,
        ← zpow_natCast (Nat.cast 10 : ℚ), Nat.cast_ofNat, ← zpow_add₀ (by norm_num)]
      congr 2
      simp only [List.length_nil, Int.ofNat_eq_natCast]
      omega
    · -- a point among the digits
      rename_i hlen
      refine ⟨by simp [nonempty], fun c hc => hd c (List.mem_of_mem_take hc), fun c hc => hd c (List.mem_of_mem_drop hc), ?_⟩
      rw [List.take_append_drop]
      congr 2
      rw [List.length_drop, Int.ofNat_eq_natCast]
      omega
  | negSucc k =>
    -- zeros behind the point
    refine ⟨List.cons_ne_nil _ _, fun c hc => by rw [List.mem_singleton.mp hc]; rfl,
      fun c hc => (List.mem_append.mp hc).elim (zeros _ c) (hd c), ?_⟩
    show (Nat.ofDigitChars 10 (List.replicate (k + 1) '0' ++ ds) 0 : ℚ) * _ = _
    rw [Text.ofDigitChars_zeros_append]
    congr 2
    rw [List.length_append, List.length_replicate]
    omega

/-- a text without a sign is read as a decimal of the value `x` -/
def Reads (cs : List Char) (x : ℚ) : Prop :=
  ∃ (d : ℕ) (e : ℤ), (d : ℚ) * 10 ^ e = x ∧
    ∀ negative, Float64.parseMagnitude? negative cs = some (Float64.ofDecimal negative d e)

/-- a layout is a literal of the value of its digits -/
theorem reads_layout (order : ℤ) :
    Reads (layout ds order) (Nat.ofDigitChars 10 ds 0 * 10 ^ (order + 1 - ds.length)) := by
  obtain ⟨hne, hwhole, hpart, hvalue⟩ := positional_spec nonempty hd order
  unfold layout
  split
  · rw [← hvalue]
    split
    · -- a zero stands behind the point when nothing else does
      rename_i hempty
      have hzero : ∀ c ∈ ['0'], c.isDigit = true := List.forall_mem_singleton.mpr rfl
      rw [List.isEmpty_iff.mp hempty, List.append_nil]
      refine ⟨_, _, ?_, Float64.parseMagnitude?_point hne hwhole hzero .absent⟩
      rw [show ['0'] = List.replicate 1 '0' from rfl, Text.ofDigitChars_append_zeros, Nat.cast_mul, mul_assoc]
      norm_num
    · have h := Float64.parseMagnitude?_point hne hwhole hpart .absent
      simp only [List.append_nil] at h
      exact ⟨_, _, by rw [zero_sub], h⟩
  · have hpower := Float64.Power.given (denotes_power order)
    match ds, nonempty with
    | [d], _ =>
      refine ⟨_, _, ?_, Float64.parseMagnitude?_whole (List.cons_ne_nil d []) hd hpower⟩
      rw [show order + 1 - ([d].length : ℕ) = order by simp]
    | d :: r :: rest, _ =>
      obtain ⟨hfirst, hrest⟩ := List.forall_mem_cons.mp hd
      have hone : ∀ c ∈ [d], c.isDigit = true := List.forall_mem_singleton.mpr hfirst
      refine ⟨_, _, ?_, Float64.parseMagnitude?_point (List.cons_ne_nil d []) hone hrest hpower⟩
      rw [show order + 1 - ((d :: r :: rest).length : ℕ) = order - ((r :: rest).length : ℕ) by
        simp only [List.length_cons]
        omega]
      rfl

/-- a layout begins with a digit -/
theorem head_layout (order : ℤ) : ∀ c, (layout ds order).head? = some c → c.isDigit = true := by
  obtain ⟨hne, hwhole, -, -⟩ := positional_spec nonempty hd order
  intro c hc
  unfold layout at hc
  split at hc
  · rw [List.head?_append_of_ne_nil _ hne] at hc
    exact hwhole c (List.mem_of_mem_head? hc)
  · match ds, nonempty with
    | [d], _ => exact hd c (List.mem_of_mem_head? hc)
    | d :: r :: rest, _ =>
      obtain rfl := Option.some.inj hc
      exact hd d List.mem_cons_self

/-- the characters of a layout -/
theorem mem_layout {order : ℤ} {c : Char} (h : c ∈ layout ds order) :
    c.isDigit = true ∨ c ∈ ['.', 'e', '+', '-'] := by
  obtain ⟨-, hwhole, hpart, -⟩ := positional_spec nonempty hd order
  unfold layout at h
  split at h
  · rcases List.mem_append.mp h with h | h
    · exact .inl (hwhole c h)
    rcases List.mem_cons.mp h with rfl | h
    · exact .inr (by decide)
    split at h
    · rw [List.mem_singleton.mp h]
      exact .inl rfl
    · exact .inl (hpart c h)
  · rcases List.mem_append.mp h with h | h
    · match ds, nonempty with
      | [d], _ => exact .inl (hd c h)
      | d :: r :: rest, _ =>
        rcases List.mem_cons.mp h with rfl | h
        · exact .inl (hd c List.mem_cons_self)
        rcases List.mem_cons.mp h with rfl | h
        · exact .inr (by decide)
        · exact .inl (hd c (List.mem_cons_of_mem _ h))
    rcases List.mem_cons.mp h with rfl | h
    · exact .inr (by decide)
    rcases List.mem_cons.mp h with rfl | h
    · split
      · exact .inr (by decide)
      · exact .inr (by decide)
    · exact .inl (Text.isDigit_of_mem_ofNat h)

end

/-- a layout shows that it is no whole number -/
theorem mark_mem_layout (ds : List Char) (order : ℤ) : '.' ∈ layout ds order ∨ 'e' ∈ layout ds order := by
  unfold layout
  split
  · exact .inl (List.mem_append_right _ List.mem_cons_self)
  · exact .inr (List.mem_append_right _ List.mem_cons_self)

/-- the zeros at the end of digits that are not all zeros -/
theorem exists_zeros {ds : List Char} (h : Nat.ofDigitChars 10 ds 0 ≠ 0) :
    dropZeros ds ≠ [] ∧ ∃ k, ds = dropZeros ds ++ List.replicate k '0' := by
  have hzeros : ∀ c ∈ ds.reverse.takeWhile (· == '0'), c = '0' := fun c hc => by
    simpa using List.mem_takeWhile_imp hc
  have hrep : ds.reverse.takeWhile (· == '0') = List.replicate (ds.reverse.takeWhile (· == '0')).length '0' :=
    List.eq_replicate_of_mem hzeros
  have htail : (ds.reverse.takeWhile (· == '0')).reverse
      = List.replicate (ds.reverse.takeWhile (· == '0')).length '0' :=
    (congrArg List.reverse hrep).trans List.reverse_replicate
  have hsplit : ds = (ds.reverse.dropWhile (· == '0')).reverse
      ++ List.replicate (ds.reverse.takeWhile (· == '0')).length '0' := by
    rw [← htail, ← List.reverse_append, List.takeWhile_append_dropWhile, List.reverse_reverse]
  unfold dropZeros
  split
  · rename_i hnil
    rw [hnil, List.nil_append] at hsplit
    rw [hsplit, Nat.ofDigitChars_replicate_zero, Nat.mul_zero] at h
    exact absurd rfl h
  · rename_i hne
    exact ⟨hne, _, hsplit⟩

end Decimal

/-! ## the text of a number -/

namespace Finite64

section
variable {f : Finite64} (hm : f.mantissa ≠ 0)
include hm

theorem digits_shortest :
    Decimal.dropZeros f.shortest.scientific.1 ≠ [] ∧
    (∀ c ∈ Decimal.dropZeros f.shortest.scientific.1, c.isDigit = true) ∧
    (Nat.ofDigitChars 10 (Decimal.dropZeros f.shortest.scientific.1) 0 : ℚ)
        * 10 ^ (f.shortest.scientific.2 + 1 - (Decimal.dropZeros f.shortest.scientific.1).length)
      = f.shortest.digits * 10 ^ f.shortest.exponent := by
  have hdigits : f.shortest.digits ≠ 0 := (covers_shortest hm).digits_ne_zero hm
  have hvalue := Text.ofDigitChars_ofNat f.shortest.digits
  obtain ⟨hne, k, hk⟩ := Decimal.exists_zeros (hvalue.trans_ne hdigits)
  unfold Decimal.scientific
  dsimp only
  generalize Decimal.dropZeros (Text.ofNat f.shortest.digits) = ds at hne hk ⊢
  have hmem : ∀ c ∈ ds, c.isDigit = true := by
    intro c hc
    exact Text.isDigit_of_mem_ofNat (n := f.shortest.digits) (hk ▸ List.mem_append_left _ hc)
  refine ⟨hne, hmem, ?_⟩
  have hlen : (Text.ofNat f.shortest.digits).length = ds.length + k := by
    rw [hk, List.length_append, List.length_replicate]
  rw [hk, Text.ofDigitChars_append_zeros] at hvalue
  rw [hlen, ← hvalue, Nat.cast_mul, Nat.cast_pow, mul_assoc, Nat.cast_ofNat, ← zpow_natCast,
    ← zpow_add₀ (by norm_num)]
  congr 2
  push_cast
  omega

/-- the digits of a number are read as a decimal that it covers -/
theorem exists_reads : ∃ (d : ℕ) (e : ℤ), f.Covers (d * 10 ^ e) ∧ ∀ negative,
    Float64.parseMagnitude? negative (Decimal.layout (Decimal.dropZeros f.shortest.scientific.1) f.shortest.scientific.2)
      = some (Float64.ofDecimal negative d e) := by
  obtain ⟨hne, hmem, hvalue⟩ := digits_shortest hm
  obtain ⟨d, e, hde, hparse⟩ := Decimal.reads_layout hne hmem f.shortest.scientific.2
  exact ⟨d, e, hde.trans hvalue ▸ covers_shortest hm, hparse⟩

end

theorem parse?_withSign (f : Finite64) {cs : List Char} (h : ∀ c, cs.head? = some c → c.isDigit = true) :
    Float64.parse? (f.withSign cs) = Float64.parseMagnitude? f.negative cs := by
  unfold withSign
  cases f.negative with
  | true => rfl
  | false => exact Float64.parse?_of_head h

theorem eq_zero_of_mantissa {f : Finite64} (h : f.mantissa = 0) : f = zero f.negative := by
  obtain ⟨s, m, e, hc⟩ := f
  obtain rfl : m = 0 := h
  obtain rfl : e = -1074 := hc.2.2.2.resolve_left (by decide)
  rfl

/-- **The text of a number is read as that number.** -/
theorem parse?_text (f : Finite64) : Float64.parse? f.text = some (.finite f) := by
  rw [text_eq]
  split
  · rename_i hm
    have hhead : ∀ c, "0.0".toList.head? = some c → c.isDigit = true := by
      rintro c hc
      obtain rfl := Option.some.inj hc
      rfl
    rw [parse?_withSign f hhead, eq_zero_of_mantissa hm]
    cases f.negative <;> rfl
  · rename_i hm
    obtain ⟨hne, hmem, -⟩ := digits_shortest hm
    obtain ⟨d, e, hcovers, hparse⟩ := exists_reads hm
    rw [parse?_withSign f (Decimal.head_layout hne hmem _), hparse]
    unfold Float64.ofDecimal
    rw [ofDecimal_of_covers hm hcovers]
    rfl

/-! ## the characters of a text -/

theorem mem_withSign {f : Finite64} {cs : List Char} {c : Char} (h : c ∈ f.withSign cs) : c = '-' ∨ c ∈ cs := by
  unfold withSign at h
  split at h
  · exact List.mem_cons.mp h
  · exact .inr h

theorem mem_withSign_of_mem (f : Finite64) {cs : List Char} {c : Char} (h : c ∈ cs) : c ∈ f.withSign cs := by
  unfold withSign
  split
  · exact List.mem_cons_of_mem _ h
  · exact h

theorem mem_text {f : Finite64} {c : Char} (h : c ∈ f.text) : c.isDigit = true ∨ c ∈ ['.', 'e', '+', '-'] := by
  rw [text_eq] at h
  split at h
  · rcases mem_withSign h with rfl | h
    · exact .inr (by decide)
    · have hzero : ∀ c ∈ "0.0".toList, c.isDigit = true ∨ c ∈ ['.', 'e', '+', '-'] := by simp
      exact hzero c h
  · rename_i hm
    obtain ⟨hne, hmem, -⟩ := digits_shortest hm
    rcases mem_withSign h with rfl | h
    · exact .inr (by decide)
    · exact Decimal.mem_layout hne hmem h

theorem mark_mem_text (f : Finite64) : '.' ∈ f.text ∨ 'e' ∈ f.text := by
  rw [text_eq]
  split
  · exact .inl (mem_withSign_of_mem f (by decide))
  · exact (Decimal.mark_mem_layout _ _).imp (mem_withSign_of_mem f) (mem_withSign_of_mem f)

/-- the text of a number denotes no integer -/
theorem not_denotes_text (f : Finite64) (i : ℤ) : ¬ Denotes f.text i := by
  intro h
  rcases f.mark_mem_text with hm | hm
  · exact absurd (h.char _ hm) (by decide)
  · exact absurd (h.char _ hm) (by decide)

end Finite64

end RequestPipeline
