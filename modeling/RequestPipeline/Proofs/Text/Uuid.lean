import Mathlib.Algebra.Group.Nat.Defs
import RequestPipeline.Json.Print
import RequestPipeline.Proofs.Text.Utf8
import RequestPipeline.Serving.Correlation

/-!
# Identifiers as texts

An identifier is written with lower-case digits in the groups 8-4-4-4-12 (`Uuid.Hyphenated`), and that text is
read back:

* `hyphenated_chars`      the text of an identifier has this form;
* `parse?_hyphenated`     **every text of this form is read as its identifier**;
* `headerText?_hyphenated`, `ofHeaderText?_hyphenated`   also from a header;
* `chars_injective`       so no two identifiers have one text;
* `quote_render`          in a JSON text it stands as it is.
-/

namespace RequestPipeline

/-! ## plain texts -/

theorem isVisible_of_printable {n : Nat} (h : 32 ≤ n) (h' : n < 127) : isVisible n.toUInt8 = true := by
  have h₁ : (32 : UInt8) ≤ n.toUInt8 := (Utf8.le_toUInt8_iff (by omega) _).mpr h
  have h₂ : n.toUInt8 < 127 := (Utf8.toUInt8_lt_iff (by omega) _).mpr h'
  unfold isVisible
  rw [decide_eq_true h₁, decide_eq_true h₂]
  rfl

/-- printable ASCII is read back from a header -/
theorem headerText?_encode {cs : List Char} (h : ∀ c ∈ cs, 32 ≤ c.toNat ∧ c.toNat < 127) :
    headerText? (Utf8.encode cs) = some (String.ofList cs) := by
  have ha : ∀ c ∈ cs, c.toNat < 0x80 := fun c hc => Nat.lt_succ_of_lt (h c hc).2
  have hv : (cs.map fun c => c.toNat.toUInt8).all isVisible = true := by
    rw [List.all_map, List.all_eq_true]
    exact fun c hc => isVisible_of_printable (h c hc).1 (h c hc).2
  have hr : (cs.map fun c => c.toNat.toUInt8).map (fun b => Char.ofNat b.toNat) = cs := by
    rw [List.map_map]
    refine (List.map_congr_left fun c hc => ?_).trans (List.map_id cs)
    show Char.ofNat c.toNat.toUInt8.toNat = c
    rw [Utf8.toNat_toUInt8 (Nat.lt_trans (ha c hc) (by decide)), Char.ofNat_toNat]
  unfold headerText?
  rw [Utf8.encode_of_ascii ha, if_pos hv, hr]

theorem Json.escape_of_plain {cs : List Char} (h : ∀ c ∈ cs, Json.escapeChar c = [c]) :
    cs.flatMap Json.escapeChar = cs := by
  induction cs with
  | nil => rfl
  | cons c cs ih =>
    rw [List.flatMap_cons, h c List.mem_cons_self, ih fun d hd => h d (List.mem_cons_of_mem _ hd)]
    rfl

namespace Uuid

/-! ## digits -/

/-- the lower-case hexadecimal digits -/
def lowerHex : List Char := "0123456789abcdef".toList

/-- a test of the hyphen and the digits, one by one -/
theorem forall_mem_hyphenated {p : Char → Prop} [DecidablePred p]
    (h : ('-' :: lowerHex).all (fun c => decide (p c)) = true) : ∀ c ∈ '-' :: lowerHex, p c :=
  fun c hc => of_decide_eq_true (List.all_eq_true.mp h c hc)

theorem hexChar_mem : ∀ d < 16, Text.hexChar d ∈ lowerHex := by decide

theorem hexDigit?_hexChar : ∀ d < 16, Text.hexDigit? (Text.hexChar d) = some d := by decide

theorem length_hexDigits (n v : Nat) : (hexDigits n v).length = n := by
  induction n generalizing v with
  | zero => rfl
  | succ n ih => rw [hexDigits, List.length_append, ih, List.length_singleton]

theorem mem_lowerHex_of_mem_hexDigits {n v : Nat} {c : Char} (h : c ∈ hexDigits n v) : c ∈ lowerHex := by
  induction n generalizing v with
  | zero => cases h
  | succ n ih =>
    rcases List.mem_append.mp h with h | h
    · exact ih h
    · rw [List.mem_singleton.mp h]
      exact hexChar_mem _ (Nat.mod_lt _ (by decide))

theorem hexValue_append (acc : Nat) (cs ds : List Char) :
    hexValue acc (cs ++ ds) = (hexValue acc cs).bind fun n => hexValue n ds := by
  induction cs generalizing acc with
  | nil => rfl
  | cons c cs ih =>
    rw [List.cons_append, hexValue, hexValue]
    cases Text.hexDigit? c with
    | none => rfl
    | some d => exact ih _

/-- the lowest digits of a number denote it, if it has no more -/
theorem hexValue_hexDigits {n v : Nat} (h : v < 16 ^ n) : hexValue 0 (hexDigits n v) = some v := by
  induction n generalizing v with
  | zero =>
    have hv : v = 0 := Nat.lt_one_iff.mp h
    rw [hv]
    rfl
  | succ n ih =>
    have hq : v / 16 < 16 ^ n := by
      rw [Nat.pow_succ] at h
      omega
    have hd : v % 16 < 16 := Nat.mod_lt _ (by decide)
    rw [hexDigits, hexValue_append, ih hq]
    show hexValue (v / 16) [Text.hexChar (v % 16)] = some v
    rw [hexValue, hexDigit?_hexChar _ hd]
    show some (v / 16 * 16 + v % 16) = some v
    rw [Nat.div_add_mod']

/-! ## groups -/

/-- the text that writes an identifier with lower-case digits in the groups 8-4-4-4-12 -/
def Hyphenated (u : Uuid) (cs : List Char) : Prop :=
  ∃ a b c d e : List Char, cs = a ++ '-' :: (b ++ '-' :: (c ++ '-' :: (d ++ '-' :: e))) ∧
    a.length = 8 ∧ b.length = 4 ∧ c.length = 4 ∧ d.length = 4 ∧ e.length = 12 ∧
    (∀ x ∈ a ++ b ++ c ++ d ++ e, x ∈ lowerHex) ∧
    hexValue 0 (a ++ b ++ c ++ d ++ e) = some u.value.toNat

theorem append_groups (ds : List Char) : ds.take 8 ++ (ds.drop 8).take 4 ++ (ds.drop 12).take 4 ++
    (ds.drop 16).take 4 ++ ds.drop 20 = ds := by
  have e₁ : ds.drop 12 = (ds.drop 8).drop 4 := by rw [List.drop_drop]
  have e₂ : ds.drop 16 = (ds.drop 12).drop 4 := by rw [List.drop_drop]
  have e₃ : ds.drop 20 = (ds.drop 16).drop 4 := by rw [List.drop_drop]
  rw [List.append_assoc, List.append_assoc, List.append_assoc, e₃, List.take_append_drop, e₂,
    List.take_append_drop, e₁, List.take_append_drop, List.take_append_drop]

theorem length_digits (u : Uuid) : u.digits.length = 32 := length_hexDigits 32 _

theorem hexValue_digits (u : Uuid) : hexValue 0 u.digits = some u.value.toNat :=
  hexValue_hexDigits (n := 32) u.value.isLt

theorem hyphenated_chars (u : Uuid) : u.Hyphenated u.chars := by
  have hl : ∀ k n, k + n ≤ 32 → ((u.digits.drop k).take n).length = n := by
    intro k n h
    rw [List.length_take, List.length_drop, length_digits]
    omega
  have he : (u.digits.drop 20).length = 12 := by rw [List.length_drop, length_digits]
  refine ⟨u.digits.take 8, (u.digits.drop 8).take 4, (u.digits.drop 12).take 4,
    (u.digits.drop 16).take 4, u.digits.drop 20, rfl, hl 0 8 (by decide), hl 8 4 (by decide),
    hl 12 4 (by decide), hl 16 4 (by decide), he, ?_⟩
  rw [append_groups]
  exact ⟨fun c hc => mem_lowerHex_of_mem_hexDigits hc, u.hexValue_digits⟩

section
variable {u : Uuid} {cs : List Char} (h : u.Hyphenated cs)
include h

theorem Hyphenated.length : cs.length = 36 := by
  obtain ⟨a, b, c, d, e, rfl, ha, hb, hc, hd, he, -, -⟩ := h
  simp only [List.length_append, List.length_cons, ha, hb, hc, hd, he]

theorem Hyphenated.mem {x : Char} (hx : x ∈ cs) : x ∈ '-' :: lowerHex := by
  obtain ⟨a, b, c, d, e, rfl, -, -, -, -, -, hm, -⟩ := h
  simp only [List.mem_append, List.mem_cons, or_assoc] at hx hm ⊢
  by_cases hx' : x = '-'
  · exact .inl hx'
  · simp only [hx', false_or] at hx
    exact .inr (hm x hx)

/-- **Every text of this form is read as its identifier.** -/
theorem parse?_hyphenated : parse? cs = some u := by
  have hl := h.length
  obtain ⟨a, b, c, d, e, rfl, ha, hb, hc, hd, he, hm, hv⟩ := h
  have hn : ∀ {p : List Char}, (∀ x ∈ p, x ∈ a ++ b ++ c ++ d ++ e) → '-' ∉ p := fun hp hx =>
    absurd (hm '-' (hp '-' hx)) (by decide)
  have hs : Text.split '-' (a ++ '-' :: (b ++ '-' :: (c ++ '-' :: (d ++ '-' :: e)))) = [a, b, c, d, e] := by
    rw [Text.split_append_cons (hn fun x hx => by simp [hx]),
      Text.split_append_cons (hn fun x hx => by simp [hx]),
      Text.split_append_cons (hn fun x hx => by simp [hx]),
      Text.split_append_cons (hn fun x hx => by simp [hx]),
      Text.split_of_not_mem (hn fun x hx => by simp [hx])]
  have ht : (a ++ b ++ c ++ d ++ e).length = 32 := by
    simp only [List.length_append, ha, hb, hc, hd, he]
  have hp : parseDigits? (a ++ b ++ c ++ d ++ e) = some u := by
    unfold parseDigits?
    rw [if_pos ht, hv, Option.map_some, BitVec.ofNat_toNat, BitVec.setWidth_eq]
  unfold parse?
  rw [if_neg (by omega), if_pos hl]
  unfold parseGroups?
  rw [hs]
  exact (if_pos ⟨ha, hb, hc, hd, he⟩).trans hp

/-- it is read from a header, too -/
theorem ofHeaderText?_hyphenated : ofHeaderText? (String.ofList cs) = some u := by
  have hb : ∀ c ∈ '-' :: lowerHex, Text.isBlank c = false := forall_mem_hyphenated (by decide)
  unfold ofHeaderText?
  rw [String.toList_ofList, Text.trimChars_of_not_blank fun c hc => hb c (h.mem hc)]
  exact parse?_hyphenated h

theorem headerText?_hyphenated : headerText? (Utf8.encode cs) = some (String.ofList cs) := by
  have hp : ∀ c ∈ '-' :: lowerHex, 32 ≤ c.toNat ∧ c.toNat < 127 := forall_mem_hyphenated (by decide)
  exact headerText?_encode fun c hc => hp c (h.mem hc)

end

theorem chars_injective {u v : Uuid} (h : u.chars = v.chars) : u = v := by
  have hp : some u = some v := by
    rw [← parse?_hyphenated u.hyphenated_chars, ← parse?_hyphenated v.hyphenated_chars, h]
  exact Option.some.inj hp

theorem ofText_render (u : Uuid) : Utf8.ofText u.render = Utf8.encode u.chars :=
  congrArg Utf8.encode String.toList_ofList

theorem quote_render (u : Uuid) : Json.quote u.render = '"' :: u.chars ++ ['"'] := by
  have he : ∀ c ∈ '-' :: lowerHex, Json.escapeChar c = [c] := forall_mem_hyphenated (by decide)
  unfold Json.quote render
  rw [String.toList_ofList, Json.escape_of_plain fun c hc => he c (u.hyphenated_chars.mem hc)]

end Uuid

end RequestPipeline
