import Mathlib.Data.List.Forall2
import RequestPipeline.Proofs.Text.Parts
import RequestPipeline.Validation.Coercion

/-!
# Coerced values

A coerced value stands for itself: **coercing it again gives it back** (`coerce_idem`), and it is null only if
what was coerced is (`coerce_ne_null`).  For integers this is because they are signed whole numbers of 64 bits
(`isInt64_of_integer?`), which are taken as they are; for lists because an item is the one item of itself
(`expandItem_of_mem`), and because a list is coerced item by item (`allItems?_eq_some_iff`).
-/

namespace RequestPipeline.Validation

open Json (Value Members Number)

/-! ## integers -/

/-- whether an integer is a signed whole number of 64 bits -/
def IsInt64 (i : Int) : Prop := -9223372036854775808 ≤ i ∧ i ≤ 9223372036854775807

theorem int64?_int {i : Int} (h : IsInt64 i) : (Number.int i).int64? = some i := if_pos h

theorem isInt64_of_int64? {n : Number} {i : Int} (h : n.int64? = some i) : IsInt64 i := by
  cases n with
  | int j =>
    obtain ⟨hj, he⟩ := Option.ite_none_right_eq_some.mp h
    exact Option.some.inj he ▸ hj
  | float f => cases h

theorem isInt64_of_wholeFloat? {f : Finite64} {i : Int} (h : wholeFloat? f = some i) : IsInt64 i := by
  obtain ⟨j, -, hj⟩ := Option.bind_eq_some_iff.mp h
  split at hj
  · cases hj
    unfold IsInt64
    omega
  · cases hj

theorem isInt64_of_text {cs : List Char} {i : Int} (h : Text.int64? cs = some i) : IsInt64 i := by
  obtain ⟨j, -, hj⟩ := Option.bind_eq_some_iff.mp h
  unfold Text.bounded? at hj
  split at hj
  · rename_i hr
    cases hj
    exact hr
  · cases hj

theorem integer?_number (n : Number) :
    integer? (.number n) = n.int64?.or (n.toFloat?.bind wholeFloat?) := by
  unfold integer?
  dsimp only
  cases n.int64? <;> rfl

theorem isInt64_of_integer? {v : Value} {i : Int} (h : integer? v = some i) : IsInt64 i := by
  cases v with
  | number n =>
    rw [integer?_number] at h
    rcases Option.or_eq_some_iff.mp h with hn | ⟨-, hf⟩
    · exact isInt64_of_int64? hn
    · obtain ⟨f, -, hf⟩ := Option.bind_eq_some_iff.mp hf
      exact isInt64_of_wholeFloat? hf
  | string s => exact isInt64_of_text h
  | _ => cases h

theorem integer?_ofInt {i : Int} (h : IsInt64 i) : integer? (.ofInt i) = some i := by
  show integer? (.number (.int i)) = some i
  rw [integer?_number, int64?_int h]
  rfl

/-! ## lists -/

section
variable {α β : Type} {f : α → Option β}

theorem allItems?_eq_some_iff {as : List α} {bs : List β} :
    allItems? f as = some bs ↔ List.Forall₂ (fun a b => f a = some b) as bs := by
  induction as generalizing bs with
  | nil =>
    rw [List.forall₂_nil_left_iff]
    exact ⟨fun h => (Option.some.inj h).symm, fun h => congrArg some h.symm⟩
  | cons a as ih =>
    rw [List.forall₂_cons_left_iff, allItems?, Option.bind_eq_some_iff]
    constructor
    · rintro ⟨b, hb, h⟩
      obtain ⟨rest, hrest, rfl⟩ := Option.map_eq_some_iff.mp h
      exact ⟨b, rest, hb, ih.mp hrest, rfl⟩
    · rintro ⟨b, rest, hb, hrest, rfl⟩
      exact ⟨b, hb, Option.map_eq_some_iff.mpr ⟨rest, ih.mpr hrest, rfl⟩⟩

theorem allItems?_eq_none_iff {as : List α} : allItems? f as = none ↔ ∃ a ∈ as, f a = none := by
  induction as with
  | nil => exact ⟨nofun, fun ⟨a, ha, _⟩ => absurd ha List.not_mem_nil⟩
  | cons a as ih =>
    rw [List.exists_mem_cons_iff, allItems?, ← ih]
    cases f a with
    | none => exact ⟨fun _ => .inl rfl, fun _ => rfl⟩
    | some b =>
      rw [Option.bind_some, Option.map_eq_none_iff]
      exact (or_iff_right nofun).symm

theorem exists_of_mem_allItems? {as : List α} {bs : List β} (h : allItems? f as = some bs) :
    ∀ b ∈ bs, ∃ a ∈ as, f a = some b := by
  have hall := allItems?_eq_some_iff.mp h
  clear h
  induction hall with
  | nil => exact nofun
  | cons hab _ ih =>
    intro b hb
    rcases List.mem_cons.mp hb with rfl | hb
    · exact ⟨_, List.mem_cons_self, hab⟩
    · obtain ⟨a, ha, he⟩ := ih b hb
      exact ⟨a, List.mem_cons_of_mem _ ha, he⟩

theorem allItems?_map {g : β → α} {bs : List β} (h : ∀ b ∈ bs, f (g b) = some b) :
    allItems? f (bs.map g) = some bs := by
  rw [allItems?_eq_some_iff, List.forall₂_map_left_iff, List.forall₂_same]
  exact h

end

/-- an item is the one item of itself -/
theorem expandItem_of_mem {v : Value} {vs : List Value} (h : listItems? v = some vs) {w : Value}
    (hw : w ∈ vs) : expandItem w = [w] := by
  have hparts : ∀ (s : String) (w : Value), w ∈ (Text.commaParts s).map Value.string → expandItem w = [w] := by
    intro s w hw
    obtain ⟨part, hp, rfl⟩ := List.mem_map.mp hw
    show (Text.commaParts part).map Value.string = _
    rw [Text.commaParts_of_mem hp]
    rfl
  cases v with
  | array items =>
    cases h
    obtain ⟨item, -, hi⟩ := List.mem_flatMap.mp hw
    cases item with
    | string s => exact hparts s w hi
    | _ =>
      obtain rfl := List.mem_singleton.mp hi
      rfl
  | string s =>
    cases h
    exact hparts s w hw
  | number n =>
    cases h
    obtain rfl := List.mem_singleton.mp hw
    rfl
  | _ => cases h

theorem listItems?_array {vs : List Value} (h : ∀ v ∈ vs, expandItem v = [v]) :
    listItems? (.array vs) = some vs := by
  have hf : vs.flatMap expandItem = vs.flatMap fun v => [v] := List.flatMap_congr h
  show some (vs.flatMap expandItem) = some vs
  rw [hf, List.flatMap_singleton']

/-- a list of coerced items is its own coercion -/
theorem coerce_items {α : Type} {f : Value → Option α} {g : α → Value} {as : List α}
    (hitem : ∀ a ∈ as, expandItem (g a) = [g a]) (hf : ∀ a ∈ as, f (g a) = some a) :
    ((listItems? (.array (as.map g))).bind fun vs => (allItems? f vs).map fun as => Value.array (as.map g))
      = some (.array (as.map g)) := by
  have hi : listItems? (.array (as.map g)) = some (as.map g) := by
    refine listItems?_array fun v hv => ?_
    obtain ⟨a, ha, rfl⟩ := List.mem_map.mp hv
    exact hitem a ha
  rw [hi, Option.bind_some, allItems?_map hf]
  rfl

/-! ## every kind -/

theorem text?_eq_some_iff {v : Value} {s : String} : text? v = some s ↔ v = .string s := by
  cases v <;> simp [text?]

/-- **A coerced value is its own coercion.** -/
theorem coerce_idem {v w : Value} {k : Kind} (h : coerce v k = some w) : coerce w k = some w := by
  cases k with
  | integer =>
    obtain ⟨i, hi, rfl⟩ := Option.map_eq_some_iff.mp h
    show (integer? (.ofInt i)).map Value.ofInt = _
    rw [integer?_ofInt (isInt64_of_integer? hi)]
    rfl
  | number =>
    obtain ⟨n, -, rfl⟩ := Option.map_eq_some_iff.mp h
    rfl
  | boolean =>
    obtain ⟨b, -, rfl⟩ := Option.map_eq_some_iff.mp h
    rfl
  | string =>
    obtain ⟨s, -, rfl⟩ := Option.map_eq_some_iff.mp h
    rfl
  | integerList =>
    obtain ⟨vs, -, hvs⟩ := Option.bind_eq_some_iff.mp h
    obtain ⟨is, his, rfl⟩ := Option.map_eq_some_iff.mp hvs
    refine coerce_items (fun i _ => rfl) fun i hi => ?_
    obtain ⟨v, -, hv⟩ := exists_of_mem_allItems? his i hi
    exact integer?_ofInt (isInt64_of_integer? hv)
  | stringList =>
    obtain ⟨vs, hvs, hm⟩ := Option.bind_eq_some_iff.mp h
    obtain ⟨ss, hss, rfl⟩ := Option.map_eq_some_iff.mp hm
    refine coerce_items (fun s hs => ?_) fun s _ => rfl
    -- the text is one of the items, and so the one part of itself
    obtain ⟨v, hv, he⟩ := exists_of_mem_allItems? hss s hs
    obtain rfl := text?_eq_some_iff.mp he
    exact expandItem_of_mem hvs hv
  | object =>
    cases v with
    | object ms =>
      cases h
      rfl
    | _ => cases h
  | any => rfl

theorem coerce_ne_null {v w : Value} {k : Kind} (hv : v ≠ .null) (h : coerce v k = some w) : w ≠ .null := by
  cases k with
  | any =>
    cases h
    exact hv
  | object =>
    cases v with
    | object ms =>
      cases h
      exact Value.noConfusion
    | _ => cases h
  | integerList =>
    obtain ⟨vs, -, hvs⟩ := Option.bind_eq_some_iff.mp h
    obtain ⟨is, -, rfl⟩ := Option.map_eq_some_iff.mp hvs
    exact Value.noConfusion
  | stringList =>
    obtain ⟨vs, -, hvs⟩ := Option.bind_eq_some_iff.mp h
    obtain ⟨ss, -, rfl⟩ := Option.map_eq_some_iff.mp hvs
    exact Value.noConfusion
  | _ =>
    obtain ⟨x, -, rfl⟩ := Option.map_eq_some_iff.mp h
    exact Value.noConfusion

end RequestPipeline.Validation
