import RequestPipeline.Proofs.Json.Documents
import RequestPipeline.Proofs.Keyed

/-!
# Records within records

What a reader of texts, truth values, numbers or lists takes from bytes, it takes of the value that they hold
(`faithful_flag`, `faithful_number`, `faithful_list`).  A record is stricter with bytes, where a key may come twice, and
so of a record within another only one direction holds: `Takes` says that bytes from which a reader takes something
hold a value, and how the two are related.

* `Value.stated`      the members of a record, in an object or in an array in the order of its fields;
* `Passed`            what becomes of one member.

`takes_record`: **if a record is read, then the bytes hold a value that states the same members, each read by its
field.**
-/

namespace RequestPipeline.Json

/-! ## plain values -/

section
variable {size depth : Nat} {input tail : Bytes} {b : UInt8}

theorem readValue_number (hb : skipBlank input = b :: tail) (hn : b = 45 ∨ isDigit b = true) :
    readValue size depth input =
      (if b = 45 then readNumber true tail else readNumber false (b :: tail)).map
        fun (n, rest) => (.number n, rest) := by
  unfold readValue readNode
  rw [hb]
  dsimp only
  by_cases h45 : b = 45
  · subst h45
    rfl
  · have hd : isDigit b = true := hn.resolve_left h45
    have other : ∀ c : UInt8, isDigit c = false → b ≠ c := fun c hc h => by
      rw [h, hc] at hd
      cases hd
    rw [if_neg (other 110 rfl), if_neg (other 116 rfl), if_neg (other 102 rfl), if_neg h45, if_pos hd, if_neg h45]

end

/-- the members that a record is stated with: those of an object, or the items of an array in the order of its fields -/
def Value.stated (names : List String) : Value → Members
  | .object ms => ms
  | .array vs => names.zip vs
  | _ => []

namespace Reader

theorem fromValue_flag_iff {w v : Value} : flag.fromValue w = .ok v ↔ ∃ b, w = .bool b ∧ v = w := by
  cases w with
  | bool b => exact ⟨fun h => ⟨b, rfl, (Except.ok.inj h).symm⟩, fun ⟨_, _, h⟩ => congrArg Except.ok h.symm⟩
  | _ => exact ⟨nofun, nofun⟩

theorem faithful_flag : flag.Faithful := by
  refine faithful_of_kind (fun b => b = 116 ∨ b = 102) ?_ ?_ ?_ ?_
  · intro size depth input b tail hb ho
    show atValue input _ = _
    unfold atValue
    rw [hb, ← readValue_skipBlank size depth input, hb]
    exact if_pos ho
  · intro size depth input a h
    obtain ⟨b, tail, hb, hk⟩ := atValue_eq_ok_iff.mp h
    refine ⟨b, tail, hb, Decidable.byContradiction fun hn => ?_⟩
    exact wrongKind_ne_ok (if_neg hn ▸ hk)
  · intro w b hw ho
    cases w with
    | bool b => rfl
    | _ => rcases ho with rfl | rfl <;> (revert hw; simp [Opens, isDigit])
  · intro w v b hw h
    obtain ⟨s, rfl, hv⟩ := fromValue_flag_iff.mp h
    exact ⟨hw, hv⟩

theorem faithful_number (expected : String) (accept : Number → Except Fault Value) :
    (number expected accept).Faithful := by
  intro size depth input v rest
  constructor
  · intro h
    obtain ⟨b, tail, hb, hk⟩ := atValue_eq_ok_iff.mp h
    by_cases hn : b = 45 ∨ isDigit b = true
    · rw [if_pos hn] at hk
      obtain ⟨⟨n, after⟩, hr, hk⟩ := bind_eq_ok_iff.mp hk
      obtain ⟨x, hx, e⟩ := map_eq_ok_iff.mp hk
      cases e
      refine ⟨.number n, ?_, place_eq_ok_iff.mp hx⟩
      rw [readValue_number hb hn, hr]
      rfl
    · rw [if_neg hn] at hk
      exact absurd hk wrongKind_ne_ok
  · rintro ⟨w, hw, h⟩
    obtain ⟨b, tail, hb, ho⟩ := opens_of_readValue hw
    cases w with
    | number n =>
      rw [readValue_number hb ho] at hw
      obtain ⟨⟨m, after⟩, hr, e⟩ := map_eq_ok_iff.mp hw
      cases e
      refine atValue_eq_ok_iff.mpr ⟨b, tail, hb, ?_⟩
      rw [if_pos (show b = 45 ∨ isDigit b = true from ho)]
      exact bind_eq_ok_iff.mpr ⟨_, hr, map_eq_ok_iff.mpr ⟨v, place_eq_ok_iff.mpr h, rfl⟩⟩
    | _ => cases h

theorem faithful_integer (expected : String) (lo hi : Int) : (integer expected lo hi).Faithful := faithful_number _ _

/-! ## lists -/

section
variable {r : Reader} (faithful : r.Faithful) {size depth fuel : Nat} {first : Bool} {input rest : Bytes}
include faithful

/-- items are read as the values that they are -/
theorem readItems_fromBytes_iff {vs : List Value} :
    readItems (r.fromBytes size depth) fuel first [] input = .ok (vs, rest) ↔
      ∃ ws, readItems (readValue size depth) fuel first [] input = .ok (ws, rest) ∧ itemsOfValues r ws = .ok vs := by
  induction fuel generalizing first input vs with
  | zero =>
    constructor
    · intro h
      cases h
    · rintro ⟨ws, h, -⟩
      cases h
  | succ fuel ih =>
    rw [readItems_succ]
    constructor
    · rintro (⟨hk, rfl⟩ | ⟨head, v, after, others, hk, hv, ho, rfl⟩)
      · exact ⟨[], readItems_succ.mpr (.inl ⟨hk, rfl⟩), rfl⟩
      · obtain ⟨w, hw, hwv⟩ := (faithful _ _ _ _ _).mp hv
        obtain ⟨ws, hws, hread⟩ := ih.mp ho
        refine ⟨w :: ws, readItems_succ.mpr (.inr ⟨head, w, after, ws, hk, hw, hws, rfl⟩), ?_⟩
        exact bind_eq_ok_iff.mpr ⟨v, hwv, map_eq_ok_iff.mpr ⟨others, hread, rfl⟩⟩
    · rintro ⟨ws, h, hread⟩
      rcases readItems_succ.mp h with ⟨hk, rfl⟩ | ⟨head, w, after, others, hk, hw, ho, rfl⟩
      · cases hread
        exact .inl ⟨hk, rfl⟩
      · obtain ⟨v, hwv, hread⟩ := bind_eq_ok_iff.mp hread
        obtain ⟨vs', hvs, rfl⟩ := map_eq_ok_iff.mp hread
        exact .inr ⟨head, v, after, vs', hk, (faithful _ _ _ _ _).mpr ⟨w, hw, hwv⟩, ih.mpr ⟨others, ho, hvs⟩, rfl⟩

theorem faithful_list : (list r).Faithful := by
  intro size depth input v rest
  constructor
  · intro h
    obtain ⟨b, tail, hb, hk⟩ := atValue_eq_ok_iff.mp h
    split at hk
    · rename_i h91
      cases depth with
      | zero => cases hk
      | succ depth =>
        obtain ⟨⟨vs, after⟩, hvs, e⟩ := map_eq_ok_iff.mp hk
        cases e
        obtain ⟨ws, hws, hread⟩ := (readItems_fromBytes_iff faithful).mp hvs
        refine ⟨.array ws, ?_, map_eq_ok_iff.mpr ⟨vs, hread, rfl⟩⟩
        rw [readValue_array (h91 ▸ hb), hws]
        rfl
    · exact absurd hk wrongKind_ne_ok
  · rintro ⟨w, hw, h⟩
    obtain ⟨b, tail, hb, ho⟩ := opens_of_readValue hw
    cases w with
    | array ws =>
      obtain ⟨vs, hread, rfl⟩ := map_eq_ok_iff.mp h
      cases ho
      cases depth with
      | zero =>
        unfold readValue readNode at hw
        rw [hb] at hw
        cases hw
      | succ depth =>
        rw [readValue_array hb] at hw
        obtain ⟨⟨items, after⟩, hi, e⟩ := map_eq_ok_iff.mp hw
        cases e
        refine atValue_eq_ok_iff.mpr ⟨91, tail, hb, ?_⟩
        exact map_eq_ok_iff.mpr ⟨_, (readItems_fromBytes_iff faithful).mpr ⟨ws, hi, hread⟩, rfl⟩
    | _ => cases h

end

/-! ## records -/

/-- bytes that a reader takes something from hold a value, and `R` relates the two -/
def Takes (r : Reader) (R : Value → Value → Prop) : Prop :=
  ∀ ⦃size depth : Nat⦄ ⦃input rest : Bytes⦄ ⦃v : Value⦄, input.length < size →
    r.fromBytes size depth input = .ok (v, rest) → ∃ w, readValue size depth input = .ok (w, rest) ∧ R w v

theorem Faithful.takes {r : Reader} (faithful : r.Faithful) : r.Takes fun w v => r.fromValue w = .ok v :=
  fun _ _ _ _ _ _ h => (faithful _ _ _ _ _).mp h

theorem Takes.mono {r : Reader} {R S : Value → Value → Prop} (takes : r.Takes R) (h : ∀ {w v}, R w v → S w v) :
    r.Takes S := by
  intro size depth input rest v hl hr
  obtain ⟨w, hw, hR⟩ := takes hl hr
  exact ⟨w, hw, h hR⟩

/-- what a member becomes: what it is read as, or what stood under its key before if it is not stated -/
inductive Passed (R : Value → Value → Prop) (before : Option Value) : Option Value → Option Value → Prop
  | read {w v : Value} : R w v → Passed R before (some w) (some v)
  | left : Passed R before none before

section
variable {R : String → Value → Value → Prop} {acc stated ms : Members} {key : String} {w v : Value}

/-- one more member in front, whose key is not among the others -/
theorem passed_cons (hR : R key w v) (free : stated.get? key = none)
    (others : ∀ k, Passed (R k) ((acc.insert key v).get? k) (stated.get? k) (ms.get? k)) (k : String) :
    Passed (R k) (acc.get? k) (Members.get? k ((key, w) :: stated)) (ms.get? k) := by
  have h := others k
  rw [Members.get?_insert] at h
  by_cases hk : k = key
  · subst hk
    rw [if_pos rfl, free] at h
    rw [Members.get?_cons_self]
    cases hm : ms.get? k with
    | none => rw [hm] at h; cases h
    | some x =>
      rw [hm] at h
      cases h
      exact .read hR
  · rw [if_neg hk] at h
    rwa [Members.get?_cons_of_ne (Ne.symm hk)]

end

section
variable {fields left : List Field} {R : String → Value → Value → Prop} {size depth fuel : Nat} {first : Bool}
  {acc : Members} {input rest : Bytes} {v : Value}

/-- the members of a record are read from entries that come once each -/
theorem entries_of_membersOfBytes (takes : ∀ f ∈ fields, f.reader.Takes (R f.name)) (hl : input.length < size)
    (h : membersOfBytes fields size depth fuel first acc input = .ok (v, rest)) :
    ∃ (entries ms : Members), readEntries size (readValue size depth) fuel first input = .ok (entries, rest) ∧
      entries.keys.Nodup ∧ (∀ e ∈ entries, acc.contains e.1 = false) ∧ v = .object ms ∧
      ∀ key, Passed (R key) (acc.get? key) (entries.get? key) (ms.get? key) := by
  induction fuel generalizing first acc input with
  | zero => cases h
  | succ fuel ih =>
    rcases membersOfBytes_succ.mp h with ⟨hk, hv⟩ | ⟨opened, key, valued, f, x, after, hk, ht, hf, hc, hx, h⟩
    · obtain ⟨-, rfl⟩ := complete_eq_ok_iff.mp hv
      exact ⟨[], acc, readEntries_succ.mpr (.inl ⟨hk, rfl⟩), List.nodup_nil, nofun, rfl, fun _ => .left⟩
    · obtain ⟨value, hv, hx⟩ := bind_eq_ok_iff.mp hx
      have h1 := length_nextKey hk
      have h2 := length_readText ht
      have h3 := length_colon hv
      obtain ⟨w, hw, hR⟩ := takes f (List.mem_of_find?_eq_some hf) (by omega) hx
      have h4 := length_readValue hw
      obtain ⟨others, ms, ho, hnodup, hfree, rfl, hpassed⟩ := ih (by omega) h
      have hname : f.name = key := Keyed.name_of_find? hf
      obtain ⟨hnodup, hfree⟩ := (apart_cons_iff (w := w) x).mpr ⟨hc, hnodup, hfree⟩
      have hkey : key ∉ others.keys := (List.nodup_cons.mp hnodup).1
      refine ⟨(key, w) :: others, ms, ?_, hnodup, hfree, rfl, ?_⟩
      · exact readEntries_succ.mpr (.inr ⟨opened, key, valued, w, after, others, hk, ht,
          bind_eq_ok_iff.mpr ⟨value, hv, hw⟩, ho, rfl⟩)
      · exact passed_cons (hname ▸ hR) (Members.get?_eq_none_iff.mpr hkey) hpassed

/-- the fields of a record are read from items in their order -/
theorem stated_of_arrayOfBytes {expected : String} (named : (left.map Field.name).Nodup)
    (takes : ∀ f ∈ left, f.reader.Takes (R f.name)) (hl : input.length < size) (hfuel : input.length < fuel)
    (h : arrayOfBytes fields expected size depth left first acc input = .ok (v, rest)) :
    ∃ (vs : List Value) (ms : Members), readItems (readValue size depth) fuel first [] input = .ok (vs, rest) ∧
      v = .object ms ∧
      ∀ key, Passed (R key) (acc.get? key) (Members.get? key ((left.map Field.name).zip vs)) (ms.get? key) := by
  obtain ⟨fuel, rfl⟩ := Nat.exists_eq_add_one_of_ne_zero (Nat.ne_of_gt (Nat.zero_lt_of_lt hfuel))
  induction left generalizing fuel first acc input with
  | nil =>
    obtain ⟨hk, rfl⟩ := arrayOfBytes_nil.mp h
    exact ⟨[], acc, readItems_succ.mpr (.inl ⟨hk, rfl⟩), rfl, fun _ => .left⟩
  | cons f left ih =>
    obtain ⟨hf, hleft⟩ := List.nodup_cons.mp named
    rcases arrayOfBytes_cons.mp h with ⟨hk, -, rfl⟩ | ⟨head, x, after, hk, hx, h⟩
    · exact ⟨[], acc, readItems_succ.mpr (.inl ⟨hk, rfl⟩), rfl, fun _ => .left⟩
    · have h1 := length_nextItem hk
      obtain ⟨w, hw, hR⟩ := takes f List.mem_cons_self (by omega) hx
      have h2 := length_readValue hw
      obtain ⟨fuel, rfl⟩ := Nat.exists_eq_add_one_of_ne_zero (show fuel ≠ 0 by omega)
      obtain ⟨others, ms, ho, rfl, hpassed⟩ :=
        ih hleft (fun g hg => takes g (List.mem_cons_of_mem _ hg)) (by omega) h fuel (by omega)
      have hfree : Members.get? f.name ((left.map Field.name).zip others) = none := by
        rw [Members.get?_eq_none_iff]
        intro hmem
        obtain ⟨e, he, hek⟩ := List.mem_map.mp hmem
        exact hf (hek ▸ (List.of_mem_zip he).1)
      refine ⟨w :: others, ms, ?_, rfl, passed_cons hR hfree hpassed⟩
      exact readItems_succ.mpr (.inr ⟨head, w, after, others, hk, hw, ho, rfl⟩)

end

/-- a record nests -/
theorem fromBytes_record_zero_ne_ok {name : String} {fields : List Field} {size : Nat} {input : Bytes}
    {a : Value × Bytes} : (record name true fields).fromBytes size 0 input ≠ .ok a := by
  intro h
  obtain ⟨b, tail, -, h⟩ := atValue_eq_ok_iff.mp h
  split at h
  · cases h
  · split at h
    · cases h
    · exact wrongKind_ne_ok h

/-- **If a record is read, then the bytes hold a value that states the same members, each read by its field.** -/
theorem takes_record {name : String} {fields : List Field} {R : String → Value → Value → Prop}
    (named : (fields.map Field.name).Nodup) (takes : ∀ f ∈ fields, f.reader.Takes (R f.name)) :
    (record name true fields).Takes fun w v => ∃ ms : Members, v = .object ms ∧
      ∀ key, Passed (R key) none ((w.stated (fields.map Field.name)).get? key) (ms.get? key) := by
  intro size depth input rest v hl h
  obtain ⟨opened, hb⟩ := opens_of_fromBytes_record h
  have hlo : opened.length < size := by
    rcases hb with hb | hb <;> exact Nat.lt_trans (length_of_skipBlank hb) hl
  cases depth with
  | zero => exact absurd h fromBytes_record_zero_ne_ok
  | succ depth =>
    rcases hb with hb | hb
    · rw [fromBytes_record_array hb] at h
      obtain ⟨vs, ms, hi, rfl, hpassed⟩ := stated_of_arrayOfBytes named takes hlo hlo h
      refine ⟨.array vs, ?_, ms, rfl, hpassed⟩
      rw [readValue_array hb, hi]
      rfl
    · rw [fromBytes_record_object hb] at h
      obtain ⟨entries, ms, he, hnodup, -, rfl, hpassed⟩ := entries_of_membersOfBytes takes hlo h
      refine ⟨.object (Members.ofList entries), ?_, ms, rfl, fun key => ?_⟩
      · rw [readValue_object hb, readMembers_eq, he]
        rfl
      · show Passed _ _ ((Members.ofList entries).get? key) _
        rw [Members.get?_ofList hnodup]
        exact hpassed key

end Reader
end RequestPipeline.Json
