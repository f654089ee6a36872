import RequestPipeline.Proofs.Json.Forward

/-!
# Records of documents

A reader goes through the bytes of a document in one pass.  A faithful one takes from them what it takes of the
value that they hold:

* `Faithful`                    that property, with `faithful_any`, `faithful_text`, `faithful_map` and
                                `faithful_optional`;
* `membersOfBytes_eq_ok_iff`    the members of a record are read as its entries are, if none comes twice;
* `items_of_arrayOfBytes`       an array is read as its items are.

`parse_record_iff`: **a record of faithful fields is read from an object, of which no entry comes twice, or from
an array that has its fields in their order.**
-/

namespace RequestPipeline.Json.Reader

/-! ## faithful readers -/

/-- what the reader takes from the bytes of a value is what it takes of the value -/
def Faithful (r : Reader) : Prop :=
  ∀ (size depth : Nat) (input : Bytes) (v : Value) (rest : Bytes),
    r.fromBytes size depth input = .ok (v, rest) ↔
      ∃ w, readValue size depth input = .ok (w, rest) ∧ r.fromValue w = .ok v

theorem wrongKind_ne_ok {α : Type} {size : Nat} {expected : String} {input : Bytes} {a : α} :
    wrongKind size expected input ≠ .ok a := by
  unfold wrongKind
  intro h
  split at h
  · cases h
  · split_ifs at h
    · cases h
    · cases h
    · split at h <;> cases h

theorem atValue_eq_ok_iff {α : Type} {input : Bytes} {k : UInt8 → Bytes → Except Fault α} {a : α} :
    atValue input k = .ok a ↔ ∃ b tail, skipBlank input = b :: tail ∧ k b tail = .ok a := by
  unfold atValue
  cases skipBlank input with
  | nil => simp [flawBy]
  | cons b tail =>
    constructor
    · exact fun h => ⟨b, tail, rfl, h⟩
    · rintro ⟨c, rest, hc, h⟩
      cases hc
      exact h

/-- A reader of one kind of value reads a value as it is when it begins with a byte of that kind, and reads no other. -/
theorem faithful_of_kind {r : Reader} (opens : UInt8 → Prop)
    (reads : ∀ {size depth input b tail}, skipBlank input = b :: tail → opens b →
      r.fromBytes size depth input = readValue size depth input)
    (refuses : ∀ {size depth input a}, r.fromBytes size depth input = .ok a →
      ∃ b tail, skipBlank input = b :: tail ∧ opens b)
    (keeps : ∀ {w b}, Opens w b → opens b → r.fromValue w = .ok w)
    (kind : ∀ {w v b}, Opens w b → r.fromValue w = .ok v → opens b ∧ v = w) : r.Faithful := by
  intro size depth input v rest
  constructor
  · intro h
    obtain ⟨b, tail, hb, ho⟩ := refuses h
    have hv : readValue size depth input = .ok (v, rest) := reads hb ho ▸ h
    exact ⟨v, hv, keeps (opens_of_readValue_cons hb hv) ho⟩
  · rintro ⟨w, hw, h⟩
    obtain ⟨b, tail, hb, hwb⟩ := opens_of_readValue hw
    obtain ⟨ho, rfl⟩ := kind hwb h
    rw [reads hb ho]
    exact hw

theorem faithful_any : any.Faithful := by
  intro size depth input v rest
  constructor
  · exact fun h => ⟨v, h, rfl⟩
  · rintro ⟨w, h, e⟩
    cases e
    exact h

theorem fromValue_text_iff {w v : Value} : text.fromValue w = .ok v ↔ ∃ s, w = .string s ∧ v = w := by
  cases w with
  | string s => exact ⟨fun h => ⟨s, rfl, (Except.ok.inj h).symm⟩, fun ⟨_, _, h⟩ => congrArg Except.ok h.symm⟩
  | _ => exact ⟨nofun, nofun⟩

theorem faithful_text : text.Faithful := by
  refine faithful_of_kind (· = 34) ?_ ?_ ?_ ?_
  · intro size depth input b tail hb ho
    subst ho
    show atValue input _ = _
    unfold atValue
    rw [hb, readValue_text hb]
    rfl
  · intro size depth input a h
    obtain ⟨b, tail, hb, hk⟩ := atValue_eq_ok_iff.mp h
    refine ⟨b, tail, hb, Decidable.byContradiction fun h34 => ?_⟩
    exact wrongKind_ne_ok (if_neg h34 ▸ hk)
  · intro w b hw ho
    cases w with
    | string s => rfl
    | _ => subst ho; revert hw; simp [Opens, isDigit]
  · intro w v b hw h
    obtain ⟨s, rfl, hv⟩ := fromValue_text_iff.mp h
    exact ⟨hw, hv⟩

theorem fromValue_map_iff {w v : Value} : map.fromValue w = .ok v ↔ ∃ ms, w = .object ms ∧ v = w := by
  cases w with
  | object ms => exact ⟨fun h => ⟨ms, rfl, (Except.ok.inj h).symm⟩, fun ⟨_, _, h⟩ => congrArg Except.ok h.symm⟩
  | _ => exact ⟨nofun, nofun⟩

theorem faithful_map : map.Faithful := by
  refine faithful_of_kind (· = 123) ?_ ?_ ?_ ?_
  · intro size depth input b tail hb ho
    subst ho
    show atValue input _ = _
    unfold atValue
    rw [hb, ← readValue_skipBlank size depth input, hb]
    rfl
  · intro size depth input a h
    obtain ⟨b, tail, hb, hk⟩ := atValue_eq_ok_iff.mp h
    refine ⟨b, tail, hb, Decidable.byContradiction fun h123 => ?_⟩
    exact wrongKind_ne_ok (if_neg h123 ▸ hk)
  · intro w b hw ho
    cases w with
    | object ms => rfl
    | _ => subst ho; revert hw; simp [Opens, isDigit]
  · intro w v b hw h
    obtain ⟨ms, rfl, hv⟩ := fromValue_map_iff.mp h
    exact ⟨hw, hv⟩

theorem fromValue_optional_null (r : Reader) : (optional r).fromValue .null = .ok .null := rfl

theorem fromValue_optional {r : Reader} {w : Value} (h : w ≠ .null) : (optional r).fromValue w = r.fromValue w := by
  cases w with
  | null => exact absurd rfl h
  | _ => rfl

theorem eq_null_of_opens {w : Value} (h : Opens w 110) : w = .null := by
  cases w with
  | null => rfl
  | _ => revert h; simp [Opens, isDigit]

theorem faithful_optional {r : Reader} (faithful : r.Faithful) : (optional r).Faithful := by
  intro size depth input v rest
  by_cases h110 : ∃ tail, skipBlank input = 110 :: tail
  · obtain ⟨tail, hb⟩ := h110
    have hr : (optional r).fromBytes size depth input = readValue size depth input := by
      unfold optional
      dsimp only
      rw [hb]
      rfl
    rw [hr]
    constructor
    · intro h
      have hv : v = .null := eq_null_of_opens (opens_of_readValue_cons hb h)
      exact ⟨v, h, hv ▸ fromValue_optional_null r⟩
    · rintro ⟨w, h, e⟩
      have hw : w = .null := eq_null_of_opens (opens_of_readValue_cons hb h)
      subst hw
      cases e
      exact h
  · have hr : (optional r).fromBytes size depth input = r.fromBytes size depth input := by
      unfold optional
      dsimp only
      split
      · rename_i tail hb
        exact absurd ⟨tail, hb⟩ h110
      · rfl
    rw [hr, faithful size depth input v rest]
    refine exists_congr fun w => and_congr_right fun h => ?_
    have hw : w ≠ .null := by
      rintro rfl
      obtain ⟨b, tail, hb, ho⟩ := opens_of_readValue h
      exact h110 ⟨tail, ho ▸ hb⟩
    rw [fromValue_optional hw]

/-! ## members -/

theorem contains_insert (k key : String) (value : Value) (ms : Members) :
    (Members.insert key value ms).contains k = (decide (k = key) || ms.contains k) := by
  unfold Members.contains
  rw [Members.get?_insert]
  by_cases h : k = key
  · simp [h]
  · simp [h]

/-- Entries whose keys come once and are not among the members so far: the first is a new one, and the others are apart
once it has joined. -/
theorem apart_cons_iff {acc others : Members} {key : String} {w : Value} (x : Value) :
    ((Members.keys ((key, w) :: others)).Nodup ∧ ∀ e ∈ (key, w) :: others, acc.contains e.1 = false) ↔
      acc.contains key = false ∧ others.keys.Nodup ∧ ∀ e ∈ others, (acc.insert key x).contains e.1 = false := by
  constructor
  · rintro ⟨nodup, free⟩
    obtain ⟨hkey, nodup⟩ := List.nodup_cons.mp nodup
    obtain ⟨hc, free⟩ := List.forall_mem_cons.mp free
    refine ⟨hc, nodup, fun e he => ?_⟩
    have hne : e.1 ≠ key := fun h => hkey (List.mem_map.mpr ⟨e, he, h⟩)
    rw [contains_insert, free e he, Bool.or_false]
    exact decide_eq_false hne
  · rintro ⟨hc, nodup, free⟩
    have apart : ∀ e ∈ others, e.1 ≠ key ∧ acc.contains e.1 = false := fun e he => by
      have hfree := free e he
      rw [contains_insert, Bool.or_eq_false_iff] at hfree
      exact ⟨of_decide_eq_false hfree.1, hfree.2⟩
    have hkey : key ∉ others.keys := fun hmem => by
      obtain ⟨e, he, hek⟩ := List.mem_map.mp hmem
      exact (apart e he).1 hek
    exact ⟨List.nodup_cons.mpr ⟨hkey, nodup⟩, List.forall_mem_cons.mpr ⟨hc, fun e he => (apart e he).2⟩⟩

theorem place_eq_ok_iff {α : Type} {rest : Bytes} {x : Except Fault α} {a : α} : place rest x = .ok a ↔ x = .ok a := by
  cases x with
  | error e => simp [place]
  | ok b => simp [place]

section
variable {fields : List Field} {size depth fuel : Nat} {first : Bool} {acc : Members} {input rest : Bytes} {v : Value}

/-- the members of a record: none are left, or the next is a field that has not come yet -/
theorem membersOfBytes_succ :
    membersOfBytes fields size depth (fuel + 1) first acc input = .ok (v, rest) ↔
      (nextKey first input = .ok (false, rest) ∧ complete fields acc = .ok v) ∨
      ∃ named key valued f x after, nextKey first input = .ok (true, named) ∧
        readText size [] named = .ok (key, valued) ∧ field? fields key = some f ∧ acc.contains key = false ∧
        (colon valued).bind (f.reader.fromBytes size depth) = .ok (x, after) ∧
        membersOfBytes fields size depth fuel false (acc.insert key x) after = .ok (v, rest) := by
  rw [membersOfBytes, bind_eq_ok_iff]
  constructor
  · rintro ⟨⟨more, named⟩, hk, h⟩
    cases more with
    | false =>
      obtain ⟨w, hw, e⟩ := map_eq_ok_iff.mp h
      cases e
      exact .inl ⟨hk, place_eq_ok_iff.mp hw⟩
    | true =>
      obtain ⟨⟨key, valued⟩, ht, h⟩ := bind_eq_ok_iff.mp h
      dsimp only at h
      split at h
      · exact nomatch place_eq_ok_iff.mp h
      rename_i f hf
      split at h
      · exact nomatch place_eq_ok_iff.mp h
      rename_i hc
      obtain ⟨value, hv, h⟩ := bind_eq_ok_iff.mp h
      obtain ⟨⟨x, after⟩, hx, h⟩ := bind_eq_ok_iff.mp h
      exact .inr ⟨named, key, valued, f, x, after, hk, ht, hf, Bool.eq_false_iff.mpr hc,
        bind_eq_ok_iff.mpr ⟨value, hv, hx⟩, h⟩
  · rintro (⟨hk, hv⟩ | ⟨named, key, valued, f, x, after, hk, ht, hf, hc, hx, h⟩)
    · refine ⟨(false, rest), hk, map_eq_ok_iff.mpr ⟨v, place_eq_ok_iff.mpr hv, rfl⟩⟩
    · obtain ⟨value, hv, hx⟩ := bind_eq_ok_iff.mp hx
      refine ⟨(true, named), hk, bind_eq_ok_iff.mpr ⟨(key, valued), ht, ?_⟩⟩
      dsimp only
      rw [hf]
      dsimp only
      rw [if_neg (Bool.eq_false_iff.mp hc)]
      exact bind_eq_ok_iff.mpr ⟨value, hv, bind_eq_ok_iff.mpr ⟨(x, after), hx, h⟩⟩

variable (faithful : ∀ f ∈ fields, f.reader.Faithful)
include faithful

/-- the members of a record are read as its entries are, if none comes twice -/
theorem membersOfBytes_eq_ok_iff :
    membersOfBytes fields size depth fuel first acc input = .ok (v, rest) ↔
      ∃ entries, readEntries size (readValue size depth) fuel first input = .ok (entries, rest) ∧
        (Members.keys entries).Nodup ∧ (∀ e ∈ entries, acc.contains e.1 = false) ∧
        membersOfValues fields true acc entries = .ok v := by
  induction fuel generalizing first acc input with
  | zero =>
    constructor
    · intro h
      cases h
    · rintro ⟨_, h, -⟩
      cases h
  | succ fuel ih =>
    rw [membersOfBytes_succ]
    constructor
    · rintro (⟨hk, hv⟩ | ⟨named, key, valued, f, x, after, hk, ht, hf, hc, hx, h⟩)
      · exact ⟨[], readEntries_succ.mpr (.inl ⟨hk, rfl⟩), List.nodup_nil, nofun, hv⟩
      obtain ⟨value, hv, hx⟩ := bind_eq_ok_iff.mp hx
      obtain ⟨w, hw, hwx⟩ := (faithful f (List.mem_of_find?_eq_some hf) _ _ _ _ _).mp hx
      obtain ⟨others, ho, hnodup, hfree, hread⟩ := ih.mp h
      obtain ⟨hnodup, hfree⟩ := (apart_cons_iff (w := w) x).mpr ⟨hc, hnodup, hfree⟩
      refine ⟨(key, w) :: others, ?_, hnodup, hfree, ?_⟩
      · exact readEntries_succ.mpr (.inr ⟨named, key, valued, w, after, others, hk, ht,
          bind_eq_ok_iff.mpr ⟨value, hv, hw⟩, ho, rfl⟩)
      · unfold membersOfValues
        rw [hf]
        exact bind_eq_ok_iff.mpr ⟨x, hwx, hread⟩
    · rintro ⟨entries, he, hnodup, hfree, hread⟩
      rcases readEntries_succ.mp he with ⟨hk, rfl⟩ | ⟨named, key, valued, w, after, others, hk, ht, hw, ho, rfl⟩
      · exact .inl ⟨hk, hread⟩
      obtain ⟨value, hv, hw⟩ := bind_eq_ok_iff.mp hw
      unfold membersOfValues at hread
      split at hread
      · cases hread
      rename_i f hf
      obtain ⟨x, hx, hread⟩ := bind_eq_ok_iff.mp hread
      obtain ⟨hc, hnodup, hfree⟩ := (apart_cons_iff x).mp ⟨hnodup, hfree⟩
      have hxb := (faithful f (List.mem_of_find?_eq_some hf) _ _ _ _ _).mpr ⟨w, hw, hx⟩
      exact .inr ⟨named, key, valued, f, x, after, hk, ht, hf, hc, bind_eq_ok_iff.mpr ⟨value, hv, hxb⟩,
        ih.mpr ⟨others, ho, hnodup, hfree, hread⟩⟩

end

/-! ## items -/

/-- the end of an array is where no item comes next -/
theorem closeArray_eq_ok_iff {input rest : Bytes} (first : Bool) :
    closeArray input = .ok rest ↔ nextItem first input = .ok (false, rest) := by
  unfold closeArray nextItem
  cases skipBlank input with
  | nil => exact ⟨nofun, nofun⟩
  | cons b tail =>
    dsimp only
    by_cases h93 : b = 93
    · rw [if_pos h93, if_pos h93]
      simp
    · rw [if_neg h93, if_neg h93]
      constructor
      · intro h
        split_ifs at h
        · split at h <;> cases h
        · cases h
      · intro h
        split_ifs at h
        · cases h
        · split at h
          · cases h
          · split_ifs at h <;> cases h
        · cases h

section
variable {fields left : List Field} {expected : String} {size depth fuel : Nat} {first : Bool}
  {acc : Members} {input rest : Bytes} {v : Value}

theorem arrayOfBytes_nil :
    arrayOfBytes fields expected size depth [] first acc input = .ok (v, rest) ↔
      nextItem first input = .ok (false, rest) ∧ v = .object acc := by
  rw [arrayOfBytes, map_eq_ok_iff]
  constructor
  · rintro ⟨last, hc, e⟩
    cases e
    exact ⟨(closeArray_eq_ok_iff first).mp hc, rfl⟩
  · rintro ⟨hk, rfl⟩
    exact ⟨rest, (closeArray_eq_ok_iff first).mpr hk, rfl⟩

/-- the fields of a record from an array: it ends and none that is left is required, or the next item is the next field -/
theorem arrayOfBytes_cons {f : Field} :
    arrayOfBytes fields expected size depth (f :: left) first acc input = .ok (v, rest) ↔
      (nextItem first input = .ok (false, rest) ∧ (f :: left).find? Field.required = none ∧ v = .object acc) ∨
      ∃ head x after, nextItem first input = .ok (true, head) ∧ f.reader.fromBytes size depth head = .ok (x, after) ∧
        arrayOfBytes fields expected size depth left false (acc.insert f.name x) after = .ok (v, rest) := by
  rw [arrayOfBytes, bind_eq_ok_iff]
  constructor
  · rintro ⟨⟨more, head⟩, hk, h⟩
    cases more with
    | false =>
      dsimp only at h
      rw [if_neg Bool.false_ne_true] at h
      split at h
      · exact nomatch place_eq_ok_iff.mp h
      · rename_i hf
        cases h
        exact .inl ⟨hk, hf, rfl⟩
    | true =>
      obtain ⟨⟨x, after⟩, hx, h⟩ := bind_eq_ok_iff.mp h
      exact .inr ⟨head, x, after, hk, hx, h⟩
  · rintro (⟨hk, hf, rfl⟩ | ⟨head, x, after, hk, hx, h⟩)
    · refine ⟨(false, rest), hk, ?_⟩
      rw [hf]
      rfl
    · exact ⟨(true, head), hk, bind_eq_ok_iff.mpr ⟨(x, after), hx, h⟩⟩

variable (faithful : ∀ f ∈ left, f.reader.Faithful)
include faithful

/-- an array is read as a record as its items are -/
theorem items_of_arrayOfBytes (hfuel : input.length < fuel)
    (h : arrayOfBytes fields expected size depth left first acc input = .ok (v, rest)) :
    ∃ vs, readItems (readValue size depth) fuel first [] input = .ok (vs, rest) ∧
      ∀ total, arrayOfValues fields expected total left acc vs = .ok v := by
  induction left generalizing fuel first acc input with
  | nil =>
    obtain ⟨fuel, rfl⟩ := Nat.exists_eq_add_one_of_ne_zero (Nat.ne_of_gt (Nat.zero_lt_of_lt hfuel))
    obtain ⟨hk, rfl⟩ := arrayOfBytes_nil.mp h
    exact ⟨[], readItems_succ.mpr (.inl ⟨hk, rfl⟩), fun _ => rfl⟩
  | cons f left ih =>
    obtain ⟨fuel, rfl⟩ := Nat.exists_eq_add_one_of_ne_zero (Nat.ne_of_gt (Nat.zero_lt_of_lt hfuel))
    rcases arrayOfBytes_cons.mp h with ⟨hk, hf, rfl⟩ | ⟨head, x, after, hk, hx, h⟩
    · refine ⟨[], readItems_succ.mpr (.inl ⟨hk, rfl⟩), fun total => ?_⟩
      rw [arrayOfValues, hf]
    · obtain ⟨w, hw, hwx⟩ := (faithful f List.mem_cons_self _ _ _ _ _).mp hx
      have hl : after.length < fuel := by
        have h1 := length_nextItem hk
        have h2 := length_readValue hw
        omega
      obtain ⟨others, ho, hread⟩ := ih (fun g hg => faithful g (List.mem_cons_of_mem _ hg)) hl h
      refine ⟨w :: others, readItems_succ.mpr (.inr ⟨head, w, after, others, hk, hw, ho, rfl⟩), ?_⟩
      exact fun total => bind_eq_ok_iff.mpr ⟨x, hwx, hread total⟩

theorem arrayOfBytes_of_items {total : Nat} {vs : List Value}
    (hi : readItems (readValue size depth) fuel first [] input = .ok (vs, rest))
    (h : arrayOfValues fields expected total left acc vs = .ok v) :
    arrayOfBytes fields expected size depth left first acc input = .ok (v, rest) := by
  induction left generalizing fuel first acc input vs with
  | nil =>
    cases vs with
    | cons w others => cases h
    | nil =>
      cases h
      cases fuel with
      | zero => cases hi
      | succ fuel =>
        rcases readItems_succ.mp hi with ⟨hk, -⟩ | ⟨_, _, _, _, -, -, -, e⟩
        · exact arrayOfBytes_nil.mpr ⟨hk, rfl⟩
        · cases e
  | cons f left ih =>
    cases fuel with
    | zero => cases hi
    | succ fuel =>
      rw [arrayOfBytes_cons]
      rcases readItems_succ.mp hi with ⟨hk, rfl⟩ | ⟨head, w, after, others, hk, hw, ho, rfl⟩
      · rw [arrayOfValues] at h
        split at h
        · cases h
        · rename_i hf
          cases h
          exact .inl ⟨hk, hf, rfl⟩
      · obtain ⟨x, hx, hread⟩ := bind_eq_ok_iff.mp h
        have hxb := (faithful f List.mem_cons_self _ _ _ _ _).mpr ⟨w, hw, hx⟩
        exact .inr ⟨head, x, after, hk, hxb, ih (fun g hg => faithful g (List.mem_cons_of_mem _ hg)) ho hread⟩

end

/-! ## arrays as objects -/

theorem complete_eq_ok_iff {fields : List Field} {ms : Members} {v : Value} :
    complete fields ms = .ok v ↔ (∀ f ∈ fields, f.required = true → ms.contains f.name = true) ∧ v = .object ms := by
  unfold complete firstMissing
  cases hf : fields.find? fun f => f.required && !ms.contains f.name with
  | some f =>
    constructor
    · intro h
      cases h
    · rintro ⟨h, -⟩
      have hmem := List.mem_of_find?_eq_some hf
      have hp := List.find?_some hf
      rw [Bool.and_eq_true] at hp
      rw [h f hmem hp.1] at hp
      exact absurd hp.2 Bool.false_ne_true
  | none =>
    rw [List.find?_eq_none] at hf
    constructor
    · intro h
      refine ⟨fun f hmem hr => ?_, (Except.ok.inj h).symm⟩
      have hp := hf f hmem
      rw [hr] at hp
      simpa using hp
    · rintro ⟨-, rfl⟩
      rfl

section
variable {fields left : List Field} {expected : String} {total : Nat} {acc : Members} {f : Field} {v : Value}

/-- an array that ends early leaves what has been read, unless something that is left is required -/
theorem arrayOfValues_nil_eq_ok_iff (known : ∀ f ∈ left, field? fields f.name = some f)
    (done : ∀ f ∈ fields, acc.contains f.name = true ↔ f ∉ left) :
    arrayOfValues fields expected total left acc [] = .ok v ↔ complete fields acc = .ok v := by
  rw [complete_eq_ok_iff]
  cases left with
  | nil =>
    constructor
    · intro h
      exact ⟨fun f hf _ => (done f hf).mpr List.not_mem_nil, (Except.ok.inj h).symm⟩
    · rintro ⟨-, rfl⟩
      rfl
  | cons f left =>
    rw [arrayOfValues]
    cases hg : (f :: left).find? Field.required with
    | some g =>
      have hmem := List.mem_of_find?_eq_some hg
      have hgf : g ∈ fields := List.mem_of_find?_eq_some (known g hmem)
      refine ⟨nofun, fun h => ?_⟩
      have hc := h.1 g hgf (List.find?_some hg)
      exact absurd hmem ((done g hgf).mp hc)
    | none =>
      rw [List.find?_eq_none] at hg
      constructor
      · intro h
        exact ⟨fun g hgf hr => (done g hgf).mpr fun hmem => hg g hmem hr, (Except.ok.inj h).symm⟩
      · rintro ⟨-, rfl⟩
        rfl

/-- the next value of an array is the member with the name of the next field -/
theorem membersOfValues_zip_cons (known : field? fields f.name = some f) (closed : Bool) (w : Value)
    (vs : List Value) : membersOfValues fields closed acc (((f :: left).map Field.name).zip (w :: vs)) =
      (f.reader.fromValue w).bind fun x =>
        membersOfValues fields closed (acc.insert f.name x) ((left.map Field.name).zip vs) := by
  show membersOfValues fields closed acc ((f.name, w) :: (left.map Field.name).zip vs) = _
  rw [membersOfValues, known]

/-- once the next field has been read, it is no longer left -/
theorem contains_insert_iff_not_mem (named : f.name ∉ left.map Field.name) {g : Field}
    (done : acc.contains g.name = true ↔ g ∉ f :: left) (x : Value) :
    (acc.insert f.name x).contains g.name = true ↔ g ∉ left := by
  rw [contains_insert, Bool.or_eq_true, decide_eq_true_iff, done, List.mem_cons, not_or]
  constructor
  · rintro (he | ⟨-, hl⟩)
    · exact fun hl => named (he ▸ List.mem_map_of_mem hl)
    · exact hl
  · intro hl
    by_cases he : g.name = f.name
    · exact .inl he
    · exact .inr ⟨fun h => he (congrArg Field.name h), hl⟩

theorem arrayOfValues_eq_ok_iff {vs : List Value} (named : (left.map Field.name).Nodup)
    (known : ∀ f ∈ left, field? fields f.name = some f)
    (done : ∀ f ∈ fields, acc.contains f.name = true ↔ f ∉ left) :
    arrayOfValues fields expected total left acc vs = .ok v ↔
      vs.length ≤ left.length ∧ membersOfValues fields true acc ((left.map Field.name).zip vs) = .ok v := by
  induction left generalizing acc vs with
  | nil =>
    cases vs with
    | nil => exact (arrayOfValues_nil_eq_ok_iff known done).trans (and_iff_right (Nat.le_refl _)).symm
    | cons w vs => exact ⟨nofun, fun h => absurd h.1 (Nat.not_succ_le_zero _)⟩
  | cons f left ih =>
    obtain ⟨hf, hnamed⟩ := List.nodup_cons.mp named
    cases vs with
    | nil => exact (arrayOfValues_nil_eq_ok_iff known done).trans (and_iff_right (Nat.zero_le _)).symm
    | cons w vs =>
      rw [membersOfValues_zip_cons (known f List.mem_cons_self), List.length_cons, List.length_cons,
        Nat.succ_le_succ_iff, arrayOfValues]
      cases f.reader.fromValue w with
      | error e => exact ⟨nofun, fun h => nomatch h.2⟩
      | ok x =>
        exact ih hnamed (fun g hg => known g (List.mem_cons_of_mem _ hg)) fun g hg =>
          contains_insert_iff_not_mem hf (done g hg) x

end

/-! ## documents -/

theorem parse_eq_ok_iff {r : Reader} {document : Bytes} {v : Value} :
    r.parse document = .ok v ↔
      ∃ rest, r.fromBytes (document.length + 1) maxDepth document = .ok (v, rest) ∧ skipBlank rest = [] := by
  rw [← finish_eq_ok_iff]
  unfold parse
  cases finish (r.fromBytes (document.length + 1) maxDepth document) with
  | error e => exact ⟨nofun, nofun⟩
  | ok w => exact ⟨fun h => congrArg _ (Except.ok.inj h), fun h => congrArg _ (Except.ok.inj h)⟩

section
variable {name : String} {fields : List Field} {size depth : Nat} {input opened : Bytes}

theorem fromBytes_record_array (hb : skipBlank input = 91 :: opened) :
    (record name true fields).fromBytes size (depth + 1) input =
      arrayOfBytes fields (recordLength name fields) size depth fields true [] opened := by
  show atValue input _ = _
  unfold atValue
  rw [hb]
  rfl

theorem fromBytes_record_object (hb : skipBlank input = 123 :: opened) :
    (record name true fields).fromBytes size (depth + 1) input =
      membersOfBytes fields size depth size true [] opened := by
  show atValue input _ = _
  unfold atValue
  rw [hb]
  rfl

/-- a record begins as an array or as an object -/
theorem opens_of_fromBytes_record {a : Value × Bytes}
    (h : (record name true fields).fromBytes size depth input = .ok a) :
    ∃ opened, skipBlank input = 91 :: opened ∨ skipBlank input = 123 :: opened := by
  obtain ⟨b, opened, hb, h⟩ := atValue_eq_ok_iff.mp h
  refine ⟨opened, ?_⟩
  by_cases h91 : b = 91
  · exact .inl (h91 ▸ hb)
  · by_cases h123 : b = 123
    · exact .inr (h123 ▸ hb)
    · rw [if_neg h91, if_neg h123] at h
      exact absurd h wrongKind_ne_ok

theorem field?_of_mem (named : (fields.map Field.name).Nodup) {f : Field} (hf : f ∈ fields) :
    field? fields f.name = some f := by
  induction fields with
  | nil => cases hf
  | cons g fields ih =>
    obtain ⟨hg, hnamed⟩ := List.nodup_cons.mp named
    unfold field?
    rcases List.mem_cons.mp hf with rfl | hf
    · exact List.find?_cons_of_pos (beq_self_eq_true _)
    · have hne : g.name ≠ f.name := fun h => hg (h ▸ List.mem_map_of_mem hf)
      rw [List.find?_cons_of_neg (by simpa using hne)]
      exact ih hnamed hf

/-- **A record is read from an object, none of whose entries comes twice, or from an array, whose items are taken as
the fields in their order.** -/
theorem parse_record_iff (named : (fields.map Field.name).Nodup) (faithful : ∀ f ∈ fields, f.reader.Faithful)
    {document : Bytes} {v : Value} :
    (record name true fields).parse document = .ok v ↔
      (∃ entries, entries? document = some entries ∧ (Members.keys entries).Nodup ∧
        membersOfValues fields true [] entries = .ok v) ∨
      ∃ vs, Value.ofBytes document = .ok (.array vs) ∧ vs.length ≤ fields.length ∧
        membersOfValues fields true [] ((fields.map Field.name).zip vs) = .ok v := by
  have hdepth : maxDepth = (maxDepth - 1) + 1 := rfl
  have harray : ∀ total {vs}, arrayOfValues fields (recordLength name fields) total fields [] vs = .ok v ↔
      vs.length ≤ fields.length ∧ membersOfValues fields true [] ((fields.map Field.name).zip vs) = .ok v :=
    fun _ => arrayOfValues_eq_ok_iff named (fun _ => field?_of_mem named) fun f hf => ⟨nofun, fun h => absurd hf h⟩
  rw [parse_eq_ok_iff]
  constructor
  · rintro ⟨rest, h, hs⟩
    obtain ⟨opened, hb | hb⟩ := opens_of_fromBytes_record h
    · rw [hdepth, fromBytes_record_array hb] at h
      have hfuel : opened.length < document.length + 1 := Nat.lt_succ_of_lt (length_of_skipBlank hb)
      obtain ⟨vs, hi, hread⟩ := items_of_arrayOfBytes faithful hfuel h
      refine .inr ⟨vs, finish_eq_ok_iff.mpr ⟨rest, ?_, hs⟩, (harray 0).mp (hread 0)⟩
      rw [hdepth, readValue_array hb, hi]
      rfl
    · rw [hdepth, fromBytes_record_object hb] at h
      obtain ⟨entries, he, hnodup, -, hread⟩ := (membersOfBytes_eq_ok_iff faithful).mp h
      exact .inl ⟨entries, entries?_eq_some_iff.mpr ⟨opened, rest, hb, he, hs⟩, hnodup, hread⟩
  · rintro (⟨entries, he, hnodup, hread⟩ | ⟨vs, hv, hread⟩)
    · obtain ⟨opened, rest, hb, hr, hs⟩ := entries?_eq_some_iff.mp he
      refine ⟨rest, ?_, hs⟩
      rw [hdepth, fromBytes_record_object hb]
      exact (membersOfBytes_eq_ok_iff faithful).mpr ⟨entries, hr, hnodup, fun _ _ => rfl, hread⟩
    · obtain ⟨rest, hr, hs⟩ := finish_eq_ok_iff.mp hv
      obtain ⟨b, opened, hb, ho⟩ := opens_of_readValue hr
      cases ho
      rw [hdepth, readValue_array hb] at hr
      obtain ⟨⟨items, after⟩, hi, e⟩ := map_eq_ok_iff.mp hr
      cases e
      refine ⟨rest, ?_, hs⟩
      rw [hdepth, fromBytes_record_array hb]
      exact arrayOfBytes_of_items faithful hi ((harray 0).mpr hread)

end

/-! ## fields that are kept -/

/-- members are read as they are if each field reads its values as they are -/
theorem membersOfValues_eq_ok_iff {fields : List Field}
    (keeps : ∀ f ∈ fields, ∀ {w v}, f.reader.fromValue w = .ok v → v = w) {acc ms : Members} {v : Value} :
    membersOfValues fields true acc ms = .ok v ↔
      (∀ m ∈ ms, ∃ f, field? fields m.1 = some f ∧ f.reader.fromValue m.2 = .ok m.2) ∧
        complete fields (ms.foldl (fun acc m => Members.insert m.1 m.2 acc) acc) = .ok v := by
  induction ms generalizing acc with
  | nil => exact ⟨fun h => ⟨nofun, h⟩, fun h => h.2⟩
  | cons m ms ih =>
    obtain ⟨key, w⟩ := m
    rw [membersOfValues, List.forall_mem_cons, List.foldl_cons]
    cases hf : field? fields key with
    | none =>
      constructor
      · intro h
        cases h
      · rintro ⟨⟨⟨f, h, -⟩, -⟩, -⟩
        cases h
    | some f =>
      have hmem := List.mem_of_find?_eq_some hf
      dsimp only
      rw [bind_eq_ok_iff]
      constructor
      · rintro ⟨x, hx, h⟩
        cases keeps f hmem hx
        obtain ⟨hms, hc⟩ := ih.mp h
        exact ⟨⟨⟨f, rfl, hx⟩, hms⟩, hc⟩
      · rintro ⟨⟨⟨g, hg, hx⟩, hms⟩, hc⟩
        cases hg
        exact ⟨w, hx, ih.mpr ⟨hms, hc⟩⟩

end RequestPipeline.Json.Reader
