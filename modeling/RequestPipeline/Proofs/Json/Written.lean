import Mathlib.Data.List.Forall2
import RequestPipeline.Proofs.Json.Typed

/-!
# Records as they are written

A record within a record is read from bytes, where a key may come twice in either of them.  `asWritten` reads a value
but keeps the members of an object as they are written, and `merged` makes of them what a plain reading gives
(`readValue_eq_asWritten`).  So what a typed reader takes from bytes can be told by what is written there, however deep
its records nest:

* `Reads`            that property, with a relation of what is written and what is read;
* `Value.IsRecord`   what may be written for a record: an object of its fields, none of them twice, or an array that is
                     not longer than the record;
* `RecordRead`       what is read of it.

`reads_record`: **a record that may be left empty is read exactly where one is written whose fields can be read.**
-/

namespace RequestPipeline.Json

/-! ## members as they are written -/

/-- reads a value with the members of an object as they are written, and with `item` what stands in it -/
def asWritten (item : (size depth : Nat) → Bytes → Reading Value) (size : Nat) : (depth : Nat) → Bytes → Reading Value
  | 0, input => flawBy .tooDeep input
  | depth + 1, input =>
    match skipBlank input with
    | [] => flawBy .endInValue []
    | b :: rest =>
      if b = 91 then (readItems (item size depth) size true [] rest).map fun (vs, rest) => (.array vs, rest)
      else if b = 123 then
        (readEntries size (item size depth) size true rest).map fun (entries, rest) => (.object entries, rest)
      else readValue size 0 input

/-- a value with the members of an object put in order, of two with one key the later, and with `f` for what stands
in it -/
def Value.merged (f : Value → Value) : Value → Value
  | .array vs => .array (vs.map f)
  | .object entries => .object (Members.ofList (entries.map fun e => (e.1, f e.2)))
  | v => v

section
variable {item : Bytes → Reading Value} {f : Value → Value} {size fuel : Nat} {first : Bool} {input : Bytes}

theorem readItems_map_acc (acc : List Value) :
    readItems (fun input => (item input).map fun r => (f r.1, r.2)) fuel first (acc.map f) input =
      (readItems item fuel first acc input).map fun r => (r.1.map f, r.2) := by
  induction fuel generalizing first acc input with
  | zero => rfl
  | succ fuel ih =>
    rw [readItems, readItems]
    cases nextItem first input with
    | error e => rfl
    | ok next =>
      obtain ⟨more, rest⟩ := next
      cases more with
      | false =>
        dsimp only [Except.map]
        rw [List.map_reverse]
      | true =>
        dsimp only
        cases item rest with
        | error e => rfl
        | ok read => exact ih (read.1 :: acc)

theorem readItems_map :
    readItems (fun input => (item input).map fun r => (f r.1, r.2)) fuel first [] input =
      (readItems item fuel first [] input).map fun r => (r.1.map f, r.2) := readItems_map_acc []

theorem readEntries_map :
    readEntries size (fun input => (item input).map fun r => (f r.1, r.2)) fuel first input =
      (readEntries size item fuel first input).map fun r => (r.1.map fun e => (e.1, f e.2), r.2) := by
  induction fuel generalizing first input with
  | zero => rfl
  | succ fuel ih =>
    rw [readEntries, readEntries]
    cases nextKey first input with
    | error e => rfl
    | ok next =>
      obtain ⟨more, rest⟩ := next
      cases more with
      | false => rfl
      | true =>
        dsimp only
        cases readText size [] rest with
        | error e => rfl
        | ok named =>
          dsimp only
          cases colon named.2 with
          | error e => rfl
          | ok rest =>
            dsimp only
            cases item rest with
            | error e => rfl
            | ok read =>
              show (readEntries size _ fuel false read.2).map _ = _
              rw [ih]
              dsimp only
              cases readEntries size item fuel false read.2 <;> rfl

end

section
variable {item : (size depth : Nat) → Bytes → Reading Value} {size depth : Nat} {input opened rest : Bytes} {w : Value}

theorem asWritten_array (hb : skipBlank input = 91 :: opened) :
    asWritten item size (depth + 1) input =
      (readItems (item size depth) size true [] opened).map fun (vs, rest) => (.array vs, rest) := by
  rw [asWritten, hb]
  rfl

theorem asWritten_object (hb : skipBlank input = 123 :: opened) :
    asWritten item size (depth + 1) input =
      (readEntries size (item size depth) size true opened).map fun (entries, rest) => (.object entries, rest) := by
  rw [asWritten, hb]
  rfl

theorem asWritten_plain {b : UInt8} (hb : skipBlank input = b :: opened) (h91 : b ≠ 91) (h123 : b ≠ 123) :
    asWritten item size (depth + 1) input = readValue size 0 input := by
  rw [asWritten, hb]
  dsimp only
  rw [if_neg h91, if_neg h123]

theorem readValue_plain {b : UInt8} (hb : skipBlank input = b :: opened) (h91 : b ≠ 91) (h123 : b ≠ 123) :
    readValue size depth input = readValue size 0 input := by
  unfold readValue readNode
  rw [hb]
  dsimp only
  simp only [if_neg h91, if_neg h123]

/-- what is written begins as the value that it is -/
theorem opens_of_asWritten (h : asWritten item size depth input = .ok (w, rest)) :
    ∃ b tail, skipBlank input = b :: tail ∧ Opens w b := by
  cases depth with
  | zero => cases h
  | succ depth =>
    cases hb : skipBlank input with
    | nil =>
      rw [asWritten, hb] at h
      cases h
    | cons b tail =>
      refine ⟨b, tail, rfl, ?_⟩
      by_cases h91 : b = 91
      · rw [asWritten_array (h91 ▸ hb)] at h
        exact opens_of_map h fun _ => h91
      · by_cases h123 : b = 123
        · rw [asWritten_object (h123 ▸ hb)] at h
          exact opens_of_map h fun _ => h123
        · rw [asWritten_plain hb h91 h123] at h
          exact opens_of_readValue_cons hb h

/-- **A plain reading merges what is written.** -/
theorem readValue_eq_asWritten {f : Value → Value}
    (inner : ∀ input, readValue size depth input = (item size depth input).map fun r => (f r.1, r.2)) (input : Bytes) :
    readValue size (depth + 1) input =
      (asWritten item size (depth + 1) input).map fun r => (r.1.merged f, r.2) := by
  cases hb : skipBlank input with
  | nil =>
    unfold readValue readNode
    rw [asWritten, hb]
    rfl
  | cons b tail =>
    by_cases h91 : b = 91
    · rw [readValue_array (h91 ▸ hb), asWritten_array (h91 ▸ hb), funext inner, readItems_map]
      cases readItems (item size depth) size true [] tail with
      | error e => rfl
      | ok r => rfl
    · by_cases h123 : b = 123
      · rw [readValue_object (h123 ▸ hb), asWritten_object (h123 ▸ hb), funext inner, readMembers_eq, readEntries_map]
        cases readEntries size (item size depth) size true tail with
        | error e => rfl
        | ok r => rfl
      · rw [readValue_plain hb h91 h123, asWritten_plain hb h91 h123]
        cases hr : readValue size 0 input with
        | error e => rfl
        | ok r =>
          obtain ⟨v, rest⟩ := r
          have ho := opens_of_readValue_cons hb hr
          cases v with
          | array vs => exact absurd ho h91
          | object ms => exact absurd ho h123
          | _ => rfl

end

/-! ## going forward -/

/-- whether what follows a value is shorter than what it was read from -/
def Forward (item : (size depth : Nat) → Bytes → Reading Value) : Prop :=
  ∀ ⦃size depth : Nat⦄ ⦃input rest : Bytes⦄ ⦃w : Value⦄, item size depth input = .ok (w, rest) →
    rest.length < input.length

theorem forward_readValue : Forward readValue := fun _ _ _ _ _ => length_readValue

theorem length_readEntries {item : Bytes → Reading Value} {size fuel : Nat} {first : Bool} {input rest : Bytes}
    {entries : List (String × Value)}
    (forward : ∀ {input w rest}, item input = .ok (w, rest) → rest.length < input.length)
    (h : readEntries size item fuel first input = .ok (entries, rest)) : rest.length < input.length := by
  have hm : readMembers size item fuel first [] input =
      .ok (entries.foldl (fun acc m => Members.insert m.1 m.2 acc) [], rest) := by
    rw [readMembers_eq, h]
    rfl
  exact length_readMembers forward hm

theorem forward_asWritten {item : (size depth : Nat) → Bytes → Reading Value} (forward : Forward item) :
    Forward (asWritten item) := by
  intro size depth input rest w h
  obtain ⟨b, tail, hb, -⟩ := opens_of_asWritten h
  have hl := length_of_skipBlank hb
  cases depth with
  | zero => cases h
  | succ depth =>
    by_cases h91 : b = 91
    · rw [asWritten_array (h91 ▸ hb)] at h
      obtain ⟨⟨vs, after⟩, hr, e⟩ := map_eq_ok_iff.mp h
      cases e
      have ha := length_readItems (forward · ) hr
      omega
    · by_cases h123 : b = 123
      · rw [asWritten_object (h123 ▸ hb)] at h
        obtain ⟨⟨entries, after⟩, hr, e⟩ := map_eq_ok_iff.mp h
        cases e
        exact Nat.lt_trans (length_readEntries (forward · ) hr) hl
      · rw [asWritten_plain hb h91 h123] at h
        exact length_readValue h

/-! ## what is read of it -/

namespace Reader

/-- what a reader takes from bytes is told by `R` from what `item` reads of them -/
def Reads (r : Reader) (item : (size depth : Nat) → Bytes → Reading Value) (R : Value → Value → Prop) : Prop :=
  ∀ ⦃size depth : Nat⦄ ⦃input rest : Bytes⦄ ⦃v : Value⦄, input.length < size →
    (r.fromBytes size depth input = .ok (v, rest) ↔ ∃ w, item size depth input = .ok (w, rest) ∧ R w v)

theorem Faithful.reads {r : Reader} (faithful : r.Faithful) : r.Reads readValue fun w v => r.fromValue w = .ok v :=
  fun _ _ _ _ _ _ => faithful _ _ _ _ _

theorem Reads.congr {r : Reader} {item : (size depth : Nat) → Bytes → Reading Value} {R S : Value → Value → Prop}
    (reads : r.Reads item R) (h : ∀ {w v}, R w v ↔ S w v) : r.Reads item S :=
  fun _ _ _ _ _ hl => (reads hl).trans (exists_congr fun _ => and_congr_right fun _ => h)

/-- a member that is read under its key -/
def ReadAs (R : String → Value → Value → Prop) (e x : String × Value) : Prop := e.1 = x.1 ∧ R e.1 e.2 x.2

/-- what entries of a record become, on top of `acc`: they are fields that have not come yet, none of them twice, and
each is read under its key -/
structure Taken (fields : List Field) (R : String → Value → Value → Prop) (acc entries taken : Members) : Prop where
  once : entries.keys.Nodup
  free : ∀ e ∈ entries, acc.contains e.1 = false
  known : ∀ e ∈ entries, (field? fields e.1).isSome = true
  read : List.Forall₂ (ReadAs R) entries taken

section
variable {fields : List Field} {R : String → Value → Value → Prop} {acc entries taken : Members} {key : String}
  {w x : Value}

theorem taken_nil : Taken fields R acc [] [] := ⟨List.nodup_nil, nofun, nofun, .nil⟩

theorem taken_cons_iff : Taken fields R acc ((key, w) :: entries) ((key, x) :: taken) ↔
    acc.contains key = false ∧ (field? fields key).isSome = true ∧ R key w x ∧
      Taken fields R (acc.insert key x) entries taken := by
  constructor
  · rintro ⟨once, free, known, read⟩
    obtain ⟨hc, once, free⟩ := (apart_cons_iff x).mp ⟨once, free⟩
    obtain ⟨hknown, known⟩ := List.forall_mem_cons.mp known
    obtain ⟨⟨-, hR⟩, read⟩ := List.forall₂_cons.mp read
    exact ⟨hc, hknown, hR, once, free, known, read⟩
  · rintro ⟨hc, hknown, hR, once, free, known, read⟩
    obtain ⟨once, free⟩ := (apart_cons_iff (w := w) x).mpr ⟨hc, once, free⟩
    exact ⟨once, free, List.forall_mem_cons.mpr ⟨hknown, known⟩, .cons ⟨rfl, hR⟩ read⟩

theorem Taken.exists_cons {members : Members} (h : Taken fields R acc ((key, w) :: entries) members) :
    ∃ x taken, members = (key, x) :: taken := by
  obtain ⟨⟨k, x⟩, taken, ⟨rfl, -⟩, -, rfl⟩ := List.forall₂_cons_left_iff.mp h.read
  exact ⟨x, taken, rfl⟩

end

section
variable {fields left : List Field} {item : (size depth : Nat) → Bytes → Reading Value}
  {R : String → Value → Value → Prop} {size depth fuel : Nat} {first : Bool} {acc : Members} {input rest : Bytes}
  {v : Value} (forward : Forward item)
include forward

theorem membersOfBytes_reads (reads : ∀ f ∈ fields, f.reader.Reads item (R f.name))
    (optional : ∀ f ∈ fields, f.required = false) (hl : input.length < size) :
    membersOfBytes fields size depth fuel first acc input = .ok (v, rest) ↔
      ∃ (entries taken : Members), readEntries size (item size depth) fuel first input = .ok (entries, rest) ∧
        Taken fields R acc entries taken ∧
        v = .object (taken.foldl (fun acc m => Members.insert m.1 m.2 acc) acc) := by
  -- for every accumulator: both readings go through the same steps, and a member that is read joins it
  induction fuel generalizing first acc input with
  | zero =>
    constructor
    · intro h
      cases h
    · rintro ⟨_, _, h, -⟩
      cases h
  | succ fuel ih =>
    rw [membersOfBytes_succ]
    constructor
    · rintro (⟨hk, hv⟩ | ⟨opened, key, valued, f, x, after, hk, ht, hf, hc, hx, h⟩)
      · obtain ⟨-, rfl⟩ := complete_eq_ok_iff.mp hv
        exact ⟨[], [], readEntries_succ.mpr (.inl ⟨hk, rfl⟩), taken_nil, rfl⟩
      obtain ⟨value, hv, hx⟩ := bind_eq_ok_iff.mp hx
      have h1 := length_nextKey hk
      have h2 := length_readText ht
      have h3 := length_colon hv
      obtain ⟨w, hw, hR⟩ := (reads f (List.mem_of_find?_eq_some hf) (by omega)).mp hx
      have h4 := forward hw
      obtain ⟨others, taken, ho, htaken, rfl⟩ := (ih (by omega)).mp h
      have hname : f.name = key := Keyed.name_of_find? hf
      refine ⟨(key, w) :: others, (key, x) :: taken, ?_,
        taken_cons_iff.mpr ⟨hc, Option.isSome_iff_exists.mpr ⟨f, hf⟩, hname ▸ hR, htaken⟩, rfl⟩
      exact readEntries_succ.mpr (.inr ⟨opened, key, valued, w, after, others, hk, ht,
        bind_eq_ok_iff.mpr ⟨value, hv, hw⟩, ho, rfl⟩)
    · rintro ⟨entries, members, he, htaken, rfl⟩
      rcases readEntries_succ.mp he with ⟨hk, rfl⟩ | ⟨opened, key, valued, w, after, others, hk, ht, hw, ho, rfl⟩
      · cases htaken.read
        refine .inl ⟨hk, complete_eq_ok_iff.mpr ⟨fun f hf hr => ?_, rfl⟩⟩
        exact absurd ((optional f hf).symm.trans hr) Bool.false_ne_true
      obtain ⟨x, taken, rfl⟩ := htaken.exists_cons
      obtain ⟨hc, hfield, hR, htaken⟩ := taken_cons_iff.mp htaken
      obtain ⟨f, hf⟩ := Option.isSome_iff_exists.mp hfield
      obtain ⟨value, hv, hw⟩ := bind_eq_ok_iff.mp hw
      have hname : f.name = key := Keyed.name_of_find? hf
      have h1 := length_nextKey hk
      have h2 := length_readText ht
      have h3 := length_colon hv
      have h4 := forward hw
      have hx := (reads f (List.mem_of_find?_eq_some hf) (show value.length < size by omega)).mpr ⟨w, hw, hname ▸ hR⟩
      exact .inr ⟨opened, key, valued, f, x, after, hk, ht, hf, hc, bind_eq_ok_iff.mpr ⟨value, hv, hx⟩,
        (ih (by omega)).mpr ⟨others, taken, ho, htaken, rfl⟩⟩

theorem arrayOfBytes_reads {expected : String} (reads : ∀ f ∈ left, f.reader.Reads item (R f.name))
    (optional : ∀ f ∈ left, f.required = false) (hl : input.length < size) (hfuel : input.length < fuel) :
    arrayOfBytes fields expected size depth left first acc input = .ok (v, rest) ↔
      ∃ (ws : List Value) (taken : Members), readItems (item size depth) fuel first [] input = .ok (ws, rest) ∧
        ws.length ≤ left.length ∧ List.Forall₂ (ReadAs R) ((left.map Field.name).zip ws) taken ∧
        v = .object (taken.foldl (fun acc m => Members.insert m.1 m.2 acc) acc) := by
  obtain ⟨fuel, rfl⟩ := Nat.exists_eq_add_one_of_ne_zero (Nat.ne_of_gt (Nat.zero_lt_of_lt hfuel))
  -- on the fields that are left; an item takes at least one byte, so that the repetitions last
  induction left generalizing fuel first acc input with
  | nil =>
    rw [arrayOfBytes_nil]
    constructor
    · rintro ⟨hk, rfl⟩
      exact ⟨[], [], readItems_succ.mpr (.inl ⟨hk, rfl⟩), Nat.le_refl _, .nil, rfl⟩
    · rintro ⟨ws, taken, hr, hlen, htaken, rfl⟩
      cases List.length_eq_zero_iff.mp (Nat.le_zero.mp hlen)
      cases htaken
      rcases readItems_succ.mp hr with ⟨hk, -⟩ | ⟨_, _, _, _, -, -, -, e⟩
      · exact ⟨hk, rfl⟩
      · cases e
  | cons f left ih =>
    obtain ⟨hf, hreads⟩ := List.forall_mem_cons.mp reads
    have none_required : (f :: left).find? Field.required = none := by
      rw [List.find?_eq_none]
      intro g hg hr
      exact Bool.false_ne_true ((optional g hg).symm.trans hr)
    have hrest := (List.forall_mem_cons.mp optional).2
    rw [arrayOfBytes_cons]
    constructor
    · rintro (⟨hk, -, rfl⟩ | ⟨head, x, after, hk, hx, h⟩)
      · exact ⟨[], [], readItems_succ.mpr (.inl ⟨hk, rfl⟩), Nat.zero_le _, .nil, rfl⟩
      · have h1 := length_nextItem hk
        obtain ⟨w, hw, hR⟩ := (hf (by omega)).mp hx
        have h2 := forward hw
        obtain ⟨fuel, rfl⟩ := Nat.exists_eq_add_one_of_ne_zero (show fuel ≠ 0 by omega)
        obtain ⟨ws, taken, ho, hlen, htaken, rfl⟩ := (ih hreads hrest (by omega) fuel (by omega)).mp h
        refine ⟨w :: ws, (f.name, x) :: taken, ?_, Nat.succ_le_succ hlen, .cons ⟨rfl, hR⟩ htaken, rfl⟩
        exact readItems_succ.mpr (.inr ⟨head, w, after, ws, hk, hw, ho, rfl⟩)
    · rintro ⟨ws, taken, hr, hlen, htaken, rfl⟩
      rcases readItems_succ.mp hr with ⟨hk, rfl⟩ | ⟨head, w, after, others, hk, hw, ho, rfl⟩
      · cases htaken
        exact .inl ⟨hk, none_required, rfl⟩
      · rw [List.map_cons, List.zip_cons_cons] at htaken
        obtain ⟨⟨_, x⟩, taken, ⟨rfl, hR⟩, hothers, rfl⟩ := List.forall₂_cons_left_iff.mp htaken
        have h1 := length_nextItem hk
        have h2 := forward hw
        have hx := (hf (show head.length < size by omega)).mpr ⟨w, hw, hR⟩
        obtain ⟨fuel, rfl⟩ := Nat.exists_eq_add_one_of_ne_zero (show fuel ≠ 0 by omega)
        exact .inr ⟨head, x, after, hk, hx, (ih hreads hrest (by omega) fuel (by omega)).mpr
          ⟨others, taken, ho, Nat.le_of_succ_le_succ hlen, hothers, rfl⟩⟩

end

end Reader

/-! ## records -/

/-- whether a value may be written for a record: an object of its fields, none of them twice, or an array that is not
longer than the record -/
def Value.IsRecord (names : List String) : Value → Prop
  | .object entries => (Members.keys entries).Nodup ∧ ∀ e ∈ entries, e.1 ∈ names
  | .array ws => ws.length ≤ names.length
  | _ => False

section
variable {names : List String} {w : Value}

theorem Value.IsRecord.nodup (h : w.IsRecord names) (nodup : names.Nodup) : (w.stated names).keys.Nodup := by
  cases w with
  | object entries => exact h.1
  | array ws => exact Keyed.nodup_zip nodup ws
  | _ => exact h.elim

theorem Value.IsRecord.known (h : w.IsRecord names) {e : String × Value} (he : e ∈ w.stated names) : e.1 ∈ names := by
  cases w with
  | object entries => exact h.2 e he
  | array ws => exact (List.of_mem_zip he).1
  | _ => exact h.elim

end

namespace Reader

/-- what is read of a record, if `R` tells what is read of its fields -/
def RecordRead (names : List String) (R : String → Value → Value → Prop) (w v : Value) : Prop :=
  w.IsRecord names ∧ ∃ taken : Members, List.Forall₂ (ReadAs R) (w.stated names) taken ∧
    v = .object (Members.ofList taken)

theorem isSome_field?_iff {fields : List Field} {key : String} :
    (field? fields key).isSome = true ↔ key ∈ fields.map Field.name := by
  unfold field?
  rw [List.find?_isSome, List.mem_map]
  simp only [beq_iff_eq]

section
variable {name : String} {fields : List Field} {item : (size depth : Nat) → Bytes → Reading Value}
  {R : String → Value → Value → Prop} {size depth : Nat} {input opened rest : Bytes} {v : Value}
  (forward : Forward item) (reads : ∀ f ∈ fields, f.reader.Reads item (R f.name))
  (optional : ∀ f ∈ fields, f.required = false)
include forward reads optional

theorem reads_record_array (hb : skipBlank input = 91 :: opened) (hl : opened.length < size) :
    (record name true fields).fromBytes size (depth + 1) input = .ok (v, rest) ↔
      ∃ w, asWritten item size (depth + 1) input = .ok (w, rest) ∧ RecordRead (fields.map Field.name) R w v := by
  rw [fromBytes_record_array hb, asWritten_array hb, arrayOfBytes_reads forward reads optional hl hl]
  constructor
  · rintro ⟨ws, taken, hr, hlen, htaken, rfl⟩
    refine ⟨.array ws, map_eq_ok_iff.mpr ⟨(ws, rest), hr, rfl⟩, ?_, taken, htaken, rfl⟩
    show ws.length ≤ (fields.map Field.name).length
    rwa [List.length_map]
  · rintro ⟨w, hw, hrecord, taken, htaken, rfl⟩
    obtain ⟨⟨ws, after⟩, hr, e⟩ := map_eq_ok_iff.mp hw
    cases e
    have hlen : ws.length ≤ fields.length := by
      rw [← List.length_map (f := Field.name)]
      exact hrecord
    exact ⟨ws, taken, hr, hlen, htaken, rfl⟩

theorem reads_record_object (hb : skipBlank input = 123 :: opened) (hl : opened.length < size) :
    (record name true fields).fromBytes size (depth + 1) input = .ok (v, rest) ↔
      ∃ w, asWritten item size (depth + 1) input = .ok (w, rest) ∧ RecordRead (fields.map Field.name) R w v := by
  rw [fromBytes_record_object hb, asWritten_object hb, membersOfBytes_reads forward reads optional hl]
  constructor
  · rintro ⟨entries, taken, hr, htaken, rfl⟩
    have known : ∀ e ∈ entries, e.1 ∈ fields.map Field.name := fun e he => isSome_field?_iff.mp (htaken.known e he)
    exact ⟨.object entries, map_eq_ok_iff.mpr ⟨(entries, rest), hr, rfl⟩, ⟨htaken.once, known⟩, taken, htaken.read, rfl⟩
  · rintro ⟨w, hw, hrecord, taken, htaken, rfl⟩
    obtain ⟨⟨entries, after⟩, hr, e⟩ := map_eq_ok_iff.mp hw
    cases e
    have known : ∀ e ∈ entries, (field? fields e.1).isSome = true := fun e he => isSome_field?_iff.mpr (hrecord.2 e he)
    exact ⟨entries, taken, hr, ⟨hrecord.1, fun _ _ => rfl, known, htaken⟩, rfl⟩

/-- **A record without required fields is read exactly where one is written, whose fields can each be read.** -/
theorem reads_record : (record name true fields).Reads (asWritten item) (RecordRead (fields.map Field.name) R) := by
  intro size depth input rest v hl
  have behind : ∀ {b opened}, skipBlank input = b :: opened → opened.length < size :=
    fun hb => Nat.lt_trans (length_of_skipBlank hb) hl
  cases depth with
  | zero => exact ⟨fun h => absurd h fromBytes_record_zero_ne_ok, fun ⟨_, hw, _⟩ => nomatch hw⟩
  | succ depth =>
    constructor
    · intro h
      obtain ⟨opened, hb | hb⟩ := opens_of_fromBytes_record h
      · exact (reads_record_array forward reads optional hb (behind hb)).mp h
      · exact (reads_record_object forward reads optional hb (behind hb)).mp h
    · rintro ⟨w, hw, hread⟩
      obtain ⟨b, opened, hb, ho⟩ := opens_of_asWritten hw
      cases w with
      | array ws =>
        cases ho
        exact (reads_record_array forward reads optional hb (behind hb)).mpr ⟨_, hw, hread⟩
      | object entries =>
        cases ho
        exact (reads_record_object forward reads optional hb (behind hb)).mpr ⟨_, hw, hread⟩
      | _ => exact hread.1.elim

end

/-! ## fields of what is read -/

theorem Passed.of_some {R : Value → Value → Prop} {before v : Option Value} {w : Value}
    (h : Passed R before (some w) v) : ∃ x, v = some x ∧ R w x := by
  cases h with
  | read hR => exact ⟨_, rfl, hR⟩

theorem Passed.of_none {R : Value → Value → Prop} {before v : Option Value} (h : Passed R before none v) :
    v = before := by
  cases h with
  | left => rfl

theorem exists_taken {R : String → Value → Value → Prop} {stated : Members} (h : ∀ e ∈ stated, ∃ v, R e.1 e.2 v) :
    ∃ taken : Members, List.Forall₂ (ReadAs R) stated taken := by
  induction stated with
  | nil => exact ⟨[], .nil⟩
  | cons e stated ih =>
    obtain ⟨⟨v, hv⟩, others⟩ := List.forall_mem_cons.mp h
    obtain ⟨taken, htaken⟩ := ih others
    exact ⟨(e.1, v) :: taken, .cons ⟨rfl, hv⟩ htaken⟩

theorem exists_recordRead {names : List String} {R : String → Value → Value → Prop} {w : Value}
    (hrecord : w.IsRecord names) (h : ∀ e ∈ w.stated names, ∃ v, R e.1 e.2 v) : ∃ v, RecordRead names R w v := by
  obtain ⟨taken, htaken⟩ := exists_taken h
  exact ⟨_, hrecord, taken, htaken, rfl⟩

section
variable {R : String → Value → Value → Prop} {stated taken : Members} (h : List.Forall₂ (ReadAs R) stated taken)
include h

theorem keys_of_taken : taken.keys = stated.keys := by
  induction h with
  | nil => rfl
  | cons hread _ ih => exact congrArg₂ List.cons hread.1.symm ih

/-- what is read of a record has under each key what was read there -/
theorem passed_of_taken (once : stated.keys.Nodup) (key : String) :
    Passed (R key) none (stated.get? key) ((Members.ofList taken).get? key) := by
  rw [Members.get?_ofList (keys_of_taken h ▸ once)]
  -- from here on the first member of a key counts on both sides, whether or not it is the only one
  clear once
  induction h with
  | nil => exact .left
  | @cons e x stated taken hread _ ih =>
    obtain ⟨k, w⟩ := e
    obtain ⟨_, v⟩ := x
    obtain ⟨rfl, hR⟩ := hread
    by_cases hk : k = key
    · subst hk
      rw [Members.get?_cons_self, Members.get?_cons_self]
      exact .read hR
    · rw [Members.get?_cons_of_ne hk, Members.get?_cons_of_ne hk]
      exact ih

end

end Reader

end RequestPipeline.Json
