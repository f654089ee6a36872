import Mathlib.Tactic.SplitIfs
import RequestPipeline.Proofs.Json.Record

/-!
# Objects as they are written

An object that was read holds its members in key order, each key once; what stands in the document may name a key
twice.  `entries?` gives the members of a document that is an object as they are written.

* `entries?_eq_some_iff`   where the entries of a document stand;
* `ofBytes_object_iff`     its object is made of them, the later of two with one key staying.
-/

namespace RequestPipeline.Json

/-! ## results -/

section
variable {α β : Type}

theorem bind_eq_ok_iff {x : Except Fault α} {f : α → Except Fault β} {b : β} :
    x.bind f = .ok b ↔ ∃ a, x = .ok a ∧ f a = .ok b := by
  cases x with
  | error e => simp [Except.bind]
  | ok a => simp [Except.bind]

theorem map_eq_ok_iff {x : Except Fault α} {f : α → β} {b : β} :
    x.map f = .ok b ↔ ∃ a, x = .ok a ∧ f a = b := by
  cases x with
  | error e => simp [Except.map]
  | ok a => simp [Except.map]

theorem toOption_eq_some_iff {x : Except Fault α} {a : α} : x.toOption = some a ↔ x = .ok a := by
  cases x with
  | error e => simp [Except.toOption]
  | ok b => simp [Except.toOption]

theorem finish_eq_ok_iff {r : Reading α} {a : α} :
    finish r = .ok a ↔ ∃ rest, r = .ok (a, rest) ∧ skipBlank rest = [] := by
  unfold finish
  constructor
  · intro h
    split at h
    · cases h
    · split at h
      · rename_i hs
        cases h
        exact ⟨_, rfl, hs⟩
      · cases h
  · rintro ⟨rest, rfl, hs⟩
    dsimp only
    rw [hs]

end

theorem skipBlank_idem (input : Bytes) : skipBlank (skipBlank input) = skipBlank input := by
  induction input with
  | nil => rfl
  | cons b bs ih =>
    by_cases hb : isSpace b
    · have hs : skipBlank (b :: bs) = skipBlank bs := if_pos hb
      rw [hs, ih]
    · have hs : skipBlank (b :: bs) = b :: bs := if_neg hb
      rw [hs, hs]

/-- blanks in front of a value are not read -/
theorem readValue_skipBlank (size depth : Nat) (input : Bytes) :
    readValue size depth (skipBlank input) = readValue size depth input := by
  unfold readValue readNode
  rw [skipBlank_idem]

/-! ## entries -/

/-- reads the members of an object as they are written: in the order of the text, and a key that comes twice twice -/
def readEntries (size : Nat) (item : Bytes → Reading Value) :
    (fuel : Nat) → (first : Bool) → Bytes → Reading (List (String × Value))
  | 0, _, rest => flawBy .endInObject rest
  | fuel + 1, first, input =>
    match nextKey first input with
    | .error e => .error e
    | .ok (false, rest) => .ok ([], rest)
    | .ok (true, rest) =>
      match readText size [] rest with
      | .error e => .error e
      | .ok (key, rest) =>
        match colon rest with
        | .error e => .error e
        | .ok rest =>
          match item rest with
          | .error e => .error e
          | .ok (v, rest) =>
            (readEntries size item fuel false rest).map fun (entries, rest) => ((key, v) :: entries, rest)

section
variable (size : Nat) (item : Bytes → Reading Value)

theorem readMembers_eq (fuel : Nat) (first : Bool) (acc : Members) (input : Bytes) :
    readMembers size item fuel first acc input =
      (readEntries size item fuel first input).map fun (entries, rest) =>
        (entries.foldl (fun acc m => Members.insert m.1 m.2 acc) acc, rest) := by
  induction fuel generalizing first acc input with
  | zero => rfl
  | succ fuel ih =>
    unfold readMembers readEntries
    cases nextKey first input with
    | error e => rfl
    | ok next =>
      obtain ⟨more, rest⟩ := next
      cases more with
      | false => rfl
      | true =>
        dsimp only
        cases readText size [] rest with
        | error e => rfl
        | ok named =>
          dsimp only
          cases colon named.2 with
          | error e => rfl
          | ok rest =>
            dsimp only
            cases item rest with
            | error e => rfl
            | ok read =>
              dsimp only
              rw [ih]
              cases readEntries size item fuel false read.2 <;> rfl

variable {size item}

/-- the entries of an object: none, or a first one and those behind it -/
theorem readEntries_succ {fuel : Nat} {first : Bool} {input rest : Bytes} {entries : List (String × Value)} :
    readEntries size item (fuel + 1) first input = .ok (entries, rest) ↔
      (nextKey first input = .ok (false, rest) ∧ entries = []) ∨
      ∃ named key valued v after others, nextKey first input = .ok (true, named) ∧
        readText size [] named = .ok (key, valued) ∧
        (colon valued).bind item = .ok (v, after) ∧
        readEntries size item fuel false after = .ok (others, rest) ∧ entries = (key, v) :: others := by
  constructor
  · intro h
    unfold readEntries at h
    split at h
    · cases h
    · rename_i r hk
      cases h
      exact .inl ⟨hk, rfl⟩
    · rename_i named hk
      split at h
      · cases h
      · rename_i key valued ht
        split at h
        · cases h
        · rename_i value hc
          split at h
          · cases h
          · rename_i v after hv
            obtain ⟨⟨others, last⟩, ho, he⟩ := map_eq_ok_iff.mp h
            cases he
            exact .inr ⟨named, key, valued, v, after, others, hk, ht, by rw [hc]; exact hv, ho, rfl⟩
  · rintro (⟨hk, rfl⟩ | ⟨named, key, valued, v, after, others, hk, ht, hv, ho, rfl⟩)
    · unfold readEntries
      rw [hk]
    · obtain ⟨value, hc, hv⟩ := bind_eq_ok_iff.mp hv
      unfold readEntries
      simp only [hk, ht, hc, hv, ho]
      rfl

end

/-- the members of a document that is an object, as they are written -/
def entries? (document : Bytes) : Option (List (String × Value)) :=
  match skipBlank document with
  | 123 :: rest =>
    (finish (readEntries (document.length + 1) (readValue (document.length + 1) (maxDepth - 1))
      (document.length + 1) true rest)).toOption
  | _ => none

theorem entries?_eq_some_iff {document : Bytes} {entries : List (String × Value)} :
    entries? document = some entries ↔ ∃ opened rest, skipBlank document = 123 :: opened ∧
      readEntries (document.length + 1) (readValue (document.length + 1) (maxDepth - 1)) (document.length + 1) true
        opened = .ok (entries, rest) ∧ skipBlank rest = [] := by
  unfold entries?
  split
  · rename_i opened hd
    rw [toOption_eq_some_iff, finish_eq_ok_iff]
    constructor
    · rintro ⟨rest, hr, hs⟩
      exact ⟨opened, rest, hd, hr, hs⟩
    · rintro ⟨o, rest, ho, hr, hs⟩
      cases List.cons.inj (hd.symm.trans ho) with
      | intro _ ho => exact ⟨rest, ho ▸ hr, hs⟩
  · rename_i hd
    constructor
    · intro h
      cases h
    · rintro ⟨opened, rest, ho, -, -⟩
      exact absurd ho (hd opened)

/-! ## items -/

section
variable {item : Bytes → Reading Value}

theorem readItems_eq (fuel : Nat) (first : Bool) (acc : List Value) (input : Bytes) :
    readItems item fuel first acc input =
      (readItems item fuel first [] input).map fun (vs, rest) => (acc.reverse ++ vs, rest) := by
  induction fuel generalizing first acc input with
  | zero => rfl
  | succ fuel ih =>
    unfold readItems
    cases nextItem first input with
    | error e => rfl
    | ok next =>
      obtain ⟨more, rest⟩ := next
      cases more with
      | false => simp [Except.map]
      | true =>
        dsimp only
        cases item rest with
        | error e => rfl
        | ok read =>
          obtain ⟨v, after⟩ := read
          dsimp only
          rw [ih false (v :: acc), ih false [v]]
          cases readItems item fuel false [] after with
          | error e => rfl
          | ok others => simp [Except.map]

/-- the items of an array: none, or a first one and those behind it -/
theorem readItems_succ {fuel : Nat} {first : Bool} {input rest : Bytes} {vs : List Value} :
    readItems item (fuel + 1) first [] input = .ok (vs, rest) ↔
      (nextItem first input = .ok (false, rest) ∧ vs = []) ∨
      ∃ head v after others, nextItem first input = .ok (true, head) ∧ item head = .ok (v, after) ∧
        readItems item fuel false [] after = .ok (others, rest) ∧ vs = v :: others := by
  constructor
  · intro h
    rw [readItems] at h
    split at h
    · cases h
    · rename_i r hk
      cases h
      exact .inl ⟨hk, rfl⟩
    · rename_i head hk
      split at h
      · cases h
      · rename_i v after hv
        rw [readItems_eq] at h
        obtain ⟨⟨others, last⟩, ho, e⟩ := map_eq_ok_iff.mp h
        cases e
        exact .inr ⟨head, v, after, others, hk, hv, ho, rfl⟩
  · rintro (⟨hk, rfl⟩ | ⟨head, v, after, others, hk, hv, ho, rfl⟩)
    · rw [readItems, hk]
      rfl
    · rw [readItems, hk]
      dsimp only
      rw [hv]
      dsimp only
      rw [readItems_eq, ho]
      rfl

end

/-! ## values by their first byte -/

/-- the first byte of a value -/
def Opens : Value → UInt8 → Prop
  | .null, b => b = 110
  | .bool _, b => b = 116 ∨ b = 102
  | .number _, b => b = 45 ∨ isDigit b = true
  | .string _, b => b = 34
  | .array _, b => b = 91
  | .object _, b => b = 123

section
variable {size depth : Nat} {input rest opened : Bytes} {v : Value}

theorem opens_of_map {α : Type} {b : UInt8} {x : Except Fault α} {f : α → Value × Bytes}
    (h : x.map f = .ok (v, rest)) (hb : ∀ a, Opens (f a).1 b) : Opens v b := by
  obtain ⟨a, -, e⟩ := map_eq_ok_iff.mp h
  have ha := hb a
  rwa [e] at ha

theorem opens_of_readValue (h : readValue size depth input = .ok (v, rest)) :
    ∃ b tail, skipBlank input = b :: tail ∧ Opens v b := by
  unfold readValue readNode at h
  split at h
  · cases h
  rename_i b tail hb
  refine ⟨b, tail, hb, ?_⟩
  split_ifs at h with h110 h116 h102 h45 hd h34 h91 h123
  · exact opens_of_map h fun _ => h110
  · exact opens_of_map h fun _ => .inl h116
  · exact opens_of_map h fun _ => .inr h102
  · exact opens_of_map h fun _ => .inl h45
  · exact opens_of_map h fun _ => .inr hd
  · exact opens_of_map h fun _ => h34
  · cases hn : readNested size depth with
    | none => cases hn ▸ h
    | some item =>
      rw [hn] at h
      exact opens_of_map h fun _ => h91
  · cases hn : readNested size depth with
    | none => cases hn ▸ h
    | some item =>
      rw [hn] at h
      exact opens_of_map h fun _ => h123
  · cases h

/-- a value that is read from a first byte -/
theorem opens_of_readValue_cons {b : UInt8} {tail : Bytes} (hb : skipBlank input = b :: tail)
    (h : readValue size depth input = .ok (v, rest)) : Opens v b := by
  obtain ⟨c, tail', hc, ho⟩ := opens_of_readValue h
  cases hb.symm.trans hc
  exact ho

theorem readValue_text (hb : skipBlank input = 34 :: opened) :
    readValue size depth input = (readText size [] opened).map fun (s, rest) => (.string s, rest) := by
  unfold readValue readNode
  rw [hb]
  rfl

theorem readValue_array (hb : skipBlank input = 91 :: opened) :
    readValue size (depth + 1) input =
      (readItems (readValue size depth) size true [] opened).map fun (vs, rest) => (.array vs, rest) := by
  unfold readValue readNode
  rw [hb]
  rfl

theorem readValue_object (hb : skipBlank input = 123 :: opened) :
    readValue size (depth + 1) input =
      (readMembers size (readValue size depth) size true [] opened).map fun (ms, rest) => (.object ms, rest) := by
  unfold readValue readNode
  rw [hb]
  rfl

end

/-- the object of a document is made of its entries -/
theorem ofBytes_object_iff {document : Bytes} {ms : Members} :
    Value.ofBytes document = .ok (.object ms) ↔
      ∃ entries, entries? document = some entries ∧ Members.ofList entries = ms := by
  unfold Value.ofBytes
  rw [finish_eq_ok_iff]
  constructor
  · rintro ⟨rest, h, hs⟩
    obtain ⟨b, opened, hb, ho⟩ := opens_of_readValue h
    cases ho
    rw [show maxDepth = (maxDepth - 1) + 1 from rfl, readValue_object hb, readMembers_eq] at h
    obtain ⟨⟨ms', rest'⟩, hm, e⟩ := map_eq_ok_iff.mp h
    obtain ⟨⟨entries, rest''⟩, hr, e'⟩ := map_eq_ok_iff.mp hm
    cases e
    cases e'
    exact ⟨entries, entries?_eq_some_iff.mpr ⟨opened, _, hb, hr, hs⟩, rfl⟩
  · rintro ⟨entries, he, rfl⟩
    obtain ⟨opened, rest, hb, hr, hs⟩ := entries?_eq_some_iff.mp he
    refine ⟨rest, ?_, hs⟩
    rw [show maxDepth = (maxDepth - 1) + 1 from rfl, readValue_object hb, readMembers_eq]
    show ((readEntries _ _ _ _ _).map _).map _ = _
    rw [hr]
    rfl

end RequestPipeline.Json
