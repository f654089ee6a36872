import RequestPipeline.Proofs.Http.Query
import RequestPipeline.Proofs.Validation.Coercion

/-!
# Lists

A list is given as an array, as a text with commas or as one number.  `Elements` says what its elements are, and a list
is coerced element by element.

* `listItems?_eq_some_iff`     these are the elements that coercion goes over;
* `elements_of_held`           what a query string holds under a key has the segments of all values of the key.

`list_spelled_alike`: **a list in a query string is the same list whether its values stand under one key after the other
or in one text with commas.**
-/

namespace RequestPipeline.Validation

open Json (Value)

/-! ## elements -/

/-- what one item of an array stands for: a text for its segments, and everything else for itself -/
inductive Expands : Value → List Value → Prop
  | text (s : String) : Expands (.string s) ((Text.segments s).map .string)
  | other {v : Value} (h : ∀ s, v ≠ .string s) : Expands v [v]

/-- the elements of a value that is taken for a list -/
inductive Elements : Value → List Value → Prop
  | text (s : String) : Elements (.string s) ((Text.segments s).map .string)
  | number (n : Json.Number) : Elements (.number n) [.number n]
  | array {items : List Value} {parts : List (List Value)} (h : List.Forall₂ Expands items parts) :
    Elements (.array items) parts.flatten

theorem expands_iff {v : Value} {vs : List Value} : Expands v vs ↔ expandItem v = vs := by
  constructor
  · intro h
    cases h with
    | text s => rw [expandItem, Text.commaParts_eq]
    | other h =>
      cases v with
      | string s => exact absurd rfl (h s)
      | _ => rfl
  · rintro rfl
    cases v with
    | string s =>
      rw [expandItem, Text.commaParts_eq]
      exact .text s
    | _ => exact .other fun _ => Value.noConfusion

theorem forall₂_expands_iff {items : List Value} {parts : List (List Value)} :
    List.Forall₂ Expands items parts ↔ items.map expandItem = parts := by
  have hrel : Expands = fun v vs => expandItem v = vs := by
    funext v vs
    exact propext expands_iff
  have hmap : List.Forall₂ (fun v vs => expandItem v = vs) items parts ↔ List.Forall₂ Eq (items.map expandItem) parts :=
    List.forall₂_map_left_iff.symm
  rw [hrel, hmap, List.forall₂_eq_eq_eq]

theorem listItems?_eq_some_iff {v : Value} {vs : List Value} : listItems? v = some vs ↔ Elements v vs := by
  constructor
  · intro h
    cases v with
    | string s =>
      obtain rfl := Option.some.inj h
      rw [Text.commaParts_eq]
      exact .text s
    | number n =>
      obtain rfl := Option.some.inj h
      exact .number n
    | array items =>
      obtain rfl := Option.some.inj h
      rw [List.flatMap_def]
      exact .array (forall₂_expands_iff.mpr rfl)
    | _ => cases h
  · intro h
    cases h with
    | text s => rw [listItems?, Text.commaParts_eq]
    | number n => rfl
    | array h => rw [listItems?, List.flatMap_def, forall₂_expands_iff.mp h]

/-! ## element by element -/

/-- the coercion of a list depends on its elements alone -/
theorem coerce_of_elements {v w : Value} {items : List Value} (hv : Elements v items) (hw : Elements w items) :
    coerce v .stringList = coerce w .stringList ∧ coerce v .integerList = coerce w .integerList := by
  have hsame : listItems? v = listItems? w :=
    (listItems?_eq_some_iff.mpr hv).trans (listItems?_eq_some_iff.mpr hw).symm
  unfold coerce
  rw [hsame]
  exact ⟨rfl, rfl⟩

theorem coerce_stringList {v : Value} {ss : List String} (h : Elements v (ss.map .string)) :
    coerce v .stringList = some (.array (ss.map .string)) := by
  have hall : allItems? text? (ss.map .string) = some ss := allItems?_map fun _ _ => rfl
  show ((listItems? v).bind fun vs => (allItems? text? vs).map fun ss => Value.array (ss.map .string)) = _
  rw [listItems?_eq_some_iff.mpr h, Option.bind_some, hall]
  rfl

/-! ## query strings -/

theorem elements_of_held {xs : List String} {v : Value} (h : Query.held xs = some v) :
    Elements v ((xs.flatMap Text.segments).map .string) := by
  match xs with
  | [] => cases h
  | [x] =>
    obtain rfl := Option.some.inj h
    rw [List.flatMap_singleton]
    exact .text x
  | x :: y :: xs =>
    obtain rfl := Option.some.inj h
    generalize x :: y :: xs = all
    have hparts : List.Forall₂ Expands (all.map Value.string) (all.map fun x => (Text.segments x).map Value.string) := by
      rw [List.forall₂_map_left_iff, List.forall₂_map_right_iff, List.forall₂_same]
      exact fun x _ => .text x
    rw [List.map_flatMap, List.flatMap_def]
    exact .array hparts

/-- **One list in two spellings.**  Of two query strings one has the values `xs` under a key, in this order and whatever
stands between them, and the other only all of them joined with commas.  What the two hold under the key is coerced to
the same list, or to none, and to the list of all segments of the values if texts are asked for. -/
theorem list_spelled_alike {q r key : String} {xs : List String} (nonempty : xs ≠ [])
    (hq : Query.valuesOf key (Form.pairs q) = xs) (hr : Query.valuesOf key (Form.pairs r) = [",".intercalate xs]) :
    ∃ v w, (Query.parse q).get? key = some v ∧ (Query.parse r).get? key = some w ∧
      coerce v .stringList = coerce w .stringList ∧ coerce v .integerList = coerce w .integerList ∧
      coerce v .stringList = some (.array ((xs.flatMap Text.segments).map .string)) := by
  have hheld : ∃ v, Query.held xs = some v := by
    match xs, nonempty with
    | [x], _ => exact ⟨_, rfl⟩
    | _ :: _ :: _, _ => exact ⟨_, rfl⟩
  obtain ⟨v, hv⟩ := hheld
  have hvs : Elements v ((xs.flatMap Text.segments).map .string) := elements_of_held hv
  have hws : Elements (.string (",".intercalate xs)) ((xs.flatMap Text.segments).map .string) := by
    rw [← Text.segments_intercalate nonempty]
    exact .text _
  obtain ⟨hstrings, hintegers⟩ := coerce_of_elements hvs hws
  refine ⟨v, .string (",".intercalate xs), ?_, ?_, hstrings, hintegers, coerce_stringList hvs⟩
  · rw [Query.parse, Query.get?_collect, hq, hv]
  · rw [Query.parse, Query.get?_collect, hr]
    rfl

theorem list_spelled_alike_tagged :
    let xs := ["1,x", "", " 2"]
    xs ≠ [] ∧ Query.valuesOf "id" (Form.pairs "id=1,x&tag=b&id=&id=+2") = xs ∧
    Query.valuesOf "id" (Form.pairs "id=1%2Cx,,+2") = [",".intercalate xs] ∧
    ∃ v w, (Query.parse "id=1,x&tag=b&id=&id=+2").get? "id" = some v ∧
      (Query.parse "id=1%2Cx,,+2").get? "id" = some w ∧
      coerce v .stringList = coerce w .stringList ∧ coerce v .integerList = coerce w .integerList ∧
      coerce v .stringList = some (.array ((xs.flatMap Text.segments).map .string)) := by
  intro xs
  have nonempty : xs ≠ [] := List.cons_ne_nil _ _
  have hq : Query.valuesOf "id" (Form.pairs "id=1,x&tag=b&id=&id=+2") = xs := by decide +kernel
  have hr : Query.valuesOf "id" (Form.pairs "id=1%2Cx,,+2") = [",".intercalate xs] := by decide +kernel
  exact ⟨nonempty, hq, hr, list_spelled_alike nonempty hq hr⟩

end RequestPipeline.Validation
