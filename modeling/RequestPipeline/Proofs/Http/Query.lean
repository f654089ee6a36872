import RequestPipeline.Proofs.Json.Members
import RequestPipeline.Serving.HttpEndpoint

/-!
# The object of a query string

A pair adds its value to those that the object holds under its key, and leaves the other keys alone.  So
**under each key an object holds the values of that key, in order** (`get?_collect`): the only one as a text, several
as an array, whatever pairs of other keys stand between them.

* `gathers_collect`      each key of the pairs is there once, and no other;
* `collect_eq_iff`       how the pairs of different keys are interleaved is all that is forgotten.

`parse_gathers`: **a query string is always read, and nothing of it is lost, doubled or put in another order.**
-/

namespace RequestPipeline.Query

open Json (Value Members)

theorem sorted_add (key value : String) {acc : Members} (h : acc.Sorted) : (add key value acc).Sorted := by
  unfold add
  split <;> exact Members.sorted_insert h _ _

theorem sorted_collect (pairs : List (String × String)) : (collect pairs).Sorted :=
  List.foldlRecOn (motive := Members.Sorted) pairs _ Members.sorted_nil fun _ h p _ => sorted_add p.1 p.2 h

theorem sorted_parse (text : String) : (parse text).Sorted := sorted_collect _

/-! ## the values of a key -/

def valuesOf (key : String) (pairs : List (String × String)) : List String :=
  (pairs.filter fun p => p.1 = key).map Prod.snd

/-- what an object holds for the values of a key: nothing, the only one as a text, or the array of all -/
def held : List String → Option Value
  | [] => none
  | [v] => some (.string v)
  | vs => some (.array (vs.map .string))

/-- one more value of a key -/
theorem get?_add_self {key : String} {acc : Members} {vs : List String} (h : acc.get? key = held vs) (value : String) :
    (add key value acc).get? key = held (vs ++ [value]) := by
  unfold add
  match vs with
  | [] =>
    rw [h]
    exact Members.get?_insert_self _ _ _
  | [v] =>
    rw [h]
    exact Members.get?_insert_self _ _ _
  | v :: w :: vs =>
    rw [h]
    refine (Members.get?_insert_self _ _ _).trans ?_
    show some (Value.array ((v :: w :: vs).map .string ++ [.string value])) = _
    rw [← List.map_singleton, ← List.map_append]
    rfl

/-- a value of another key -/
theorem get?_add_of_ne {key other : String} (h : other ≠ key) (value : String) (acc : Members) :
    (add key value acc).get? other = acc.get? other := by
  unfold add
  split <;> exact Members.get?_insert_of_ne h _ _

theorem get?_foldl_add (pairs : List (String × String)) {key : String} {acc : Members} {vs : List String}
    (h : acc.get? key = held vs) :
    (pairs.foldl (fun acc (k, v) => add k v acc) acc).get? key = held (vs ++ valuesOf key pairs) := by
  induction pairs generalizing acc vs with
  | nil => rwa [valuesOf, List.filter_nil, List.map_nil, List.append_nil]
  | cons p pairs ih =>
    obtain ⟨k, v⟩ := p
    rw [List.foldl_cons]
    by_cases hk : k = key
    · subst hk
      have hvs : valuesOf k ((k, v) :: pairs) = v :: valuesOf k pairs := by simp [valuesOf]
      rw [ih (get?_add_self h v), hvs, List.append_assoc]
      rfl
    · have hvs : valuesOf key ((k, v) :: pairs) = valuesOf key pairs := by simp [valuesOf, hk]
      rw [ih ((get?_add_of_ne (Ne.symm hk) v acc).trans h), hvs]

/-- **Under each key an object holds the values of that key, in order.** -/
theorem get?_collect (pairs : List (String × String)) (key : String) :
    (collect pairs).get? key = held (valuesOf key pairs) := by
  have hnone : Members.get? key [] = held [] := rfl
  exact get?_foldl_add pairs hnone

/-! ## the whole object -/

theorem valuesOf_eq_nil_iff {key : String} {pairs : List (String × String)} :
    valuesOf key pairs = [] ↔ key ∉ pairs.map Prod.fst := by
  unfold valuesOf
  simp only [List.map_eq_nil_iff, List.filter_eq_nil_iff, decide_eq_true_eq, List.mem_map, not_exists, not_and]

theorem held_eq_none_iff {vs : List String} : held vs = none ↔ vs = [] := by
  match vs with
  | [] => exact ⟨fun _ => rfl, fun _ => rfl⟩
  | [_] => exact ⟨nofun, nofun⟩
  | _ :: _ :: _ => exact ⟨nofun, nofun⟩

theorem held_of_two_le {vs : List String} (h : 2 ≤ vs.length) : held vs = some (.array (vs.map .string)) := by
  match vs, h with
  | _ :: _ :: _, _ => rfl

/-- the values can be read off what is held for them -/
theorem held_injective {vs ws : List String} (h : held vs = held ws) : vs = ws := by
  have hmap : ∀ {vs ws : List String}, vs.map Value.string = ws.map Value.string → vs = ws :=
    (List.map_inj_right fun _ _ => Value.string.inj).mp
  match vs, ws with
  | [], [] => rfl
  | [_], [_] => exact hmap (congrArg (fun v => [v]) (Option.some.inj h))
  | _ :: _ :: _, _ :: _ :: _ => exact hmap (Value.array.inj (Option.some.inj h))
  | [], _ :: ws => cases ws <;> cases h
  | _ :: vs, [] => cases vs <;> cases h
  | [_], _ :: _ :: _ => cases h
  | _ :: _ :: _, [_] => cases h

/-- two lists of pairs that differ at most in how the pairs of different keys are interleaved -/
def Interleaved (pairs others : List (String × String)) : Prop := ∀ key, valuesOf key pairs = valuesOf key others

/-- an object that has the keys of some pairs, each once, and under each key what the pairs have for it, in order -/
structure Gathers (ms : Members) (pairs : List (String × String)) : Prop where
  nodup : (Members.keys ms).Nodup
  mem_keys : ∀ key, key ∈ Members.keys ms ↔ key ∈ pairs.map Prod.fst
  once : ∀ key v, valuesOf key pairs = [v] → ms.get? key = some (.string v)
  several : ∀ key, 2 ≤ (valuesOf key pairs).length → ms.get? key = some (.array ((valuesOf key pairs).map .string))

theorem gathers_collect (pairs : List (String × String)) : Gathers (collect pairs) pairs where
  nodup := Members.nodup_keys (sorted_collect pairs)
  mem_keys key := by
    refine Decidable.not_iff_not.mp ?_
    rw [← Members.get?_eq_none_iff, get?_collect, held_eq_none_iff, valuesOf_eq_nil_iff]
  once key v h := by
    rw [get?_collect, h]
    rfl
  several key h := by
    rw [get?_collect, held_of_two_le h]

theorem collect_eq_iff {pairs others : List (String × String)} :
    collect pairs = collect others ↔ Interleaved pairs others := by
  constructor
  · intro h key
    have hk : held (valuesOf key pairs) = held (valuesOf key others) := by rw [← get?_collect, ← get?_collect, h]
    exact held_injective hk
  · intro h
    refine Members.eq_of_sorted (sorted_collect _) (sorted_collect _) fun key => ?_
    rw [get?_collect, get?_collect, h key]

/-- **A query string is gathered key by key.**  Its object has the keys of its pairs, each once and with all of its values
in order, and two query strings have the same object exactly if their pairs differ at most in how those of different keys
are interleaved.  No query string is refused: a request is read whenever its body is, and with this object. -/
theorem parse_gathers (text : String) :
    Gathers (parse text) (Form.pairs text) ∧
      (∀ other, parse other = parse text ↔ Interleaved (Form.pairs other) (Form.pairs text)) ∧
      ∀ (e : HttpEndpoint) (r : Request) (path : String),
        (e.inbound { r with target := ⟨path, some text⟩ }).toOption.map Inbound.query =
          (readBody e.maxBody r.headers r.body).toOption.map fun _ => parse text := by
  refine ⟨gathers_collect _, fun other => collect_eq_iff, fun e r path => ?_⟩
  unfold HttpEndpoint.inbound
  dsimp only
  cases readBody e.maxBody r.headers r.body with
  | error fault => rfl
  | ok body => rfl

/-- values of one key keep their order, and a value that is not stated is empty -/
example : parse "id=3&q=x&id=1&q" =
    [("id", .array [.string "3", .string "1"]), ("q", .array [.string "x", .string ""])] := by
  rfl

end RequestPipeline.Query
