import RequestPipeline.Proofs.Json.Members
import RequestPipeline.Proofs.Reply.Agreement

/-!
# What a projection keeps

The entry of a name that stands last in an exposure decides what is shown under it (`Lists`).  A leaf of a value, a
scalar or null, stands at a path of keys, whatever arrays it passes through (`Leaf`); `Shows` says which paths an
exposure shows: all keys but the last have nested entries, each in the exposure of the entry before, and the last key
has an entry of either kind.

* `keys_projectMembers`, `get?_projectMembers`   the members of a projected object;
* `itemAt?_project`      arrays within arrays keep their shape, under one exposure;
* `leaf_project_iff`     the leaves of a projection are those of the value at the paths that are shown;
* `project_project`      projecting twice is projecting once.

`projection_exact` puts them together.
-/

namespace RequestPipeline

open Json (Value Members)

/-! ## values from inside -/

namespace Json.Value

/-- a value that is neither an array nor an object -/
def IsLeaf : Value → Prop
  | .array _ => False
  | .object _ => False
  | _ => True

/-- the item that positions in arrays within arrays lead to -/
def itemAt? : List Nat → Value → Option Value
  | [], v => some v
  | i :: positions, .array vs => vs[i]?.bind (itemAt? positions)
  | _ :: _, _ => none

/-- a leaf stands in a value at a path of keys; positions in arrays are no part of the path -/
inductive Leaf (s : Value) : List String → Value → Prop
  | here : s.IsLeaf → Leaf s [] s
  | item {path : List String} {vs : List Value} {v : Value} : v ∈ vs → Leaf s path v → Leaf s path (.array vs)
  | member {key : String} {path : List String} {ms : Members} {v : Value} :
      ms.get? key = some v → Leaf s path v → Leaf s (key :: path) (.object ms)

end Json.Value

namespace Exposure

/-! ## entries -/

/-- the last entry of a name: plain if there is nothing inside, else nested -/
def Lists (e : Exposure) (key : String) (inside : Option Exposure) : Prop :=
  ∃ before after, e.entries = before ++ (key, inside) :: after ∧ ∀ entry ∈ after, entry.1 ≠ key

/-- the paths that an exposure shows -/
inductive Shows : Exposure → List String → Prop
  | nil (e : Exposure) : Shows e []
  | last {e : Exposure} {key : String} {inside : Option Exposure} : e.Lists key inside → Shows e [key]
  | cons {e inner : Exposure} {key : String} {path : List String} :
      e.Lists key (some inner) → Shows inner path → Shows e (key :: path)

theorem inside?_eq_some_iff {e shown : Exposure} {key : String} :
    e.inside? key = some shown ↔ ∃ inside, e.Lists key inside ∧ shown = inside.getD nothing := by
  unfold inside? Lists
  rw [Option.map_eq_some_iff]
  constructor
  · rintro ⟨⟨k, inside⟩, hf, rfl⟩
    -- the entry that is found from behind stands in front of entries of other names
    obtain ⟨hk, after, before, hs, hne⟩ := List.find?_eq_some_iff_append.mp hf
    obtain rfl : k = key := eq_of_beq hk
    refine ⟨inside, ⟨before.reverse, after.reverse, ?_, fun entry he => ?_⟩, rfl⟩
    · rw [← List.reverse_reverse e.entries, hs]
      simp
    · simpa using hne entry (List.mem_reverse.mp he)
  · rintro ⟨inside, ⟨before, after, hs, hne⟩, rfl⟩
    refine ⟨(key, inside), List.find?_eq_some_iff_append.mpr ⟨beq_self_eq_true key, after.reverse, before.reverse, ?_,
      fun entry he => ?_⟩, rfl⟩
    · rw [hs]
      simp
    · simpa using hne entry (List.mem_reverse.mp he)

theorem inside?_of_lists {e : Exposure} {key : String} {inside : Option Exposure} (h : e.Lists key inside) :
    e.inside? key = some (inside.getD nothing) :=
  inside?_eq_some_iff.mpr ⟨inside, h, rfl⟩

theorem isSome_inside? (e : Exposure) (key : String) : (e.inside? key).isSome = e.exposes key := by
  unfold inside? exposes
  rw [Option.isSome_map, List.isSome_find?, List.any_reverse]

theorem exposes_iff (e : Exposure) (key : String) : e.exposes key = true ↔ ∃ inside, e.Lists key inside := by
  rw [← isSome_inside?, Option.isSome_iff_exists]
  simp only [inside?_eq_some_iff]
  exact ⟨fun ⟨_, inside, h, _⟩ => ⟨inside, h⟩, fun ⟨inside, h⟩ => ⟨_, inside, h, rfl⟩⟩

theorem not_lists_nothing (key : String) (inside : Option Exposure) : ¬ nothing.Lists key inside := by
  rintro ⟨before, after, h, -⟩
  exact List.append_ne_nil_of_right_ne_nil before (List.cons_ne_nil _ _) h.symm

/-- no key is shown of what shows nothing -/
theorem eq_nil_of_shows_nothing {path : List String} (h : nothing.Shows path) : path = [] := by
  cases h with
  | nil => rfl
  | last h => exact absurd h (not_lists_nothing _ _)
  | cons h _ => exact absurd h (not_lists_nothing _ _)

/-- a path is shown by an entry and what it shows inside -/
theorem shows_cons_iff {e : Exposure} {key : String} {path : List String} :
    e.Shows (key :: path) ↔ ∃ inside, e.Lists key inside ∧ (inside.getD nothing).Shows path := by
  constructor
  · intro h
    cases h with
    | last h => exact ⟨_, h, .nil _⟩
    | cons h hs => exact ⟨_, h, hs⟩
  · rintro ⟨inside, h, hs⟩
    cases inside with
    | none =>
      obtain rfl := eq_nil_of_shows_nothing hs
      exact .last h
    | some inner => exact .cons h hs

/-! ## the parts of a projection -/

theorem project_of_isLeaf {v : Value} (h : v.IsLeaf) (e : Exposure) : e.project v = v := by
  cases v with
  | array vs => exact h.elim
  | object ms => exact h.elim
  | _ => rfl

theorem project_array (e : Exposure) (vs : List Value) : e.project (.array vs) = .array (vs.map e.project) :=
  congrArg Value.array (projectItems_eq_map e vs)

/-- a projected object has the keys that are exposed, in their order -/
theorem keys_projectMembers (e : Exposure) (ms : Members) :
    Members.keys (e.projectMembers ms) = ms.keys.filter e.exposes := by
  induction ms with
  | nil => rfl
  | cons m ms ih =>
    obtain ⟨k, v⟩ := m
    have he := isSome_inside? e k
    show _ = (k :: Members.keys ms).filter e.exposes
    cases hk : e.inside? k with
    | none =>
      rw [hk] at he
      rw [projectMembers_hidden hk, ih, List.filter_cons_of_neg (by rw [← he]; exact Bool.false_ne_true)]
    | some inner =>
      rw [hk] at he
      rw [projectMembers_shown hk, List.filter_cons_of_pos he.symm, ← ih]
      rfl

/-- under each key a projected object has the value that was there, projected through what is shown inside -/
theorem get?_projectMembers (e : Exposure) (ms : Members) (key : String) :
    Members.get? key (e.projectMembers ms) = (e.inside? key).bind fun inner => (ms.get? key).map inner.project := by
  induction ms with
  | nil => cases e.inside? key <;> rfl
  | cons m ms ih =>
    obtain ⟨k, v⟩ := m
    by_cases hkey : k = key
    · subst hkey
      rw [Members.get?_cons_self]
      cases hk : e.inside? k with
      | none =>
        rw [projectMembers_hidden hk, ih, hk]
        rfl
      | some inner =>
        rw [projectMembers_shown hk, Members.get?_cons_self]
        rfl
    · rw [Members.get?_cons_of_ne hkey, ← ih]
      cases hk : e.inside? k with
      | none => rw [projectMembers_hidden hk]
      | some inner => rw [projectMembers_shown hk, Members.get?_cons_of_ne hkey]

/-- arrays keep their shape, and what is in them is projected as they are -/
theorem itemAt?_project (e : Exposure) (positions : List Nat) (v : Value) :
    (e.project v).itemAt? positions = (v.itemAt? positions).map e.project := by
  induction positions generalizing v with
  | nil => rfl
  | cons i positions ih =>
    cases v with
    | array vs =>
      rw [project_array]
      show (vs.map e.project)[i]?.bind (Value.itemAt? positions) = (vs[i]?.bind (Value.itemAt? positions)).map e.project
      rw [List.getElem?_map]
      cases vs[i]? with
      | none => rfl
      | some v => exact ih v
    | _ => rfl

theorem project_nothing_object (ms : Members) : nothing.project (.object ms) = .object [] := by
  have h : Members.keys (nothing.projectMembers ms) = [] := by
    rw [keys_projectMembers, List.filter_eq_nil_iff]
    exact fun _ _ => Bool.false_ne_true
  exact congrArg Value.object (List.map_eq_nil_iff.mp h)

/-! ## leaves -/

/-- a leaf of a projection is one of the value, at a path that is shown -/
theorem leaf_of_leaf_project {s w : Value} {path : List String} (h : Value.Leaf s path w) :
    ∀ {e : Exposure} {v : Value}, e.project v = w → Value.Leaf s path v ∧ e.Shows path := by
  induction h with
  | here leaf =>
    intro e v hv
    cases v with
    | array vs =>
      rw [← hv, project_array] at leaf
      exact leaf.elim
    | object ms =>
      rw [← hv] at leaf
      exact leaf.elim
    | _ =>
      cases hv
      exact ⟨.here leaf, .nil e⟩
  | item hmem _ ih =>
    intro e v hv
    cases v with
    | array vs =>
      rw [project_array] at hv
      cases hv
      obtain ⟨v, hvs, hp⟩ := List.mem_map.mp hmem
      obtain ⟨hleaf, hshows⟩ := ih hp
      exact ⟨.item hvs hleaf, hshows⟩
    | _ => cases hv
  | member hget _ ih =>
    intro e v hv
    cases v with
    | object ms =>
      cases hv
      rw [get?_projectMembers] at hget
      obtain ⟨inner, hi, hg⟩ := Option.bind_eq_some_iff.mp hget
      obtain ⟨v, hv, hp⟩ := Option.map_eq_some_iff.mp hg
      obtain ⟨hleaf, hshows⟩ := ih hp
      obtain ⟨inside, hl, rfl⟩ := inside?_eq_some_iff.mp hi
      exact ⟨.member hv hleaf, shows_cons_iff.mpr ⟨inside, hl, hshows⟩⟩
    | _ => cases hv

/-- a leaf at a path that is shown is there in the projection -/
theorem leaf_project {s v : Value} {path : List String} (h : Value.Leaf s path v) :
    ∀ {e : Exposure}, e.Shows path → Value.Leaf s path (e.project v) := by
  induction h with
  | here leaf =>
    intro e _
    rw [project_of_isLeaf leaf]
    exact .here leaf
  | item hmem _ ih =>
    intro e hs
    rw [project_array]
    exact .item (List.mem_map_of_mem hmem) (ih hs)
  | @member key path ms v hget _ ih =>
    intro e hs
    obtain ⟨inside, hl, hs⟩ := shows_cons_iff.mp hs
    have hg : Members.get? key (e.projectMembers ms) = some ((inside.getD nothing).project v) := by
      rw [get?_projectMembers, inside?_of_lists hl, hget]
      rfl
    exact .member hg (ih hs)

/-- **The leaves of a projection are those of the value at the paths that are shown.** -/
theorem leaf_project_iff (e : Exposure) (path : List String) (v s : Value) :
    Value.Leaf s path (e.project v) ↔ Value.Leaf s path v ∧ e.Shows path :=
  ⟨fun h => leaf_of_leaf_project h rfl, fun h => leaf_project h.1 h.2⟩

/-! ## projecting twice -/

mutual

/-- **Projecting twice is projecting once.** -/
theorem project_project (e : Exposure) : (v : Value) → e.project (e.project v) = e.project v
  | .null => rfl
  | .bool _ => rfl
  | .number _ => rfl
  | .string _ => rfl
  | .array vs => congrArg Value.array (projectItems_projectItems e vs)
  | .object ms => congrArg Value.object (projectMembers_projectMembers e ms)

theorem projectItems_projectItems (e : Exposure) :
    (vs : List Value) → e.projectItems (e.projectItems vs) = e.projectItems vs
  | [] => rfl
  | v :: vs => by
    show e.project (e.project v) :: e.projectItems (e.projectItems vs) = e.project v :: e.projectItems vs
    rw [project_project e v, projectItems_projectItems e vs]

theorem projectMembers_projectMembers (e : Exposure) :
    (ms : List (String × Value)) → e.projectMembers (e.projectMembers ms) = e.projectMembers ms
  | [] => rfl
  | (k, v) :: ms => by
    cases hk : e.inside? k with
    | none =>
      rw [projectMembers_hidden hk]
      exact projectMembers_projectMembers e ms
    | some inner =>
      rw [projectMembers_shown hk, projectMembers_shown hk, project_project inner v,
        projectMembers_projectMembers e ms]

end

/-! ## the whole -/

/-- **A projection keeps exactly what the exposure lists.**  Leaves stay, arrays are projected item by item, and an
object keeps the keys that are listed, each with its value projected through what the last entry of the key has inside,
or through nothing.  So a leaf is kept exactly when its path is shown, an object under a plain entry is empty wherever
it is in arrays, and projecting twice is projecting once. -/
theorem projection_exact (e : Exposure) :
    (∀ v, v.IsLeaf → e.project v = v) ∧
    (∀ vs, e.project (.array vs) = .array (vs.map e.project)) ∧
    (∀ ms, ∃ shown, e.project (.object ms) = .object shown ∧
      Members.keys shown = (Members.keys ms).filter e.exposes ∧
      ∀ key inside v, e.Lists key inside → Members.get? key ms = some v →
        Members.get? key shown = some ((inside.getD nothing).project v)) ∧
    (∀ key, e.exposes key = true ↔ ∃ inside, e.Lists key inside) ∧
    (∀ path v s, Value.Leaf s path (e.project v) ↔ Value.Leaf s path v ∧ e.Shows path) ∧
    (∀ key ms v positions inner, e.Lists key none → Members.get? key ms = some v →
      v.itemAt? positions = some (.object inner) →
      ((e.project (.object ms)).get? key).bind (Value.itemAt? positions) = some (.object [])) ∧
    ∀ v, e.project (e.project v) = e.project v := by
  have at_key : ∀ {key inside ms v}, e.Lists key inside → Members.get? key ms = some v →
      Members.get? key (e.projectMembers ms) = some ((inside.getD nothing).project v) := by
    intro key inside ms v hl hv
    rw [get?_projectMembers, inside?_of_lists hl, hv]
    rfl
  refine ⟨fun v h => project_of_isLeaf h e, project_array e, fun ms => ⟨e.projectMembers ms, rfl,
    keys_projectMembers e ms, fun key inside v => at_key⟩, exposes_iff e, leaf_project_iff e,
    fun key ms v positions inner hl hv hi => ?_, project_project e⟩
  show (Members.get? key (e.projectMembers ms)).bind _ = _
  rw [at_key hl hv]
  show (nothing.project v).itemAt? positions = _
  rw [itemAt?_project, hi]
  exact congrArg some (project_nothing_object inner)

/-- a venue: seats are listed twice, and tags are plain -/
def venue : Exposure :=
  .mk "Venue" [("seats", none), ("tags", none), ("seats", some (.mk "Seat" [("row", none)]))]

/-- a row is shown under the later entry of the seats and a price is not, and an object among the tags is empty -/
theorem projection_exact_venue :
    let seat : Value := .object [("price", .ofNat 10), ("row", .ofNat 1)]
    let tags : Value := .array [.string "vip", .array [.object [("owner", .string "e")]]]
    let ms : Members := [("revenue", .ofNat 100), ("seats", .array [seat]), ("tags", tags)]
    (∃ shown, venue.project (.object ms) = .object shown ∧ Members.keys shown = ["seats", "tags"] ∧
      Members.get? "seats" shown = some ((Exposure.mk "Seat" [("row", none)]).project (.array [seat]))) ∧
    Value.Leaf (.ofNat 1) ["seats", "row"] (venue.project (.object ms)) ∧
    ¬ Value.Leaf (.ofNat 10) ["seats", "price"] (venue.project (.object ms)) ∧
    ((venue.project (.object ms)).get? "tags").bind (Value.itemAt? [1, 0]) = some (.object []) := by
  intro seat tags ms
  have seats : venue.Lists "seats" (some (.mk "Seat" [("row", none)])) :=
    ⟨[("seats", none), ("tags", none)], [], rfl, nofun⟩
  have plain : venue.Lists "tags" none :=
    ⟨[("seats", none)], [("seats", some (.mk "Seat" [("row", none)]))], rfl, by decide⟩
  obtain ⟨-, -, objects, -, leaves, empty, -⟩ := projection_exact venue
  obtain ⟨shown, hs, hk, hv⟩ := objects ms
  refine ⟨⟨shown, hs, hk, hv _ _ _ seats rfl⟩, (leaves _ _ _).mpr ⟨?_, ?_⟩, fun h => ?_, empty _ _ _ _ _ plain rfl rfl⟩
  · exact .member rfl (.item List.mem_cons_self (.member rfl (.here trivial)))
  · exact .cons seats (.last ⟨[], [], rfl, nofun⟩)
  · obtain ⟨inside, hl, hs⟩ := shows_cons_iff.mp ((leaves _ _ _).mp h).2
    rw [← Option.some.inj ((inside?_of_lists seats).symm.trans (inside?_of_lists hl))] at hs
    obtain ⟨inside, hl, -⟩ := shows_cons_iff.mp hs
    have hp := (exposes_iff _ _).mpr ⟨inside, hl⟩
    revert hp
    decide

end Exposure

end RequestPipeline
