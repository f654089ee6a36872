import RequestPipeline.Reply.Exposure
import RequestPipeline.Proofs.Json.Members

/-!
# What an exposure tells apart

Two values agree under an exposure when they differ only where it shows nothing: they have the same scalars,
their arrays have the same length and items that agree, and their objects have the same exposed keys, with
values that agree under what is exposed inside.  `Agree` states this without the projection.

* `agreeMembers_iff`   for objects in key order: their values agree under every exposed key, or both have none;
* `project_eq_iff`     **values agree exactly when their projections are equal**: a projection shows the
                       exposed part, all of it, and nothing else.
-/

namespace RequestPipeline.Exposure

open Json (Value Members)

mutual

/-- two values differ only where an exposure shows nothing -/
inductive Agree : Exposure → Value → Value → Prop
  | null (e : Exposure) : Agree e .null .null
  | bool (e : Exposure) (b : Bool) : Agree e (.bool b) (.bool b)
  | number (e : Exposure) (n : Json.Number) : Agree e (.number n) (.number n)
  | string (e : Exposure) (s : String) : Agree e (.string s) (.string s)
  | array {e : Exposure} {vs ws : List Value} : AgreeItems e vs ws → Agree e (.array vs) (.array ws)
  | object {e : Exposure} {ms ns : List (String × Value)} :
      AgreeMembers e ms ns → Agree e (.object ms) (.object ns)

/-- as many items, and each two of them agree -/
inductive AgreeItems : Exposure → List Value → List Value → Prop
  | nil (e : Exposure) : AgreeItems e [] []
  | cons {e : Exposure} {v w : Value} {vs ws : List Value} :
      Agree e v w → AgreeItems e vs ws → AgreeItems e (v :: vs) (w :: ws)

/-- the same exposed keys, with values that agree under what is exposed inside; all other members are
free, on either side -/
inductive AgreeMembers : Exposure → List (String × Value) → List (String × Value) → Prop
  | nil (e : Exposure) : AgreeMembers e [] []
  | hiddenLeft {e : Exposure} {k : String} {v : Value} {ms ns : List (String × Value)} :
      e.inside? k = none → AgreeMembers e ms ns → AgreeMembers e ((k, v) :: ms) ns
  | hiddenRight {e : Exposure} {k : String} {w : Value} {ms ns : List (String × Value)} :
      e.inside? k = none → AgreeMembers e ms ns → AgreeMembers e ms ((k, w) :: ns)
  | shown {e inner : Exposure} {k : String} {v w : Value} {ms ns : List (String × Value)} :
      e.inside? k = some inner → Agree inner v w → AgreeMembers e ms ns →
        AgreeMembers e ((k, v) :: ms) ((k, w) :: ns)

end

/-! ## projections of members -/

section
variable {e inner : Exposure} {k : String}

theorem projectMembers_hidden (h : e.inside? k = none) (v : Value) (ms : Members) :
    e.projectMembers ((k, v) :: ms) = e.projectMembers ms := by
  simp only [projectMembers, h]

theorem projectMembers_shown (h : e.inside? k = some inner) (v : Value) (ms : Members) :
    e.projectMembers ((k, v) :: ms) = (k, inner.project v) :: e.projectMembers ms := by
  simp only [projectMembers, h]

end

/-! ## agreement gives equal projections -/

mutual

theorem project_eq_of_agree {e : Exposure} {v w : Value} : Agree e v w → e.project v = e.project w
  | .null _ => rfl
  | .bool _ _ => rfl
  | .number _ _ => rfl
  | .string _ _ => rfl
  | .array h => congrArg Value.array (projectItems_eq_of_agree h)
  | .object h => congrArg Value.object (projectMembers_eq_of_agree h)

theorem projectItems_eq_of_agree {e : Exposure} {vs ws : List Value} :
    AgreeItems e vs ws → e.projectItems vs = e.projectItems ws
  | .nil _ => rfl
  | .cons h hs => by
    unfold projectItems
    rw [project_eq_of_agree h, projectItems_eq_of_agree hs]

theorem projectMembers_eq_of_agree {e : Exposure} {ms ns : List (String × Value)} :
    AgreeMembers e ms ns → e.projectMembers ms = e.projectMembers ns
  | .nil _ => rfl
  | .hiddenLeft hk h => by
    rw [projectMembers_hidden hk]
    exact projectMembers_eq_of_agree h
  | .hiddenRight hk h => by
    rw [projectMembers_hidden hk]
    exact projectMembers_eq_of_agree h
  | .shown hk hv h => by
    rw [projectMembers_shown hk, projectMembers_shown hk, project_eq_of_agree hv,
      projectMembers_eq_of_agree h]

end

/-! ## equal projections give agreement -/

/-- members that show nothing agree with no members -/
theorem agreeMembers_nil_of_project {e : Exposure} {ns : Members} (h : e.projectMembers ns = []) :
    AgreeMembers e [] ns := by
  induction ns with
  | nil => exact .nil e
  | cons n ns ih =>
    obtain ⟨l, w⟩ := n
    cases hl : e.inside? l with
    | none =>
      rw [projectMembers_hidden hl] at h
      exact .hiddenRight hl (ih h)
    | some inner =>
      rw [projectMembers_shown hl] at h
      cases h

/-- a shown member is found on the other side, behind members that are hidden -/
theorem agreeMembers_cons_of_project {e inner : Exposure} {k : String} {v : Value} {ms ns : Members}
    (hk : e.inside? k = some inner)
    (hv : ∀ w, inner.project v = inner.project w → Agree inner v w)
    (hms : ∀ ns, e.projectMembers ms = e.projectMembers ns → AgreeMembers e ms ns)
    (h : e.projectMembers ((k, v) :: ms) = e.projectMembers ns) :
    AgreeMembers e ((k, v) :: ms) ns := by
  rw [projectMembers_shown hk] at h
  induction ns with
  | nil => cases h
  | cons n ns ih =>
    obtain ⟨l, w⟩ := n
    cases hl : e.inside? l with
    | none =>
      rw [projectMembers_hidden hl] at h
      exact .hiddenRight hl (ih h)
    | some other =>
      rw [projectMembers_shown hl] at h
      obtain ⟨hm, ht⟩ := List.cons.inj h
      obtain ⟨rfl, hp⟩ := Prod.mk.inj hm
      have hi : inner = other := Option.some.inj (hk.symm.trans hl)
      subst hi
      exact .shown hk (hv w hp) (hms ns ht)

mutual

theorem agree_of_project_eq (e : Exposure) :
    (v w : Value) → e.project v = e.project w → Agree e v w
  | .null, w, h => by
    cases w <;> cases h
    exact .null e
  | .bool b, w, h => by
    cases w <;> cases h
    exact .bool e b
  | .number n, w, h => by
    cases w <;> cases h
    exact .number e n
  | .string s, w, h => by
    cases w <;> cases h
    exact .string e s
  | .array vs, w, h => by
    cases w with
    | array ws => exact .array (agreeItems_of_project_eq e vs ws (Value.array.inj h))
    | _ => cases h
  | .object ms, w, h => by
    cases w with
    | object ns => exact .object (agreeMembers_of_project_eq e ms ns (Value.object.inj h))
    | _ => cases h

theorem agreeItems_of_project_eq (e : Exposure) :
    (vs ws : List Value) → e.projectItems vs = e.projectItems ws → AgreeItems e vs ws
  | [], [], _ => .nil e
  | [], w :: ws, h => by cases h
  | v :: vs, [], h => by cases h
  | v :: vs, w :: ws, h =>
    .cons (agree_of_project_eq e v w (List.cons.inj h).1)
      (agreeItems_of_project_eq e vs ws (List.cons.inj h).2)

theorem agreeMembers_of_project_eq (e : Exposure) :
    (ms ns : List (String × Value)) → e.projectMembers ms = e.projectMembers ns → AgreeMembers e ms ns
  | [], ns, h => agreeMembers_nil_of_project h.symm
  | (k, v) :: ms, ns, h => by
    cases hk : e.inside? k with
    | none =>
      rw [projectMembers_hidden hk] at h
      exact .hiddenLeft hk (agreeMembers_of_project_eq e ms ns h)
    | some inner =>
      exact agreeMembers_cons_of_project hk (agree_of_project_eq inner v)
        (agreeMembers_of_project_eq e ms) h

end

/-- **Values agree exactly when their projections are equal.** -/
theorem project_eq_iff {e : Exposure} {v w : Value} : e.project v = e.project w ↔ Agree e v w :=
  ⟨agree_of_project_eq e v w, project_eq_of_agree⟩

/-! ## agreement key by key -/

/-- under every exposed key two objects hold values that agree, or both nothing -/
def AgreeAtKeys (e : Exposure) (ms ns : Members) : Prop :=
  ∀ key inner, e.inside? key = some inner → Option.Rel (Agree inner) (ms.get? key) (ns.get? key)

theorem inside?_ne {e inner : Exposure} {k key : String} (hk : e.inside? k = none)
    (hkey : e.inside? key = some inner) : k ≠ key := by
  rintro rfl
  rw [hk] at hkey
  cases hkey

theorem AgreeMembers.atKeys {e : Exposure} {ms ns : List (String × Value)} :
    AgreeMembers e ms ns → AgreeAtKeys e ms ns
  | .nil _, _, _, _ => .none
  | .hiddenLeft hk h, key, inner, hkey => by
    rw [Members.get?_cons_of_ne (inside?_ne hk hkey)]
    exact h.atKeys key inner hkey
  | .hiddenRight hk h, key, inner, hkey => by
    rw [Members.get?_cons_of_ne (inside?_ne hk hkey)]
    exact h.atKeys key inner hkey
  | .shown (k := k) hk hv h, key, inner, hkey => by
    by_cases he : k = key
    · subst he
      have hi := Option.some.inj (hk.symm.trans hkey)
      subst hi
      rw [Members.get?_cons_self, Members.get?_cons_self]
      exact .some hv
    · rw [Members.get?_cons_of_ne he, Members.get?_cons_of_ne he]
      exact h.atKeys key inner hkey

section
variable {e inner : Exposure} {k l : String} {v w : Value} {ms ns : Members}

theorem AgreeAtKeys.tail_left (h : AgreeAtKeys e ((k, v) :: ms) ns) (hk : e.inside? k = none) :
    AgreeAtKeys e ms ns := by
  intro key inner hkey
  have hr := h key inner hkey
  rwa [Members.get?_cons_of_ne (inside?_ne hk hkey)] at hr

theorem AgreeAtKeys.tail_right (h : AgreeAtKeys e ms ((l, w) :: ns)) (hl : e.inside? l = none) :
    AgreeAtKeys e ms ns := by
  intro key inner hkey
  have hr := h key inner hkey
  rwa [Members.get?_cons_of_ne (inside?_ne hl hkey) w] at hr

theorem AgreeAtKeys.tails (hm : Members.Sorted ((k, v) :: ms)) (hn : Members.Sorted ((k, w) :: ns))
    (h : AgreeAtKeys e ((k, v) :: ms) ((k, w) :: ns)) : AgreeAtKeys e ms ns := by
  intro key inner hkey
  by_cases he : k = key
  · subst he
    rw [Members.get?_tail_of_sorted hm, Members.get?_tail_of_sorted hn]
    exact .none
  · have hr := h key inner hkey
    rwa [Members.get?_cons_of_ne he, Members.get?_cons_of_ne he] at hr

theorem AgreeAtKeys.head (h : AgreeAtKeys e ((k, v) :: ms) ((k, w) :: ns))
    (hk : e.inside? k = some inner) : Agree inner v w := by
  have hr := h k inner hk
  rw [Members.get?_cons_self, Members.get?_cons_self] at hr
  cases hr with
  | some hv => exact hv

/-- an exposed key on the left is there on the right -/
theorem AgreeAtKeys.right_ne_none (h : AgreeAtKeys e ((k, v) :: ms) ns) (hk : e.inside? k = some inner) :
    ns.get? k ≠ none := by
  have hr := h k inner hk
  rw [Members.get?_cons_self] at hr
  intro hn
  rw [hn] at hr
  cases hr

/-- an exposed key on the right is there on the left -/
theorem AgreeAtKeys.left_ne_none (h : AgreeAtKeys e ms ((l, w) :: ns)) (hl : e.inside? l = some inner) :
    ms.get? l ≠ none := by
  have hr := h l inner hl
  rw [Members.get?_cons_self] at hr
  intro hn
  rw [hn] at hr
  cases hr

theorem agreeMembers_nil_of_atKeys (h : AgreeAtKeys e [] ns) : AgreeMembers e [] ns := by
  induction ns with
  | nil => exact .nil e
  | cons n ns ih =>
    obtain ⟨l, w⟩ := n
    cases hl : e.inside? l with
    | none => exact .hiddenRight hl (ih (h.tail_right hl))
    | some inner => exact absurd rfl (h.left_ne_none hl)

theorem agreeMembers_cons_of_atKeys (hm : Members.Sorted ((k, v) :: ms)) (hn : ns.Sorted)
    (hk : e.inside? k = some inner)
    (hms : ∀ {ns : Members}, ns.Sorted → AgreeAtKeys e ms ns → AgreeMembers e ms ns)
    (h : AgreeAtKeys e ((k, v) :: ms) ns) : AgreeMembers e ((k, v) :: ms) ns := by
  induction ns with
  | nil => exact absurd rfl (h.right_ne_none hk)
  | cons n ns ih =>
    obtain ⟨l, w⟩ := n
    have hns := (List.pairwise_cons.mp hn).2
    cases hl : e.inside? l with
    | none => exact .hiddenRight hl (ih hns (h.tail_right hl))
    | some other =>
      have hkl : k = l := Members.head_key_eq hm hn (h.right_ne_none hk) (h.left_ne_none hl)
      subst hkl
      exact .shown hk (h.head hk) (hms hns (h.tails hm hn))

theorem agreeMembers_of_atKeys (hm : ms.Sorted) (hn : ns.Sorted) (h : AgreeAtKeys e ms ns) :
    AgreeMembers e ms ns := by
  induction ms generalizing ns with
  | nil => exact agreeMembers_nil_of_atKeys h
  | cons m ms ih =>
    obtain ⟨k, v⟩ := m
    have hms := (List.pairwise_cons.mp hm).2
    cases hk : e.inside? k with
    | none => exact .hiddenLeft hk (ih hms hn (h.tail_left hk))
    | some inner => exact agreeMembers_cons_of_atKeys hm hn hk (ih hms) h

/-- **Objects in key order agree exactly when their values agree under every exposed key.** -/
theorem agreeMembers_iff (hm : ms.Sorted) (hn : ns.Sorted) :
    AgreeMembers e ms ns ↔ AgreeAtKeys e ms ns :=
  ⟨AgreeMembers.atKeys, agreeMembers_of_atKeys hm hn⟩

end

end RequestPipeline.Exposure
