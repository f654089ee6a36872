import RequestPipeline.Proofs.Config.Acceptance
import RequestPipeline.Proofs.Config.Directives
import RequestPipeline.Proofs.Text.Decimal
import RequestPipeline.Proofs.Text.Parts

/-!
# Log filters that end in levels

A filter is accepted when each of its directives, trimmed, ends in a level.  Reading it is stricter: a directive must
be one of the language, and a position in it counts from its first character that is no blank, so that blanks around
it are taken into its level.

* `isLevel_char`           the characters of a level;
* `isDirective_of_level`   which directives that end in a level can be read;
* `isFilter_iff_of_leveled`   **which filters of such directives can be read.**
-/

namespace RequestPipeline.LogFilter

open Text (trimChars isBlank)

/-! ## levels -/

/-- a number without a minus sign has digits, and at most a plus sign before them -/
theorem uint64?_char {cs : List Char} {n : Nat} (h : Text.uint64? cs = some n) :
    ∀ c ∈ cs, c.isDigit = true ∨ c = '+' := by
  unfold Text.uint64? at h
  split at h
  · cases h
  rename_i hminus
  obtain ⟨i, hi, -⟩ := Option.map_eq_some_iff.mp h
  obtain ⟨j, hj, -⟩ := Option.bind_eq_some_iff.mp hi
  unfold Text.integer? at hj
  split at hj
  · obtain ⟨m, hm, -⟩ := Option.map_eq_some_iff.mp hj
    exact List.forall_mem_cons.mpr ⟨.inr rfl, fun c hc => .inl ((Text.natural?_eq_some_iff.mp hm).2.1 c hc)⟩
  · exact absurd rfl (hminus _)
  · obtain ⟨m, hm, -⟩ := Option.map_eq_some_iff.mp hj
    exact fun c hc => .inl ((Text.natural?_eq_some_iff.mp hm).2.1 c hc)

theorem isAlpha_of_lowerChar {c : Char} (h : (Text.lowerChar c).isLower = true) : c.isAlpha = true := by
  unfold Text.lowerChar at h
  show (c.isUpper || c.isLower) = true
  split at h
  · rename_i hc
    have hu : c.isUpper = true := decide_eq_true hc
    rw [hu, Bool.true_or]
  · rw [h, Bool.or_true]

/-- the characters of a level -/
theorem isLevel_char {cs : List Char} (h : isLevel cs = true) {c : Char} (hc : c ∈ cs) :
    c.isAlphanum = true ∨ c = '+' := by
  rcases Bool.or_eq_true_iff.mp h with hname | hnumber
  · have lower : (["", "error", "warn", "info", "debug", "trace", "off"].all fun name =>
        name.toList.all Char.isLower) = true := by decide
    have hl := List.all_eq_true.mp (List.all_eq_true.mp lower _ (List.contains_iff_mem.mp hname)) (Text.lowerChar c)
      (by rw [String.toList_ofList]; exact List.mem_map_of_mem hc)
    exact .inl (Bool.or_eq_true_iff.mpr (.inl (isAlpha_of_lowerChar hl)))
  · obtain ⟨n, hn, -⟩ := (Option.any_eq_true _ _).mp hnumber
    exact (uint64?_char hn c hc).imp_left fun hd => Bool.or_eq_true_iff.mpr (.inr hd)

/-- a character that is no letter, no digit and no plus sign is in no level -/
theorem not_mem_of_isLevel {cs : List Char} (h : isLevel cs = true) {c : Char} (hc : c.isAlphanum = false)
    (hp : c ≠ '+') : c ∉ cs := by
  intro hm
  rcases isLevel_char h hm with ha | he
  · rw [hc] at ha
    exact Bool.false_ne_true ha
  · exact hp he

theorem toNat_of_isAlphanum {c : Char} (h : c.isAlphanum = true) : 48 ≤ c.toNat ∧ c.toNat ≤ 122 := by
  have within : ∀ lo hi : UInt32, 48 ≤ lo.toNat → hi.toNat ≤ 122 → lo ≤ c.val ∧ c.val ≤ hi →
      48 ≤ c.toNat ∧ c.toNat ≤ 122 := fun lo hi hlo hhi hc =>
    ⟨hlo.trans (UInt32.le_iff_toNat_le.mp hc.1), (UInt32.le_iff_toNat_le.mp hc.2).trans hhi⟩
  rcases Bool.or_eq_true_iff.mp h with halpha | hdigit
  · rcases Bool.or_eq_true_iff.mp halpha with hupper | hlower
    · exact within 65 90 (by decide) (by decide) (of_decide_eq_true hupper)
    · have hl := Bool.and_eq_true_iff.mp hlower
      exact within 97 122 (by decide) (by decide) ⟨of_decide_eq_true hl.1, of_decide_eq_true hl.2⟩
  · have hd := Bool.and_eq_true_iff.mp hdigit
    exact within 48 57 (by decide) (by decide) ⟨of_decide_eq_true hd.1, of_decide_eq_true hd.2⟩

/-- no blank is in a level -/
theorem not_mem_of_isBlank {cs : List Char} (h : isLevel cs = true) {c : Char} (hb : isBlank c = true) : c ∉ cs := by
  intro hm
  have hn : c.toNat = 43 ∨ 48 ≤ c.toNat ∧ c.toNat ≤ 122 := by
    rcases isLevel_char h hm with ha | rfl
    · exact .inr (toNat_of_isAlphanum ha)
    · exact .inl rfl
  unfold isBlank at hb
  simp at hb
  omega

/-! ## the level part -/

theorem cutFirst_eq_some {sep : Char} {cs a b : List Char} (h : Text.cutFirst sep cs = some (a, b)) :
    cs = a ++ sep :: b ∧ sep ∉ a := by
  induction cs generalizing a with
  | nil => cases h
  | cons c cs ih =>
    rw [Text.cutFirst] at h
    split at h
    · rename_i hc
      cases h
      exact ⟨by rw [hc]; rfl, List.not_mem_nil⟩
    · rename_i hc
      obtain ⟨⟨a', b'⟩, hcut, he⟩ := Option.map_eq_some_iff.mp h
      cases he
      obtain ⟨hcs, hn⟩ := ih hcut
      refine ⟨by rw [hcs]; rfl, fun hm => ?_⟩
      rcases List.mem_cons.mp hm with he | hm
      · exact hc he.symm
      · exact hn hm

theorem cutFirst_eq_none {sep : Char} {cs : List Char} (h : Text.cutFirst sep cs = none) : sep ∉ cs := by
  induction cs with
  | nil => exact List.not_mem_nil
  | cons c cs ih =>
    rw [Text.cutFirst] at h
    split at h
    · cases h
    · rename_i hc
      intro hm
      rcases List.mem_cons.mp hm with he | hm
      · exact hc he.symm
      · exact ih (Option.map_eq_none_iff.mp h) hm

/-- the level part is the whole without an equals sign, and else what stands behind the last one -/
theorem levelPart_cases (cs : List Char) :
    ('=' ∉ cs ∧ levelPart cs = cs) ∨ ∃ a, cs = a ++ '=' :: levelPart cs ∧ '=' ∉ levelPart cs := by
  unfold levelPart Text.cutLast
  cases h : Text.cutFirst '=' cs.reverse with
  | none => exact .inl ⟨fun hm => cutFirst_eq_none h (List.mem_reverse.mpr hm), rfl⟩
  | some cut =>
    obtain ⟨l, a⟩ := cut
    obtain ⟨hcs, hn⟩ := cutFirst_eq_some h
    have hrev : cs = a.reverse ++ '=' :: l.reverse := by
      rw [← List.reverse_reverse cs, hcs, List.reverse_append, List.reverse_cons, List.append_assoc]
      rfl
    exact .inr ⟨a.reverse, hrev, fun hm => hn (List.mem_reverse.mp hm)⟩

/-! ## directives with blanks around them -/

/-- only a field is read from the directive with its blanks -/
theorem run_congr {d d' cs : List Char} (h : '}' ∉ cs) (pos : Nat) (s : State) :
    State.run d pos s cs = State.run d' pos s cs := by
  induction cs generalizing pos s with
  | nil => rfl
  | cons c cs ih =>
    have hc : c ≠ '}' := fun e => h (e ▸ List.mem_cons_self)
    have hstep : s.step d pos c = s.step d' pos c := by
      cases s with
      | field p =>
        have hfield : ∀ d, State.step d pos c (.field p) = .field p := fun d => if_neg hc
        rw [hfield, hfield]
      | _ => rfl
    rw [State.run, State.run, hstep]
    exact ih (fun hm => h (List.mem_cons_of_mem _ hm)) _ _

section
variable (head l : List Char)

/-- a blank behind a level is taken into it -/
theorem not_isLevel_of_trail {c : Char} (hc : isBlank c = true) (trail : List Char) :
    isLevel (dropBytes (byteLength head + 1) (head ++ '=' :: (l ++ c :: trail))) ≠ true := by
  rw [dropBytes_level]
  exact fun hl => not_mem_of_isBlank hl hc (List.mem_append_right _ List.mem_cons_self)

/-- what stands in front of a directive moves its equals sign into the level -/
theorem not_isLevel_of_lead (b : Char) (lead : List Char) :
    isLevel (dropBytes (byteLength head + 1) (b :: lead ++ head ++ '=' :: l)) ≠ true := by
  have hle : byteLength head + 1 ≤ byteLength (b :: lead ++ head) := by
    have hb := b.utf8Size_pos
    rw [byteLength_append, byteLength_cons]
    omega
  exact fun hl => not_mem_of_isLevel hl rfl (by decide) (mem_dropBytes hle '=' l)

end

section
variable {d : List Char} (level : isLevel (levelPart (trimChars d)) = true)
include level

/-- blanks around a directive without an equals sign do not matter -/
theorem isDirective_of_not_mem (h : '=' ∉ trimChars d) : isDirective d = true ↔ Directive (trimChars d) := by
  have hpart : levelPart (trimChars d) = trimChars d := by
    rcases levelPart_cases (trimChars d) with ⟨-, hp⟩ | ⟨a, ha, -⟩
    · exact hp
    · rw [ha] at h
      exact absurd (List.mem_append_right _ List.mem_cons_self) h
  have hbrace : '}' ∉ trimChars d := not_mem_of_isLevel (hpart ▸ level) rfl (by decide)
  have hr := reads_whole (trimChars d) (trimChars d)
  have hrun : State.run d 0 .start (trimChars d) = State.run (trimChars d) 0 .start (trimChars d) :=
    run_congr hbrace 0 .start
  rw [← isDirective_iff (Text.trimChars_trimChars d)]
  unfold isDirective
  rw [Text.trimChars_trimChars, hrun]
  generalize State.run (trimChars d) 0 .start (trimChars d) = s at hr
  cases s with
  | level p =>
    obtain ⟨head, l, ht, -⟩ := hr
    rw [ht] at h
    exact absurd (List.mem_append_right _ List.mem_cons_self) h
  | _ => exact Iff.rfl

/-- blanks around a directive with an equals sign are taken into its level -/
theorem isDirective_of_ne (h : '=' ∈ trimChars d) (hd : trimChars d ≠ d) : isDirective d = false := by
  obtain ⟨a, ha, -⟩ : ∃ a, trimChars d = a ++ '=' :: levelPart (trimChars d) ∧ '=' ∉ levelPart (trimChars d) := by
    rcases levelPart_cases (trimChars d) with ⟨hn, -⟩ | ha
    · exact absurd h hn
    · exact ha
  obtain ⟨lead, trail, hsplit, hlead, htrail⟩ := Text.exists_trimChars d
  have hr := reads_whole d (trimChars d)
  unfold isDirective
  generalize State.run d 0 .start (trimChars d) = s at hr
  cases s with
  | word => exact absurd h hr.equals
  | afterSpan =>
    -- the level would end in a bracket
    obtain ⟨q, hq⟩ := hr.1
    have hlast : ('=' :: levelPart (trimChars d)).getLast? = some ']' := by
      rw [← List.getLast?_append_cons a, ← ha, hq, List.getLast?_concat]
    rcases List.mem_cons.mp (List.mem_of_getLast? hlast) with he | hm
    · exact absurd he (by decide)
    · exact absurd hm (not_mem_of_isLevel level rfl (by decide))
  | level p =>
    obtain ⟨head, l, ht, rfl, -⟩ := hr
    dsimp only
    rw [isEmpty_or_isLevel, ← Bool.not_eq_true]
    rw [ht, List.append_assoc, List.cons_append] at hsplit
    cases lead with
    | nil =>
      cases trail with
      | nil => exact absurd (by rw [ht, hsplit, List.nil_append, List.append_nil]) hd
      | cons c trail =>
        rw [hsplit, List.nil_append]
        exact not_isLevel_of_trail head l (htrail c List.mem_cons_self) trail
    | cons b lead =>
      rw [hsplit, ← List.append_assoc]
      exact not_isLevel_of_lead head (l ++ trail) b lead
  | _ => rfl

/-- **A directive that ends in a level can be read if it is one of the language, and if there are no blanks around
it when it has an equals sign.** -/
theorem isDirective_of_level : isDirective d = true ↔ Directive (trimChars d) ∧ ('=' ∈ d → trimChars d = d) := by
  by_cases h : '=' ∈ trimChars d
  · by_cases hd : trimChars d = d
    · rw [hd, isDirective_iff hd]
      exact ⟨fun hd => ⟨hd, fun _ => rfl⟩, And.left⟩
    · rw [isDirective_of_ne level h hd]
      exact ⟨nofun, fun hr => absurd (hr.2 (Text.mem_of_mem_trimChars h)) hd⟩
  · rw [isDirective_of_not_mem level h]
    refine ⟨fun hd => ⟨hd, fun he => absurd ?_ h⟩, And.left⟩
    -- an equals sign is no blank
    obtain ⟨lead, trail, hsplit, hlead, htrail⟩ := Text.exists_trimChars d
    rw [hsplit, List.mem_append, List.mem_append] at he
    rcases he with he | he | he
    · exact absurd (hlead _ he) (by decide)
    · exact he
    · exact absurd (htrail _ he) (by decide)

end

/-! ## filters -/

/-- whether every directive of a filter is empty or one of the language, without blanks around it when it has an
equals sign -/
def Readable (filter : String) : Prop :=
  ∀ d ∈ Text.split ',' filter.toList, d = [] ∨ (Directive (trimChars d) ∧ ('=' ∈ d → trimChars d = d))

theorem Span.ne_nil {s : List Char} (h : Span s) : s ≠ [] := by
  cases h with
  | plain hn => exact List.cons_ne_nil _ _
  | field hn hf => exact List.cons_ne_nil _ _

theorem Head.ne_nil {h : List Char} (hh : Head h) : h ≠ [] := by
  cases hh with
  | word hw =>
    obtain ⟨c, rest, rfl, -⟩ := hw.starts
    exact List.cons_ne_nil _ _
  | span hw hs => exact List.append_ne_nil_of_right_ne_nil _ hs.ne_nil

theorem Directive.ne_nil {d : List Char} (h : Directive d) : d ≠ [] := by
  cases h with
  | head hh => exact hh.ne_nil
  | level hh hl => exact List.append_ne_nil_of_left_ne_nil hh.ne_nil _

theorem isDirective_of_blank {d : List Char} (h : trimChars d = []) : isDirective d = false := by
  unfold isDirective
  rw [h]
  rfl

/-- **A filter whose directives end in levels can be read if they are all of the language, and those with an equals
sign have no blanks around them.** -/
theorem isFilter_iff_of_leveled {filter : String} (leveled : Leveled filter) :
    isFilter filter = true ↔ Readable filter := by
  unfold isFilter Readable
  rw [List.all_eq_true]
  refine forall₂_congr fun d hd => ?_
  rw [Bool.or_eq_true, List.isEmpty_iff]
  refine or_congr_right ?_
  by_cases h : trimChars d = []
  · rw [isDirective_of_blank h, h]
    exact ⟨nofun, fun hr => absurd rfl hr.1.ne_nil⟩
  · have hpart : String.ofList (trimChars d) ∈ Text.commaParts filter := by
      refine List.mem_map_of_mem (List.mem_filter.mpr ⟨List.mem_map_of_mem hd, ?_⟩)
      simpa using h
    have hlevel := leveled.level _ hpart
    rw [String.toList_ofList] at hlevel
    exact isDirective_of_level hlevel

end RequestPipeline.LogFilter
