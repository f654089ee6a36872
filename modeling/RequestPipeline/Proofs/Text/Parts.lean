import Mathlib.Data.List.DropRight
import RequestPipeline.Text.Split

/-!
# The parts of a text

Trimming is a projection: what is left has no blank at either end (`Trimmed`), and such a text is left as it
is.  The parts between the commas of a text are its trimmed segments that are not empty (`commaParts_eq`).  They are
without a comma, so that **each of them is the one part of itself** (`commaParts_of_mem`), and **the segments of joined
texts are those of each of them, in order** (`segments_intercalate`).
-/

namespace RequestPipeline.Text

/-! ## trimming -/

/-- neither end of a text is blank -/
def Trimmed (cs : List Char) : Prop :=
  (∀ c, cs.head? = some c → isBlank c = false) ∧ ∀ c, cs.getLast? = some c → isBlank c = false

theorem trimFront_of_head {cs : List Char} (h : ∀ c, cs.head? = some c → isBlank c = false) :
    trimFront cs = cs := by
  cases cs with
  | nil => rfl
  | cons c cs => exact trimFront_cons_of_not_blank (h c rfl) cs

theorem head_trimFront (cs : List Char) : ∀ c, (trimFront cs).head? = some c → isBlank c = false := by
  intro c hc
  have hn := List.head?_dropWhile_not isBlank cs
  unfold trimFront at hc
  rw [hc] at hn
  exact hn

theorem trimBack_eq (cs : List Char) : trimBack cs = (trimFront cs.reverse).reverse := rfl

theorem trimBack_of_getLast {cs : List Char} (h : ∀ c, cs.getLast? = some c → isBlank c = false) :
    trimBack cs = cs := by
  have hr : trimFront cs.reverse = cs.reverse :=
    trimFront_of_head fun c hc => h c (List.head?_reverse ▸ hc)
  rw [trimBack_eq, hr, List.reverse_reverse]

theorem getLast_trimBack (cs : List Char) : ∀ c, (trimBack cs).getLast? = some c → isBlank c = false := by
  intro c hc
  rw [trimBack_eq, List.getLast?_reverse] at hc
  exact head_trimFront _ c hc

theorem prefix_of_trimBack (cs : List Char) : trimBack cs <+: cs := List.rdropWhile_prefix isBlank cs

theorem trimmed_trimChars (cs : List Char) : Trimmed (trimChars cs) := by
  refine ⟨fun c hc => ?_, getLast_trimBack _⟩
  -- what is left at the back begins as the whole did
  obtain ⟨rest, hr⟩ := prefix_of_trimBack (trimFront cs)
  have hf : (trimFront cs).head? = some c := by
    have hc' : (trimBack (trimFront cs)).head? = some c := hc
    rw [← hr, List.head?_append, hc']
    rfl
  exact head_trimFront cs c hf

theorem trimChars_of_trimmed {cs : List Char} (h : Trimmed cs) : trimChars cs = cs := by
  unfold trimChars
  rw [trimFront_of_head h.1, trimBack_of_getLast h.2]

theorem trimChars_trimChars (cs : List Char) : trimChars (trimChars cs) = trimChars cs :=
  trimChars_of_trimmed (trimmed_trimChars cs)

theorem exists_trimFront (cs : List Char) : ∃ lead, cs = lead ++ trimFront cs ∧ ∀ c ∈ lead, isBlank c = true :=
  ⟨cs.takeWhile isBlank, List.takeWhile_append_dropWhile.symm, fun _ => List.mem_takeWhile_imp⟩

/-- a text is what trimming leaves of it with blanks around -/
theorem exists_trimChars (cs : List Char) : ∃ lead trail, cs = lead ++ (trimChars cs ++ trail) ∧
    (∀ c ∈ lead, isBlank c = true) ∧ ∀ c ∈ trail, isBlank c = true := by
  obtain ⟨lead, hl, hlb⟩ := exists_trimFront cs
  obtain ⟨trail, ht, htb⟩ := exists_trimFront (trimFront cs).reverse
  refine ⟨lead, trail.reverse, ?_, hlb, fun c hc => htb c (List.mem_reverse.mp hc)⟩
  have hback : trimFront cs = trimChars cs ++ trail.reverse := by
    have hr := congrArg List.reverse ht
    rw [List.reverse_reverse, List.reverse_append] at hr
    exact hr
  rw [← hback]
  exact hl

theorem trimFront_append {lead : List Char} (h : ∀ c ∈ lead, isBlank c = true) (cs : List Char) :
    trimFront (lead ++ cs) = trimFront cs :=
  List.dropWhile_append_of_pos h

/-- trimming a text takes exactly the blanks around it -/
theorem trimChars_append {lead core trail : List Char} (hl : ∀ c ∈ lead, isBlank c = true)
    (ht : ∀ c ∈ trail, isBlank c = true) (hne : core ≠ []) (hc : Trimmed core) :
    trimChars (lead ++ (core ++ trail)) = core := by
  have hfront : trimFront (core ++ trail) = core ++ trail := by
    refine trimFront_of_head fun c h => hc.1 c ?_
    rwa [List.head?_append_of_ne_nil _ hne] at h
  have hblank : ∀ c ∈ trail.reverse, isBlank c = true := fun c h => ht c (List.mem_reverse.mp h)
  have hcore : trimFront core.reverse = core.reverse := by
    refine trimFront_of_head fun c h => hc.2 c ?_
    rwa [List.head?_reverse] at h
  unfold trimChars
  rw [trimFront_append hl, hfront, trimBack_eq, List.reverse_append, trimFront_append hblank, hcore,
    List.reverse_reverse]

theorem mem_of_mem_trimChars {c : Char} {cs : List Char} (h : c ∈ trimChars cs) : c ∈ cs :=
  (List.dropWhile_sublist isBlank).subset ((prefix_of_trimBack _).subset h)

/-! ## parts -/

theorem not_mem_of_mem_split {sep : Char} {p cs : List Char} (h : p ∈ split sep cs) : sep ∉ p := by
  induction cs generalizing p with
  | nil =>
    obtain rfl := List.mem_singleton.mp h
    exact List.not_mem_nil
  | cons c cs ih =>
    unfold split at h
    split at h
    · rename_i he
      exact absurd he (split_ne_nil sep cs)
    · rename_i piece pieces he
      have hp : sep ∉ piece := ih (he ▸ List.mem_cons_self)
      split at h
      · rcases List.mem_cons.mp h with rfl | h
        · exact List.not_mem_nil
        · exact ih (he ▸ h)
      · rename_i hc
        rcases List.mem_cons.mp h with rfl | h
        · exact fun hs => (List.mem_cons.mp hs).elim (Ne.symm hc) hp
        · exact ih (he ▸ List.mem_cons_of_mem _ h)

/-- what a part of a text is like -/
theorem exists_of_mem_commaParts {part s : String} (h : part ∈ commaParts s) :
    ∃ p, part = String.ofList p ∧ Trimmed p ∧ ',' ∉ p ∧ p ≠ [] := by
  obtain ⟨p, hp, rfl⟩ := List.mem_map.mp h
  obtain ⟨hm, hn⟩ := List.mem_filter.mp hp
  obtain ⟨piece, hs, rfl⟩ := List.mem_map.mp hm
  refine ⟨_, rfl, trimmed_trimChars piece, fun hc => ?_, ?_⟩
  · exact not_mem_of_mem_split hs (mem_of_mem_trimChars hc)
  · simpa using hn

/-- **A part of a text is the one part of itself.** -/
theorem commaParts_of_mem {part s : String} (h : part ∈ commaParts s) : commaParts part = [part] := by
  obtain ⟨p, rfl, ht, hc, hn⟩ := exists_of_mem_commaParts h
  have he : p.isEmpty = false := List.isEmpty_eq_false_iff.mpr hn
  unfold commaParts
  rw [String.toList_ofList, split_of_not_mem hc, List.map_singleton, trimChars_of_trimmed ht]
  simp [he]

/-! ## segments -/

theorem split_eq_splitOn (sep : Char) (cs : List Char) : split sep cs = cs.splitOn sep := by
  induction cs with
  | nil => rfl
  | cons c cs ih =>
    rw [split, ih, List.splitOn_cons_eq_if_modifyHead]
    cases h : cs.splitOn sep with
    | nil => exact absurd (ih.trans h) (split_ne_nil sep cs)
    | cons p ps =>
      simp only [beq_iff_eq]
      split <;> rfl

/-- the trimmed segments between the commas of a text that are not empty -/
def segments (s : String) : List String :=
  ((s.toList.splitOn ',').map fun p => trim (String.ofList p)).filter (· ≠ "")

theorem commaParts_eq (s : String) : commaParts s = segments s := by
  have htrim : ∀ p : List Char, trim (String.ofList p) = String.ofList (trimChars p) := by
    intro p
    rw [trim, String.toList_ofList]
  have hempty : ∀ p : List Char, (!(trimChars p).isEmpty) = decide (String.ofList (trimChars p) ≠ "") := by
    intro p
    rw [Bool.eq_iff_iff]
    simp
  unfold commaParts segments
  simp only [split_eq_splitOn, htrim, List.filter_map, List.map_map, Function.comp_def, hempty]

theorem segments_append (s t : String) : segments (s ++ "," ++ t) = segments s ++ segments t := by
  have hsplit : (s ++ "," ++ t).toList.splitOn ',' = s.toList.splitOn ',' ++ t.toList.splitOn ',' := by
    rw [String.append_assoc, String.toList_append, String.toList_append]
    exact List.splitOn_append_cons_self s.toList t.toList
  unfold segments
  rw [hsplit, List.map_append, List.filter_append]

/-- **The segments of joined texts are those of each of them, in order.** -/
theorem segments_intercalate {ss : List String} (h : ss ≠ []) : segments (",".intercalate ss) = ss.flatMap segments := by
  induction ss with
  | nil => exact absurd rfl h
  | cons s ss ih =>
    rw [List.flatMap_cons]
    by_cases hs : ss = []
    · rw [hs, String.intercalate_singleton, List.flatMap_nil, List.append_nil]
    · rw [String.intercalate_cons_of_ne_nil hs, segments_append, ih hs]

end RequestPipeline.Text
