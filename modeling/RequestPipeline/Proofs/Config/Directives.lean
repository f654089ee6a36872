import Mathlib.Algebra.GroupWithZero.Nat
import Mathlib.Tactic.SplitIfs
import RequestPipeline.Config.LogFilter

/-!
# The directives of a log filter

`isDirective` reads a directive character by character.  `Directive` is the language that it reads, for a text
without blanks at its ends: a word, a span in brackets, or both (`Head`), and behind an equals sign a level.

* `reads_step`          what one more character makes of what has been read, state by state;
* `reads_run`           what has been read when the reader is in a given state, by one step after the other;
* `run_of_head`         a head takes the reader to a state behind it.

`isDirective_iff`: **a text without blanks at its ends can be read exactly when it is a directive.**
-/

namespace RequestPipeline.LogFilter

/-! ## positions -/

/-- how many bytes a text takes -/
def byteLength (cs : List Char) : Nat := (cs.map Char.utf8Size).sum

theorem byteLength_nil : byteLength [] = 0 := rfl

theorem byteLength_cons (c : Char) (cs : List Char) : byteLength (c :: cs) = c.utf8Size + byteLength cs := by
  simp [byteLength]

theorem byteLength_append (as bs : List Char) : byteLength (as ++ bs) = byteLength as + byteLength bs := by
  simp [byteLength]

theorem byteLength_concat (as : List Char) (c : Char) : byteLength (as ++ [c]) = byteLength as + c.utf8Size := by
  rw [byteLength_append, byteLength_cons, byteLength_nil, Nat.add_zero]

theorem dropBytes_byteLength (as bs : List Char) : dropBytes (byteLength as) (as ++ bs) = bs := by
  induction as with
  | nil =>
    cases bs with
    | nil => rfl
    | cons b bs => exact if_pos rfl
  | cons a as ih =>
    have ha := a.utf8Size_pos
    rw [byteLength_cons, List.cons_append, dropBytes, if_neg (by omega), Nat.add_sub_cancel_left, ih]

theorem takeBytes_byteLength (as bs : List Char) : takeBytes (byteLength as) (as ++ bs) = as := by
  induction as with
  | nil =>
    cases bs with
    | nil => rfl
    | cons b bs => exact if_pos rfl
  | cons a as ih =>
    have ha := a.utf8Size_pos
    rw [byteLength_cons, List.cons_append, takeBytes, if_neg (by omega), Nat.add_sub_cancel_left, ih]

/-- what stands behind a position is still there when the bytes before it are dropped -/
theorem mem_dropBytes {n : Nat} {as : List Char} (h : n ≤ byteLength as) (c : Char) (bs : List Char) :
    c ∈ dropBytes n (as ++ c :: bs) := by
  induction as generalizing n with
  | nil =>
    obtain rfl : n = 0 := Nat.le_zero.mp h
    rw [List.nil_append, dropBytes, if_pos rfl]
    exact List.mem_cons_self
  | cons a as ih =>
    rw [List.cons_append, dropBytes]
    split
    · exact List.mem_cons_of_mem _ (List.mem_append_right _ List.mem_cons_self)
    · rw [byteLength_cons] at h
      exact ih (by omega)

/-! ## the language -/

/-- whether a word may begin with a character -/
def Starts (c : Char) : Prop := c = '-' ∨ c = ':' ∨ c = '_' ∨ Text.isAlphanumeric c = true

theorem not_starts_equals : ¬ Starts '=' := by
  have ha : Text.isAlphanumeric '=' = false := by decide +kernel
  unfold Starts
  rw [ha]
  decide

/-- a level or a target -/
structure Word (cs : List Char) : Prop where
  starts : ∃ c rest, cs = c :: rest ∧ Starts c
  equals : '=' ∉ cs
  bracket : '[' ∉ cs

/-- the name of a span, which may be left out -/
structure SpanName (cs : List Char) : Prop where
  bracket : ']' ∉ cs
  brace : '{' ∉ cs

structure SpanField (cs : List Char) : Prop where
  nonempty : cs ≠ []
  brace : '}' ∉ cs
  readable : isField cs = true

/-- a span in brackets, with at most one field in braces -/
inductive Span : List Char → Prop
  | plain {name : List Char} : SpanName name → Span ('[' :: name ++ [']'])
  | field {name field : List Char} : SpanName name → SpanField field →
      Span ('[' :: name ++ '{' :: field ++ ['}', ']'])

/-- what stands before the level of a directive -/
inductive Head : List Char → Prop
  | word {w : List Char} : Word w → Head w
  | span {w s : List Char} : (w = [] ∨ Word w) → Span s → Head (w ++ s)

inductive Directive : List Char → Prop
  | head {h : List Char} : Head h → Directive h
  | level {h l : List Char} : Head h → isLevel l = true → Directive (h ++ '=' :: l)

/-! ## what has been read -/

/-- What the front of a text is when the reader is in a state.  Positions count bytes of the text that is read, and a
field is taken from `directive`; so a field that was taken is one of the text only if the text is `directive`. -/
def Reads (directive front : List Char) : State → Prop
  | .start => front = []
  | .word => Word front
  | .span => ∃ w name, (w = [] ∨ Word w) ∧ SpanName name ∧ front = w ++ '[' :: name
  | .field p => ∃ w name field, (w = [] ∨ Word w) ∧ SpanName name ∧ '}' ∉ field ∧
      front = w ++ '[' :: name ++ '{' :: field ∧ p = byteLength (w ++ '[' :: name) + 1
  | .afterField => ∃ w name field, (w = [] ∨ Word w) ∧ SpanName name ∧
      front = w ++ '[' :: name ++ '{' :: field ++ ['}'] ∧ (front <+: directive → SpanField field)
  | .afterSpan => (∃ q, front = q ++ [']']) ∧ (front <+: directive → Head front)
  | .level p => ∃ h l, front = h ++ '=' :: l ∧ p = byteLength h + 1 ∧ (h <+: directive → Head h)
  | .bad => True

theorem not_mem_concat {c d : Char} {cs : List Char} (h : c ∉ cs) (hd : d ≠ c) : c ∉ cs ++ [d] := by
  rw [List.mem_append, List.mem_singleton]
  exact not_or.mpr ⟨h, Ne.symm hd⟩

section
variable {directive front : List Char} {c : Char} {s : State}

theorem prefix_of_concat (h : front ++ [c] <+: directive) : front <+: directive := (List.prefix_append front [c]).trans h

/-- the field that is taken from a text is the one that was read -/
theorem takeBytes_field {opening field : List Char} {p : Nat} (hfront : front = opening ++ field)
    (hp : p = byteLength opening) (h : front <+: directive) :
    takeBytes (byteLength front - p) (dropBytes p directive) = field := by
  obtain ⟨rest, rfl⟩ := h
  rw [hfront, hp, byteLength_append, Nat.add_sub_cancel_left, List.append_assoc, dropBytes_byteLength,
    takeBytes_byteLength]

/-- an empty name, behind the bracket that opens a span -/
theorem reads_span_opened {w : List Char} (hw : w = [] ∨ Word w) (hc : c = '[') : Reads directive (w ++ [c]) .span :=
  ⟨w, [], hw, ⟨List.not_mem_nil, List.not_mem_nil⟩, by rw [hc]⟩

theorem reads_step_start : Reads directive [c] (State.step directive 0 c .start) := by
  show Reads _ _ (if c = '[' then .span
    else if c = '-' ∨ c = ':' ∨ c = '_' ∨ Text.isAlphanumeric c = true then .word else .bad)
  split_ifs with hb hs
  · exact reads_span_opened (.inl rfl) hb
  · have he : c ≠ '=' := fun he => not_starts_equals (he ▸ hs)
    exact ⟨⟨c, [], rfl, hs⟩, not_mem_concat List.not_mem_nil he, not_mem_concat List.not_mem_nil hb⟩
  · trivial

theorem reads_step_word (hw : Word front) :
    Reads directive (front ++ [c]) (State.step directive (byteLength front) c .word) := by
  show Reads _ _ (if c = '=' then .level (byteLength front + 1) else if c = '[' then .span else .word)
  split_ifs with he hb
  · exact ⟨front, [], by rw [he], rfl, fun _ => .word hw⟩
  · exact reads_span_opened (.inr hw) hb
  · obtain ⟨d, tail, ht, hs⟩ := hw.starts
    exact ⟨⟨d, tail ++ [c], by rw [ht]; rfl, hs⟩, not_mem_concat hw.equals he, not_mem_concat hw.bracket hb⟩

theorem reads_step_span (h : Reads directive front .span) :
    Reads directive (front ++ [c]) (State.step directive (byteLength front) c .span) := by
  obtain ⟨w, name, hw, hn, rfl⟩ := h
  show Reads _ _ (if c = ']' then .afterSpan else if c = '{' then .field (_ + 1) else .span)
  split_ifs with hb hf
  · subst hb
    refine ⟨⟨_, rfl⟩, fun _ => ?_⟩
    rw [List.append_assoc]
    exact .span hw (.plain hn)
  · subst hf
    exact ⟨w, name, [], hw, hn, List.not_mem_nil, rfl, rfl⟩
  · exact ⟨w, name ++ [c], hw, ⟨not_mem_concat hn.bracket hb, not_mem_concat hn.brace hf⟩, by simp⟩

theorem reads_step_field {p : Nat} (h : Reads directive front (.field p)) :
    Reads directive (front ++ [c]) (State.step directive (byteLength front) c (.field p)) := by
  obtain ⟨w, name, field, hw, hn, hb, hfront, hp⟩ := h
  have hopening : p = byteLength (w ++ '[' :: name ++ ['{']) := by
    rw [byteLength_concat, hp]
    rfl
  have htaken : front <+: directive → takeBytes (byteLength front - p) (dropBytes p directive) = field :=
    takeBytes_field (by rw [hfront, List.append_cons _ '{']) hopening
  show Reads _ _ (if c = '}' then
    let taken := takeBytes (byteLength front - p) (dropBytes p directive)
    if ¬ taken.isEmpty ∧ isField taken then .afterField else .bad
    else .field p)
  dsimp only
  split_ifs with hc ht
  · refine ⟨w, name, field, hw, hn, by rw [hfront, hc], fun hd => ?_⟩
    rw [htaken (prefix_of_concat hd)] at ht
    exact ⟨by simpa using ht.1, hb, ht.2⟩
  · trivial
  · exact ⟨w, name, field ++ [c], hw, hn, not_mem_concat hb hc, by simp [hfront], hp⟩

theorem reads_step_afterField (h : Reads directive front .afterField) :
    Reads directive (front ++ [c]) (State.step directive (byteLength front) c .afterField) := by
  obtain ⟨w, name, field, hw, hn, hfront, hf⟩ := h
  show Reads _ _ (if c = ']' then .afterSpan else .bad)
  split_ifs with hb
  · subst hb
    refine ⟨⟨_, rfl⟩, fun hd => ?_⟩
    have hs : Head (w ++ ('[' :: name ++ '{' :: field ++ ['}', ']'])) :=
      .span hw (.field hn (hf (prefix_of_concat hd)))
    simpa [hfront] using hs
  · trivial

theorem reads_step_afterSpan (h : Reads directive front .afterSpan) :
    Reads directive (front ++ [c]) (State.step directive (byteLength front) c .afterSpan) := by
  show Reads _ _ (if c = '=' then .level (byteLength front + 1) else .bad)
  split_ifs with he
  · exact ⟨front, [], by rw [he], rfl, h.2⟩
  · trivial

theorem reads_step_level {p : Nat} (h : Reads directive front (.level p)) :
    Reads directive (front ++ [c]) (State.step directive (byteLength front) c (.level p)) := by
  obtain ⟨head, l, rfl, hp, hh⟩ := h
  exact ⟨head, l ++ [c], by simp, hp, hh⟩

theorem reads_step (h : Reads directive front s) :
    Reads directive (front ++ [c]) (s.step directive (byteLength front) c) := by
  cases s with
  | start =>
    obtain rfl : front = [] := h
    exact reads_step_start
  | word => exact reads_step_word h
  | span => exact reads_step_span h
  | field p => exact reads_step_field h
  | afterField => exact reads_step_afterField h
  | afterSpan => exact reads_step_afterSpan h
  | level p => exact reads_step_level h
  | bad => trivial

theorem reads_run {rest : List Char} (h : Reads directive front s) :
    Reads directive (front ++ rest) (State.run directive (byteLength front) s rest) := by
  induction rest generalizing front s with
  | nil =>
    rw [List.append_nil]
    exact h
  | cons c rest ih =>
    have hstep := ih (reads_step (c := c) h)
    rwa [byteLength_concat, ← List.append_cons] at hstep

/-- what the whole text is when it has been read -/
theorem reads_whole (directive cs : List Char) : Reads directive cs (State.run directive 0 .start cs) :=
  reads_run (show Reads directive [] .start from rfl)

end

/-! ## how a directive is read -/

section
variable {directive : List Char}

theorem run_append (pos : Nat) (s : State) (as bs : List Char) :
    State.run directive pos s (as ++ bs) =
      State.run directive (pos + byteLength as) (State.run directive pos s as) bs := by
  induction as generalizing pos s with
  | nil => rfl
  | cons a as ih =>
    rw [List.cons_append, State.run, ih, byteLength_cons, State.run, Nat.add_assoc]

/-- characters that leave the reader in its state -/
theorem run_stay {s : State} {cs : List Char} (h : ∀ c ∈ cs, ∀ pos, s.step directive pos c = s) (pos : Nat) :
    State.run directive pos s cs = s := by
  induction cs generalizing pos with
  | nil => rfl
  | cons c cs ih =>
    rw [State.run, h c List.mem_cons_self, ih fun d hd => h d (List.mem_cons_of_mem _ hd)]

theorem run_of_word {w : List Char} (hw : Word w) (pos : Nat) : State.run directive pos .start w = .word := by
  obtain ⟨⟨c, rest, rfl, hs⟩, he, hb⟩ := hw
  have hcb : c ≠ '[' := fun h => hb (h ▸ List.mem_cons_self)
  have hc : State.step directive pos c .start = .word := by
    show (if c = '[' then .span
      else if c = '-' ∨ c = ':' ∨ c = '_' ∨ Text.isAlphanumeric c = true then .word else .bad) = State.word
    rw [if_neg hcb]
    exact if_pos hs
  rw [State.run, hc]
  refine run_stay (fun d hd pos => ?_) _
  have hde : d ≠ '=' := fun h => he (h ▸ List.mem_cons_of_mem _ hd)
  have hdb : d ≠ '[' := fun h => hb (h ▸ List.mem_cons_of_mem _ hd)
  show (if d = '=' then .level (pos + 1) else if d = '[' then .span else .word) = State.word
  rw [if_neg hde, if_neg hdb]

theorem run_of_spanName {name : List Char} (hn : SpanName name) (pos : Nat) :
    State.run directive pos .span name = .span := by
  refine run_stay (fun d hd pos => ?_) pos
  have hdb : d ≠ ']' := fun h => hn.bracket (h ▸ hd)
  have hdf : d ≠ '{' := fun h => hn.brace (h ▸ hd)
  show (if d = ']' then .afterSpan else if d = '{' then .field (pos + 1) else .span) = State.span
  rw [if_neg hdb, if_neg hdf]

theorem run_of_spanField {front field rest : List Char} (hd : directive = front ++ field ++ '}' :: rest)
    (hf : SpanField field) :
    State.run directive (byteLength front) (.field (byteLength front)) (field ++ ['}']) = .afterField := by
  have hstay : State.run directive (byteLength front) (.field (byteLength front)) field =
      .field (byteLength front) := by
    refine run_stay (fun d hmem pos => ?_) _
    exact if_neg fun h : d = '}' => hf.brace (h ▸ hmem)
  have htaken : takeBytes (byteLength front + byteLength field - byteLength front)
      (dropBytes (byteLength front) directive) = field := by
    rw [hd, Nat.add_sub_cancel_left, List.append_assoc, dropBytes_byteLength, takeBytes_byteLength]
  have hok : ¬ field.isEmpty = true ∧ isField field = true := ⟨by simpa using hf.nonempty, hf.readable⟩
  rw [run_append, hstay]
  show (let taken := takeBytes (byteLength front + byteLength field - byteLength front)
          (dropBytes (byteLength front) directive)
        if ¬ taken.isEmpty ∧ isField taken then State.afterField else .bad) = _
  rw [htaken]
  exact if_pos hok

theorem run_of_span {w span rest : List Char} {s : State} (hd : directive = w ++ span ++ rest) (hspan : Span span)
    (hs : s = .start ∨ s = .word) : State.run directive (byteLength w) s span = .afterSpan := by
  have hopen : ∀ cs,
      State.run directive (byteLength w) s ('[' :: cs) = State.run directive (byteLength w + 1) .span cs := by
    rcases hs with rfl | rfl <;> exact fun cs => rfl
  cases hspan with
  | @plain name hn =>
    rw [List.cons_append, hopen, run_append, run_of_spanName hn]
    rfl
  | @field name field hn hf =>
    have hfront : byteLength (w ++ '[' :: name ++ ['{']) = byteLength w + 1 + byteLength name + 1 := by
      rw [byteLength_concat, byteLength_append, byteLength_cons, ← Nat.add_assoc]
      rfl
    have hsplit : '[' :: name ++ '{' :: field ++ ['}', ']'] =
        '[' :: (name ++ ('{' :: (field ++ ['}'] ++ [']']))) := by simp
    have hd' : directive = w ++ '[' :: name ++ ['{'] ++ field ++ '}' :: ']' :: rest := by
      rw [hd]
      simp
    have hfield := run_of_spanField hd' hf
    rw [hfront] at hfield
    rw [hsplit, hopen, run_append, run_of_spanName hn]
    show State.run directive (byteLength w + 1 + byteLength name + 1) (.field (byteLength w + 1 + byteLength name + 1))
      (field ++ ['}'] ++ [']']) = _
    rw [run_append, hfield]
    rfl

/-- a head takes the reader behind a word or behind a span -/
theorem run_of_head {h rest : List Char} (hd : directive = h ++ rest) (hh : Head h) :
    State.run directive 0 .start h = .word ∨ State.run directive 0 .start h = .afterSpan := by
  cases hh with
  | word hw => exact .inl (run_of_word hw 0)
  | @span w s hw hs =>
    right
    rw [run_append, Nat.zero_add]
    refine run_of_span hd hs ?_
    rcases hw with rfl | hw
    · exact .inl rfl
    · exact .inr (run_of_word hw 0)

end

theorem dropBytes_level (head l : List Char) : dropBytes (byteLength head + 1) (head ++ '=' :: l) = l := by
  have hd := dropBytes_byteLength (head ++ ['=']) l
  rw [byteLength_concat, ← List.append_cons] at hd
  exact hd

/-- a level may be left out behind its equals sign -/
theorem isEmpty_or_isLevel (l : List Char) : (l.isEmpty || isLevel l) = isLevel l := by
  cases l with
  | nil => rfl
  | cons c l => rfl

/-- **A text without blanks at its ends can be read exactly when it is a directive.** -/
theorem isDirective_iff {cs : List Char} (trimmed : Text.trimChars cs = cs) : isDirective cs = true ↔ Directive cs := by
  unfold isDirective
  rw [trimmed]
  constructor
  · intro h
    have hr := reads_whole cs cs
    generalize State.run cs 0 .start cs = s at h hr
    cases s with
    | word => exact .head (.word hr)
    | afterSpan => exact .head (hr.2 (List.prefix_refl _))
    | level p =>
      obtain ⟨head, l, rfl, rfl, hh⟩ := hr
      dsimp only at h
      rw [dropBytes_level, isEmpty_or_isLevel] at h
      exact .level (hh (List.prefix_append _ _)) h
    | _ => cases h
  · intro h
    cases h with
    | head hh =>
      rcases run_of_head (List.append_nil cs).symm hh with hw | hs
      · rw [hw]
      · rw [hs]
    | @level head l hh hl =>
      have hlevel : State.run (head ++ '=' :: l) 0 .start (head ++ '=' :: l) = .level (byteLength head + 1) := by
        rw [run_append, Nat.zero_add]
        rcases run_of_head (show head ++ '=' :: l = head ++ _ from rfl) hh with hw | hs
        · rw [hw]
          show State.run _ _ (.level (byteLength head + 1)) l = _
          exact run_stay (fun _ _ _ => rfl) _
        · rw [hs]
          show State.run _ _ (.level (byteLength head + 1)) l = _
          exact run_stay (fun _ _ _ => rfl) _
      rw [hlevel]
      dsimp only
      rw [dropBytes_level, isEmpty_or_isLevel]
      exact hl

end RequestPipeline.LogFilter
