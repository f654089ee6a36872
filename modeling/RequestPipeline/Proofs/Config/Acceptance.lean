import RequestPipeline.Config.Acceptance

/-!
# What acceptance says of settings

`Settings.accept` looks for objections one after the other.  `Settings.Acceptable` says in one place what none of
them being there means, and `accept_eq_ok_iff` that this is acceptance.
-/

namespace RequestPipeline

/-- whether every directive of a log filter ends in a level -/
structure LogFilter.Leveled (filter : String) : Prop where
  nonblank : (Text.trim filter).isEmpty = false
  level : ∀ d ∈ Text.commaParts filter, isLevel (levelPart d.toList) = true

namespace Settings

/-- settings to which there is no objection -/
structure Acceptable (s : Settings) : Prop where
  address : ∃ a, SocketAddress.parse? s.server.address = some a
  maxBody : s.server.maxBody ≠ 0
  requestTimeout : s.server.requestTimeout ≠ 0
  header : ∃ name, headerName? s.header.toList = some name
  maxMessage : s.websocket.maxMessage ≠ 0
  maxFrame : s.websocket.maxFrame ≠ 0
  frameFits : s.websocket.maxFrame ≤ s.websocket.maxMessage
  filter : LogFilter.Leveled s.logging.level

theorem objection_eq_none_iff (k : Key) (fails : Bool) (reason : String) :
    objection k fails reason = none ↔ fails = false := by
  cases fails <;> simp [objection]

theorem levelObjection_eq_none_iff (filter : String) :
    levelObjection filter = none ↔ LogFilter.Leveled filter := by
  unfold levelObjection
  by_cases h : (Text.trim filter).isEmpty = true
  · rw [if_pos h]
    exact ⟨fun hn => (by cases hn), fun hl => absurd h (by rw [hl.nonblank]; exact Bool.false_ne_true)⟩
  · rw [if_neg h, Option.map_eq_none_iff]
    unfold LogFilter.firstBadLevel
    rw [List.find?_eq_none]
    have hb : (Text.trim filter).isEmpty = false := Bool.eq_false_iff.mpr h
    constructor
    · intro hn
      exact ⟨hb, fun d hd => by simpa using hn d hd⟩
    · intro hl d hd
      simp [hl.level d hd]

/-- a header name is not empty, so that the objection to an empty one is the weaker of the two -/
theorem isEmpty_eq_false_of_headerName? {s name : String} (h : headerName? s.toList = some name) :
    s.isEmpty = false := by
  refine Bool.eq_false_iff.mpr fun he => ?_
  obtain rfl : s = "" := String.isEmpty_iff.mp he
  cases h

theorem fault?_eq_none_iff (s : Settings) : s.fault? = none ↔ s.Acceptable := by
  unfold fault? objections
  simp only [List.findSome?_eq_none_iff, List.forall_mem_cons, id, objection_eq_none_iff,
    levelObjection_eq_none_iff, Option.isNone_eq_false_iff, Option.isSome_iff_exists, decide_eq_false_iff_not,
    not_or, Nat.not_lt]
  constructor
  · rintro ⟨ha, hb, hr, -, hh, hm, ⟨hf, hfits⟩, hl, -⟩
    exact ⟨ha, hb, hr, hh, hm, hf, hfits, hl⟩
  · intro h
    obtain ⟨name, hn⟩ := h.header
    exact ⟨h.address, h.maxBody, h.requestTimeout, isEmpty_eq_false_of_headerName? hn, h.header, h.maxMessage,
      ⟨h.maxFrame, h.frameFits⟩, h.filter, fun _ hx => absurd hx List.not_mem_nil⟩

/-- **Settings are accepted exactly when there is no objection to them.** -/
theorem accept_eq_ok_iff (s : Settings) : s.accept = .ok s ↔ s.Acceptable := by
  rw [← fault?_eq_none_iff]
  unfold accept
  cases s.fault? <;> simp

end Settings

end RequestPipeline
