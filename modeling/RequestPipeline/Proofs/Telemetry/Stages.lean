import RequestPipeline.Proofs.Dispatch.Passage
import RequestPipeline.Proofs.Telemetry.Conservation

/-!
# What the counters of the stages tell

Two stages of a dispatch are counted: an input that is refused, by the code of its failure, and a reply that is made
ready to go out, by its kind.

* `Tally.Grows`       a counter that has grown by one, under one key;
* `recordAll_dispatch_of_refused`, `recordAll_dispatch_of_failed`, `recordAll_dispatch_of_replied`
                      what is counted on each way out of a dispatch: one rejection, nothing, or one reply;
* `StageCounts`       what the two counters tell of a dispatch.

`counts_dispatch`: **the counters tell of every dispatch what it did.**
-/

namespace RequestPipeline

open Json (Value)
open Validation (validate)
open Telemetry (Recorder Tally)

/-! ## growing -/

namespace Telemetry.Tally
variable {κ : Type} [DecidableEq κ] {t t' : Tally κ} {key : κ}

/-- whether a key was counted once more, and no other key -/
def Grows (t : Tally κ) (key : κ) (t' : Tally κ) : Prop := ∀ k, t'.count k = t.count k + if k = key then 1 else 0

theorem grows_bump (t : Tally κ) (key : κ) : t.Grows key (t.bump key) := by
  intro k
  by_cases h : k = key
  · rw [h, count_bump_self, if_pos rfl]
  · rw [count_bump_of_ne h, if_neg h, Nat.add_zero]

theorem Grows.count (h : t.Grows key t') : t'.count key = t.count key + 1 := by
  rw [h key, if_pos rfl]

/-- what stays as it is has not grown -/
theorem not_grows_self (t : Tally κ) (key : κ) : ¬ t.Grows key t := by
  intro h
  have hc := h.count
  omega

end Telemetry.Tally

/-! ## the lines that show them -/

namespace Telemetry.Recorder
variable (m : Recorder) {key : String}

/-- a counter of replies that has counted is shown under its kind -/
theorem replyLine_mem (h : m.replies.count key ≠ 0) :
    m.line "turnstile_envelopes_total" [("kind", key)] (decimal (m.replies.count key)) ∈ m.lines := by
  have counted := Tally.mem_of_count_ne_zero h
  unfold lines
  refine List.mem_mergeSort.mpr (List.mem_append_right _ ?_)
  exact mem_heading (List.mem_map.mpr ⟨_, counted, rfl⟩) _ _ _

/-- a counter of rejections that has counted is shown under its code -/
theorem rejectionLine_mem (h : m.rejections.count key ≠ 0) :
    m.line "turnstile_validation_failures_total" [("code", key)] (decimal (m.rejections.count key)) ∈ m.lines := by
  have counted := Tally.mem_of_count_ne_zero h
  unfold lines
  refine List.mem_mergeSort.mpr (List.mem_append_left _ (List.mem_append_right _ ?_))
  exact mem_heading (List.mem_map.mpr ⟨_, counted, rfl⟩) _ _ _

end Telemetry.Recorder

/-! ## ways out of a dispatch -/

/-- which kind of reply it is -/
def Reply.kind : Reply → ReplyKind
  | .data .. => .data
  | .envelope _ => .envelope
  | .binary _ => .binary

theorem Reply.kind_filter (reply : Reply) : reply.filter.kind = reply.kind := by
  cases reply <;> rfl

/-- whether the query or the body of a request is not valid -/
def Inbound.Invalid (inbound : Inbound) (op : Operation) (context : Option RequestContext) : Prop :=
  (∃ f, validate op.query (.object inbound.query) context = .error f) ∨
    ∃ f, validate op.body (inbound.body.getD .null) (inbound.bodyContext context) = .error f

section
variable {op : Operation} {host : Host} {context : Option RequestContext} {inbound : Inbound} {input : Input}

theorem not_invalid_of_binds (h : inbound.Binds op context input) : ¬ inbound.Invalid op context := by
  rintro (⟨f, hf⟩ | ⟨f, hf⟩)
  · cases h.query.symm.trans hf
  · cases h.body.symm.trans hf

/-- an input is refused, or it is bound -/
theorem invalid_or_binds (op : Operation) (context : Option RequestContext) (inbound : Inbound) :
    (inbound.Invalid op context ∧ ∃ f, op.accept context inbound = .error f) ∨
      ∃ input, inbound.Binds op context input := by
  cases hq : validate op.query (.object inbound.query) context with
  | error f => exact .inl ⟨.inl ⟨f, hq⟩, f, accept_of_refusedQuery hq⟩
  | ok query =>
    cases hb : validate op.body (inbound.body.getD .null) (inbound.bodyContext context) with
    | error f => exact .inl ⟨.inr ⟨f, hb⟩, f, accept_of_refusedBody hq hb⟩
    | ok body => exact .inr ⟨⟨query, body⟩, hq, hb⟩

variable (m : Recorder)

/-- an operation itself is not counted, but what becomes of its reply -/
theorem recordAll_dispatch_of_binds (h : inbound.Binds op context input) :
    m.recordAll (dispatch op host context inbound).events =
      m.recordAll (match (op.call context input).result with
        | .error _ => []
        | .ok reply => (reply.filter.send host).events) := by
  rw [dispatch_eq, accept_of_binds h]
  show m.recordAll (op.answer host context input).events = _
  unfold Operation.answer
  rw [Run.events_bind, Operation.value_perform]
  cases (op.call context input).result <;> rfl

theorem recordAll_dispatch_of_refused {f : Failure} (h : op.accept context inbound = .error f) :
    m.recordAll (dispatch op host context inbound).events = m.addRejection f.code := by
  rw [dispatch_eq, h]
  rfl

theorem recordAll_dispatch_of_failed (h : inbound.Binds op context input)
    (failed : (∃ f, (op.call context input).result = .error f) ∨ ¬ host.IsServed) :
    m.recordAll (dispatch op host context inbound).events = m := by
  rw [recordAll_dispatch_of_binds m h]
  cases hr : (op.call context input).result with
  | error f => rfl
  | ok reply =>
    have unserved : ¬ host.IsServed := by
      rcases failed with ⟨f, hf⟩ | hh
      · cases hr.symm.trans hf
      · exact hh
    dsimp only
    rw [events_send, Host.transport_of_not_isServed unserved]
    rfl

theorem recordAll_dispatch_of_replied {reply : Reply} (h : inbound.Binds op context input)
    (replied : (op.call context input).result = .ok reply) (served : host.IsServed) :
    m.recordAll (dispatch op host context inbound).events = m.addReply reply.kind.label := by
  obtain ⟨t, ht⟩ := Host.transport_of_isServed served
  rw [recordAll_dispatch_of_binds m h, replied]
  dsimp only
  rw [events_send, ht, ← Reply.kind_filter]
  rfl

end

/-! ## the counters -/

/-- what the counters of the stages tell of a dispatch that ended with a result -/
structure StageCounts (op : Operation) (host : Host) (context : Option RequestContext) (inbound : Inbound)
    (result : Except Failure Outgoing) (before after : Recorder) : Prop where
  /-- the counter of replies grows by one exactly if something goes out -/
  replied : (∃ kind, before.replies.Grows kind after.replies) ↔ ∃ outgoing, result = .ok outgoing
  /-- it grows under the kind of the operation's reply -/
  kind : ∀ outgoing, result = .ok outgoing → ∃ input reply, inbound.Binds op context input ∧
    (op.call context input).result = .ok reply ∧ before.replies.Grows reply.kind.label after.replies
  unreplied : ∀ f, result = .error f → after.replies = before.replies
  /-- the counter of rejections grows by one exactly if the query or the body is not valid, also if both are not -/
  rejected : (∃ code, before.rejections.Grows code after.rejections) ↔ inbound.Invalid op context
  /-- it grows under the code of the failure that is returned -/
  code : inbound.Invalid op context → ∃ f, result = .error f ∧ before.rejections.Grows f.code after.rejections
  unrejected : ¬ inbound.Invalid op context → after.rejections = before.rejections
  /-- never do both grow -/
  one : ∀ kind code, before.replies.Grows kind after.replies → ¬ before.rejections.Grows code after.rejections
  /-- of a valid input neither grows if the operation fails, in whatever way, or if the host has no transport -/
  neither : ∀ input, inbound.Binds op context input →
    (∃ f, (op.call context input).result = .error f) ∨ ¬ host.IsServed →
    after.replies = before.replies ∧ after.rejections = before.rejections

namespace StageCounts
variable {op : Operation} {host : Host} {context : Option RequestContext} {inbound : Inbound} {input : Input}
  (m : Recorder)

theorem of_refused (invalid : inbound.Invalid op context) (f : Failure) :
    StageCounts op host context inbound (.error f) m (m.addRejection f.code) where
  replied := ⟨fun ⟨kind, h⟩ => absurd h (m.replies.not_grows_self kind), nofun⟩
  kind := nofun
  unreplied _ _ := rfl
  rejected := ⟨fun _ => invalid, fun _ => ⟨f.code, m.rejections.grows_bump f.code⟩⟩
  code _ := ⟨f, rfl, m.rejections.grows_bump f.code⟩
  unrejected h := absurd invalid h
  one kind _ h := absurd h (m.replies.not_grows_self kind)
  neither _ hi _ := absurd invalid (not_invalid_of_binds hi)

theorem of_failed (hi : inbound.Binds op context input) (f : Failure) :
    StageCounts op host context inbound (.error f) m m where
  replied := ⟨fun ⟨kind, h⟩ => absurd h (m.replies.not_grows_self kind), nofun⟩
  kind := nofun
  unreplied _ _ := rfl
  rejected := ⟨fun ⟨code, h⟩ => absurd h (m.rejections.not_grows_self code), fun h => absurd h (not_invalid_of_binds hi)⟩
  code h := absurd h (not_invalid_of_binds hi)
  unrejected _ := rfl
  one kind _ h := absurd h (m.replies.not_grows_self kind)
  neither _ _ _ := ⟨rfl, rfl⟩

theorem of_replied {reply : Reply} (hi : inbound.Binds op context input)
    (replied : (op.call context input).result = .ok reply) (served : host.IsServed) (outgoing : Outgoing) :
    StageCounts op host context inbound (.ok outgoing) m (m.addReply reply.kind.label) where
  replied := ⟨fun _ => ⟨outgoing, rfl⟩, fun _ => ⟨_, m.replies.grows_bump _⟩⟩
  kind _ _ := ⟨input, reply, hi, replied, m.replies.grows_bump _⟩
  unreplied := nofun
  rejected := ⟨fun ⟨code, h⟩ => absurd h (m.rejections.not_grows_self code), fun h => absurd h (not_invalid_of_binds hi)⟩
  code h := absurd h (not_invalid_of_binds hi)
  unrejected _ := rfl
  one _ code _ := m.rejections.not_grows_self code
  neither input' hi' failed := by
    -- an input is bound in one way
    have accepted := (accept_of_binds hi).symm.trans (accept_of_binds hi')
    obtain rfl : input = input' := Except.ok.inj accepted
    rcases failed with ⟨f, hf⟩ | hh
    · cases replied.symm.trans hf
    · exact absurd served hh

end StageCounts

/-- what has grown is shown with the name of its counter and with its label -/
structure GrowthShown (before after : Recorder) : Prop where
  reply : ∀ kind, before.replies.Grows kind after.replies →
    after.line "turnstile_envelopes_total" [("kind", kind)] (Recorder.decimal (before.replies.count kind + 1)) ∈
      after.settle.lines
  rejection : ∀ code, before.rejections.Grows code after.rejections →
    after.line "turnstile_validation_failures_total" [("code", code)]
      (Recorder.decimal (before.rejections.count code + 1)) ∈ after.settle.lines

theorem growthShown (before after : Recorder) : GrowthShown before after where
  reply kind h := by
    rw [← h.count]
    refine after.settle.replyLine_mem ?_
    show after.replies.count kind ≠ 0
    rw [h.count]
    exact Nat.succ_ne_zero _
  rejection code h := by
    rw [← h.count]
    refine after.settle.rejectionLine_mem ?_
    show after.rejections.count code ≠ 0
    rw [h.count]
    exact Nat.succ_ne_zero _

/-- **The counters of the stages tell of every dispatch what it did, and they are shown.** -/
theorem counts_dispatch (op : Operation) (host : Host) (context : Option RequestContext) (inbound : Inbound)
    (m : Recorder) :
    let run := dispatch op host context inbound
    StageCounts op host context inbound run.value m (m.recordAll run.events) ∧
      GrowthShown m (m.recordAll run.events) := by
  refine ⟨?_, growthShown _ _⟩
  rw [value_dispatch]
  rcases invalid_or_binds op context inbound with ⟨invalid, f, hf⟩ | ⟨input, hi⟩
  · rw [recordAll_dispatch_of_refused m hf, hf]
    exact .of_refused m invalid f
  · rw [accept_of_binds hi]
    show StageCounts op host context inbound (op.outcome host context input) m _
    cases hr : (op.call context input).result with
    | error f =>
      rw [recordAll_dispatch_of_failed m hi (.inl ⟨f, hr⟩), Operation.outcome_of_failed hr]
      exact .of_failed m hi f
    | ok reply =>
      by_cases hh : host.IsServed
      · rw [recordAll_dispatch_of_replied m hi hr hh, Operation.outcome_of_served hr hh]
        exact .of_replied m hi hr hh _
      · rw [recordAll_dispatch_of_failed m hi (.inr hh), Operation.outcome_of_unserved hr hh]
        exact .of_failed m hi _

end RequestPipeline
