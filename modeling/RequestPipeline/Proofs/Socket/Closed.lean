import RequestPipeline.Proofs.Socket.Calls
import RequestPipeline.Socket.Conversation

/-!
# When a connection is closed

A connection remembers that it was closed.  `Step.Ends` says of a call that the connection ended with it: a close frame
came or was sent, or the stream had ended or failed when it was asked for a message.  The connection does not look at
what it is given to send, so that a close frame sent as a message goes unnoticed; `Step.Closes` leaves this out.

* `Happens.closed_iff`, `Runs.closed_iff`   a call closes a connection, and then one of the calls so far did;
* `Happens.refused`, `Runs.refused`   a closed connection stays closed, and nothing but a flush reaches its stream;
* `Runs.farewells`   one close frame at most is sent to close it.

`closed_flag`: **what being closed means, after every history over every stream.**
-/

namespace RequestPipeline.Socket

/-! ## what ends a connection -/

/-- whether it is a close frame that was sent -/
def Exchange.isFarewell : Exchange → Bool
  | .sent m r => r.isOk && Connection.isClosing m
  | _ => false

/-- whether a connection has ended with it -/
def Exchange.ends : Exchange → Bool
  | .arrived a => a.isLast
  | e => e.isFarewell

/-- whether it is a close frame that is sent like any other message -/
def Act.sendsClosing : Act → Bool
  | .send m => Connection.isClosing m
  | _ => false

namespace Step

/-- whether a connection has ended with a call -/
def Ends (s : Step) : Prop := ∃ e ∈ s.exchanged, e.ends = true

/-- whether it has, and not by what was given to it to send -/
def Closes (s : Step) : Prop := s.Ends ∧ ∀ m, s.act ≠ .send m

/-- what a call comes to on a connection that is closed -/
def Refused (s : Step) : Prop :=
  match s.act with
  | .recv => s.reported = .received .over ∧ s.exchanged = []
  | .send _ => s.reported = .done (.error Connection.alreadyClosed) ∧ s.exchanged = []
  | .close _ => s.reported = .done (.ok ()) ∧ s.exchanged = []
  | .flush => ∃ r, s.reported = .done (WireFault.flushed r) ∧ s.exchanged = [.flushed r]
  | .wait _ => s.reported = .waited ∧ s.exchanged = []

@[simp]
theorem ends_mk {act : Act} {reported : Reported} {exchanged : List Exchange} {closed : Bool} :
    Ends ⟨act, reported, exchanged, closed⟩ ↔ ∃ e ∈ exchanged, e.ends = true := Iff.rfl

end Step

theorem Exchange.isFarewell_sent (m : Message) (r : Except WireFault Unit) :
    (sent m r).isFarewell = (r.isOk && Connection.isClosing m) := rfl

@[simp]
theorem Exchange.ends_arrived (a : Arrival) : (arrived a).ends = a.isLast := rfl

@[simp]
theorem Exchange.ends_sent (m : Message) (r : Except WireFault Unit) :
    (sent m r).ends = (r.isOk && Connection.isClosing m) := rfl

@[simp]
theorem Exchange.ends_flushed (r : Except WireFault Unit) : (flushed r).ends = false := rfl

/-! ## one call -/

namespace Happens
variable {closed : Bool} {s : Step}

/-- a connection is closed after a call if it was before, or if the call closes it -/
theorem closed_iff (h : Happens closed s) : s.closed = true ↔ closed = true ∨ s.Closes := by
  unfold Step.Closes
  cases h <;> simp [Connection.isClosing, Except.isOk, Except.toBool]

/-- a connection ends with a call that closes it, or with a close frame that it was given to send -/
theorem closes_or_sendsClosing (h : Happens closed s) (ends : s.Ends) : s.Closes ∨ s.act.sendsClosing = true := by
  cases h with
  | send m r =>
    right
    obtain ⟨-, hm⟩ : r.isOk = true ∧ Connection.isClosing m = true := by simpa using ends
    exact hm
  | sendClosed m => simp at ends
  | _ => exact .inl ⟨ends, fun m => Act.noConfusion⟩

/-- a closed connection stays closed, and does nothing but flush -/
theorem refused (h : Happens true s) : s.closed = true ∧ s.Refused := by
  cases h with
  | flush closed r => exact ⟨rfl, r, rfl, rfl⟩
  | _ => exact ⟨rfl, rfl, rfl⟩

theorem open_of_idle (h : Happens closed s) {d : Nat} (hr : s.reported = .received (.failed (.idle d))) :
    s.closed = false := by
  cases h with
  | recv idle a =>
    cases a with
    | nothing => rfl
    | _ => cases hr
  | _ => cases hr

theorem open_of_failed (h : Happens closed s) {closing : Closing} {f : SocketFault} (ha : s.act = .close closing)
    (hr : s.reported = .done (.error f)) : s.closed = false := by
  cases h with
  | closeFailed closing f => rfl
  | close closing => cases hr
  | closeClosed closing => cases hr
  | _ => cases ha

/-- a close frame is sent like any other message, or by a call after which the flag is set and was not before -/
theorem farewells_le (h : Happens closed s) :
    s.exchanged.countP Exchange.isFarewell + closed.toNat ≤ s.act.sendsClosing.toNat + s.closed.toNat := by
  cases h with
  | send m r =>
    show [Exchange.sent m r].countP Exchange.isFarewell ≤ (Connection.isClosing m).toNat
    rw [List.countP_singleton, Exchange.isFarewell_sent]
    cases r.isOk <;> cases Connection.isClosing m <;> decide
  | sendClosed m => exact Nat.le_add_left 1 (Connection.isClosing m).toNat
  | recv idle a => exact Nat.zero_le _
  | flush closed r => exact Nat.le_refl (0 + closed.toNat)
  | wait closed n => exact Nat.le_refl (0 + closed.toNat)
  | close closing => exact Nat.le_refl 1
  | closeFailed closing f => exact Nat.le_refl 0
  | recvClosed => exact Nat.le_refl 1
  | closeClosed closing => exact Nat.le_refl 1

end Happens

/-! ## one call after the other -/

namespace Runs
variable {closed : Bool}

/-- after each call a connection is closed if it was at first, or if one of the calls so far closes it -/
theorem closed_iff {s : Step} {before after : List Step} (h : Runs closed (before ++ s :: after)) :
    s.closed = true ↔ closed = true ∨ ∃ t ∈ before ++ [s], t.Closes := by
  -- the first call hands the flag to those behind it, so that the induction is over every flag at first
  induction before generalizing closed with
  | nil =>
    cases h with
    | cons happens _ => simpa using happens.closed_iff
  | cons t before ih =>
    cases h with
    | cons happens runs =>
      rw [ih runs, happens.closed_iff, or_assoc]
      simp only [List.cons_append, List.mem_cons, exists_eq_or_imp]

theorem happens {steps : List Step} (h : Runs closed steps) : ∀ s ∈ steps, ∃ closed, Happens closed s := by
  induction h with
  | nil closed => exact fun s hs => absurd hs List.not_mem_nil
  | cons happens _ ih => exact List.forall_mem_cons.mpr ⟨⟨_, happens⟩, ih⟩

/-- on a connection that is closed, every call is refused -/
theorem refused {steps : List Step} (h : Runs true steps) : ∀ s ∈ steps, s.closed = true ∧ s.Refused := by
  induction steps with
  | nil => exact fun s hs => absurd hs List.not_mem_nil
  | cons s steps ih =>
    cases h with
    | cons happens runs =>
      obtain ⟨hc, hr⟩ := happens.refused
      rw [hc] at runs
      exact List.forall_mem_cons.mpr ⟨⟨hc, hr⟩, ih runs⟩

theorem final {steps : List Step} (h : Runs closed steps) :
    steps.Pairwise fun s t => s.closed = true → t.closed = true ∧ t.Refused := by
  induction h with
  | nil closed => exact .nil
  | cons _ runs ih =>
    refine .cons (fun t ht hc => ?_) ih
    rw [hc] at runs
    exact runs.refused t ht

/-- the close frames that are sent: one at most that closes the connection, and those that are sent like any other
message -/
theorem farewells {steps : List Step} (h : Runs closed steps) :
    (steps.flatMap Step.exchanged).countP Exchange.isFarewell + closed.toNat ≤
      steps.countP (·.act.sendsClosing) + 1 := by
  induction h with
  | nil closed => simpa using closed.toNat_le
  | @cons closed s steps happens _ ih =>
    have hf := happens.farewells_le
    have hn : (if s.act.sendsClosing = true then 1 else 0) = s.act.sendsClosing.toNat := by
      cases s.act.sendsClosing <;> rfl
    rw [List.flatMap_cons, List.countP_append, List.countP_cons, hn]
    omega

end Runs

/-! ## every history -/

/-- what being closed means along the calls on a connection -/
structure ClosedFlag (steps : List Step) : Prop where
  /-- after each call, one of the calls so far has closed the connection, other than by what it was given to send -/
  exact : ∀ before s after, steps = before ++ s :: after → (s.closed = true ↔ ∃ t ∈ before ++ [s], t.Closes)
  /-- so that, unless a close frame was sent like any other message, the connection has ended -/
  ended : ∀ before s after, steps = before ++ s :: after → (∀ t ∈ before ++ [s], t.act.sendsClosing = false) →
    (s.closed = true ↔ ∃ t ∈ before ++ [s], t.Ends)
  /-- once closed it is closed for good, and nothing but a flush reaches the stream -/
  final : steps.Pairwise fun s t => s.closed = true → t.closed = true ∧ t.Refused
  /-- a silence leaves it open -/
  idle : ∀ s ∈ steps, ∀ d, s.reported = .received (.failed (.idle d)) → s.closed = false
  /-- and so does closing it in vain -/
  failed : ∀ s ∈ steps, ∀ closing f, s.act = .close closing → s.reported = .done (.error f) → s.closed = false
  /-- one close frame is sent at most, apart from those that are sent like any other message -/
  farewells : (steps.flatMap Step.exchanged).countP Exchange.isFarewell ≤ steps.countP (·.act.sendsClosing) + 1

theorem Runs.flagged {steps : List Step} (runs : Runs false steps) : ClosedFlag steps := by
  have closes : ∀ before s after, steps = before ++ s :: after →
      (s.closed = true ↔ ∃ t ∈ before ++ [s], t.Closes) := by
    rintro before s after rfl
    simpa using runs.closed_iff
  constructor
  case exact => exact closes
  case ended =>
    intro before s after hs plain
    rw [closes before s after hs]
    refine exists_congr fun t => and_congr_right fun ht => ⟨And.left, fun ends => ?_⟩
    have hmem : t ∈ steps := by
      rw [hs, List.append_cons]
      exact List.mem_append_left after ht
    obtain ⟨_, happens⟩ := runs.happens t hmem
    exact (happens.closes_or_sendsClosing ends).resolve_right (by simp [plain t ht])
  case final => exact runs.final
  case idle =>
    intro s hs d hr
    obtain ⟨_, happens⟩ := runs.happens s hs
    exact happens.open_of_idle hr
  case failed =>
    intro s hs closing f ha hr
    obtain ⟨_, happens⟩ := runs.happens s hs
    exact happens.open_of_failed ha hr
  case farewells => simpa using runs.farewells

/-- **When a connection is closed.**  Whatever is done with it and however its stream behaves, a connection is closed once
a close frame came, `close` has sent one, or the stream has ended or failed; from then on nothing is sent over it. -/
theorem closed_flag {σ : Type} (S : Stream σ) (stream : σ) (limits : Limits) (session : Session) (acts : List Act) :
    ClosedFlag ((Connection.start stream limits session).history S acts).1 := by
  have runs : Runs false ((Connection.start stream limits session).history S acts).1 :=
    Connection.runs_history S (Connection.start stream limits session) acts
  exact runs.flagged

/-- a close frame is sent like any other message, over the stream of a conversation, and the connection stays open -/
theorem sent_closing_unnoticed :
    let limits : Limits := { Limits.default with idle := none }
    let c := Connection.start (Conversation.start limits []) limits ⟨⟨0⟩, none, []⟩
    let steps := (c.history Conversation.quiet [.send (.close (some ⟨1000, "bye"⟩))]).1
    (∃ s ∈ steps, s.Ends) ∧ ∀ s ∈ steps, s.closed = false :=
  ⟨⟨_, List.mem_cons_self, _, List.mem_cons_self, rfl⟩, List.forall_mem_singleton.mpr rfl⟩

end RequestPipeline.Socket
