import RequestPipeline.Proofs.Server.Interleaving
import RequestPipeline.Server.Shutdown

/-!
# Connections that are counted until there are none

Every connection and every WebSocket that came of one has a task which holds a token.  The token is taken before the
task begins; when the task is over it comes off the count in one move and, if it was the last, wakes those who wait
in another.  Those who wait enroll, look at the count and wait to be woken, one of these in each of their moves.

* `looks_of_poll`         a poll is three looks
* `release_of_ended`      a release is the two moves of a task that is over
* `Sound.step`            what holds between two moves
* `Sound.drained`         **without another connection, each look of a waiter brings it nearer to its end**
* `counted_and_drained`   **the count is that of the tokens, waits end at zero only, and at zero they do end**
-/

namespace RequestPipeline.Tracker

/-! ## looks -/

/-- where a waiter is in its loop: `enrolled` to be woken when the count has been zero once more than it was `seen`
to be, and `waiting` for that after a look at the count -/
inductive Place
  | outside
  | enrolled (seen : Nat)
  | waiting (seen : Nat)
  | through
  deriving DecidableEq, Repr

def look (t : Tracker) : Place → Place
  | .outside => .enrolled t.emptied
  | .enrolled seen => if t.active = 0 then .through else .waiting seen
  | .waiting seen => if seen < t.emptied then .outside else .waiting seen
  | .through => .through

/-- how many looks it takes to the end, if none of them is in vain -/
def Place.ahead : Place → Nat
  | .waiting _ => 3
  | .outside => 2
  | .enrolled _ => 1
  | .through => 0

def Waiter.place : Waiter → Place
  | none => .outside
  | some seen => .waiting seen

section
variable {t : Tracker} {p : Place} {n : Nat}

theorem look_enrolled_of_empty (h : t.active = 0) : t.look (.enrolled n) = .through := if_pos h

theorem look_enrolled_of_active (h : t.active ≠ 0) : t.look (.enrolled n) = .waiting n := if_neg h

theorem look_waiting_of_lt (h : n < t.emptied) : t.look (.waiting n) = .outside := if_pos h

theorem look_waiting_of_le (h : t.emptied ≤ n) : t.look (.waiting n) = .waiting n := if_neg (Nat.not_lt.2 h)

/-- only at a count of zero does a wait end -/
theorem empty_of_look (h : t.look p = .through) (waits : p ≠ .through) : t.active = 0 := by
  cases p with
  | outside => cases h
  | through => exact absurd rfl waits
  | enrolled n =>
    refine Decidable.byContradiction fun active => ?_
    rw [look_enrolled_of_active active] at h
    cases h
  | waiting n =>
    rcases Nat.lt_or_ge n t.emptied with lt | le
    · rw [look_waiting_of_lt lt] at h
      cases h
    · rw [look_waiting_of_le le] at h
      cases h

end

/-- a poll that nothing comes between is three looks, after which the waiter is through or has to wait -/
theorem looks_of_poll (t : Tracker) (w : Waiter) : t.look (t.look (t.look (Waiter.place w)))
    = if (t.poll w).1 then .through else Waiter.place (t.poll w).2 := by
  -- what a waiter finds that has enrolled, and what it finds again
  have found : t.look (t.look .outside) = if (t.active == 0) = true then .through else .waiting t.emptied := by
    show t.look (.enrolled t.emptied) = _
    by_cases empty : t.active = 0
    · rw [look_enrolled_of_empty empty, if_pos (beq_iff_eq.2 empty)]
    · rw [look_enrolled_of_active empty, if_neg (mt beq_iff_eq.1 empty)]
  have settled : t.look (if (t.active == 0) = true then .through else .waiting t.emptied)
      = if (t.active == 0) = true then .through else .waiting t.emptied := by
    split
    · rfl
    · exact look_waiting_of_le (Nat.le_refl _)
  cases w with
  | none =>
    show t.look (t.look (t.look .outside)) = _
    rw [found, settled]
    rfl
  | some seen =>
    show t.look (t.look (t.look (.waiting seen))) = _
    rcases Nat.lt_or_ge seen t.emptied with lt | le
    · have polled : t.poll (some seen) = (t.active == 0, some t.emptied) := if_pos (decide_eq_true lt)
      rw [look_waiting_of_lt lt, found, polled]
      rfl
    · have polled : t.poll (some seen) = (false, some seen) := if_neg (by rw [decide_eq_true_iff]; omega)
      rw [look_waiting_of_le le, look_waiting_of_le le, look_waiting_of_le le, polled]
      rfl

/-! ## moves -/

inductive Kind
  | connection
  | webSocket
  deriving DecidableEq, Repr

/-- how far a task has come: one that has `ended` still holds its token, one that is `leaving` has taken the last
token off the count and has not woken anybody yet -/
inductive Phase
  | running
  | ended
  | leaving
  | gone
  deriving DecidableEq, Repr

structure Job where
  kind : Kind
  phase : Phase
  deriving DecidableEq, Repr

def Job.holds (j : Job) : Bool :=
  match j.phase with
  | .running | .ended => true
  | .leaving | .gone => false

/-- a tracker with the tasks that it counts and those who wait for it; `last` is the task that was the last to bring
the count to zero -/
structure Traffic where
  tracker : Tracker
  jobs : List Job
  waiters : List Place
  last : Option Nat
  deriving DecidableEq, Repr

def Traffic.start : Traffic := ⟨.start, [], [], none⟩

/-- whether those who wait are still to be woken for the last time that the count came to zero -/
def Traffic.Owing (x : Traffic) : Prop := ∃ i k, x.last = some i ∧ x.jobs[i]? = some ⟨k, .leaving⟩

/-- nothing is connected, and those who wait were woken since -/
structure Traffic.Drained (x : Traffic) : Prop where
  empty : x.tracker.active = 0
  woken : ¬ x.Owing

inductive Move
  | accept
  | upgrade (job : Nat)
  | finish (job : Nat)
  | drop (job : Nat)
  | wake (job : Nat)
  | wait
  | look (waiter : Nat)
  deriving DecidableEq, Repr

/-- A connection is upgraded by its own task, which hands the WebSocket to a new one.  A task ends in one way, whether
it failed or not. -/
inductive Move.Takes (x : Traffic) : Move → Traffic → Prop
  | accept : Takes x .accept
      { x with tracker := x.tracker.acquire, jobs := x.jobs ++ [⟨.connection, .running⟩] }
  | upgrade {i : Nat} : x.jobs[i]? = some ⟨.connection, .running⟩ → Takes x (.upgrade i)
      { x with tracker := x.tracker.acquire, jobs := x.jobs ++ [⟨.webSocket, .running⟩] }
  | finish {i : Nat} {k : Kind} : x.jobs[i]? = some ⟨k, .running⟩ → Takes x (.finish i)
      { x with jobs := x.jobs.set i ⟨k, .ended⟩ }
  | drop {i : Nat} {k : Kind} : x.jobs[i]? = some ⟨k, .ended⟩ → Takes x (.drop i)
      { x with
        tracker := x.tracker.leave.2
        jobs := x.jobs.set i ⟨k, if x.tracker.leave.1 then .leaving else .gone⟩
        last := if x.tracker.leave.1 then some i else x.last }
  | wake {i : Nat} {k : Kind} : x.jobs[i]? = some ⟨k, .leaving⟩ → Takes x (.wake i)
      { x with tracker := x.tracker.wake, jobs := x.jobs.set i ⟨k, .gone⟩ }
  | wait : Takes x .wait { x with waiters := x.waiters ++ [.outside] }
  | look {j : Nat} {p : Place} : x.waiters[j]? = some p → Takes x (.look j)
      { x with waiters := x.waiters.set j (x.tracker.look p) }

abbrev Leads (x : Traffic) (moves : List Move) (y : Traffic) : Prop :=
  Steps (fun x (m : Move) y => m.Takes x y) x moves y

/-- a task that nothing comes between releases its token -/
theorem release_of_ended {x : Traffic} {i : Nat} {k : Kind} (here : x.jobs[i]? = some ⟨k, .ended⟩) :
    ∃ moves y, Leads x moves y ∧ y.tracker = x.tracker.release ∧ y.jobs = x.jobs.set i ⟨k, .gone⟩ ∧
      (moves = [.drop i] ∨ moves = [.drop i, .wake i]) := by
  have first : Move.Takes x (.drop i) _ := .drop here
  have within : i < x.jobs.length := (List.getElem?_eq_some_iff.1 here).1
  cases last : x.tracker.leave.1 with
  | false =>
    refine ⟨_, _, .cons _ first .none, ?_, ?_, .inl rfl⟩
    · show x.tracker.leave.2 = if x.tracker.leave.1 then x.tracker.leave.2.wake else x.tracker.leave.2
      rw [last]
      rfl
    · show x.jobs.set i ⟨k, if x.tracker.leave.1 then .leaving else .gone⟩ = _
      rw [last]
      rfl
  | true =>
    have leaving : (x.jobs.set i ⟨k, if x.tracker.leave.1 then .leaving else .gone⟩)[i]?
        = some ⟨k, .leaving⟩ := by
      rw [List.getElem?_set_self within, last, if_pos rfl]
    refine ⟨_, _, .cons _ first (.cons _ (.wake leaving) .none), ?_, ?_, .inr rfl⟩
    · show x.tracker.leave.2.wake = if x.tracker.leave.1 then x.tracker.leave.2.wake else x.tracker.leave.2
      rw [if_pos last]
    · exact List.set_set _

/-! ## what holds between two moves -/

/-- What is known of a waiter: one that waits has been woken since it looked at the count, or there is a connection,
or it is still to be woken for the last of them. -/
def Traffic.Heeds (x : Traffic) : Place → Prop
  | .enrolled n => n ≤ x.tracker.emptied
  | .waiting n => n ≤ x.tracker.emptied ∧ (n < x.tracker.emptied ∨ 0 < x.tracker.active ∨ x.Owing)
  | .outside | .through => True

/-- The count is that of the tokens, and no waiter is forgotten. -/
structure Sound (x : Traffic) : Prop where
  counted : x.tracker.active = x.jobs.countP Job.holds
  heeded : ∀ p ∈ x.waiters, x.Heeds p

section
variable {m : Move} {x y : Traffic} {i : Nat} {j j' : Job} {k : Kind}

theorem Sound.active_pos (h : Sound x) (here : x.jobs[i]? = some j) (holds : j.holds = true) :
    0 < x.tracker.active := by
  rw [h.counted]
  exact List.countP_pos_iff.2 ⟨j, List.mem_of_getElem? here, holds⟩

/-- who owes a wake-up owes it while other tasks move on -/
theorem Traffic.Owing.set (h : x.Owing) (here : x.jobs[i]? = some j) (other : j.phase ≠ .leaving) :
    Traffic.Owing { x with jobs := x.jobs.set i j' } := by
  obtain ⟨i', k, hl, hj⟩ := h
  have ne : i ≠ i' := by
    rintro rfl
    rw [here, Option.some.injEq] at hj
    rw [hj] at other
    exact other rfl
  refine ⟨i', k, hl, ?_⟩
  show (x.jobs.set i j')[i']? = _
  rw [List.getElem?_set_ne ne, hj]

/-- a move of others loses no waiter if it wakes as many as before, and if those that it leaves to wait are woken -/
theorem Traffic.Heeds.mono {p : Place} (h : x.Heeds p) (grown : x.tracker.emptied ≤ y.tracker.emptied)
    (wakes : (0 < x.tracker.active ∨ x.Owing) →
      x.tracker.emptied < y.tracker.emptied ∨ 0 < y.tracker.active ∨ y.Owing) : y.Heeds p := by
  cases p with
  | outside | through => trivial
  | enrolled n => exact Nat.le_trans h grown
  | waiting n =>
    obtain ⟨le, woken | later⟩ := h
    · exact ⟨Nat.le_trans le grown, .inl (Nat.lt_of_lt_of_le woken grown)⟩
    · exact ⟨Nat.le_trans le grown, (wakes later).imp_left (Nat.lt_of_le_of_lt le)⟩

theorem Traffic.Heeds.look {p : Place} (h : x.Heeds p) : x.Heeds (x.tracker.look p) := by
  cases p with
  | outside => exact Nat.le_refl _
  | through => trivial
  | enrolled n =>
    by_cases empty : x.tracker.active = 0
    · rw [look_enrolled_of_empty empty]
      trivial
    · rw [look_enrolled_of_active empty]
      exact ⟨h, .inr (.inl (Nat.pos_of_ne_zero empty))⟩
  | waiting n =>
    rcases Nat.lt_or_ge n x.tracker.emptied with lt | le
    · rw [look_waiting_of_lt lt]
      trivial
    · rw [look_waiting_of_le le]
      exact h

theorem Sound.start : Sound .start := ⟨rfl, fun _ h => (nomatch h)⟩

theorem Sound.acquire (h : Sound x) (k : Kind) :
    Sound { x with tracker := x.tracker.acquire, jobs := x.jobs ++ [⟨k, .running⟩] } := by
  refine ⟨?_, fun p hp => (h.heeded p hp).mono (Nat.le_refl _) fun _ => .inr (.inl (Nat.succ_pos _))⟩
  show x.tracker.active + 1 = (x.jobs ++ [Job.mk k .running]).countP Job.holds
  rw [List.countP_append, h.counted]
  rfl

theorem Sound.finish (h : Sound x) (here : x.jobs[i]? = some ⟨k, .running⟩) :
    Sound { x with jobs := x.jobs.set i ⟨k, .ended⟩ } := by
  have count := countP_set_add Job.holds here ⟨k, .ended⟩
  refine ⟨h.counted.trans (Nat.add_right_cancel count).symm, fun p hp => ?_⟩
  exact (h.heeded p hp).mono (Nat.le_refl _) fun later =>
    .inr (later.imp_right fun owing => owing.set here nofun)

/-- the token of a task that is over is one of those that are counted -/
theorem Sound.active_leave (h : Sound x) (here : x.jobs[i]? = some ⟨k, .ended⟩) :
    x.tracker.leave.2.active + 1 = x.tracker.active :=
  Nat.sub_add_cancel (h.active_pos here rfl)

theorem Sound.drop (h : Sound x) (here : x.jobs[i]? = some ⟨k, .ended⟩) : Sound { x with
    tracker := x.tracker.leave.2
    jobs := x.jobs.set i ⟨k, if x.tracker.leave.1 then .leaving else .gone⟩
    last := if x.tracker.leave.1 then some i else x.last } := by
  have count := countP_set_add Job.holds here ⟨k, if x.tracker.leave.1 then .leaving else .gone⟩
  have without : (Job.holds ⟨k, if x.tracker.leave.1 then .leaving else .gone⟩).toNat = 0 := by
    cases x.tracker.leave.1 <;> rfl
  rw [without, ← h.counted, ← h.active_leave here] at count
  refine ⟨(Nat.add_right_cancel count).symm, fun p hp =>
    (h.heeded p hp).mono (Nat.le_refl _) fun _ => .inr ?_⟩
  by_cases last : x.tracker.active = 1
  · -- this task has the waiters to wake
    have first : x.tracker.leave.1 = true := beq_iff_eq.2 last
    refine .inr ⟨i, k, if_pos first, ?_⟩
    show (x.jobs.set i _)[i]? = _
    rw [List.getElem?_set_self (List.getElem?_eq_some_iff.1 here).1, if_pos first]
  · have pos := h.active_pos here rfl
    exact .inl (show 0 < x.tracker.active - 1 by omega)

theorem Sound.wake (h : Sound x) (here : x.jobs[i]? = some ⟨k, .leaving⟩) :
    Sound { x with tracker := x.tracker.wake, jobs := x.jobs.set i ⟨k, .gone⟩ } := by
  have count := countP_set_add Job.holds here ⟨k, .gone⟩
  refine ⟨h.counted.trans (Nat.add_right_cancel count).symm, fun p hp => ?_⟩
  exact (h.heeded p hp).mono (Nat.le_succ _) fun _ => .inl (Nat.lt_succ_self _)

theorem Sound.wait (h : Sound x) : Sound { x with waiters := x.waiters ++ [.outside] } := by
  refine ⟨h.counted, fun p hp => ?_⟩
  rcases List.mem_append.1 hp with old | new
  · exact h.heeded p old
  · rw [List.mem_singleton.1 new]
    trivial

theorem Sound.look (h : Sound x) {j : Nat} {p : Place} (here : x.waiters[j]? = some p) :
    Sound { x with waiters := x.waiters.set j (x.tracker.look p) } := by
  refine ⟨h.counted, fun q hq => ?_⟩
  rcases List.mem_or_eq_of_mem_set hq with old | rfl
  · exact h.heeded q old
  · exact (h.heeded p (List.mem_of_getElem? here)).look

theorem Sound.step (h : Sound x) (move : m.Takes x y) : Sound y := by
  cases move with
  | accept => exact h.acquire .connection
  | upgrade => exact h.acquire .webSocket
  | finish here => exact h.finish here
  | drop here => exact h.drop here
  | wake here => exact h.wake here
  | wait => exact h.wait
  | look here => exact h.look here

theorem Sound.run {moves : List Move} (h : Sound x) (run : Leads x moves y) : Sound y := by
  induction run with
  | none => exact h
  | snoc _ move ih => exact ih.step move

/-! ## after the last connection -/

theorem Sound.not_holds (h : Sound x) (drained : x.Drained) (here : x.jobs[i]? = some j) : j.holds = false := by
  cases holds : j.holds with
  | false => rfl
  | true =>
    have pos := h.active_pos here holds
    rw [drained.empty] at pos
    cases pos

/-- nothing but another connection changes it that there is none -/
theorem Traffic.Drained.step (drained : x.Drained) (h : Sound x) (move : m.Takes x y) (none : m ≠ .accept) :
    y.Drained := by
  cases move with
  | accept => exact absurd rfl none
  | upgrade here | finish here | drop here =>
    -- each of these is a move of a task that holds a token
    cases h.not_holds drained here
  | wait | look => exact ⟨drained.empty, drained.woken⟩
  | @wake i k here =>
    refine ⟨drained.empty, fun ⟨i', k', last, leaving⟩ => ?_⟩
    have set : (x.jobs.set i ⟨k, .gone⟩)[i']? = some ⟨k', .leaving⟩ := leaving
    by_cases same : i = i'
    · rw [same, List.getElem?_set_self (same ▸ (List.getElem?_eq_some_iff.1 here).1)] at set
      cases set
    · rw [List.getElem?_set_ne same] at set
      exact drained.woken ⟨i', k', last, set⟩

/-- a look is not in vain where nothing is connected -/
theorem Traffic.Drained.ahead_look (drained : x.Drained) {p : Place} (heeds : x.Heeds p) :
    (x.tracker.look p).ahead = p.ahead - 1 := by
  cases p with
  | outside | through => rfl
  | enrolled n => rw [look_enrolled_of_empty drained.empty]; rfl
  | waiting n =>
    obtain ⟨-, woken | active | owing⟩ := heeds
    · rw [look_waiting_of_lt woken]
      rfl
    · rw [drained.empty] at active
      cases active
    · exact absurd owing drained.woken

theorem Traffic.Drained.ahead_step (drained : x.Drained) (h : Sound x) (move : m.Takes x y) {w : Nat} {p : Place}
    (here : x.waiters[w]? = some p) :
    ∃ q, y.waiters[w]? = some q ∧ q.ahead = p.ahead - [m].count (.look w) := by
  cases move with
  | accept | upgrade | finish | drop | wake => exact ⟨p, here, rfl⟩
  | wait =>
    refine ⟨p, ?_, rfl⟩
    show (x.waiters ++ [.outside])[w]? = some p
    rw [List.getElem?_append_left (List.getElem?_eq_some_iff.1 here).1, here]
  | @look w' p' here' =>
    by_cases same : w' = w
    · subst same
      rw [here, Option.some.injEq] at here'
      subst here'
      refine ⟨x.tracker.look p, List.getElem?_set_self (List.getElem?_eq_some_iff.1 here).1, ?_⟩
      rw [drained.ahead_look (h.heeded p (List.mem_of_getElem? here)), List.count_singleton_self]
    · refine ⟨p, (List.getElem?_set_ne same).trans here, ?_⟩
      rw [List.count_singleton, if_neg (by simpa using same)]
      rfl

/-- **Without another connection, each look of a waiter brings it nearer to its end.** -/
theorem Sound.drained (h : Sound x) (drained : x.Drained) {moves : List Move} (run : Leads x moves y)
    (none : .accept ∉ moves) : y.Drained ∧ ∀ w p, x.waiters[w]? = some p →
      ∃ q, y.waiters[w]? = some q ∧ q.ahead = p.ahead - moves.count (.look w) := by
  induction run with
  | none => exact ⟨drained, fun w p here => ⟨p, here, rfl⟩⟩
  | @snoc moves y z m run move ih =>
    rw [List.mem_append, not_or] at none
    obtain ⟨still, ahead⟩ := ih none.1
    have sound := h.run run
    refine ⟨still.step sound move fun accepts => none.2 (List.mem_singleton.2 accepts.symm), fun w p here => ?_⟩
    obtain ⟨q, hq, le⟩ := ahead w p here
    obtain ⟨q', hq', le'⟩ := still.ahead_step sound move hq
    exact ⟨q', hq', by rw [le', le, List.count_append, Nat.sub_sub]⟩

/-- where nothing is connected a poll that nothing comes between is the last -/
theorem Traffic.Drained.poll (drained : x.Drained) (h : Sound x) {w : Waiter} (waits : Waiter.place w ∈ x.waiters) :
    (x.tracker.poll w).1 = true := by
  have first := h.heeded _ waits
  have second := first.look
  have through : (x.tracker.look (x.tracker.look (x.tracker.look w.place))).ahead = 0 := by
    rw [drained.ahead_look second.look, drained.ahead_look second, drained.ahead_look first]
    cases w <;> rfl
  rw [looks_of_poll] at through
  cases ready : (x.tracker.poll w).1 with
  | true => rfl
  | false =>
    rw [ready] at through
    cases again : (x.tracker.poll w).2 <;> rw [again] at through <;> cases through

/-- **The count is that of the tokens**, so that it is not zero while a task runs, no token is taken off a count of
zero, and an upgrade adds to a count that is not zero.  **A wait ends at a count of zero only**, and **once the
last connection is gone and the waiters were woken for it every wait ends**: the next poll of a waiter is ready, and
where other tasks move while it looks it takes three looks at most. -/
theorem counted_and_drained {moves : List Move} (run : Leads .start moves x) :
    x.tracker.active = x.jobs.countP Job.holds ∧
    (∀ j ∈ x.jobs, j.phase = .running → 0 < x.tracker.active) ∧
    (∀ i y, Move.Takes x (.drop i) y → y.tracker.active + 1 = x.tracker.active) ∧
    (∀ i y, Move.Takes x (.upgrade i) y → 0 < x.tracker.active ∧ 1 < y.tracker.active) ∧
    (∀ w y, Move.Takes x (.look w) y → y.waiters[w]? = some .through →
      x.waiters[w]? = some .through ∨ x.tracker.active = 0) ∧
    (∀ w, (x.tracker.poll w).1 = true → x.tracker.active = 0) ∧
    (x.Drained → ∀ more y, Leads x more y → .accept ∉ more → y.Drained ∧
      (∀ w, Waiter.place w ∈ y.waiters → (y.tracker.poll w).1 = true) ∧
      ∀ w p, x.waiters[w]? = some p →
        ∃ q, y.waiters[w]? = some q ∧ q.ahead = p.ahead - more.count (.look w)) := by
  have sound := Sound.start.run run
  refine ⟨sound.counted, fun j hj runs => ?_, fun i y move => ?_, fun i y move => ?_, fun w y move ends => ?_,
    fun w => active_of_poll, fun drained more y next none => ?_⟩
  · obtain ⟨i, here⟩ := List.mem_iff_getElem?.1 hj
    have holds : j.holds = true := by
      unfold Job.holds
      rw [runs]
    exact sound.active_pos here holds
  · cases move with
    | drop here => exact sound.active_leave here
  · cases move with
    | upgrade here =>
      have pos := sound.active_pos here rfl
      exact ⟨pos, Nat.succ_lt_succ pos⟩
  · cases move with
    | @look _ p here =>
      have found : (x.waiters.set w (x.tracker.look p))[w]? = some .through := ends
      rw [List.getElem?_set_self (List.getElem?_eq_some_iff.1 here).1, Option.some.injEq] at found
      by_cases was : p = .through
      · exact .inl (was ▸ here)
      · exact .inr (empty_of_look found was)
  · obtain ⟨still, ahead⟩ := sound.drained drained next none
    exact ⟨still, fun w waits => still.poll (sound.run next) waits, ahead⟩

end

/-- A connection was upgraded, and both its tasks are over; the second has not woken anybody yet.  Another connection
came, and went with a wake-up.  One waits since before all this, and one began to wait just before the wake-up. -/
def quiet : Traffic :=
  ⟨⟨0, 1⟩, [⟨.connection, .gone⟩, ⟨.webSocket, .leaving⟩, ⟨.connection, .gone⟩], [.waiting 0, .enrolled 0],
    some 2⟩

theorem counted_and_drained_quiet :
    Leads .start [.accept, .wait, .look 0, .look 0, .upgrade 0, .finish 0, .drop 0, .finish 1, .drop 1, .accept,
      .finish 2, .drop 2, .wait, .look 1, .wake 2] quiet ∧ quiet.Drained ∧
    (quiet.tracker.poll (some 0)).1 = true ∧
    ∀ y, Leads quiet [.look 0, .wake 1, .look 0, .look 1, .look 0] y →
      ∀ w < 2, ∃ q, y.waiters[w]? = some q ∧ q.ahead = 0 := by
  have reached : Leads .start [.accept, .wait, .look 0, .look 0, .upgrade 0, .finish 0, .drop 0, .finish 1, .drop 1,
      .accept, .finish 2, .drop 2, .wait, .look 1, .wake 2] quiet :=
    .cons _ .accept <| .cons _ .wait <| .cons _ (.look rfl) <| .cons _ (.look rfl) <| .cons _ (.upgrade rfl) <|
    .cons _ (.finish rfl) <| .cons _ (.drop rfl) <| .cons _ (.finish rfl) <| .cons _ (.drop rfl) <|
    .cons _ .accept <| .cons _ (.finish rfl) <| .cons _ (.drop rfl) <| .cons _ .wait <| .cons _ (.look rfl) <|
    .cons _ (.wake rfl) .none
  have drained : quiet.Drained := by
    refine ⟨rfl, fun ⟨i, k, last, leaving⟩ => ?_⟩
    cases last
    cases leaving
  obtain ⟨-, -, -, -, -, -, ends⟩ := counted_and_drained reached
  have polled := (ends drained [] quiet .none List.not_mem_nil).2.1 (some 0) (by decide)
  refine ⟨reached, drained, polled, fun y run w hw => ?_⟩
  obtain ⟨-, -, ahead⟩ := ends drained _ y run (by decide)
  match w, hw with
  | 0, _ => exact ahead 0 _ rfl
  | 1, _ => exact ahead 1 _ rfl

end RequestPipeline.Tracker
