import RequestPipeline.Proofs.Server.Interleaving
import RequestPipeline.Server.Shutdown

/-!
# A signal among tasks

Those who hold a signal share it, give it up and trigger it, and those who listen for it look at the flag and then
at the channel, all at once.  A call that triggers the signal swaps the flag in one move and, if it was the first to
do so, broadcasts in another; a listener looks once in each of its moves.

* `trigger_of_begun`      triggering the signal is the two moves of a call
* `Sound.step`            what holds between two moves
* `sent_once_and_heard`   **the broadcast is sent once at most; nobody stops waiting for nothing; and once a call has
  sent it everyone who still waits is done at the next look**
-/

namespace RequestPipeline.Signal

/-! ## looks -/

section
variable {s : Signal} {i : Nat} {l : Listener}

theorem ask_of_get (h : s.listeners[i]? = some l) :
    s.ask i = (s.look l, { s with listeners := s.listeners.set i { l with asked := true } }) := by
  unfold ask
  rw [h]

theorem ask_of_none (h : s.listeners[i]? = none) : s.ask i = (false, s) := by
  unfold ask
  rw [h]

theorem look_of_asked (h : l.asked = true) : s.look l = (l.told || s.holders == 0) := if_pos h

theorem look_of_not_asked (h : l.asked = false) : s.look l = s.triggered := by
  unfold look
  rw [h]
  rfl

theorem poll_of_get (h : s.listeners[i]? = some l) :
    s.poll i = if (s.ask i).1 || l.asked then s.ask i else (s.ask i).2.ask i := by
  unfold poll
  rw [h]

theorem poll_of_none (h : s.listeners[i]? = none) : s.poll i = (false, s) := by
  unfold poll
  rw [h]

theorem poll_of_ready (h : (s.ask i).1 = true) : s.poll i = s.ask i := by
  cases hl : s.listeners[i]? with
  | none =>
    rw [ask_of_none hl] at h
    cases h
  | some l => rw [poll_of_get hl, h, Bool.true_or, if_pos rfl]

theorem poll_eq_ask_or (s : Signal) (i : Nat) : s.poll i = s.ask i ∨ s.poll i = (s.ask i).2.ask i := by
  cases hl : s.listeners[i]? with
  | none => exact .inl (by rw [poll_of_none hl, ask_of_none hl])
  | some l =>
    rw [poll_of_get hl]
    split
    · exact .inl rfl
    · exact .inr rfl

theorem holders_ask (s : Signal) (i : Nat) : (s.ask i).2.holders = s.holders := by
  unfold ask
  split <;> rfl

end

/-! ## moves -/

/-- how far a call has come that triggers the signal: one that `lost` found the flag set, and is done -/
inductive Call
  | begun
  | won
  | lost
  | done
  deriving DecidableEq, Repr

def Call.hasSwapped : Call → Bool
  | .won | .done => true
  | .begun | .lost => false

def Call.isRunning : Call → Bool
  | .begun | .won => true
  | .lost | .done => false

/-- a signal with the calls that trigger it and the listeners whose wait is over -/
structure Signalling where
  signal : Signal
  calls : List Call
  served : List Nat
  deriving DecidableEq, Repr

def Signalling.start : Signalling := ⟨.start, [], []⟩

inductive Move
  | share
  | release
  | call
  | swap (call : Nat)
  | broadcast (call : Nat)
  | listen
  | look (listener : Nat)
  deriving DecidableEq, Repr

def Move.isBroadcast : Move → Bool
  | .broadcast _ => true
  | _ => false

/-- Only who holds the signal shares it, triggers it or begins to listen, and a call holds it until it is done.  A
listener whose wait is over does not look again. -/
inductive Move.Takes (x : Signalling) : Move → Signalling → Prop
  | share : 0 < x.signal.holders → Takes x .share { x with signal := x.signal.share }
  | release : (if x.calls.any Call.isRunning then 1 else 0) < x.signal.holders →
      Takes x .release { x with signal := x.signal.release }
  | call : 0 < x.signal.holders → Takes x .call { x with calls := x.calls ++ [.begun] }
  | swap {c : Nat} : x.calls[c]? = some .begun → Takes x (.swap c)
      { x with signal := x.signal.swap.2, calls := x.calls.set c (if x.signal.swap.1 then .won else .lost) }
  | broadcast {c : Nat} : x.calls[c]? = some .won → Takes x (.broadcast c)
      { x with signal := x.signal.broadcast, calls := x.calls.set c .done }
  | listen : 0 < x.signal.holders → Takes x .listen { x with signal := x.signal.listen.2 }
  | look {i : Nat} {l : Listener} : x.signal.listeners[i]? = some l → i ∉ x.served → Takes x (.look i)
      { x with signal := (x.signal.ask i).2, served := if (x.signal.ask i).1 then i :: x.served else x.served }

abbrev Leads (x : Signalling) (moves : List Move) (y : Signalling) : Prop :=
  Steps (fun x (m : Move) y => m.Takes x y) x moves y

/-- a call that nothing comes between triggers the signal -/
theorem trigger_of_begun {x : Signalling} {c : Nat} (here : x.calls[c]? = some .begun) :
    ∃ moves y, Leads x moves y ∧ y.signal = x.signal.trigger ∧
      (moves = [.swap c] ∨ moves = [.swap c, .broadcast c]) := by
  have first : Move.Takes x (.swap c) _ := .swap here
  cases set : x.signal.triggered with
  | true =>
    refine ⟨_, _, .cons _ first .none, ?_, .inl rfl⟩
    have same : x.signal.swap.2 = x.signal := by
      unfold swap
      rw [← set]
    rw [trigger_of_triggered set]
    exact same
  | false =>
    have won : x.signal.swap.1 = true := congrArg (! ·) set
    have at_won : (x.calls.set c (if x.signal.swap.1 then .won else .lost))[c]? = some Call.won := by
      rw [List.getElem?_set_self (List.getElem?_eq_some_iff.1 here).1, won, if_pos rfl]
    refine ⟨_, _, .cons _ first (.cons _ (.broadcast at_won) .none), ?_, .inr rfl⟩
    show x.signal.swap.2.broadcast = if x.signal.swap.1 then x.signal.swap.2.broadcast else x.signal.swap.2
    rw [if_pos won]

/-! ## what holds between two moves -/

/-- Calls that set the flag are one if it is set and none if it is not; those among them that are done are the
broadcasts.  Once there was one, whoever has looked and still waits was told. -/
structure Sound (moves : List Move) (x : Signalling) : Prop where
  swapped : x.calls.countP Call.hasSwapped = x.signal.triggered.toNat
  sent : moves.countP Move.isBroadcast = x.calls.countP (· == .done)
  set : x.signal.triggered = true → ∃ c, .swap c ∈ moves
  told : ∀ l ∈ x.signal.listeners, l.told = true → x.signal.triggered = true
  heard : 0 < moves.countP Move.isBroadcast → ∀ i l, x.signal.listeners[i]? = some l → i ∉ x.served →
    l.asked = true → l.told = true

section
variable {moves : List Move} {m : Move} {x y : Signalling}

theorem Sound.sent_le (h : Sound moves x) : moves.countP Move.isBroadcast ≤ x.signal.triggered.toNat := by
  rw [h.sent, ← h.swapped]
  refine List.countP_mono_left fun c _ hc => ?_
  rw [beq_iff_eq] at hc
  rw [hc]
  rfl

theorem Sound.triggered_of_sent (h : Sound moves x) (sent : 0 < moves.countP Move.isBroadcast) :
    x.signal.triggered = true := by
  have le := h.sent_le
  cases ht : x.signal.triggered with
  | true => rfl
  | false =>
    rw [ht, Bool.toNat_false] at le
    omega

/-- once the broadcast was sent whoever still waits is done at the next look -/
theorem Sound.look_of_sent (h : Sound moves x) (sent : 0 < moves.countP Move.isBroadcast) {i : Nat} {l : Listener}
    (here : x.signal.listeners[i]? = some l) (waits : i ∉ x.served) : x.signal.look l = true := by
  cases ha : l.asked with
  | false => rw [look_of_not_asked ha, h.triggered_of_sent sent]
  | true =>
    have told := h.heard sent i l here waits ha
    rw [look_of_asked ha, told, Bool.true_or]

theorem Sound.start : Sound [] .start :=
  ⟨rfl, rfl, fun h => (nomatch h), fun _ h => (nomatch h), fun h => (nomatch h)⟩

theorem countP_isBroadcast_of_not (h : m.isBroadcast = false) :
    (moves ++ [m]).countP Move.isBroadcast = moves.countP Move.isBroadcast := by
  rw [List.countP_append, List.countP_singleton, h]
  rfl

theorem hasSwapped_of_swap (first : Bool) : Call.hasSwapped (if first then .won else .lost) = first := by
  cases first <;> rfl

theorem not_done_of_swap (first : Bool) : ((if first then Call.won else .lost) == .done) = false := by
  cases first <;> rfl

theorem Sound.step_swap (h : Sound moves x) {c : Nat} (here : x.calls[c]? = some .begun) :
    Sound (moves ++ [.swap c]) { x with
      signal := x.signal.swap.2, calls := x.calls.set c (if x.signal.swap.1 then .won else .lost) } := by
  have hs := countP_set_add Call.hasSwapped here (if x.signal.swap.1 then .won else .lost)
  have hd := countP_set_add (· == Call.done) here (if x.signal.swap.1 then .won else .lost)
  rw [hasSwapped_of_swap, h.swapped] at hs
  rw [not_done_of_swap] at hd
  have quiet : (moves ++ [Move.swap c]).countP Move.isBroadcast = moves.countP Move.isBroadcast :=
    countP_isBroadcast_of_not rfl
  refine ⟨hs.trans ?_, ?_, fun _ => ⟨c, List.mem_concat_self⟩, fun _ _ _ => rfl, ?_⟩
  · -- of those that swapped there is one, this one if it found the flag unset
    show x.signal.triggered.toNat + (!x.signal.triggered).toNat = 1
    cases x.signal.triggered <;> rfl
  · rw [quiet, h.sent]
    exact hd.symm
  · rw [quiet]
    exact h.heard

theorem Sound.step_broadcast (h : Sound moves x) {c : Nat} (here : x.calls[c]? = some .won) :
    Sound (moves ++ [.broadcast c]) { x with signal := x.signal.broadcast, calls := x.calls.set c .done } := by
  have hs := countP_set_add Call.hasSwapped here .done
  have hd := countP_set_add (· == Call.done) here .done
  have won : 0 < x.calls.countP Call.hasSwapped := List.countP_pos_iff.2 ⟨.won, List.mem_of_getElem? here, rfl⟩
  have set : x.signal.triggered = true := by
    rw [h.swapped] at won
    cases ht : x.signal.triggered with
    | true => rfl
    | false => rw [ht] at won; cases won
  refine ⟨(Nat.add_right_cancel hs).trans h.swapped, ?_, fun _ => ?_, fun _ _ _ => set, fun _ i l hl _ _ => ?_⟩
  · rw [List.countP_append, h.sent]
    exact hd.symm
  · obtain ⟨c', hc'⟩ := h.set set
    exact ⟨c', List.mem_append_left _ hc'⟩
  · have hl' : (x.signal.listeners.map fun l => { l with told := true })[i]? = some l := hl
    rw [List.getElem?_map, Option.map_eq_some_iff] at hl'
    obtain ⟨_, _, rfl⟩ := hl'
    rfl

theorem Sound.step_look (h : Sound moves x) {i : Nat} {l : Listener} (here : x.signal.listeners[i]? = some l)
    (waits : i ∉ x.served) : Sound (moves ++ [.look i]) { x with
      signal := (x.signal.ask i).2, served := if (x.signal.ask i).1 then i :: x.served else x.served } := by
  have quiet : (moves ++ [Move.look i]).countP Move.isBroadcast = moves.countP Move.isBroadcast :=
    countP_isBroadcast_of_not rfl
  rw [ask_of_get here]
  refine ⟨h.swapped, quiet.trans h.sent, fun ht => ?_, fun l' hl' told => ?_, fun sent j l' hl' still asked => ?_⟩
  · obtain ⟨c, hc⟩ := h.set ht
    exact ⟨c, List.mem_append_left _ hc⟩
  · rcases List.mem_or_eq_of_mem_set hl' with hl' | rfl
    · exact h.told l' hl' told
    · exact h.told l (List.mem_of_getElem? here) told
  · -- after the broadcast this listener is served, so one that still waits is another
    rw [quiet] at sent
    have ready := h.look_of_sent sent here waits
    rw [ready, if_pos rfl, List.mem_cons, not_or] at still
    have other : (x.signal.listeners.set i { l with asked := true })[j]? = some l' := hl'
    rw [List.getElem?_set_ne (Ne.symm still.1)] at other
    exact h.heard sent j l' other still.2 asked

theorem Sound.step (h : Sound moves x) (move : m.Takes x y) : Sound (moves ++ [m]) y := by
  have kept : x.signal.triggered = true → ∃ c, .swap c ∈ moves ++ [m] := fun ht =>
    let ⟨c, hc⟩ := h.set ht
    ⟨c, List.mem_append_left _ hc⟩
  cases move with
  | swap here => exact h.step_swap here
  | broadcast here => exact h.step_broadcast here
  | look here waits => exact h.step_look here waits
  | share | release =>
    refine ⟨h.swapped, (countP_isBroadcast_of_not rfl).trans h.sent, kept, h.told, ?_⟩
    rw [countP_isBroadcast_of_not rfl]
    exact h.heard
  | call =>
    refine ⟨?_, ?_, kept, h.told, ?_⟩
    · show (x.calls ++ [Call.begun]).countP Call.hasSwapped = _
      rw [List.countP_append, h.swapped]
      rfl
    · show _ = (x.calls ++ [Call.begun]).countP (· == .done)
      rw [countP_isBroadcast_of_not rfl, List.countP_append, h.sent]
      rfl
    · rw [countP_isBroadcast_of_not rfl]
      exact h.heard
  | listen =>
    have new : ∀ l ∈ x.signal.listen.2.listeners, l ∈ x.signal.listeners ∨ l = ⟨false, false⟩ := by
      intro l hl
      rwa [← List.mem_singleton, ← List.mem_append]
    refine ⟨h.swapped, (countP_isBroadcast_of_not rfl).trans h.sent, kept, fun l hl told => ?_,
      fun sent i l hl waits asked => ?_⟩
    · rcases new l hl with hl | rfl
      · exact h.told l hl told
      · cases told
    · rw [countP_isBroadcast_of_not rfl] at sent
      have hl' : (x.signal.listeners ++ [⟨false, false⟩])[i]? = some l := hl
      rw [List.getElem?_append] at hl'
      by_cases hi : i < x.signal.listeners.length
      · rw [if_pos hi] at hl'
        exact h.heard sent i l hl' waits asked
      · rw [if_neg hi] at hl'
        rw [List.mem_singleton.1 (List.mem_of_getElem? hl')] at asked
        cases asked

theorem Sound.of_leads (h : Leads .start moves x) : Sound moves x := by
  induction h with
  | none => exact Sound.start
  | snoc _ move ih => exact ih.step move

/-- whoever stops waiting does so because the flag was set or nobody holds the signal -/
theorem Sound.of_ask (h : Sound moves x) {i : Nat} (ready : (x.signal.ask i).1 = true) :
    (∃ c, .swap c ∈ moves) ∨ x.signal.holders = 0 := by
  cases here : x.signal.listeners[i]? with
  | none =>
    rw [ask_of_none here] at ready
    cases ready
  | some l =>
    have found : x.signal.look l = true := by rwa [ask_of_get here] at ready
    cases ha : l.asked with
    | false =>
      rw [look_of_not_asked ha] at found
      exact .inl (h.set found)
    | true =>
      rw [look_of_asked ha, Bool.or_eq_true, beq_iff_eq] at found
      exact found.imp_left fun told => h.set (h.told l (List.mem_of_getElem? here) told)

theorem Sound.of_poll (h : Sound moves x) {i : Nat} (waits : i ∉ x.served) (ready : (x.signal.poll i).1 = true) :
    (∃ c, .swap c ∈ moves) ∨ x.signal.holders = 0 := by
  rcases poll_eq_ask_or x.signal i with one | two
  · rw [one] at ready
    exact h.of_ask ready
  · rw [two] at ready
    cases here : x.signal.listeners[i]? with
    | none =>
      rw [ask_of_none here, ask_of_none here] at ready
      cases ready
    | some l =>
      -- the second look is a look in the state that the first one left
      have next := (h.step_look here waits).of_ask ready
      rw [holders_ask] at next
      refine next.imp_left fun ⟨c, hc⟩ => ⟨c, ?_⟩
      rcases List.mem_append.1 hc with hc | hc
      · exact hc
      · cases List.mem_singleton.1 hc

/-- **The broadcast is sent once at most.  Nobody stops waiting before the flag was set, unless nobody holds the
signal.  A call that set the flag is done with its broadcast: from then on everyone who still waits is done at the
next look, and so at the next poll.** -/
theorem sent_once_and_heard (h : Leads .start moves x) : moves.countP Move.isBroadcast ≤ 1 ∧
    (∀ i, i ∉ x.served → (x.signal.ask i).1 = true ∨ (x.signal.poll i).1 = true →
      (∃ c, .swap c ∈ moves) ∨ x.signal.holders = 0) ∧
    ∀ c, .broadcast c ∈ moves → ∀ i < x.signal.listeners.length, i ∉ x.served →
      (x.signal.ask i).1 = true ∧ (x.signal.poll i).1 = true := by
  have sound := Sound.of_leads h
  refine ⟨?_, fun i waits ready => ?_, fun c hc i hi waits => ?_⟩
  · exact Nat.le_trans sound.sent_le (Bool.toNat_le _)
  · exact ready.elim sound.of_ask (sound.of_poll waits)
  · have sent : 0 < moves.countP Move.isBroadcast := List.countP_pos_iff.2 ⟨.broadcast c, hc, rfl⟩
    have here := List.getElem?_eq_getElem hi
    have ready : (x.signal.ask i).1 = true := by
      rw [ask_of_get here]
      exact sound.look_of_sent sent here waits
    exact ⟨ready, by rwa [poll_of_ready ready]⟩

end

/-- listeners of each kind: one that looked before the flag was set, one that began to listen before it, one between
the flag and the broadcast, and one after the broadcast -/
def rung : Signalling :=
  ⟨⟨true, 1, [⟨true, true⟩, ⟨false, true⟩, ⟨false, true⟩, ⟨false, false⟩]⟩, [.done, .lost], []⟩

theorem sent_once_and_heard_rung :
    Leads .start [.listen, .look 0, .call, .listen, .swap 0, .listen, .call, .swap 1, .broadcast 0, .listen] rung ∧
    ∀ i < 4, (rung.signal.ask i).1 = true ∧ (rung.signal.poll i).1 = true := by
  have reached : Leads .start
      [.listen, .look 0, .call, .listen, .swap 0, .listen, .call, .swap 1, .broadcast 0, .listen] rung :=
    .cons _ (.listen (by decide)) <| .cons _ (.look rfl (by decide)) <| .cons _ (.call (by decide)) <|
    .cons _ (.listen (by decide)) <| .cons _ (.swap rfl) <| .cons _ (.listen (by decide)) <|
    .cons _ (.call (by decide)) <| .cons _ (.swap rfl) <| .cons _ (.broadcast rfl) <|
    .cons _ (.listen (by decide)) .none
  refine ⟨reached, fun i hi => ?_⟩
  exact (sent_once_and_heard reached).2.2 0 (by decide) i hi (List.not_mem_nil)

end RequestPipeline.Signal
