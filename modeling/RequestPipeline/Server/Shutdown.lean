/-!
# Shutting down

A `Signal` tells everyone who listens that the server shuts down.  Triggering it takes two steps: the flag is
swapped, and whoever swapped it first broadcasts.  A listener looks at the flag when it is first asked, and
then waits for the broadcast.  A `Tracker` counts connections; whoever takes the last one off the count wakes
those who wait for it, and they look at the count again.
-/

namespace RequestPipeline

/-! ## the signal -/

/-- someone who listens for a signal -/
structure Listener where
  /-- whether it has looked at the flag -/
  asked : Bool
  /-- whether the broadcast has reached it -/
  told : Bool
  deriving DecidableEq, Repr

structure Signal where
  triggered : Bool
  /-- how many can still trigger it -/
  holders : Nat
  listeners : List Listener
  deriving DecidableEq, Repr

namespace Signal

def start : Signal := ⟨false, 1, []⟩

/-- sets the flag, and says whether it was this that set it -/
def swap (s : Signal) : Bool × Signal := (!s.triggered, { s with triggered := true })

def broadcast (s : Signal) : Signal :=
  { s with listeners := s.listeners.map fun l => { l with told := true } }

def trigger (s : Signal) : Signal :=
  let (first, s) := s.swap
  if first then s.broadcast else s

/-- one more who can trigger it -/
def share (s : Signal) : Signal := { s with holders := s.holders + 1 }

/-- one less who can trigger it -/
def release (s : Signal) : Signal := { s with holders := s.holders - 1 }

/-- begins to listen; gives the number of the listener -/
def listen (s : Signal) : Nat × Signal :=
  (s.listeners.length, { s with listeners := s.listeners ++ [⟨false, false⟩] })

/-- what a listener finds when it looks: at first it looks at the flag, and after that at the channel, where
its wait ends once it was told or nobody is left to tell it -/
def look (s : Signal) (l : Listener) : Bool :=
  if l.asked then l.told || s.holders == 0 else s.triggered

/-- has a listener look once; says whether that ended its wait -/
def ask (s : Signal) (listener : Nat) : Bool × Signal :=
  match s.listeners[listener]? with
  | none => (false, s)
  | some l =>
    (s.look l, { s with listeners := s.listeners.set listener { l with asked := true } })

/-- asks a listener whether it is done waiting; one that looks at the flag in vain looks at the channel too -/
def poll (s : Signal) (listener : Nat) : Bool × Signal :=
  match s.listeners[listener]? with
  | none => (false, s)
  | some l =>
    let (ready, s) := s.ask listener
    if ready || l.asked then (ready, s) else s.ask listener

theorem trigger_of_triggered {s : Signal} (h : s.triggered = true) : s.trigger = s := by
  obtain ⟨t, n, ls⟩ := s
  simp_all [trigger, swap]

end Signal

/-! ## the tracker -/

/-- a count of connections, and how often it has come down to zero -/
structure Tracker where
  active : Nat
  emptied : Nat
  deriving DecidableEq, Repr

namespace Tracker

def start : Tracker := ⟨0, 0⟩

def acquire (t : Tracker) : Tracker := { t with active := t.active + 1 }

/-- takes one connection off the count, and says whether it was the last -/
def leave (t : Tracker) : Bool × Tracker := (t.active == 1, { t with active := t.active - 1 })

def wake (t : Tracker) : Tracker := { t with emptied := t.emptied + 1 }

/-- one connection less; those who wait are woken when it was the last -/
def release (t : Tracker) : Tracker :=
  let (last, t) := t.leave
  if last then t.wake else t

/-- someone who waits until there are no connections: how often the count had been zero when it last
looked, if it has looked -/
abbrev Waiter := Option Nat

/-- asks a waiter whether it is done: it looks at the count at first, and then whenever it was woken -/
def poll (t : Tracker) (w : Waiter) : Bool × Waiter :=
  let woken := match w with
    | none => true
    | some seen => seen < t.emptied
  if woken then (t.active == 0, some t.emptied) else (false, w)

theorem active_of_poll {t : Tracker} {w : Waiter} (h : (t.poll w).1 = true) : t.active = 0 := by
  cases w with
  | none => simpa [poll] using h
  | some seen =>
    by_cases hs : seen < t.emptied <;> simp_all [poll]

end Tracker
end RequestPipeline
