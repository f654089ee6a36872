import RequestPipeline.Context
import RequestPipeline.Reply.Envelope

/-!
# Runs on a clock

Serving a request takes time and leaves traces: a `Run` is a result with what was noted on the way, each
note at its time, and the time that passed, in milliseconds.  Runs are put one after the other by `bind`.
`Run.within` gives up on a run that takes longer than it may, and keeps what was noted until then.
-/

namespace RequestPipeline

open Json (Value)

inductive Outcome where
  | ok | rejected | error
  deriving DecidableEq, Repr

namespace Outcome

def label : Outcome → String
  | .ok => "ok"
  | .rejected => "rejected"
  | .error => "error"

/-- the outcome of a failure: the client's fault or not -/
def ofFailure (f : Failure) : Outcome := if f.isClientError then .rejected else .error

def ofResult {α : Type} : Except Failure α → Outcome
  | .ok _ => .ok
  | .error f => ofFailure f

end Outcome

inductive Event where
  /-- a stage of a pipeline got a request -/
  | visited (stage : String)
  | called (operation : String) (context : Option RequestContext) (query body : Value)
  /-- an input was rejected before the operation, with the code of the failure -/
  | inputRejected (code : String)
  /-- a reply was made ready to go out -/
  | replied (kind : ReplyKind)
  /-- a request or a message was answered -/
  | answered (transport : Transport) (outcome : Outcome) (milliseconds : Nat)
  deriving Repr

namespace Event

def isCall : Event → Bool
  | .called .. => true
  | _ => false

end Event

/-- a result with the notes on the way to it and the time that it took -/
structure Run (α : Type) where
  value : α
  log : List (Nat × Event)
  elapsed : Nat

namespace Run

variable {α β γ : Type}

protected def pure (a : α) : Run α := ⟨a, [], 0⟩

protected def bind (r : Run α) (f : α → Run β) : Run β :=
  let s := f r.value
  ⟨s.value, r.log ++ s.log.map (fun (t, e) => (r.elapsed + t, e)), r.elapsed + s.elapsed⟩

instance : Monad Run where
  pure := Run.pure
  bind := Run.bind

def note (e : Event) : Run Unit := ⟨(), [(0, e)], 0⟩

/-- lets time pass -/
def wait (milliseconds : Nat) : Run Unit := ⟨(), [], milliseconds⟩

def events (r : Run α) : List Event := r.log.map Prod.snd

def calls (r : Run α) : Nat := (r.events.filter Event.isCall).length

/-- the result of a run if it takes at most `limit`; otherwise what was noted until then -/
def within (limit : Nat) (r : Run α) : Run (Option α) :=
  if r.elapsed ≤ limit then ⟨some r.value, r.log, r.elapsed⟩
  else ⟨none, r.log.filter fun (t, _) => t ≤ limit, limit⟩

def timed (r : Run α) : Run (α × Nat) := ⟨(r.value, r.elapsed), r.log, r.elapsed⟩

theorem value_bind (r : Run α) (f : α → Run β) : (r >>= f).value = (f r.value).value := rfl

theorem elapsed_bind (r : Run α) (f : α → Run β) :
    (r >>= f).elapsed = r.elapsed + (f r.value).elapsed := rfl

theorem events_bind (r : Run α) (f : α → Run β) :
    (r >>= f).events = r.events ++ (f r.value).events := by
  simp [events, bind, Run.bind, Function.comp_def]

theorem pure_bind (a : α) (f : α → Run β) : (pure a >>= f) = f a := by
  have hl : (f a).log.map (fun x => (0 + x.1, x.2)) = (f a).log := by
    simp only [Nat.zero_add, List.map_id']
  show (⟨(f a).value, [] ++ (f a).log.map (fun x => (0 + x.1, x.2)), 0 + (f a).elapsed⟩ : Run β) = f a
  rw [hl, List.nil_append, Nat.zero_add]

theorem bind_pure (r : Run α) : (r >>= pure) = r := by
  show (⟨r.value, r.log ++ [], r.elapsed + 0⟩ : Run α) = r
  rw [List.append_nil]
  rfl

theorem bind_assoc (r : Run α) (f : α → Run β) (g : β → Run γ) :
    (r >>= f >>= g) = r >>= fun a => f a >>= g := by
  simp only [bind, Run.bind, List.map_append, List.map_map, List.append_assoc, Nat.add_assoc,
    Function.comp_def]

/-- a run has one result, so what comes after it is known before it -/
theorem bind_value (r : Run α) (f : α → Run β) : (do let _ ← r; f r.value) = r >>= f := rfl

instance : LawfulMonad Run := LawfulMonad.mk' Run bind_pure pure_bind bind_assoc

end Run
end RequestPipeline
