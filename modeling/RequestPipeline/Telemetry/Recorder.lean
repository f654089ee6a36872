import RequestPipeline.Config.Settings
import RequestPipeline.Number.Shortest
import RequestPipeline.Run

/-!
# Counting requests

A recorder counts what is noted while requests are served: requests by transport and outcome, with their
durations in a histogram, rejected inputs by code, and replies by kind.  `Recorder.record` takes one note;
`Recorder.render` writes everything as text, one series a line.
-/

namespace RequestPipeline.Telemetry

/-! ## counters -/

/-- how often something was counted, by key -/
abbrev Tally (κ : Type) := List (κ × Nat)

namespace Tally

variable {κ : Type} [DecidableEq κ]

def count (t : Tally κ) (key : κ) : Nat :=
  match t with
  | [] => 0
  | (k, n) :: t => if k = key then n else count t key

def bump (key : κ) : Tally κ → Tally κ
  | [] => [(key, 1)]
  | (k, n) :: t => if k = key then (k, n + 1) :: t else (k, n) :: bump key t

theorem count_bump_self (key : κ) (t : Tally κ) : (t.bump key).count key = t.count key + 1 := by
  induction t with
  | nil => simp [bump, count]
  | cons e t ih =>
    obtain ⟨k, n⟩ := e
    by_cases h : k = key <;> simp [bump, count, h, ih]

theorem count_bump_of_ne {key other : κ} (h : other ≠ key) (t : Tally κ) :
    (t.bump key).count other = t.count other := by
  induction t with
  | nil => simp [bump, count, h.symm]
  | cons e t ih =>
    obtain ⟨k, n⟩ := e
    by_cases hk : k = key
    · subst hk; simp [bump, count, h.symm]
    · by_cases ho : k = other
      · subst ho; simp [bump, count, hk]
      · simp [bump, count, hk, ho, ih]

end Tally

/-! ## histograms -/

/-- Durations: how many, their sum in seconds, and those that were not yet taken into both.  The fresh ones
stand in blocks, the newest block first. -/
structure Histogram where
  count : Nat
  sum : Finite64
  /-- for each bound how many durations are within it or within a bound that is listed before it -/
  within : List Nat
  fresh : List (List Finite64)
  deriving DecidableEq, Repr

namespace Histogram

def empty : Histogram := ⟨0, .zero false, [], []⟩

/-- the sum of two numbers, or the first where it is too large -/
def plus (x y : Finite64) : Finite64 := (x.add y).getD x

/-- how many fresh durations a block holds -/
def blockSize : Nat := 64

/-- adds a duration to the newest block, or to a new one where that is full -/
def push (x : Finite64) : List (List Finite64) → List (List Finite64)
  | [] => [[x]]
  | b :: bs => if b.length < blockSize then (b ++ [x]) :: bs else [x] :: b :: bs

def add (x : Finite64) (h : Histogram) : Histogram := { h with fresh := push x h.fresh }

/-- how many durations are within the first bound, within the first two, and so on -/
def counts (bounds : List Float64) (xs : List Finite64) : List Nat :=
  (List.range bounds.length).map fun i =>
    xs.countP fun x => (bounds.take (i + 1)).any fun b => (Float64.finite x).le b

/-- takes what is fresh into the count and the sum, block by block -/
def settle (bounds : List Float64) (h : Histogram) : Histogram where
  count := h.count + h.fresh.flatten.length
  sum := h.fresh.foldl (fun sum b => plus sum (b.foldl plus (.zero false))) h.sum
  within := (counts bounds h.fresh.flatten).zipIdx.map fun (n, i) => h.within.getD i 0 + n
  fresh := []

end Histogram

def seconds (milliseconds : Nat) : Finite64 :=
  let number (n : Nat) : Finite64 := (Finite64.ofInt n).getD (.zero false)
  let fraction := ((number (milliseconds % 1000 * 1000000)).div (number 1000000000)).getD (.zero false)
  Histogram.plus (number (milliseconds / 1000)) fraction

/-! ## the recorder -/

structure Recorder where
  /-- a label of every series -/
  service : Option String
  bounds : List Float64
  requests : Tally (String × String)
  durations : List (String × Histogram)
  rejections : Tally String
  replies : Tally String
  deriving DecidableEq, Repr

namespace Recorder

def start (service : Option String) (bounds : List Float64) : Recorder :=
  ⟨service, bounds, [], [], [], []⟩

def addDuration (transport : String) (x : Finite64) :
    List (String × Histogram) → List (String × Histogram)
  | [] => [(transport, Histogram.empty.add x)]
  | (t, h) :: rest =>
    if t = transport then (t, h.add x) :: rest
    else (t, h) :: addDuration transport x rest

def addRequest (r : Recorder) (transport outcome : String) (milliseconds : Nat) : Recorder :=
  { r with
    requests := r.requests.bump (transport, outcome)
    durations := addDuration transport (seconds milliseconds) r.durations }

def addRejection (r : Recorder) (code : String) : Recorder :=
  { r with rejections := r.rejections.bump code }

def addReply (r : Recorder) (kind : String) : Recorder :=
  { r with replies := r.replies.bump kind }

def record (r : Recorder) : Event → Recorder
  | .inputRejected code => r.addRejection code
  | .replied kind => r.addReply kind.label
  | .answered transport outcome milliseconds =>
    r.addRequest transport.label outcome.label milliseconds
  | _ => r

def recordAll (r : Recorder) (events : List Event) : Recorder := events.foldl record r

def settle (r : Recorder) : Recorder :=
  { r with durations := r.durations.map fun (t, h) => (t, h.settle r.bounds) }

/-! ## as text -/

/-- the value of a label: quotes, line ends and backslashes are escaped.  A backslash in front of a quote
or of another one counts as an escape that is already there. -/
def labelChars (pending : Bool) : List Char → List Char
  | [] => if pending then ['\\', '\\'] else []
  | c :: cs =>
    if c = '\n' then '\\' :: 'n' :: labelChars pending cs
    else if c = '"' then '\\' :: '"' :: labelChars false cs
    else if c = '\\' then
      if pending then '\\' :: '\\' :: labelChars false cs else labelChars true cs
    else (if pending then ['\\', '\\'] else []) ++ c :: labelChars false cs

def label (name value : String) : String :=
  name ++ "=\"" ++ String.ofList (labelChars false value.toList) ++ "\""

def line (r : Recorder) (name : String) (labels : List (String × String)) (value : String) :
    String :=
  let service := (r.service.map fun s => ("service", s)).toList
  name ++ r"{" ++ ",".intercalate ((service ++ labels).map fun (n, v) => label n v) ++ r"} " ++
    value

/-- what a series means and what kind it is, if there is anything in it -/
def heading (name meaning kind : String) (lines : List String) : List String :=
  if lines.isEmpty then []
  else ["# HELP " ++ name ++ " " ++ meaning, "# TYPE " ++ name ++ " " ++ kind] ++ lines

def decimal (n : Nat) : String := String.ofList (Text.ofNat n)

/-- the series of the time requests take -/
def durationName : String := "turnstile_request_duration_seconds"

def durationLines (r : Recorder) (transport : String) (h : Histogram) : List String :=
  let labels := [("transport", transport)]
  (r.bounds.zip h.within).map (fun (b, n) =>
    r.line (durationName ++ "_bucket") (labels ++ [("le", String.ofList b.plainText)]) (decimal n)) ++
  [r.line (durationName ++ "_bucket") (labels ++ [("le", "+Inf")]) (decimal h.count),
    r.line (durationName ++ "_sum") labels (String.ofList h.sum.plainText),
    r.line (durationName ++ "_count") labels (decimal h.count)]

/-- every line, sorted; fresh durations must have been settled -/
def lines (r : Recorder) : List String :=
  let counters (name labelName : String) (t : Tally String) : List String :=
    t.map fun (k, n) => r.line name [(labelName, k)] (decimal n)
  let all :=
    heading "turnstile_requests_total" "Requests and messages completed, by transport and outcome"
      "counter" (r.requests.map fun ((t, o), n) =>
        r.line "turnstile_requests_total" [("transport", t), ("outcome", o)] (decimal n)) ++
    heading durationName "Time from context creation to response, in seconds" "histogram"
      (r.durations.flatMap fun (t, h) => r.durationLines t h) ++
    heading "turnstile_validation_failures_total" "Inputs rejected by validation, by error code"
      "counter" (counters "turnstile_validation_failures_total" "code" r.rejections) ++
    heading "turnstile_envelopes_total" "Responses produced, by kind (data, envelope, binary)"
      "counter" (counters "turnstile_envelopes_total" "kind" r.replies)
  all.mergeSort fun a b => a ≤ b

def isCounter (line : String) : Bool :=
  let head := String.ofList (line.toList.takeWhile (· ≠ '{'))
  head.endsWith "_total" || head.endsWith "_count"

def counterLines (r : Recorder) : List String := r.settle.lines.filter isCounter

end Recorder
end RequestPipeline.Telemetry
