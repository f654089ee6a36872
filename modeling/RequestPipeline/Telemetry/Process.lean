import RequestPipeline.Telemetry.Setup

/-!
# Processes with telemetry

Not only `installMetrics` can set up a recorder.  Where something else has done so, the recorder of the process is
taken, and that shows last, when metrics are all but installed.

The logs of a process have no such state.  Where they are set up they also become its `log` logger, and the
assumption is that nothing else has set one.
-/

namespace RequestPipeline.Telemetry

structure Process where
  installed : Installed
  /-- whether there is a recorder that was not installed here -/
  taken : Bool
  deriving DecidableEq, Repr

inductive ProcessFault where
  | setup (f : SetupFault)
  /-- something else is the recorder -/
  | recorderTaken
  deriving DecidableEq, Repr

namespace Process

def installLogs (p : Process) (settings : LogSettings) : Except ProcessFault Process :=
  match p.installed.installLogs settings with
  | .error f => .error (.setup f)
  | .ok installed => .ok { p with installed }

/-- sets up metrics, and says whether they are on -/
def installMetrics (p : Process) (settings : MetricSettings) (service : String) :
    Except ProcessFault (Bool × Process) :=
  match p.installed.installMetrics settings service with
  | .error f => .error (.setup f)
  | .ok (on, installed) =>
    if on && p.taken then .error .recorderTaken
    else .ok (on, { p with installed })

/-- sets up both, the logs first -/
def installTelemetry (p : Process) (logs : LogSettings) (metrics : MetricSettings) (service : String) :
    Except ProcessFault Bool × Process :=
  match p.installLogs logs with
  | .error f => (.error f, p)
  | .ok p =>
    match p.installMetrics metrics service with
    | .error f => (.error f, p)
    | .ok (on, p) => (.ok on, p)

/-- what a process does with its telemetry -/
inductive Act where
  | logs (settings : LogSettings)
  | metrics (settings : MetricSettings) (service : String)
  | telemetry (logs : LogSettings) (metrics : MetricSettings) (service : String)
  | record (f : Recorder → Recorder)

def act (p : Process) : Act → Process
  | .logs settings =>
    match p.installLogs settings with
    | .error _ => p
    | .ok q => q
  | .metrics settings service =>
    match p.installMetrics settings service with
    | .error _ => p
    | .ok (_, q) => q
  | .telemetry logs metrics service => (p.installTelemetry logs metrics service).2
  | .record f => { p with installed := p.installed.record f }

def acts : Process → List Act → Process := List.foldl act

end Process

end RequestPipeline.Telemetry
