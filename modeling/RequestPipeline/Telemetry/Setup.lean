import RequestPipeline.Config.LogFilter
import RequestPipeline.Telemetry.Recorder

/-!
# Setting up logs and metrics

A process installs its logs and its metrics at most once each.  `installTelemetry` sets up both, the logs
first.
-/

namespace RequestPipeline.Telemetry

inductive SetupFault where
  | alreadyInstalled (what : String)
  /-- the log filter cannot be read -/
  | logFilter
  /-- the histogram has no bounds -/
  | noBounds
  deriving DecidableEq, Repr

def SetupFault.message : SetupFault → String
  | .alreadyInstalled what => what ++ " already initialized"
  | .logFilter => "Failed to initialize logging"
  | .noBounds => "Failed to initialize metrics"

structure Installed where
  logging : Bool
  recorder : Option Recorder
  deriving DecidableEq, Repr

namespace Installed

def nothing : Installed := ⟨false, none⟩

/-- Sets up logs.  They also become the `log` logger of the process; the assumption is that nothing else has set
one. -/
def installLogs (p : Installed) (settings : LogSettings) : Except SetupFault Installed :=
  if ¬ settings.enabled then .ok p
  else if ¬ LogFilter.isFilter settings.level then .error .logFilter
  else if p.logging then .error (.alreadyInstalled "logging")
  else .ok { p with logging := true }

/-- sets up metrics, and says whether they are on -/
def installMetrics (p : Installed) (settings : MetricSettings) (service : String) :
    Except SetupFault (Bool × Installed) :=
  if ¬ settings.enabled then .ok (false, p)
  else if p.recorder.isSome then .error (.alreadyInstalled "metrics")
  else if settings.buckets.isEmpty then .error .noBounds
  else .ok (true, { p with recorder := some (.start (some service) settings.buckets) })

/-- Sets up both, the logs first: what is installed afterwards, and whether metrics are on.  What was
installed before a fault stays. -/
def installTelemetry (p : Installed) (logs : LogSettings) (metrics : MetricSettings)
    (service : String) : Except SetupFault Bool × Installed :=
  match p.installLogs logs with
  | .error f => (.error f, p)
  | .ok p =>
    match p.installMetrics metrics service with
    | .error f => (.error f, p)
    | .ok (on, p) => (.ok on, p)

def record (p : Installed) (f : Recorder → Recorder) : Installed :=
  { p with recorder := p.recorder.map f }

end Installed

structure Plan where
  service : String
  logging : LogSettings
  metrics : MetricSettings
  deriving DecidableEq, Repr

/-- what was chosen, the defaults elsewhere -/
def Plan.choose (service : Option String) (logging : Option LogSettings)
    (metrics : Option MetricSettings) : Plan :=
  ⟨service.getD "turnstile", logging.getD Settings.default.logging,
    metrics.getD Settings.default.metrics⟩

end RequestPipeline.Telemetry
