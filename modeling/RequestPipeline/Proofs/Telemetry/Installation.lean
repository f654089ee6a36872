import RequestPipeline.Telemetry.Process

/-!
# What setting up telemetry leaves behind

Logs are set up first, and stay when the metrics then fail.  Nothing else of a failed attempt is left, and what is
installed is never installed again.

* `LogsFail`, `MetricsFail`      when a part cannot be set up;
* `installTelemetry_of_free`     where nothing else is the recorder, a process is what is installed in it;
* `keeps_acts`                   what is installed stays, whatever the process does;
* `Failed`, `Succeeded`          what an attempt leaves behind;
* `failed_logs_only`             an attempt that fails and leaves logs behind.

`installTelemetry_settles`: **what each attempt leaves behind, and what later attempts find.**
-/

namespace RequestPipeline.Telemetry.Process

/-! ## what may fail -/

section
variable (p : Process) (logs : LogSettings) (metrics : MetricSettings) (service : String)

/-- whether logs are wanted that cannot be set up -/
def LogsFail : Prop :=
  logs.enabled = true ∧ (LogFilter.isFilter logs.level = true → p.installed.logging = true)

/-- whether metrics are wanted that cannot be set up -/
def MetricsFail : Prop :=
  metrics.enabled = true ∧ (p.installed.recorder ≠ none ∨ metrics.buckets = [] ∨ p.taken = true)

/-- the process with logs, if they are wanted -/
def withLogs : Process :=
  { p with installed := { p.installed with logging := p.installed.logging || logs.enabled } }

/-- the process with metrics, if they are wanted -/
def withMetrics : Process :=
  if metrics.enabled then
    { p with installed := { p.installed with recorder := some (.start (some service) metrics.buckets) } }
  else p

theorem installTelemetry_of_free (free : p.taken = false) :
    p.installTelemetry logs metrics service =
      ((p.installed.installTelemetry logs metrics service).1.mapError .setup,
        { p with installed := (p.installed.installTelemetry logs metrics service).2 }) := by
  unfold installTelemetry installLogs Installed.installTelemetry
  cases p.installed.installLogs logs with
  | error f => rfl
  | ok i =>
    dsimp only
    unfold installMetrics
    dsimp only
    cases i.installMetrics metrics service with
    | error f => rfl
    | ok r =>
      dsimp only
      rw [free, Bool.and_false, if_neg Bool.false_ne_true]
      rfl

end

section
variable {p : Process} {logs : LogSettings} {metrics : MetricSettings}

theorem installLogs_of_fail (h : p.LogsFail logs) : ∃ f, p.installLogs logs = .error f := by
  unfold installLogs Installed.installLogs
  rw [if_neg (not_not_intro h.1)]
  by_cases hf : LogFilter.isFilter logs.level = true
  · rw [if_neg (not_not_intro hf), if_pos (h.2 hf)]
    exact ⟨_, rfl⟩
  · rw [if_pos hf]
    exact ⟨_, rfl⟩

theorem installLogs_of_not_fail (h : ¬ p.LogsFail logs) : p.installLogs logs = .ok (p.withLogs logs) := by
  unfold installLogs Installed.installLogs withLogs
  by_cases he : logs.enabled = true
  · obtain ⟨hf, hl⟩ := Classical.not_imp.mp fun all => h ⟨he, all⟩
    rw [if_neg (not_not_intro he), if_neg (not_not_intro hf), if_neg hl, he, Bool.or_true]
  · rw [if_pos he, Bool.eq_false_iff.mpr he, Bool.or_false]

theorem installMetrics_of_fail (service : String) (h : p.MetricsFail metrics) :
    ∃ f, p.installMetrics metrics service = .error f := by
  unfold installMetrics Installed.installMetrics
  rw [if_neg (not_not_intro h.1)]
  by_cases hr : p.installed.recorder = none
  · rw [hr, if_neg (show ¬ (none : Option Recorder).isSome = true from Bool.false_ne_true)]
    by_cases hb : metrics.buckets.isEmpty = true
    · rw [if_pos hb]
      exact ⟨_, rfl⟩
    · have hb' : metrics.buckets ≠ [] := by simpa using hb
      have ht : p.taken = true := (h.2.resolve_left (not_not_intro hr)).resolve_left hb'
      rw [if_neg hb]
      dsimp only
      rw [ht, Bool.and_true, if_pos rfl]
      exact ⟨_, rfl⟩
  · rw [if_pos (Option.isSome_iff_ne_none.mpr hr)]
    exact ⟨_, rfl⟩

theorem installMetrics_of_not_fail (service : String) (h : ¬ p.MetricsFail metrics) :
    p.installMetrics metrics service = .ok (metrics.enabled, p.withMetrics metrics service) := by
  unfold installMetrics Installed.installMetrics withMetrics
  by_cases he : metrics.enabled = true
  · obtain ⟨hr, hb, ht⟩ : p.installed.recorder = none ∧ metrics.buckets ≠ [] ∧ p.taken = false := by
      simpa [MetricsFail, he] using h
    have hb' : ¬ metrics.buckets.isEmpty = true := by simpa using hb
    rw [if_neg (not_not_intro he), hr, if_neg (show ¬ (none : Option Recorder).isSome = true from Bool.false_ne_true),
      if_neg hb', he]
    dsimp only
    rw [ht, Bool.and_false, if_neg Bool.false_ne_true, if_pos rfl]
  · rw [if_pos he, Bool.eq_false_iff.mpr he]
    rfl

/-! ## both -/

theorem metricsFail_withLogs : (p.withLogs logs).MetricsFail metrics ↔ p.MetricsFail metrics := Iff.rfl

theorem installTelemetry_of_logsFail (metrics : MetricSettings) (service : String) (h : p.LogsFail logs) :
    ∃ f, p.installTelemetry logs metrics service = (.error f, p) := by
  obtain ⟨f, hf⟩ := installLogs_of_fail h
  refine ⟨f, ?_⟩
  unfold installTelemetry
  rw [hf]

theorem installTelemetry_of_metricsFail (service : String) (hl : ¬ p.LogsFail logs) (hm : p.MetricsFail metrics) :
    ∃ f, p.installTelemetry logs metrics service = (.error f, p.withLogs logs) := by
  obtain ⟨f, hf⟩ := installMetrics_of_fail service (show (p.withLogs logs).MetricsFail metrics from hm)
  refine ⟨f, ?_⟩
  unfold installTelemetry
  rw [installLogs_of_not_fail hl]
  dsimp only
  rw [hf]

theorem installTelemetry_of_not_fail (service : String) (hl : ¬ p.LogsFail logs) (hm : ¬ p.MetricsFail metrics) :
    p.installTelemetry logs metrics service =
      (.ok metrics.enabled, (p.withLogs logs).withMetrics metrics service) := by
  unfold installTelemetry
  rw [installLogs_of_not_fail hl]
  dsimp only
  rw [installMetrics_of_not_fail service (mt metricsFail_withLogs.mp hm)]

/-! ## what is installed already -/

theorem withLogs_of_logging (h : p.installed.logging = true) : p.withLogs logs = p := by
  unfold withLogs
  rw [h, Bool.true_or, ← h]

theorem withLogs_of_not_enabled (h : logs.enabled = false) : p.withLogs logs = p := by
  unfold withLogs
  rw [h, Bool.or_false]

theorem installLogs_again (h : p.installed.logging = true) (he : logs.enabled = true)
    (hf : LogFilter.isFilter logs.level = true) :
    p.installLogs logs = .error (.setup (.alreadyInstalled "logging")) := by
  unfold installLogs Installed.installLogs
  rw [if_neg (not_not_intro he), if_neg (not_not_intro hf), if_pos h]

theorem installMetrics_again (service : String) (h : p.installed.recorder ≠ none) (he : metrics.enabled = true) :
    p.installMetrics metrics service = .error (.setup (.alreadyInstalled "metrics")) := by
  unfold installMetrics Installed.installMetrics
  rw [if_neg (not_not_intro he), if_pos (Option.isSome_iff_ne_none.mpr h)]

theorem installTelemetry_logs_again (metrics : MetricSettings) (service : String)
    (h : p.installed.logging = true) (he : logs.enabled = true)
    (hf : LogFilter.isFilter logs.level = true) :
    p.installTelemetry logs metrics service = (.error (.setup (.alreadyInstalled "logging")), p) := by
  unfold installTelemetry
  rw [installLogs_again h he hf]

theorem installTelemetry_metrics_again (service : String) (h : p.installed.recorder ≠ none) (he : metrics.enabled = true)
    (hf : logs.enabled = true → LogFilter.isFilter logs.level = true) :
    ∃ what, p.installTelemetry logs metrics service =
      (.error (.setup (.alreadyInstalled what)), p.withLogs logs) := by
  -- logs that are there keep metrics from being tried; logs that are not there are set up first
  by_cases hl : p.LogsFail logs
  · have hp : p.installed.logging = true := hl.2 (hf hl.1)
    rw [withLogs_of_logging hp]
    exact ⟨_, installTelemetry_logs_again metrics service hp hl.1 (hf hl.1)⟩
  · refine ⟨"metrics", ?_⟩
    have again : (p.withLogs logs).installMetrics metrics service = .error (.setup (.alreadyInstalled "metrics")) :=
      installMetrics_again service h he
    unfold installTelemetry
    rw [installLogs_of_not_fail hl]
    dsimp only
    rw [again]

/-! ## what stays -/

/-- whether all that is installed in `p` is installed in `q` -/
structure Keeps (p q : Process) : Prop where
  logging : p.installed.logging = true → q.installed.logging = true
  recorder : p.installed.recorder ≠ none → q.installed.recorder ≠ none

theorem Keeps.refl (p : Process) : p.Keeps p := ⟨id, id⟩

theorem Keeps.trans {p q r : Process} (h : p.Keeps q) (h' : q.Keeps r) : p.Keeps r :=
  ⟨h'.logging ∘ h.logging, h'.recorder ∘ h.recorder⟩

theorem keeps_withLogs (p : Process) (logs : LogSettings) : p.Keeps (p.withLogs logs) :=
  ⟨fun h => Bool.or_eq_true_iff.mpr (.inl h), id⟩

theorem keeps_withMetrics (p : Process) (metrics : MetricSettings) (service : String) :
    p.Keeps (p.withMetrics metrics service) := by
  unfold withMetrics
  split
  · exact ⟨id, fun _ => Option.some_ne_none _⟩
  · exact .refl p

theorem keeps_installTelemetry (p : Process) (logs : LogSettings) (metrics : MetricSettings) (service : String) :
    p.Keeps (p.installTelemetry logs metrics service).2 := by
  by_cases hl : p.LogsFail logs
  · obtain ⟨f, hf⟩ := installTelemetry_of_logsFail metrics service hl
    rw [hf]
    exact .refl p
  · by_cases hm : p.MetricsFail metrics
    · obtain ⟨f, hf⟩ := installTelemetry_of_metricsFail service hl hm
      rw [hf]
      exact keeps_withLogs p logs
    · rw [installTelemetry_of_not_fail service hl hm]
      exact (keeps_withLogs p logs).trans (keeps_withMetrics _ metrics service)

theorem keeps_act (p : Process) (a : Act) : p.Keeps (p.act a) := by
  cases a with
  | logs settings =>
    dsimp only [act]
    by_cases h : p.LogsFail settings
    · obtain ⟨f, hf⟩ := installLogs_of_fail h
      rw [hf]
      exact .refl p
    · rw [installLogs_of_not_fail h]
      exact keeps_withLogs p settings
  | metrics settings service =>
    dsimp only [act]
    by_cases h : p.MetricsFail settings
    · obtain ⟨f, hf⟩ := installMetrics_of_fail service h
      rw [hf]
      exact .refl p
    · rw [installMetrics_of_not_fail service h]
      exact keeps_withMetrics p settings service
  | telemetry logs metrics service => exact keeps_installTelemetry p logs metrics service
  | record f => exact ⟨id, fun h => mt Option.map_eq_none_iff.mp h⟩

/-- what is installed stays, whatever the process does -/
theorem keeps_acts (p : Process) (as : List Act) : p.Keeps (p.acts as) := by
  -- from the first act on: what it keeps, the others keep
  induction as generalizing p with
  | nil => exact .refl p
  | cons a as ih => exact (keeps_act p a).trans (ih (p.act a))

end

/-! ## attempts -/

section
variable (p : Process) (logs : LogSettings) (metrics : MetricSettings) (service : String)

/-- whether an attempt leaves logs behind although it fails -/
structure LeavesLogs : Prop where
  enabled : logs.enabled = true
  filter : LogFilter.isFilter logs.level = true
  first : p.installed.logging = false
  failure : p.MetricsFail metrics

/-- what an attempt that fails makes of a process -/
structure Failed (q : Process) : Prop where
  reason : p.LogsFail logs ∨ p.MetricsFail metrics
  /-- the recorder is what it was, and so are the logs, unless they are left behind -/
  unchanged : ¬ p.LeavesLogs logs metrics → q = p
  changed : p.LeavesLogs logs metrics → q = { p with installed := { p.installed with logging := true } }
  /-- settings without logs come to the same as before the attempt -/
  withoutLogs (logs' : LogSettings) (metrics' : MetricSettings) (service' : String) : logs'.enabled = false →
    (q.installTelemetry logs' metrics' service').1 = (p.installTelemetry logs' metrics' service').1
  /-- settings with logs cannot be set up any more where logs were left behind -/
  withLogs (logs' : LogSettings) (metrics' : MetricSettings) (service' : String) : p.LeavesLogs logs metrics →
    logs'.enabled = true → LogFilter.isFilter logs'.level = true →
    q.installTelemetry logs' metrics' service' = (.error (.setup (.alreadyInstalled "logging")), q)

/-- what an attempt that succeeds makes of a process -/
structure Succeeded (q : Process) : Prop where
  possible : ¬ p.LogsFail logs ∧ ¬ p.MetricsFail metrics
  /-- the parts that are wanted, and no others, are installed -/
  installed : q = (p.withLogs logs).withMetrics metrics service
  /-- whatever happens in between, logs cannot be set up again, and nothing comes of it -/
  logsAgain (as : List Act) (logs' : LogSettings) (metrics' : MetricSettings) (service' : String) :
    logs.enabled = true → logs'.enabled = true → LogFilter.isFilter logs'.level = true →
    (q.acts as).installLogs logs' = .error (.setup (.alreadyInstalled "logging")) ∧
      (q.acts as).installTelemetry logs' metrics' service' =
        (.error (.setup (.alreadyInstalled "logging")), q.acts as)
  /-- whatever happens in between, metrics cannot be set up again, and nothing but the first logs come of it -/
  metricsAgain (as : List Act) (logs' : LogSettings) (metrics' : MetricSettings) (service' : String) :
    metrics.enabled = true → metrics'.enabled = true →
    (q.acts as).installMetrics metrics' service' = .error (.setup (.alreadyInstalled "metrics")) ∧
      ((logs'.enabled = true → LogFilter.isFilter logs'.level = true) →
        ∃ what, (q.acts as).installTelemetry logs' metrics' service' =
          (.error (.setup (.alreadyInstalled what)), (q.acts as).withLogs logs'))

/-- what an attempt comes to -/
def Settles : Except ProcessFault Bool × Process → Prop
  | (.error _, q) => p.Failed logs metrics q
  | (.ok on, q) => on = metrics.enabled ∧ p.Succeeded logs metrics service q

end

section
variable {p q : Process} {logs : LogSettings} {metrics : MetricSettings} {service : String}

theorem leavesLogs_iff : p.LeavesLogs logs metrics ↔
    ¬ p.LogsFail logs ∧ logs.enabled = true ∧ p.MetricsFail metrics := by
  constructor
  · rintro ⟨he, hf, hl, hm⟩
    exact ⟨fun h => Bool.false_ne_true (hl.symm.trans (h.2 hf)), he, hm⟩
  · rintro ⟨hl, he, hm⟩
    obtain ⟨hf, hp⟩ := Classical.not_imp.mp fun all => hl ⟨he, all⟩
    exact ⟨he, hf, Bool.eq_false_iff.mpr hp, hm⟩

theorem installMetrics_withLogs (on : LogSettings) : (p.withLogs on).installMetrics metrics service =
    (p.installMetrics metrics service).map fun r => (r.1, r.2.withLogs on) := by
  obtain ⟨⟨logging, recorder⟩, taken⟩ := p
  unfold installMetrics Installed.installMetrics withLogs
  cases metrics.enabled with
  | false => rfl
  | true =>
    cases recorder with
    | some r => rfl
    | none => cases metrics.buckets.isEmpty <;> cases taken <;> rfl

/-- settings without logs come to the same with and without logs -/
theorem installTelemetry_fst_withLogs (h : logs.enabled = false) (on : LogSettings) :
    ((p.withLogs on).installTelemetry logs metrics service).1 = (p.installTelemetry logs metrics service).1 := by
  have fine (r : Process) : ¬ r.LogsFail logs := fun hl => Bool.false_ne_true (h.symm.trans hl.1)
  unfold installTelemetry
  rw [installLogs_of_not_fail (fine _), installLogs_of_not_fail (fine _), withLogs_of_not_enabled h,
    withLogs_of_not_enabled h]
  dsimp only
  rw [installMetrics_withLogs]
  cases p.installMetrics metrics service <;> rfl

theorem failed_of_logsFail (h : p.LogsFail logs) : p.Failed logs metrics p where
  reason := .inl h
  unchanged _ := rfl
  changed left := absurd h (leavesLogs_iff.mp left).1
  withoutLogs _ _ _ _ := rfl
  withLogs _ _ _ left := absurd h (leavesLogs_iff.mp left).1

theorem failed_of_metricsFail (hl : ¬ p.LogsFail logs) (hm : p.MetricsFail metrics) :
    p.Failed logs metrics (p.withLogs logs) where
  reason := .inr hm
  unchanged h := by
    have off : ¬ logs.enabled = true := fun he => h (leavesLogs_iff.mpr ⟨hl, he, hm⟩)
    exact withLogs_of_not_enabled (Bool.eq_false_iff.mpr off)
  changed left := by
    unfold Process.withLogs
    rw [left.enabled, Bool.or_true]
  withoutLogs _ _ _ off := installTelemetry_fst_withLogs off logs
  withLogs _ metrics' service' left he hf :=
    installTelemetry_logs_again metrics' service' (Bool.or_eq_true_iff.mpr (.inr left.enabled)) he hf

theorem logging_withMetrics : (p.withMetrics metrics service).installed.logging = p.installed.logging := by
  unfold withMetrics
  split <;> rfl

theorem recorder_withMetrics (p : Process) (service : String) (h : metrics.enabled = true) :
    (p.withMetrics metrics service).installed.recorder ≠ none := by
  unfold withMetrics
  rw [if_pos h]
  exact Option.some_ne_none _

theorem succeeded_of_not_fail (hl : ¬ p.LogsFail logs) (hm : ¬ p.MetricsFail metrics) :
    p.Succeeded logs metrics service ((p.withLogs logs).withMetrics metrics service) where
  possible := ⟨hl, hm⟩
  installed := rfl
  logsAgain as logs' metrics' service' on on' hf := by
    have now : ((p.withLogs logs).withMetrics metrics service).installed.logging = true := by
      rw [logging_withMetrics]
      exact Bool.or_eq_true_iff.mpr (.inr on)
    have later := (keeps_acts _ as).logging now
    exact ⟨installLogs_again later on' hf, installTelemetry_logs_again metrics' service' later on' hf⟩
  metricsAgain as logs' metrics' service' on on' := by
    have later := (keeps_acts _ as).recorder (recorder_withMetrics (p.withLogs logs) service on)
    exact ⟨installMetrics_again service' later on', installTelemetry_metrics_again service' later on'⟩

/-- **An attempt to set up telemetry installs all that is wanted, once and for all, or it fails and leaves nothing
behind but the logs that it set up before the metrics failed.** -/
theorem installTelemetry_settles (p : Process) (logs : LogSettings) (metrics : MetricSettings) (service : String) :
    p.Settles logs metrics service (p.installTelemetry logs metrics service) := by
  by_cases hl : p.LogsFail logs
  · obtain ⟨f, hf⟩ := installTelemetry_of_logsFail metrics service hl
    rw [hf]
    exact failed_of_logsFail hl
  · by_cases hm : p.MetricsFail metrics
    · obtain ⟨f, hf⟩ := installTelemetry_of_metricsFail service hl hm
      rw [hf]
      exact failed_of_metricsFail hl hm
    · rw [installTelemetry_of_not_fail service hl hm]
      exact ⟨rfl, succeeded_of_not_fail hl hm⟩

end

/-- a process in which nothing is installed -/
def bare : Process := ⟨.nothing, false⟩

/-- Attempts that fail and leave logs behind: the same settings with bounds cannot be set up any more, and metrics that
are installed already are no reason to leave the logs alone. -/
theorem failed_logs_only :
    let logs := Settings.default.logging
    let metrics := Settings.default.metrics
    (bare.installTelemetry logs ⟨true, []⟩ "svc" = (.error (.setup .noBounds), ⟨⟨true, none⟩, false⟩) ∧
      (bare.acts [.telemetry logs ⟨true, []⟩ "svc"]).installTelemetry logs metrics "svc" =
        (.error (.setup (.alreadyInstalled "logging")), ⟨⟨true, none⟩, false⟩) ∧
      (bare.installTelemetry logs metrics "svc").1 = .ok true) ∧
    ((bare.acts [.metrics metrics "svc"]).installed.logging = false ∧
      ((bare.acts [.metrics metrics "svc"]).installTelemetry logs metrics "svc").1 =
        .error (.setup (.alreadyInstalled "metrics")) ∧
      ((bare.acts [.metrics metrics "svc"]).installTelemetry logs metrics "svc").2.installed.logging = true) :=
  ⟨⟨rfl, rfl, rfl⟩, rfl, rfl, rfl⟩

end RequestPipeline.Telemetry.Process
