import RequestPipeline.Proofs.Config.Filters
import RequestPipeline.Telemetry.Setup

/-!
# What comes up with accepted settings

Acceptance looks at the end of each directive of the log filter, which is read from the front, and it does not look at
the bounds of the histogram.  So accepted settings may fail to come up (`accepted_not_up`); `Settings.StartsUp` is what
they need besides.

`installTelemetry_of_accepted`: **what is installed with accepted settings in a process without logs and metrics, or
else what fails.**
-/

namespace RequestPipeline.Settings

open Telemetry (Installed)

/-- what settings need to come up, besides being accepted -/
structure StartsUp (s : Settings) : Prop where
  filter : s.logging.enabled = true → LogFilter.Readable s.logging.level
  bounds : s.metrics.enabled = true → s.metrics.buckets ≠ []

section
variable {s : Settings} (service : String)

theorem installLogs_of_readable (leveled : LogFilter.Leveled s.logging.level)
    (h : s.logging.enabled = true → LogFilter.Readable s.logging.level) :
    Installed.nothing.installLogs s.logging = .ok ⟨s.logging.enabled, none⟩ := by
  unfold Installed.installLogs
  by_cases he : s.logging.enabled = true
  · have hf := (LogFilter.isFilter_iff_of_leveled leveled).mpr (h he)
    rw [if_neg (not_not_intro he), if_neg (not_not_intro hf), he]
    rfl
  · rw [if_pos he, Bool.eq_false_iff.mpr he]
    rfl

/-- **What accepted settings install in a process without logs and metrics: logs and metrics as far as they are
enabled, or nothing at all when the log filter cannot be read, or only logs when the histogram has no bounds.** -/
theorem installTelemetry_of_accepted (accepted : s.accept = .ok s) :
    (s.StartsUp → Installed.nothing.installTelemetry s.logging s.metrics service =
      (.ok s.metrics.enabled, ⟨s.logging.enabled,
        if s.metrics.enabled then some (.start (some service) s.metrics.buckets) else none⟩)) ∧
    (s.logging.enabled = true → ¬ LogFilter.Readable s.logging.level →
      Installed.nothing.installTelemetry s.logging s.metrics service = (.error .logFilter, .nothing)) ∧
    ((s.logging.enabled = true → LogFilter.Readable s.logging.level) → s.metrics.enabled = true →
      s.metrics.buckets = [] →
      Installed.nothing.installTelemetry s.logging s.metrics service =
        (.error .noBounds, ⟨s.logging.enabled, none⟩)) := by
  have leveled := ((accept_eq_ok_iff s).mp accepted).filter
  have free : ¬ (⟨s.logging.enabled, none⟩ : Installed).recorder.isSome = true := Bool.false_ne_true
  refine ⟨fun h => ?_, fun he hr => ?_, fun hr he hb => ?_⟩
  · unfold Installed.installTelemetry
    rw [installLogs_of_readable leveled h.filter]
    dsimp only
    unfold Installed.installMetrics
    by_cases he : s.metrics.enabled = true
    · have hb : ¬ s.metrics.buckets.isEmpty = true := by simpa using h.bounds he
      rw [if_neg (not_not_intro he), if_neg free, if_neg hb, he]
      rfl
    · rw [if_pos he, Bool.eq_false_iff.mpr he]
      rfl
  · have hf : ¬ LogFilter.isFilter s.logging.level = true := fun hf =>
      hr ((LogFilter.isFilter_iff_of_leveled leveled).mp hf)
    unfold Installed.installTelemetry Installed.installLogs
    rw [if_neg (not_not_intro he), if_pos hf]
  · unfold Installed.installTelemetry
    rw [installLogs_of_readable leveled hr]
    dsimp only
    unfold Installed.installMetrics
    rw [if_neg (not_not_intro he), if_neg free, hb]
    rfl

end

def twoLevels : Settings := { default with logging := { default.logging with level := "turnstile_ws=debug,warn" } }

theorem installTelemetry_of_accepted_twoLevels : twoLevels.accept = .ok twoLevels ∧ twoLevels.StartsUp ∧
    Installed.nothing.installTelemetry twoLevels.logging twoLevels.metrics "svc" =
      (.ok true, ⟨true, some (.start (some "svc") defaultBuckets)⟩) := by
  have accepted : twoLevels.accept = .ok twoLevels := rfl
  have filter := ((accept_eq_ok_iff twoLevels).mp accepted).filter
  have up : twoLevels.StartsUp :=
    ⟨fun _ => (LogFilter.isFilter_iff_of_leveled filter).mp (by decide +kernel), fun _ => by decide⟩
  exact ⟨accepted, up, (installTelemetry_of_accepted "svc" accepted).1 up⟩

/-- the default settings with a blank in front of a directive -/
def spaced : Settings := { default with logging := { default.logging with level := "info, turnstile_ws=debug" } }

def boundless : Settings := { default with metrics := ⟨true, []⟩ }

/-- settings that are accepted and do not come up -/
theorem accepted_not_up :
    (spaced.accept = .ok spaced ∧
      Installed.nothing.installTelemetry spaced.logging spaced.metrics "svc" = (.error .logFilter, .nothing)) ∧
    boundless.accept = .ok boundless ∧
      Installed.nothing.installTelemetry boundless.logging boundless.metrics "svc" =
        (.error .noBounds, ⟨true, none⟩) :=
  ⟨⟨rfl, rfl⟩, rfl, rfl⟩

end RequestPipeline.Settings
