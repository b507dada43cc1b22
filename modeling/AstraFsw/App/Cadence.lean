/-
The application under a steady loop: steps whose loop is never late.

The missed-deadline count then stays at 0 and the watchdog reports only the time since the step before, which the first
step does not have.

- `Watched`: the watchdog after such steps, with the time of the last of them;
- `Watched.step`, `Watched.primaryFault`: what one more step keeps, and the internal fault it raises;
- `step_of_silent`: a step without a command, from its internal fault alone.
-/
import AstraFsw.App.Step

namespace AstraFsw.FlightSoftwareApp

open FdirManager (dispositionFor faultMode)

variable {app : FlightSoftwareApp} {cfg : FlightSoftwareAppConfig} {last : Option UInt64}
variable {input : FlightSoftwareStepInput}

/-- the watchdog after steps with short loops, the last of them at `last` -/
structure Watched (cfg : FlightSoftwareAppConfig) (app : FlightSoftwareApp) (last : Option UInt64) : Prop where
  configuredBy : ConfiguredBy cfg app
  count : app.watchdog.missedDeadlineCount = 0
  initialized : app.watchdogInitialized = last.isSome
  kicked : ∀ previousMs ∈ last, app.watchdog.lastKickMs = previousMs

/-- the clock moved by the watchdog's timeout or more since the step before -/
def Stalled (last : Option UInt64) (nowMs : UInt64) : Prop := ∃ previousMs ∈ last, previousMs.toNat + 500 ≤ nowMs.toNat

instance (last : Option UInt64) (nowMs : UInt64) : Decidable (Stalled last nowMs) :=
  decidable_of_iff (last.any fun previousMs => decide (previousMs.toNat + 500 ≤ nowMs.toNat))
    (by unfold Stalled; cases last <;> simp)

theorem stalled_none (nowMs : UInt64) : ¬ Stalled none nowMs := by simp [Stalled]

theorem stalled_some (previousMs nowMs : UInt64) :
    Stalled (some previousMs) nowMs ↔ previousMs.toNat + 500 ≤ nowMs.toNat := by simp [Stalled]

theorem watched_ofConfig (cfg : FlightSoftwareAppConfig) : Watched cfg (ofConfig cfg) none :=
  ⟨configuredBy_ofConfig cfg, rfl, rfl, by simp⟩

/-! ## One step -/

theorem Watched.countAfter (h : Watched cfg app last) (hloop : input.loopDurationMs < 250) :
    (app.armedWatchdog input).countAfter input.loopDurationMs = 0 := by
  have hearly : ¬ input.loopDurationMs ≥ (app.armedWatchdog input).config.loopDeadlineMs := by
    rw [armedWatchdog_config, h.configuredBy.watchdog]
    exact UInt32.not_le.2 hloop
  have harmed : (app.armedWatchdog input).missedDeadlineCount = 0 := by
    unfold FlightSoftwareApp.armedWatchdog
    split_ifs
    · exact h.count
    · rfl
  rw [Watchdog.countAfter, if_neg hearly]
  exact harmed

theorem Watched.step (h : Watched cfg app last) (hloop : input.loopDurationMs < 250) :
    Watched cfg (app.step input).2 (some input.timestampMs) := by
  refine ⟨h.configuredBy.step, ?_, ?_, ?_⟩
  · rw [step_watchdog]
    exact h.countAfter hloop
  · simp [FlightSoftwareApp.step]
  · intro previousMs hprevious
    rw [Option.mem_some] at hprevious
    rw [step_watchdog, ← hprevious]

theorem elapsed_ge_iff (w : Watchdog) (now : UInt64) :
    w.elapsed now ≥ 500 ↔ w.lastKickMs.toNat + 500 ≤ now.toNat := by
  have h500 : (500 : UInt64).toNat = 500 := rfl
  unfold Watchdog.elapsed
  by_cases hle : w.lastKickMs ≤ now
  · rw [if_pos hle, ge_iff_le, UInt64.le_iff_toNat_le, UInt64.toNat_sub_of_le _ _ hle, h500]
    have hnat := UInt64.le_iff_toNat_le.1 hle
    omega
  · have hnat := UInt64.lt_iff_toNat_lt.1 (UInt64.not_le.1 hle)
    rw [if_neg hle]
    exact iff_of_false (by decide) (by omega)

theorem Watched.watchdogExpires_iff (h : Watched cfg app last) (hloop : input.loopDurationMs < 250) :
    app.watchdogExpires input ↔ Stalled last input.timestampMs := by
  have hcount : ¬ (app.armedWatchdog input).countAfter input.loopDurationMs ≥
      app.watchdog.config.maxMissedDeadlines := by
    rw [h.countAfter hloop, h.configuredBy.watchdog]
    decide
  have htimeout : app.watchdog.config.timeoutMs.toUInt64 = 500 := by rw [h.configuredBy.watchdog]; rfl
  rw [watchdogExpires, or_iff_left hcount, htimeout, elapsed_ge_iff]
  unfold FlightSoftwareApp.armedWatchdog
  rw [h.initialized]
  cases hlast : last with
  | none =>
    -- the first step resets the watchdog to its own time
    refine iff_of_false ?_ (stalled_none _)
    simp [Watchdog.reset]
  | some previousMs =>
    have hkick : app.watchdog.lastKickMs = previousMs := h.kicked previousMs (by simp [hlast])
    rw [stalled_some, ← hkick]
    rfl

/-- **The internal fault of a steady loop**, at the thresholds of 1000 ms and 95 %. -/
theorem Watched.primaryFault (h : Watched cfg app last) (hloop : input.loopDurationMs < 250) :
    app.primaryFault input =
      if Stalled last input.timestampMs then .watchdogDeadlineMiss
      else if input.sensorAgeMs ≥ 1000 then .sensorTimeout
      else if input.memoryLoadPercent.ge ⟨0x42BE0000⟩ then .memoryOverload
      else if input.cpuLoadPercent.ge ⟨0x42BE0000⟩ then .cpuOverload
      else .none := by
  have hlate : ¬ app.loopMissed input := by
    rw [loopMissed, h.configuredBy.thresholds]
    exact UInt32.not_le.2 hloop
  rw [primaryFault_eq]
  simp only [h.watchdogExpires_iff hloop, hlate, or_false, sensorTimedOut, memoryCritical, cpuCritical,
    h.configuredBy.thresholds]

/-! ## Steps without a command -/

/-- **A silent step.** Only its internal fault changes the mode and the active fault. -/
theorem step_of_silent (app : FlightSoftwareApp) (h : input.command = none) :
    (app.step input).2.currentMode = faultMode (dispositionFor (app.primaryFault input)).response app.currentMode ∧
      (app.step input).2.lastFault =
        if app.primaryFault input = .none then app.lastFault else app.primaryFault input := by
  rw [step_currentMode, step_lastFault, afterGround_of_none app input h]
  exact ⟨rfl, rfl⟩

end AstraFsw.FlightSoftwareApp
