/-
The internal faults of the demo.

The demo makes up its own readings: CPU 92 % while CPU_OVERLOAD is active and 18 % otherwise, memory 42 % plus a quarter
of a percent for each pass, an old sensor from `sensor_timeout_loop` on. Against the application's thresholds they raise
exactly this (`demo_faults`):
- WATCHDOG_DEADLINE_MISS when the clock moved by 500 ms or more since the pass before, never in the first pass;
- SENSOR_TIMEOUT from `sensor_timeout_loop` on;
- MEMORY_OVERLOAD from pass 212 on, where the memory reading reaches 95 %;
- CPU_OVERLOAD never.
-/
import AstraFsw.App.Cadence
import AstraFsw.Demo.FlightLoop

namespace AstraFsw.CommandTelemetryDemo

open FlightSoftwareApp

variable {options : DemoOptions} {demo : CommandTelemetryDemo} {pass : DemoPass} {passes : List DemoPass}

/-! ## Readings -/

theorem plain_memoryLoad (loop : UInt32) : (memoryLoad loop).Plain := Binary32.plain_rounded _ _

/-- later passes read no less memory -/
theorem memoryLoad_mono {a b : UInt32} (h : a ≤ b) : (memoryLoad a).bits.toNat ≤ (memoryLoad b).bits.toNat := by
  have hloop := Binary32.ofNat_mono (UInt32.le_iff_toNat_le.1 h)
  have hquarter := Binary32.mul_mono_left ⟨0x3E800000⟩ hloop (Binary32.plain_rounded _ _)
  exact Binary32.add_mono_right ⟨0x42280000⟩ hquarter (Binary32.plain_rounded _ _)

theorem memoryLoad_211 : memoryLoad 211 = ⟨0x42BD8000⟩ := by decide +kernel

theorem memoryLoad_212 : memoryLoad 212 = ⟨0x42BE0000⟩ := by decide +kernel

/-- the reading reaches 95 % in pass 212 -/
theorem memoryLoad_ge_iff (loop : UInt32) : (memoryLoad loop).ge ⟨0x42BE0000⟩ = true ↔ 212 ≤ loop := by
  have hplain : Binary32.Plain ⟨0x42BE0000⟩ := by unfold Binary32.Plain; decide
  constructor
  · intro hge
    by_contra hlt
    have hle : loop ≤ 211 := by
      rw [UInt32.not_le, UInt32.lt_iff_toNat_lt] at hlt
      exact UInt32.le_iff_toNat_le.2 (Nat.le_of_lt_succ hlt)
    -- pass 211 reads 94.75 %
    have hbelow : (memoryLoad loop).magnitude < Binary32.magnitude ⟨0x42BE0000⟩ :=
      calc (memoryLoad loop).magnitude
          ≤ (memoryLoad 211).magnitude := Binary32.magnitude_mono (memoryLoad_mono hle) (plain_memoryLoad 211)
        _ = Binary32.magnitude ⟨0x42BD8000⟩ := by rw [memoryLoad_211]
        _ < Binary32.magnitude ⟨0x42BE0000⟩ := by decide +kernel
    rw [Binary32.not_ge_of_magnitude_lt (plain_memoryLoad loop) hplain hbelow] at hge
    exact absurd hge (by simp)
  · intro hle
    refine Binary32.ge_of_bits_le (plain_memoryLoad loop) hplain ?_
    have hmono := memoryLoad_mono hle
    rwa [memoryLoad_212] at hmono

/-! ## The watchdog -/

/-- the clock reading of the last pass -/
def lastPassMs (passes : List DemoPass) : Option UInt64 := passes.getLast?.map (·.nowMs)

theorem run_watched (h : (run options passes).running options = true) :
    Watched {} (run options passes).app (lastPassMs passes) := by
  induction passes using List.reverseRecOn with
  | nil => exact watched_ofConfig {}
  | append_singleton passes pass ih =>
    rw [run_snoc] at h ⊢
    obtain ⟨hr, -, -⟩ := running_step h
    have hlast : lastPassMs (passes ++ [pass]) = some pass.nowMs := by simp [lastPassMs]
    rw [step_app hr, hlast]
    exact (ih hr).step (show (0 : UInt32) < 250 by decide)

/-! ## Every pass -/

/-- the internal fault that a pass raises -/
def demoFault (options : DemoOptions) (earlier : List DemoPass) (pass : DemoPass) : FaultCode :=
  let number := (earlier.length + 1) % 2 ^ 32
  if Stalled (lastPassMs earlier) pass.nowMs then .watchdogDeadlineMiss
  else if options.sensorTimeoutLoop ≠ 0 ∧ options.sensorTimeoutLoop.toNat ≤ number then .sensorTimeout
  else if 212 ≤ number then .memoryOverload
  else .none

/-- the CPU reading stays below 95 % -/
theorem not_cpuLoadForState_ge (fault : FaultCode) : ¬ (cpuLoadForState fault).ge ⟨0x42BE0000⟩ = true := by
  unfold cpuLoadForState
  split_ifs <;> decide

/-- the sensor is 1500 ms or 0 ms old -/
theorem sensorAgeMs_stepInput_ge_iff (options : DemoOptions) (demo : CommandTelemetryDemo) (pass : DemoPass) :
    (demo.stepInput options pass).sensorAgeMs ≥ 1000 ↔
      options.sensorTimeoutLoop ≠ 0 ∧ options.sensorTimeoutLoop.toNat ≤ demo.loop.toNat := by
  rw [← UInt32.le_iff_toNat_le]
  by_cases hold : options.sensorTimeoutLoop ≠ 0 ∧ demo.loop ≥ options.sensorTimeoutLoop
  · have hage : (demo.stepInput options pass).sensorAgeMs = 1500 := if_pos hold
    rw [hage]
    exact iff_of_true (by decide) hold
  · have hage : (demo.stepInput options pass).sensorAgeMs = 0 := if_neg hold
    rw [hage]
    exact iff_of_false (by decide) hold

theorem primaryFault_stepInput (hr : (run options passes).running options = true) (pass : DemoPass) :
    (run options passes).app.primaryFault ((run options passes).stepInput options pass) =
      demoFault options passes pass := by
  have hnumber : (run options passes).loop.toNat = (passes.length + 1) % 2 ^ 32 := by
    rw [loop_of_running hr, UInt32.toNat_ofNat']
  have h212 : (212 : UInt32) ≤ (run options passes).loop ↔ 212 ≤ (passes.length + 1) % 2 ^ 32 := by
    rw [UInt32.le_iff_toNat_le, hnumber]
    rfl
  have hmemory : ((run options passes).stepInput options pass).memoryLoadPercent.ge ⟨0x42BE0000⟩ = true ↔
      212 ≤ (passes.length + 1) % 2 ^ 32 := (memoryLoad_ge_iff _).trans h212
  have hcpu : ¬ ((run options passes).stepInput options pass).cpuLoadPercent.ge ⟨0x42BE0000⟩ = true :=
    not_cpuLoadForState_ge _
  have hshort : ((run options passes).stepInput options pass).loopDurationMs < 250 := show (0 : UInt32) < 250 by decide
  rw [(run_watched hr).primaryFault hshort, demoFault]
  simp only [sensorAgeMs_stepInput_ge_iff, hmemory, hcpu, if_false, Bool.false_eq_true, hnumber]
  rfl

/-- every fault of the demo is answered by SAFE -/
theorem faultMode_demoFault {options : DemoOptions} {earlier : List DemoPass} {pass : DemoPass}
    (h : demoFault options earlier pass ≠ .none) (m : Mode) :
    FdirManager.faultMode (FdirManager.dispositionFor (demoFault options earlier pass)).response m = .safe := by
  unfold demoFault at h ⊢
  simp only at h ⊢
  split_ifs at h ⊢ with hstalled hsensor hmemory
  · exact FdirManager.faultMode_enterSafe m
  · exact FdirManager.faultMode_enterSafe m
  · exact FdirManager.faultMode_enterSafe m
  · exact absurd rfl h

/-- **The faults of the demo.** In every pass that is made, after any earlier passes and whatever arrives at the command
socket, the application selects exactly the fault `demoFault` of the clock, the options and the pass number. If there is
one, the pass ends in SAFE with that fault active; so every pass from the 212th on ends in SAFE, whatever is
commanded, and so does the delayed pass, unless it is the first: its clock reads at least the 650 ms of the delay more
than that of the pass before. -/
theorem demo_faults (options : DemoOptions) (earlier : List DemoPass) (pass : DemoPass) :
    ∀ report, ((run options earlier).step options pass).1 = some report →
      report.output.primaryInternalFault = demoFault options earlier pass ∧
      (demoFault options earlier pass ≠ .none →
        (run options (earlier ++ [pass])).app.currentMode = .safe ∧
          (run options (earlier ++ [pass])).app.lastFault = demoFault options earlier pass) ∧
      (212 ≤ (earlier.length + 1) % 2 ^ 32 → (run options (earlier ++ [pass])).app.currentMode = .safe) ∧
      (∀ previousMs ∈ lastPassMs earlier, delayMs options (run options earlier).loop ≠ 0 →
        previousMs.toNat + delayMs options (run options earlier).loop ≤ pass.nowMs.toNat →
          (run options (earlier ++ [pass])).app.currentMode = .safe ∧
            (run options (earlier ++ [pass])).app.lastFault = .watchdogDeadlineMiss) := by
  intro report hreport
  cases hr : (run options earlier).running options with
  | false => simp [step_of_not_running hr] at hreport
  | true =>
    have hprimary := primaryFault_stepInput hr pass
    have hsafe : demoFault options earlier pass ≠ .none → (run options (earlier ++ [pass])).app.currentMode = .safe := by
      intro hne
      rw [run_snoc, step_app hr, step_currentMode, hprimary]
      exact faultMode_demoFault hne _
    have hactive : demoFault options earlier pass ≠ .none →
        (run options (earlier ++ [pass])).app.lastFault = demoFault options earlier pass := by
      intro hne
      rw [run_snoc, step_app hr, step_lastFault, hprimary, if_neg hne]
    refine ⟨?_, ?_, ?_, ?_⟩
    · rw [step_report hr] at hreport
      obtain rfl := Option.some.inj hreport
      rw [← hprimary]
      exact step_primaryInternalFault _ _
    · intro hne
      exact ⟨hsafe hne, hactive hne⟩
    · intro hlate
      refine hsafe ?_
      unfold demoFault
      simp only [hlate, if_true]
      split_ifs <;> simp
    · intro previousMs hprevious hdelayed hclock
      have hstalled : Stalled (lastPassMs earlier) pass.nowMs := by
        refine ⟨previousMs, hprevious, ?_⟩
        unfold delayMs at hdelayed hclock
        split_ifs at hdelayed hclock with hdelay
        · omega
        · exact absurd rfl hdelayed
      have hfault : demoFault options earlier pass = .watchdogDeadlineMiss := if_pos hstalled
      have hne : demoFault options earlier pass ≠ .none := by rw [hfault]; decide
      exact ⟨hsafe hne, (hactive hne).trans hfault⟩

/-- the delay of pass 2, against a clock that moves by nothing else -/
theorem demo_faults_delayed :
    (run { watchdogTimeoutLoop := 2 } [{ nowMs := 1000 }, { nowMs := 1650 }]).app.currentMode = .safe ∧
      (run { watchdogTimeoutLoop := 2 } [{ nowMs := 1000 }, { nowMs := 1650 }]).app.lastFault = .watchdogDeadlineMiss := by
  have hr : (run { watchdogTimeoutLoop := 2 } [{ nowMs := 1000 }]).running { watchdogTimeoutLoop := 2 } = true :=
    (running_iff _ _).2 ⟨by simp, Or.inl (by decide)⟩
  have hstalled : Stalled (lastPassMs [{ nowMs := 1000 }]) 1650 := ⟨1000, rfl, by simp⟩
  have hfault : demoFault { watchdogTimeoutLoop := 2 } [{ nowMs := 1000 }] { nowMs := 1650 } = .watchdogDeadlineMiss := by
    rw [demoFault, if_pos hstalled]
  have hall := demo_faults { watchdogTimeoutLoop := 2 } [{ nowMs := 1000 }] { nowMs := 1650 } _ (step_report hr)
  rw [hfault] at hall
  exact hall.2.1 (by decide)

end AstraFsw.CommandTelemetryDemo
