/-
The operator's way out of SAFE: CLEAR_FAULT, SET_MODE RECOVERY, SET_MODE NOMINAL in three nominal steps.

The watchdog's missed-deadline count is cleared by `reset` only, and the application calls `reset` in its first step
only. Once the count is at its limit every later step selects WATCHDOG_DEADLINE_MISS and ends in SAFE, whatever the
inputs. The count is the number of late loops so far (`run_missedDeadlineCount`), so the procedure works from a
reachable SAFE state exactly when that is below the limit (`operator_recovery_iff`); `safe_trap` is a run of three late
loops after which it does not.
-/
import AstraFsw.App.Step

namespace AstraFsw.FlightSoftwareApp

/-! ## The procedure -/

/-- one step of the procedure: nominal readings, a clock that moves by less than the watchdog timeout, and a command
stamped with the step's own time and numbered above the guard's highest -/
structure OperatorStep (app : FlightSoftwareApp) (previousMs : UInt64) (input : FlightSoftwareStepInput)
    (packet : CommandPacket) : Prop where
  cpu : ¬ app.cpuCritical input
  memory : ¬ app.memoryCritical input
  sensor : ¬ app.sensorTimedOut input
  loop : ¬ app.loopMissed input
  notBefore : previousMs ≤ input.timestampMs
  gap : input.timestampMs.toNat < previousMs.toNat + app.watchdog.config.timeoutMs.toNat
  command : input.command = some packet
  stamped : packet.timestampMs = input.timestampMs
  newer : app.groundCommandGuard.sequenceOk packet.sequenceNumber = true

/-- the three steps, from a state whose last step was at `previousMs` -/
def OperatorProcedure (app : FlightSoftwareApp) (previousMs : UInt64) (i₁ i₂ i₃ : FlightSoftwareStepInput) : Prop :=
  ∃ p₁ p₂ p₃,
    (app.OperatorStep previousMs i₁ p₁ ∧ p₁.commandId = .clearFault) ∧
    ((app.step i₁).2.OperatorStep i₁.timestampMs i₂ p₂ ∧ p₂.commandId = .setMode ∧
      commandArgumentToMode p₂.argument = some .recovery) ∧
    (((app.step i₁).2.step i₂).2.OperatorStep i₂.timestampMs i₃ p₃ ∧ p₃.commandId = .setMode ∧
      commandArgumentToMode p₃.argument = some .nominal)

/-- what every nonempty run of the default configuration ends in: the watchdog was kicked by the last step -/
structure Kicked (app : FlightSoftwareApp) (previousMs : UInt64) : Prop where
  config : ConfiguredBy {} app
  initialized : app.watchdogInitialized = true
  kicked : app.watchdog.lastKickMs = previousMs

variable {app : FlightSoftwareApp} {previousMs : UInt64} {input : FlightSoftwareStepInput} {packet : CommandPacket}

theorem kicked_step (h : ConfiguredBy {} app) (input : FlightSoftwareStepInput) :
    Kicked (app.step input).2 input.timestampMs :=
  ⟨h.step, rfl, by rw [step_watchdog]⟩

theorem Kicked.armedWatchdog (h : Kicked app previousMs) (input : FlightSoftwareStepInput) :
    app.armedWatchdog input = app.watchdog := if_pos h.initialized

/-! ## The missed-deadline count -/

/-- **The count is the run's late loops.** In every run of the application, whatever its commands, the watchdog counts
the steps with a loop at or over the deadline, modulo 2^32. -/
theorem run_missedDeadlineCount (cfg : FlightSoftwareAppConfig) (inputs : List FlightSoftwareStepInput) :
    (run cfg inputs).watchdog.missedDeadlineCount.toNat =
      inputs.countP (fun input => decide (250 ≤ input.loopDurationMs.toNat)) % 2 ^ 32 := by
  induction inputs using List.reverseRecOn with
  | nil => rfl
  | append_singleton inputs input ih =>
    have harmed : ((run cfg inputs).armedWatchdog input).missedDeadlineCount =
        (run cfg inputs).watchdog.missedDeadlineCount := by
      -- only the first step resets, and the count is 0 then
      rcases List.eq_nil_or_concat inputs with rfl | ⟨before, last, rfl⟩
      · rfl
      · have hinit : (run cfg (before.concat last)).watchdogInitialized = true := by
          rw [List.concat_eq_append, run_snoc]
          rfl
        rw [FlightSoftwareApp.armedWatchdog, if_pos hinit]
    have hdeadline : ((run cfg inputs).armedWatchdog input).config.loopDeadlineMs = 250 := by
      rw [armedWatchdog_config, (run_configuredBy cfg inputs).watchdog]
    have hlate : input.loopDurationMs ≥ 250 ↔ 250 ≤ input.loopDurationMs.toNat := UInt32.le_iff_toNat_le
    rw [run_snoc, step_watchdog, List.countP_append, List.countP_singleton]
    simp only [Watchdog.countAfter, hdeadline, hlate, harmed, decide_eq_true_eq]
    split_ifs
    · rw [UInt32.toNat_add, ih, UInt32.toNat_one]
      exact Nat.mod_add_mod _ _ _
    · rw [ih, Nat.add_zero]

/-! ## One step of the procedure -/

namespace OperatorStep

theorem countAfter (h : OperatorStep app previousMs input packet) (hk : Kicked app previousMs) :
    (app.armedWatchdog input).countAfter input.loopDurationMs = app.watchdog.missedDeadlineCount := by
  have hloop : ¬ input.loopDurationMs ≥ app.watchdog.config.loopDeadlineMs := by
    have hl := h.loop
    rw [loopMissed, hk.config.thresholds] at hl
    rw [hk.config.watchdog]
    exact hl
  rw [hk.armedWatchdog, Watchdog.countAfter, if_neg hloop]

/-- the step keeps the missed-deadline count -/
theorem missedDeadlineCount (h : OperatorStep app previousMs input packet) (hk : Kicked app previousMs) :
    (app.step input).2.watchdog.missedDeadlineCount = app.watchdog.missedDeadlineCount := by
  rw [step_watchdog]
  exact h.countAfter hk

theorem elapsed_lt (h : OperatorStep app previousMs input packet) (hk : Kicked app previousMs) :
    ¬ (app.armedWatchdog input).elapsed input.timestampMs ≥ app.watchdog.config.timeoutMs.toUInt64 := by
  have hle : app.watchdog.lastKickMs ≤ input.timestampMs := hk.kicked ▸ h.notBefore
  have hgap := h.gap
  have hbefore := UInt64.le_iff_toNat_le.1 h.notBefore
  rw [hk.armedWatchdog, Watchdog.elapsed, if_pos hle, ge_iff_le, UInt64.le_iff_toNat_le,
    UInt64.toNat_sub_of_le _ _ hle, UInt32.toNat_toUInt64, hk.kicked]
  omega

/-- **The only fault that can be selected is the stale count's.** -/
theorem primaryFault (h : OperatorStep app previousMs input packet) (hk : Kicked app previousMs) :
    app.primaryFault input =
      if app.watchdog.missedDeadlineCount < app.watchdog.config.maxMissedDeadlines then .none
      else .watchdogDeadlineMiss := by
  have hexpires : app.watchdogExpires input ↔
      ¬ app.watchdog.missedDeadlineCount < app.watchdog.config.maxMissedDeadlines := by
    rw [watchdogExpires, h.countAfter hk, UInt32.not_lt]
    exact or_iff_right (h.elapsed_lt hk)
  rw [primaryFault_eq]
  by_cases hcount : app.watchdog.missedDeadlineCount < app.watchdog.config.maxMissedDeadlines
  · simp [hexpires, hcount, h.loop, h.sensor, h.memory, h.cpu]
  · simp [hexpires, hcount]

/-- the default guard and policy admit the command -/
theorem admitted (h : OperatorStep app previousMs input packet) (hk : Kicked app previousMs)
    (hid : packet.commandId = .clearFault ∨ packet.commandId = .setMode) :
    app.Admitted packet input.timestampMs := by
  constructor
  · have hvalid : app.groundCommandGuard.valid = true := by
      rw [GroundCommandGuard.valid, hk.config.guard]
      decide
    refine (GroundCommandGuard.evaluate_accepted_iff hvalid _ _ _).2 ⟨?_, h.newer⟩
    rw [h.stamped]
    exact ⟨Nat.le_add_right _ _, Nat.le_add_right _ _⟩
  · rw [permits, hk.config.policy, CommandAuthorizer.permits]
    rcases hid with hid | hid <;> simp [hid]

theorem afterGround (h : OperatorStep app previousMs input packet) (hk : Kicked app previousMs)
    (hid : packet.commandId = .clearFault ∨ packet.commandId = .setMode) :
    ∃ status, CommandProcessor.Step app.commandProcessor packet status (app.afterGround input) :=
  ⟨_, ((step_ground app input h.command).of_admitted (h.admitted hk hid)).2⟩

/-- below the limit, the step does what its command does -/
theorem step_commandProcessor (h : OperatorStep app previousMs input packet) (hk : Kicked app previousMs)
    (hcount : app.watchdog.missedDeadlineCount < app.watchdog.config.maxMissedDeadlines) :
    (app.step input).2.commandProcessor = app.afterGround input := by
  rw [FlightSoftwareApp.step_commandProcessor, h.primaryFault hk, if_pos hcount, respond_none]

/-- at the limit, the step ends in SAFE -/
theorem step_currentMode (h : OperatorStep app previousMs input packet) (hk : Kicked app previousMs)
    (hcount : ¬ app.watchdog.missedDeadlineCount < app.watchdog.config.maxMissedDeadlines) :
    (app.step input).2.currentMode = .safe := by
  rw [FlightSoftwareApp.step_currentMode, h.primaryFault hk, if_neg hcount]
  exact FdirManager.faultMode_enterSafe _

end OperatorStep

/-! ## The whole procedure -/

/-- the procedure from a SAFE state reached by a step -/
theorem operatorProcedure_iff (hk : Kicked app previousMs) (hsafe : app.currentMode = .safe)
    {i₁ i₂ i₃ : FlightSoftwareStepInput} (h : app.OperatorProcedure previousMs i₁ i₂ i₃) :
    ((Machine.final step app [i₁, i₂, i₃]).currentMode = .nominal ∧
        (Machine.final step app [i₁, i₂, i₃]).lastFault = .none) ↔
      app.watchdog.missedDeadlineCount < app.watchdog.config.maxMissedDeadlines := by
  obtain ⟨p₁, p₂, p₃, ⟨h₁, hid₁⟩, ⟨h₂, hid₂, hm₂⟩, ⟨h₃, hid₃, hm₃⟩⟩ := h
  have hk₁ : Kicked (app.step i₁).2 i₁.timestampMs := kicked_step hk.config i₁
  have hk₂ : Kicked ((app.step i₁).2.step i₂).2 i₂.timestampMs := kicked_step hk₁.config i₂
  have hlimit₁ : (app.step i₁).2.watchdog.config = app.watchdog.config := by
    rw [hk₁.config.watchdog, hk.config.watchdog]
  have hlimit₂ : ((app.step i₁).2.step i₂).2.watchdog.config = app.watchdog.config := by
    rw [hk₂.config.watchdog, hk.config.watchdog]
  have hcount₁ := h₁.missedDeadlineCount hk
  have hcount₂ := (h₂.missedDeadlineCount hk₁).trans hcount₁
  by_cases hcount : app.watchdog.missedDeadlineCount < app.watchdog.config.maxMissedDeadlines
  · refine iff_of_true ?_ hcount
    have hbelow₁ : (app.step i₁).2.watchdog.missedDeadlineCount <
        (app.step i₁).2.watchdog.config.maxMissedDeadlines := by rwa [hcount₁, hlimit₁]
    have hbelow₂ : ((app.step i₁).2.step i₂).2.watchdog.missedDeadlineCount <
        ((app.step i₁).2.step i₂).2.watchdog.config.maxMissedDeadlines := by rwa [hcount₂, hlimit₂]
    -- CLEAR_FAULT: still SAFE, no fault
    obtain ⟨_, hstep₁⟩ := h₁.afterGround hk (Or.inl hid₁)
    have hc₁ := (h₁.step_commandProcessor hk hcount).trans (hstep₁.of_clearFault hid₁).2
    have hmode₁ : (app.step i₁).2.commandProcessor.modeManager.mode = .safe := by rw [hc₁]; exact hsafe
    have hfault₁ : (app.step i₁).2.commandProcessor.lastFault = .none := by rw [hc₁]
    -- SET_MODE RECOVERY
    obtain ⟨_, hstep₂⟩ := h₂.afterGround hk₁ (Or.inr hid₂)
    rw [← h₂.step_commandProcessor hk₁ hbelow₁] at hstep₂
    obtain ⟨-, hmode₂, hfault₂⟩ := hstep₂.of_setMode hid₂ hm₂ (by rw [hmode₁]; rfl)
    -- SET_MODE NOMINAL
    obtain ⟨_, hstep₃⟩ := h₃.afterGround hk₂ (Or.inr hid₃)
    rw [← h₃.step_commandProcessor hk₂ hbelow₂] at hstep₃
    obtain ⟨-, hmode₃, hfault₃⟩ := hstep₃.of_setMode hid₃ hm₃ (by rw [hmode₂]; rfl)
    rw [Machine.final_cons, Machine.final_cons, Machine.final_cons, Machine.final_nil]
    exact ⟨hmode₃, (hfault₃.trans hfault₂).trans hfault₁⟩
  · refine iff_of_false ?_ hcount
    rintro ⟨hnominal, -⟩
    have hat₂ : ¬ ((app.step i₁).2.step i₂).2.watchdog.missedDeadlineCount <
        ((app.step i₁).2.step i₂).2.watchdog.config.maxMissedDeadlines := by rwa [hcount₂, hlimit₂]
    exact absurd ((h₃.step_currentMode hk₂ hat₂).symm.trans hnominal) (by simp)

/-- **When SAFE can be left.** From a reachable SAFE state of the default configuration (the last step being `last`),
the operator procedure ends in NOMINAL with no active fault exactly when the watchdog's missed-deadline count is below
its limit. -/
theorem operator_recovery_iff (inputs : List FlightSoftwareStepInput) (last i₁ i₂ i₃ : FlightSoftwareStepInput)
    (hsafe : (run {} (inputs ++ [last])).currentMode = .safe)
    (hprocedure : (run {} (inputs ++ [last])).OperatorProcedure last.timestampMs i₁ i₂ i₃) :
    ((run {} (inputs ++ [last] ++ [i₁, i₂, i₃])).currentMode = .nominal ∧
        (run {} (inputs ++ [last] ++ [i₁, i₂, i₃])).lastFault = .none) ↔
      (run {} (inputs ++ [last])).watchdog.missedDeadlineCount <
        (run {} (inputs ++ [last])).watchdog.config.maxMissedDeadlines := by
  have hk : Kicked (run {} (inputs ++ [last])) last.timestampMs := by
    rw [run_snoc]
    exact kicked_step (run_configuredBy {} inputs) last
  rw [run_append {} (inputs ++ [last])]
  exact operatorProcedure_iff hk hsafe hprocedure

/-- three steps with a loop of 250 ms each: the app is in SAFE and the count is at its limit -/
def lateLoops : List FlightSoftwareStepInput :=
  [{ loopDurationMs := 250 }, { timestampMs := 100, loopDurationMs := 250 }]

def lateLoop : FlightSoftwareStepInput := { timestampMs := 200, loopDurationMs := 250 }

def clearStep : FlightSoftwareStepInput := { timestampMs := 300, command := some ⟨1, 300, .clearFault, 0⟩ }

def recoveryStep : FlightSoftwareStepInput := { timestampMs := 400, command := some ⟨2, 400, .setMode, 5⟩ }

def nominalStep : FlightSoftwareStepInput := { timestampMs := 500, command := some ⟨3, 500, .setMode, 1⟩ }

theorem operatorProcedure_lateLoop (inputs : List FlightSoftwareStepInput) (h : inputs = [] ∨ inputs = lateLoops) :
    (run {} (inputs ++ [lateLoop])).OperatorProcedure lateLoop.timestampMs clearStep recoveryStep nominalStep := by
  refine ⟨⟨1, 300, .clearFault, 0⟩, ⟨2, 400, .setMode, 5⟩, ⟨3, 500, .setMode, 1⟩, ⟨?_, rfl⟩, ⟨?_, rfl, rfl⟩,
    ⟨?_, rfl, rfl⟩⟩
  all_goals
    rcases h with rfl | rfl <;>
      exact ⟨by decide, by decide, by decide, by decide, by decide, by decide, rfl, rfl, by decide⟩

/-- one late loop: the count is 1 and the procedure works -/
theorem operator_recovery_one_late_loop :
    (run {} ([] ++ [lateLoop] ++ [clearStep, recoveryStep, nominalStep])).currentMode = .nominal :=
  ((operator_recovery_iff [] lateLoop clearStep recoveryStep nominalStep (by decide)
    (operatorProcedure_lateLoop [] (Or.inl rfl))).2 (by decide)).1

/-- three late loops: the procedure meets every condition and ends in SAFE with WATCHDOG_DEADLINE_MISS -/
theorem safe_trap :
    (run {} (lateLoops ++ [lateLoop])).currentMode = .safe ∧
    (run {} (lateLoops ++ [lateLoop])).OperatorProcedure lateLoop.timestampMs clearStep recoveryStep nominalStep ∧
    (run {} (lateLoops ++ [lateLoop] ++ [clearStep, recoveryStep, nominalStep])).currentMode = .safe ∧
    (run {} (lateLoops ++ [lateLoop] ++ [clearStep, recoveryStep, nominalStep])).lastFault = .watchdogDeadlineMiss :=
  ⟨by decide, operatorProcedure_lateLoop lateLoops (Or.inr rfl), by decide, by decide⟩

end AstraFsw.FlightSoftwareApp
