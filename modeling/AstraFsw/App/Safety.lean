/-
What one step does to the mode, whatever the ground commands.

- `internal_response`: if a critical condition holds in a step, the mode after it and the active fault are the response
  to the highest-priority condition, whatever command the step carries;
- `afterGround_edge`: the ground command moves the mode along an edge of the transition table, or keeps it;
- `autonomy_toward_safety`: without an accepted command the mode is kept, or becomes SAFE, or becomes DEGRADED_PAYLOAD
  from NOMINAL or DEGRADED_PAYLOAD; SAFE is left for RECOVERY only, by a ground command; BOOT is never re-entered.
-/
import AstraFsw.App.Step

namespace AstraFsw.FlightSoftwareApp

open FdirManager (dispositionFor faultMode)

/-! ## Critical conditions as exact comparisons -/

/-- the fault of each condition that holds in a step, loads as exact reals -/
def ActiveFault (thresholds : HealthThresholds) (report : WatchdogReport) (input : FlightSoftwareStepInput) :
    FaultCode → Prop
  | .watchdogDeadlineMiss =>
    report.status = .expired ∨ thresholds.loopDeadlineMs.toNat ≤ input.loopDurationMs.toNat
  | .sensorTimeout => thresholds.sensorTimeoutMs.toNat ≤ input.sensorAgeMs.toNat
  | .memoryOverload => thresholds.memoryCriticalPercent.toReal ≤ input.memoryLoadPercent.toReal
  | .cpuOverload => thresholds.cpuCriticalPercent.toReal ≤ input.cpuLoadPercent.toReal
  | _ => False

/-- away from NaN, the code's comparisons are the exact ones -/
theorem raised_iff_activeFault {app : FlightSoftwareApp} {input : FlightSoftwareStepInput}
    (hcpu : input.cpuLoadPercent.isNaN = false) (hmem : input.memoryLoadPercent.isNaN = false)
    (hcpuT : app.healthMonitor.thresholds.cpuCriticalPercent.isNaN = false)
    (hmemT : app.healthMonitor.thresholds.memoryCriticalPercent.isNaN = false) (fault : FaultCode) :
    app.Raised input fault ↔
      ActiveFault app.healthMonitor.thresholds (app.step input).1.watchdogReport input fault := by
  cases fault with
  | watchdogDeadlineMiss =>
    exact or_congr (app.watchdogReport_expired_iff input).symm UInt32.le_iff_toNat_le
  | sensorTimeout => exact UInt32.le_iff_toNat_le
  | memoryOverload => exact Binary32.ge_iff hmem hmemT
  | cpuOverload => exact Binary32.ge_iff hcpu hcpuT
  | _ => exact Iff.rfl

/-- of the detectors' faults only CPU_OVERLOAD has a response other than SAFE -/
theorem faultMode_detectable {fault : FaultCode} (h : FdirManager.Detectable fault) (m : Mode) :
    faultMode (dispositionFor fault).response m =
      if fault = .cpuOverload ∧ (m = .nominal ∨ m = .degradedPayload) then .degradedPayload else .safe := by
  rcases h with rfl | rfl | rfl | rfl
  · simp only [true_and]
    exact FdirManager.faultMode_enterDegradedPayload m
  all_goals simp [dispositionFor]

/-- the response to a selected fault, from the mode the ground command left -/
theorem step_currentMode_of_primaryFault {app : FlightSoftwareApp} {input : FlightSoftwareStepInput}
    (h : app.primaryFault input ≠ .none) :
    (app.step input).2.currentMode =
      if app.primaryFault input = .cpuOverload ∧ ((app.afterGround input).modeManager.mode = .nominal ∨
        (app.afterGround input).modeManager.mode = .degradedPayload) then .degradedPayload else .safe := by
  rw [step_currentMode]
  exact faultMode_detectable ((app.primaryFault_cases input).resolve_left h) _

/-- CPU_OVERLOAD has the lowest priority of the four, so it is selected only if it is alone -/
theorem primaryFault_ne_cpuOverload {app : FlightSoftwareApp} {input : FlightSoftwareStepInput} {fault : FaultCode}
    (h : app.Raised input fault) (hne : fault ≠ .cpuOverload) : app.primaryFault input ≠ .cpuOverload := by
  intro heq
  have hselected : app.primaryFault input ≠ .none := by rw [heq]; simp
  obtain ⟨-, hmax⟩ := app.primaryFault_greatest input hselected
  have hlt := hmax fault h (by rw [heq]; exact hne)
  rw [heq] at hlt
  cases fault <;> first | exact h | exact hne rfl | exact absurd hlt (by decide)

/-- **The internal response wins the step.** In every step of every run: a condition other than CPU load ends the step
in SAFE; CPU load alone ends it in DEGRADED_PAYLOAD if the ground command left NOMINAL or DEGRADED_PAYLOAD and in SAFE
if not; in both cases the active fault is the one of highest priority among those that hold. -/
theorem internal_response (cfg : FlightSoftwareAppConfig) (inputs : List FlightSoftwareStepInput)
    (input : FlightSoftwareStepInput) (hcpu : input.cpuLoadPercent.isNaN = false)
    (hmem : input.memoryLoadPercent.isNaN = false) :
    let app := run cfg inputs
    let out := (app.step input).1
    let after := (app.step input).2
    let active := ActiveFault app.healthMonitor.thresholds out.watchdogReport input
    let left := (app.afterGround input).modeManager.mode
    ((∃ fault, active fault ∧ fault ≠ .cpuOverload) → after.currentMode = .safe ∧ out.telemetry.mode = .safe) ∧
    ((active .cpuOverload ∧ ∀ fault, active fault → fault = .cpuOverload) →
      after.currentMode = (if left = .nominal ∨ left = .degradedPayload then .degradedPayload else .safe) ∧
      out.telemetry.mode = after.currentMode) ∧
    ((∃ fault, active fault) → active after.lastFault ∧ out.telemetry.lastFault = after.lastFault ∧
      ∀ fault, active fault → fault ≠ after.lastFault →
        (dispositionFor fault).priority < (dispositionFor after.lastFault).priority) := by
  intro app out after active left
  have hcfg := (run_configuredBy cfg inputs).thresholds
  have hraised : ∀ fault, app.Raised input fault ↔ active fault :=
    raised_iff_activeFault hcpu hmem (by rw [hcfg]; decide) (by rw [hcfg]; decide)
  have hselected : ∀ fault, active fault → app.primaryFault input ≠ .none := by
    intro fault h hnone
    exact (app.primaryFault_eq_none input).1 hnone fault ((hraised fault).2 h)
  have hgreatest : ∀ fault, active fault → active (app.primaryFault input) ∧ ∀ g, active g →
      g ≠ app.primaryFault input →
        (dispositionFor g).priority < (dispositionFor (app.primaryFault input)).priority := by
    intro fault h
    obtain ⟨hr, hmax⟩ := app.primaryFault_greatest input (hselected fault h)
    exact ⟨(hraised _).1 hr, fun g hg => hmax g ((hraised g).2 hg)⟩
  refine ⟨?_, ?_, ?_⟩
  · rintro ⟨fault, h, hne⟩
    have hcpuNot : app.primaryFault input ≠ .cpuOverload := primaryFault_ne_cpuOverload ((hraised fault).2 h) hne
    have hmode : after.currentMode = .safe := by
      rw [step_currentMode_of_primaryFault (hselected fault h), if_neg (fun hc => hcpuNot hc.1)]
    exact ⟨hmode, hmode⟩
  · rintro ⟨h, honly⟩
    have heq : app.primaryFault input = .cpuOverload := honly _ (hgreatest _ h).1
    refine ⟨?_, rfl⟩
    rw [step_currentMode_of_primaryFault (hselected _ h)]
    simp only [heq, true_and]
    rfl
  · rintro ⟨fault, h⟩
    have hlast : after.lastFault = app.primaryFault input := by
      rw [step_lastFault, if_neg (hselected fault h)]
    rw [hlast]
    exact ⟨(hgreatest fault h).1, hlast, (hgreatest fault h).2⟩

/-- a sensor timeout in the same step as an accepted CLEAR_FAULT -/
theorem internal_response_clearFault :
    ((run {} []).step { command := some ⟨1, 0, .clearFault, 0⟩, sensorAgeMs := 1000 }).2.currentMode = .safe :=
  ((internal_response {} [] { command := some ⟨1, 0, .clearFault, 0⟩, sensorAgeMs := 1000 } (by decide)
    (by decide)).1 ⟨.sensorTimeout, by change (1000 : ℕ) ≤ 1000; exact le_rfl, by decide⟩).1

/-! ## The mode moves along edges -/

/-- every answer to a ground command keeps the mode or moves it along an edge -/
theorem GroundStep.edge {app : FlightSoftwareApp} {packet : CommandPacket} {nowMs : UInt64} {status : CommandStatus}
    {guard : GroundCommandGuard} {processor : CommandProcessor}
    (h : app.GroundStep packet nowMs status guard processor) :
    ModeManager.isValidTransition app.currentMode processor.modeManager.mode = true := by
  cases h with
  | processed _ _ _ _ hstep =>
    cases hstep with
    | move m _ _ hv => exact hv
    | inject f _ _ => exact FdirManager.isValidTransition_faultMode _ _
    | recoveryLimit => exact ModeManager.isValidTransition_safe _
    | _ => exact ModeManager.isValidTransition_self _
  | _ => exact ModeManager.isValidTransition_self _

/-- a command that is not accepted keeps the mode, unless it is the failed exit that forces SAFE -/
theorem GroundStep.mode_of_rejected {app : FlightSoftwareApp} {packet : CommandPacket} {nowMs : UInt64}
    {status : CommandStatus} {guard : GroundCommandGuard} {processor : CommandProcessor}
    (h : app.GroundStep packet nowMs status guard processor) (hs : status ≠ .accepted) :
    processor.modeManager.mode = app.currentMode ∨ processor.modeManager.mode = .safe := by
  cases h with
  | processed _ _ _ _ hstep =>
    cases hstep with
    | recoveryLimit => exact Or.inr rfl
    | move | inject | idle | clear => exact absurd rfl hs
    | _ => exact Or.inl rfl
  | _ => exact Or.inl rfl

/-- only an accepted SET_MODE to RECOVERY takes SAFE to RECOVERY -/
theorem GroundStep.recovery_of_safe {app : FlightSoftwareApp} {packet : CommandPacket} {nowMs : UInt64}
    {status : CommandStatus} {guard : GroundCommandGuard} {processor : CommandProcessor}
    (h : app.GroundStep packet nowMs status guard processor) (hsafe : app.currentMode = .safe)
    (hrec : processor.modeManager.mode = .recovery) :
    status = .accepted ∧ packet.commandId = .setMode ∧ commandArgumentToMode packet.argument = some .recovery := by
  have hne : app.commandProcessor.modeManager.mode ≠ .recovery := by
    rw [show app.commandProcessor.modeManager.mode = .safe from hsafe]; simp
  cases h with
  | processed _ _ _ _ hstep =>
    cases hstep with
    | move m hid hm _ => exact ⟨rfl, hid, hrec ▸ hm⟩
    | inject f _ _ =>
      rcases FdirManager.faultMode_cases (dispositionFor f).response app.commandProcessor.modeManager.mode with
        h | h | ⟨_, h⟩ | ⟨_, h⟩ <;> rw [h] at hrec <;> first | exact absurd hrec hne | cases hrec
    | recoveryLimit => cases hrec
    | _ => exact absurd hrec hne
  | _ => exact absurd hrec hne

variable (app : FlightSoftwareApp) (input : FlightSoftwareStepInput)

theorem afterGround_edge :
    ModeManager.isValidTransition app.currentMode (app.afterGround input).modeManager.mode = true := by
  cases hc : input.command with
  | none =>
    rw [afterGround_of_none app input hc]
    exact ModeManager.isValidTransition_self _
  | some packet => exact (step_ground app input hc).edge

theorem step_edge :
    ModeManager.isValidTransition (app.afterGround input).modeManager.mode (app.step input).2.currentMode = true := by
  rw [step_currentMode]
  exact FdirManager.isValidTransition_faultMode _ _

theorem afterGround_mode_of_not_accepted
    (h : input.command = none ∨ (app.step input).1.commandResult.status ≠ .accepted) :
    (app.afterGround input).modeManager.mode = app.currentMode ∨ (app.afterGround input).modeManager.mode = .safe := by
  cases hc : input.command with
  | none => exact Or.inl (by rw [afterGround_of_none app input hc]; rfl)
  | some packet => exact (step_ground app input hc).mode_of_rejected (h.resolve_left (by simp [hc]))

/-- the internal part keeps the mode, enters SAFE, or degrades the payload -/
theorem step_currentMode_cases :
    ((app.step input).2.currentMode = (app.afterGround input).modeManager.mode ∧ app.primaryFault input = .none) ∨
      (app.step input).2.currentMode = .safe ∨
      ((app.step input).2.currentMode = .degradedPayload ∧ ((app.afterGround input).modeManager.mode = .nominal ∨
        (app.afterGround input).modeManager.mode = .degradedPayload)) := by
  by_cases h : app.primaryFault input = .none
  · refine Or.inl ⟨?_, h⟩
    rw [step_currentMode, h]
    exact FdirManager.faultMode_none _
  · rw [step_currentMode_of_primaryFault h]
    split_ifs with hc
    · exact Or.inr (Or.inr ⟨rfl, hc.2⟩)
    · exact Or.inr (Or.inl rfl)

/-- a step that starts in SAFE ends in SAFE, or in RECOVERY with no internal fault selected -/
theorem step_currentMode_of_safe (h : app.currentMode = .safe) :
    (app.step input).2.currentMode = .safe ∨ ((app.step input).2.currentMode = .recovery ∧
      (app.afterGround input).modeManager.mode = .recovery ∧ app.primaryFault input = .none) := by
  have hedge := app.afterGround_edge input
  rw [h, ModeManager.isValidTransition_from_safe] at hedge
  rcases app.step_currentMode_cases input with ⟨hmode, hnone⟩ | hsafe | ⟨-, hleft⟩
  · rcases hedge with hs | hr
    · exact Or.inl (hmode.trans hs)
    · exact Or.inr ⟨hmode.trans hr, hr, hnone⟩
  · exact Or.inl hsafe
  · rcases hedge with hs | hr <;> simp_all

theorem step_not_boot (h : app.currentMode ≠ .boot) : (app.step input).2.currentMode ≠ .boot := by
  intro hboot
  have hout := app.step_edge input
  rw [hboot] at hout
  have hin := app.afterGround_edge input
  rw [ModeManager.isValidTransition_to_boot hout] at hin
  exact h (ModeManager.isValidTransition_to_boot hin)

/-- without an accepted command the mode is kept, becomes SAFE, or the payload is degraded -/
theorem step_currentMode_of_not_accepted
    (h : input.command = none ∨ (app.step input).1.commandResult.status ≠ .accepted) :
    (app.step input).2.currentMode = app.currentMode ∨ (app.step input).2.currentMode = .safe ∨
      ((app.step input).2.currentMode = .degradedPayload ∧
        (app.currentMode = .nominal ∨ app.currentMode = .degradedPayload)) := by
  rcases app.afterGround_mode_of_not_accepted input h with hkept | hsafe
  · rcases app.step_currentMode_cases input with ⟨hmode, -⟩ | hmode | ⟨hmode, hfrom⟩
    · exact Or.inl (hmode.trans hkept)
    · exact Or.inr (Or.inl hmode)
    · rw [hkept] at hfrom
      exact Or.inr (Or.inr ⟨hmode, hfrom⟩)
  · rcases app.step_currentMode_cases input with ⟨hmode, -⟩ | hmode | ⟨-, hfrom⟩
    · exact Or.inr (Or.inl (hmode.trans hsafe))
    · exact Or.inr (Or.inl hmode)
    · rw [hsafe] at hfrom
      simp at hfrom

/-- SAFE is left by an accepted SET_MODE to RECOVERY, in a step that processes no internal fault -/
theorem step_leaves_safe (h : app.currentMode = .safe) (hleft : (app.step input).2.currentMode ≠ .safe) :
    (app.step input).1.internalFaultProcessed = false ∧
      ∃ packet, input.command = some packet ∧ packet.commandId = .setMode ∧
        commandArgumentToMode packet.argument = some .recovery ∧
          (app.step input).1.commandResult.status = .accepted := by
  obtain ⟨-, hground, hnone⟩ := (app.step_currentMode_of_safe input h).resolve_left hleft
  refine ⟨Bool.eq_false_iff.2 fun hp => (app.step_internalFaultProcessed input).1 hp hnone, ?_⟩
  cases hc : input.command with
  | none =>
    rw [afterGround_of_none app input hc] at hground
    exact absurd (hground.symm.trans h) (by simp)
  | some packet =>
    obtain ⟨hstatus, hid, harg⟩ := (step_ground app input hc).recovery_of_safe h hground
    exact ⟨packet, rfl, hid, harg, hstatus⟩

/-- **Autonomy moves toward safety only.** In every step of every run: without an accepted command the mode is kept,
or becomes SAFE, or becomes DEGRADED_PAYLOAD from NOMINAL or DEGRADED_PAYLOAD. From SAFE one step reaches SAFE or
RECOVERY only, and RECOVERY only by an accepted SET_MODE to RECOVERY in a step that processes no internal fault. BOOT,
once left, is never the mode again. -/
theorem autonomy_toward_safety (cfg : FlightSoftwareAppConfig) (inputs : List FlightSoftwareStepInput)
    (input : FlightSoftwareStepInput) :
    let app := run cfg inputs
    let out := (app.step input).1
    let before := app.currentMode
    let after := (app.step input).2.currentMode
    ((input.command = none ∨ out.commandResult.status ≠ .accepted) →
      after = before ∨ after = .safe ∨ (after = .degradedPayload ∧ (before = .nominal ∨ before = .degradedPayload))) ∧
    (before = .safe → after = .safe ∨ after = .recovery) ∧
    (before = .safe → after ≠ .safe → out.internalFaultProcessed = false ∧
      ∃ packet, input.command = some packet ∧ packet.commandId = .setMode ∧
        commandArgumentToMode packet.argument = some .recovery ∧ out.commandResult.status = .accepted) ∧
    (before ≠ .boot → ∀ more, (run cfg (inputs ++ more)).currentMode ≠ .boot) := by
  intro app out before after
  refine ⟨app.step_currentMode_of_not_accepted input, fun h => ?_, app.step_leaves_safe input, fun h more => ?_⟩
  · exact (app.step_currentMode_of_safe input h).imp_right And.left
  · rw [run_append]
    exact Machine.final_inv step (fun app input => app.step_not_boot input) h more

end AstraFsw.FlightSoftwareApp
