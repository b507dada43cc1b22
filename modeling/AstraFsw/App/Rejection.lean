/-
A rejected ground command against no command: one step from the same state, once with the command and once without.

- `GroundStep.processor_of_rejected`: a rejection other than REJECTED_RECOVERY_LIMIT leaves the processor as it was,
  but for one recorded failure when an exit from RECOVERY is refused;
- `GroundStep.guard_eq`: the guard moves exactly when its own check accepted the command;
- `SameResponse`: what the two steps have in common;
- `rejected_command_is_no_command`: the whole comparison, for every reachable state of a valid configuration.
-/
import AstraFsw.App.Recovery

namespace AstraFsw.FlightSoftwareApp

/-! ## What a rejection changes -/

/-- the statuses that stand for a refusal by the guard -/
def refusedByGuard : CommandStatus → Bool
  | .rejectedDuplicateSequence => true
  | .rejectedReplayedSequence => true
  | .rejectedStaleTimestamp => true
  | .rejectedFutureTimestamp => true
  | .rejectedGuardConfiguration => true
  | _ => false

variable {app : FlightSoftwareApp} {packet : CommandPacket} {nowMs : UInt64} {status : CommandStatus}
  {guard : GroundCommandGuard} {processor : CommandProcessor}

theorem GroundStep.guard_eq (h : app.GroundStep packet nowMs status guard processor) :
    guard = if refusedByGuard status then app.groundCommandGuard
      else app.groundCommandGuard.take packet.sequenceNumber := by
  cases h with
  | guardRefused hg =>
    revert hg
    cases app.guardStatus packet nowMs <;> simp [refusalStatus, refusedByGuard]
  | unauthorized => rfl
  | processed _ _ _ _ hstep => cases hstep <;> rfl

theorem GroundStep.processor_of_rejected (h : app.GroundStep packet nowMs status guard processor)
    (hs : status ≠ .accepted) (hlimit : status ≠ .rejectedRecoveryLimit) :
    processor = { app.commandProcessor with
      recoverySupervisor :=
        if status = .rejectedInvalidTransition ∧ app.currentMode = .recovery
        then app.commandProcessor.recoverySupervisor.afterFailure else app.commandProcessor.recoverySupervisor } := by
  cases h with
  | guardRefused hg =>
    have hne : refusalStatus (app.guardStatus packet nowMs) ≠ .rejectedInvalidTransition := by
      cases app.guardStatus packet nowMs <;> simp [refusalStatus]
    simp [hne]
  | unauthorized => rfl
  | processed _ _ _ _ hstep =>
    cases hstep with
    | idle | clear | move | inject => exact absurd rfl hs
    | recoveryLimit => exact absurd rfl hlimit
    | badMode | badFault => rfl
    | refuse _ _ _ _ hr =>
      have hr' : app.currentMode ≠ .recovery := hr
      simp [hr']
    | failedExit _ _ _ _ hr _ =>
      have hr' : app.currentMode = .recovery := hr
      simp [hr']

/-- the failure limit takes RECOVERY to SAFE and keeps the active fault -/
theorem GroundStep.of_recoveryLimit_state (h : app.GroundStep packet nowMs status guard processor)
    (hs : status = .rejectedRecoveryLimit) :
    processor.modeManager.mode = .safe ∧ processor.lastFault = app.lastFault := by
  cases h with
  | guardRefused hg => revert hs; cases app.guardStatus packet nowMs <;> simp [refusalStatus]
  | unauthorized => cases hs
  | processed _ _ _ _ hstep =>
    cases hstep with
    | recoveryLimit => exact ⟨rfl, rfl⟩
    | _ => cases hs

/-- a valid guard never answers with its configuration error -/
theorem GroundStep.status_ne_guardConfiguration (h : app.GroundStep packet nowMs status guard processor)
    (hv : app.groundCommandGuard.valid = true) : status ≠ .rejectedGuardConfiguration := by
  cases h with
  | guardRefused hg =>
    have hne : app.guardStatus packet nowMs ≠ .invalidConfiguration :=
      GroundCommandGuard.evaluate_ne_invalidConfiguration hv _ _ _
    revert hg hne
    cases app.guardStatus packet nowMs <;> simp [refusalStatus]
  | unauthorized => simp
  | processed _ _ _ _ hstep => cases hstep <;> simp

theorem step_status_ne_guardConfiguration {app : FlightSoftwareApp} (hv : app.groundCommandGuard.valid = true)
    (input : FlightSoftwareStepInput) : (app.step input).1.commandResult.status ≠ .rejectedGuardConfiguration := by
  cases hc : input.command with
  | none =>
    change ((app.groundPhase input).1.getD {}).commandResult.status ≠ _
    rw [groundPhase_of_none app input hc]
    simp
  | some packet => exact (step_ground app input hc).status_ne_guardConfiguration hv

/-! ## The rest of the step -/

/-- what a step with a rejected command and a step without a command have in common -/
structure SameResponse (a b : FlightSoftwareStepOutput × FlightSoftwareApp) : Prop where
  mode : a.2.currentMode = b.2.currentMode
  fault : a.2.lastFault = b.2.lastFault
  watchdog : a.2.watchdog = b.2.watchdog
  watchdogReport : a.1.watchdogReport = b.1.watchdogReport
  healthReport : a.1.healthReport = b.1.healthReport
  primaryInternalFault : a.1.primaryInternalFault = b.1.primaryInternalFault
  internalFaultProcessed : a.1.internalFaultProcessed = b.1.internalFaultProcessed
  internalFaultResult : a.1.internalFaultResult = b.1.internalFaultResult
  watchdogFaultProcessed : a.1.watchdogFaultProcessed = b.1.watchdogFaultProcessed
  watchdogFaultResult : a.1.watchdogFaultResult = b.1.watchdogFaultResult
  healthFaultProcessed : a.1.healthFaultProcessed = b.1.healthFaultProcessed
  healthFaultResult : a.1.healthFaultResult = b.1.healthFaultResult
  /-- every telemetry field but the three of the last command -/
  telemetry : { a.1.telemetry with
    lastCommandSequenceNumber := b.1.telemetry.lastCommandSequenceNumber
    lastCommandId := b.1.telemetry.lastCommandId
    lastCommandStatus := b.1.telemetry.lastCommandStatus } = b.1.telemetry

/-- a fault command does not read the supervisor -/
theorem process_withSupervisor (c : CommandProcessor) (r : RecoverySupervisor) {p : CommandPacket}
    (h : p.commandId = .injectFault) :
    ({ c with recoverySupervisor := r }.process p).1 = (c.process p).1 := by
  rw [CommandProcessor.process, CommandProcessor.process, CommandProcessor.execute, CommandProcessor.execute]
  simp only [h]
  cases commandArgumentToFault p.argument <;> rfl

theorem internalPhase_withSupervisor (c : CommandProcessor) (r : RecoverySupervisor) (w : WatchdogReport)
    (h : HealthReport) (now : UInt64) :
    (internalPhase { c with recoverySupervisor := r } w h now).1 = (internalPhase c w h now).1 := by
  have hresult : ∀ fault, ({ c with recoverySupervisor := r }.process (makeInternalFaultCommand fault now)).1 =
      (c.process (makeInternalFaultCommand fault now)).1 := fun fault => process_withSupervisor c r rfl
  unfold internalPhase
  simp only [hresult]
  split_ifs <;> rfl

theorem respond_withSupervisor (c : CommandProcessor) (r : RecoverySupervisor) (fault : FaultCode) :
    respond { c with recoverySupervisor := r } fault = { respond c fault with recoverySupervisor := r } := by
  unfold respond
  split_ifs <;> rfl

/-- if the command touched the supervisor only, the rest of the step is that of a step without a command -/
theorem sameResponse_of_afterGround {input : FlightSoftwareStepInput} {r : RecoverySupervisor}
    (h : app.afterGround input = { app.commandProcessor with recoverySupervisor := r }) :
    SameResponse (app.step input) (app.step { input with command := none }) := by
  have hprocessor : (app.step input).2.commandProcessor =
      { (app.step { input with command := none }).2.commandProcessor with recoverySupervisor := r } := by
    rw [step_commandProcessor, h, respond_withSupervisor, step_commandProcessor,
      afterGround_of_none app { input with command := none } rfl]
    rfl
  have hmode : (app.step input).2.currentMode = (app.step { input with command := none }).2.currentMode :=
    congrArg (·.modeManager.mode) hprocessor
  have hfault : (app.step input).2.lastFault = (app.step { input with command := none }).2.lastFault :=
    congrArg (·.lastFault) hprocessor
  have hinternal : (internalPhase (app.afterGround input) (app.watchdogEvaluation input).1
      (app.healthEvaluation input) input.timestampMs).1 =
        (internalPhase (app.afterGround { input with command := none }) (app.watchdogEvaluation input).1
          (app.healthEvaluation input) input.timestampMs).1 := by
    rw [h, internalPhase_withSupervisor, afterGround_of_none app { input with command := none } rfl]
  refine ⟨hmode, hfault, rfl, rfl, rfl, congrArg (·.primaryInternalFault) hinternal,
    congrArg (·.internalFaultProcessed) hinternal, congrArg (·.internalFaultResult) hinternal,
    congrArg (·.watchdogFaultProcessed) hinternal, congrArg (·.watchdogFaultResult) hinternal,
    congrArg (·.healthFaultProcessed) hinternal, congrArg (·.healthFaultResult) hinternal, ?_⟩
  change (⟨_, _, (app.step input).2.currentMode, (app.step input).2.lastFault, _, _, _, _, _, _⟩ : TelemetryPacket) = _
  rw [hmode, hfault]
  rfl

/-- a rejected command below the limit moves the counter only by the failed exit from RECOVERY it is -/
theorem failedAttempts_of_rejected {input : FlightSoftwareStepInput} {N count : ℕ}
    (hinv : RecoveryInv N app.commandProcessor count)
    (h : app.afterGround input = { app.commandProcessor with
      recoverySupervisor :=
        if status = .rejectedInvalidTransition ∧ app.currentMode = .recovery
        then app.commandProcessor.recoverySupervisor.afterFailure else app.commandProcessor.recoverySupervisor }) :
    (app.step input).2.commandProcessor.recoverySupervisor.failedAttempts.toNat =
      (app.step { input with command := none }).2.commandProcessor.recoverySupervisor.failedAttempts.toNat +
        if status = .rejectedInvalidTransition ∧ app.currentMode = .recovery then 1 else 0 := by
  have hwithout : (app.step { input with command := none }).2.commandProcessor.recoverySupervisor =
      app.commandProcessor.recoverySupervisor := by
    rw [step_commandProcessor, respond_recoverySupervisor,
      afterGround_of_none app { input with command := none } rfl]
  rw [step_commandProcessor, respond_recoverySupervisor, h, hwithout]
  dsimp only
  split_ifs with hfail
  · exact hinv.afterFailure_toNat hfail.2
  · rfl

/-! ## The comparison -/

theorem run_guard_valid {cfg : FlightSoftwareAppConfig} (hv : (ofConfig cfg).valid = true)
    (inputs : List FlightSoftwareStepInput) : (run cfg inputs).groundCommandGuard.valid = true := by
  have hguard : (ofConfig cfg).groundCommandGuard.valid = true := by
    simp only [FlightSoftwareApp.valid, Bool.and_eq_true] at hv
    exact hv.1.2
  have hconfig := (run_configuredBy cfg inputs).guard
  unfold GroundCommandGuard.valid at hguard ⊢
  rw [hconfig]
  exact hguard

/-- **A rejected command is no command.** For every reachable state of a valid configuration and a step with a command:
a rejection other than REJECTED_RECOVERY_LIMIT gives the response of the step without the command, with one more failed
attempt exactly for REJECTED_INVALID_TRANSITION in RECOVERY; the guard is untouched by the duplicate, replayed, stale
and future rejections, and holds the command's number after every other; REJECTED_RECOVERY_LIMIT takes RECOVERY to SAFE
and keeps the active fault. -/
theorem rejected_command_is_no_command (cfg : FlightSoftwareAppConfig) (hv : (ofConfig cfg).valid = true)
    (inputs : List FlightSoftwareStepInput) (input : FlightSoftwareStepInput) (packet : CommandPacket)
    (hc : input.command = some packet) :
    let app := run cfg inputs
    let withCommand := app.step input
    let without := app.step { input with command := none }
    let status := withCommand.1.commandResult.status
    (status ≠ .accepted → status ≠ .rejectedRecoveryLimit →
      SameResponse withCommand without ∧
      withCommand.2.commandProcessor.recoverySupervisor.failedAttempts.toNat =
        without.2.commandProcessor.recoverySupervisor.failedAttempts.toNat +
          if status = .rejectedInvalidTransition ∧ app.currentMode = .recovery then 1 else 0) ∧
    (status ≠ .accepted →
      if status = .rejectedDuplicateSequence ∨ status = .rejectedReplayedSequence ∨
        status = .rejectedStaleTimestamp ∨ status = .rejectedFutureTimestamp
      then withCommand.2.groundCommandGuard = app.groundCommandGuard
      else withCommand.2.groundCommandGuard =
        { app.groundCommandGuard with sequenceInitialized := true, highestSequence := packet.sequenceNumber }) ∧
    (status = .rejectedRecoveryLimit → app.currentMode = .recovery ∧
      (app.afterGround input).modeManager.mode = .safe ∧ (app.afterGround input).lastFault = app.lastFault) := by
  intro app withCommand without status
  have hground := step_ground app input hc
  refine ⟨fun hs hlimit => ?_, fun _ => ?_, fun hs => ?_⟩
  · have hprocessor := hground.processor_of_rejected hs hlimit
    exact ⟨sameResponse_of_afterGround hprocessor, failedAttempts_of_rejected (run_recoveryInv hv inputs) hprocessor⟩
  · have hvalid : status ≠ .rejectedGuardConfiguration :=
      hground.status_ne_guardConfiguration (run_guard_valid hv inputs)
    have hguard := hground.guard_eq
    cases hstatus : status <;> rw [show (app.step input).1.commandResult.status = _ from hstatus] at hguard <;>
      first | exact absurd hstatus hvalid | exact hguard
  · exact ⟨(hground.of_recoveryLimit hs).1, hground.of_recoveryLimit_state hs⟩

/-- a SET_MODE from BOOT to TEST beside a sensor timeout: refused, with the response of the timeout alone -/
theorem rejected_command_is_no_command_boot :
    SameResponse ((run {} []).step { command := some ⟨1, 0, .setMode, 7⟩, sensorAgeMs := 1000 })
      ((run {} []).step { sensorAgeMs := 1000 }) :=
  ((rejected_command_is_no_command {} (by decide) []
    { command := some ⟨1, 0, .setMode, 7⟩, sensorAgeMs := 1000 } ⟨1, 0, .setMode, 7⟩ rfl).1 (by decide) (by decide)).1

end AstraFsw.FlightSoftwareApp
