/-
What one step of the application can do, part by part. Every later result about the application is derived from here.

- `GroundStep`, `groundCommand_step`: the ground-command part ends in one of three ways: refused by the guard (nothing
  changes), refused by the policy (only the guard moves), or processed (the guard moves and the processor follows one
  of its own rules);
- `primaryFault_eq`: the selected internal fault, from the raw watchdog and health comparisons;
- `respond`, `step_commandProcessor`: the internal-fault part overwrites the active fault with the selected one and
  moves the mode by its response.
-/
import AstraFsw.App.Model
import AstraFsw.Core.Machine

namespace AstraFsw.FlightSoftwareApp

open FdirManager (dispositionFor faultMode selectPrimaryFault)

variable (app : FlightSoftwareApp) (input : FlightSoftwareStepInput)

/-! ## The ground-command part -/

/-- the acknowledged status of a command the guard refuses -/
def refusalStatus : GroundCommandGuardStatus → CommandStatus
  | .accepted => .accepted
  | .rejectedDuplicateSequence => .rejectedDuplicateSequence
  | .rejectedReplayedSequence => .rejectedReplayedSequence
  | .rejectedStaleTimestamp => .rejectedStaleTimestamp
  | .rejectedFutureTimestamp => .rejectedFutureTimestamp
  | .invalidConfiguration => .rejectedGuardConfiguration

/-- the guard's answer to a packet -/
def guardStatus (packet : CommandPacket) (nowMs : UInt64) : GroundCommandGuardStatus :=
  (app.groundCommandGuard.evaluate packet.sequenceNumber packet.timestampMs nowMs).1.status

/-- does the policy permit the packet? -/
def permits (packet : CommandPacket) : Bool := CommandAuthorizer.permits app.commandAuthorizer.configuration packet

/-- status, guard and processor after a ground command, one rule for each layer that can answer it -/
inductive GroundStep (packet : CommandPacket) (nowMs : UInt64) :
    CommandStatus → GroundCommandGuard → CommandProcessor → Prop
  | guardRefused : app.guardStatus packet nowMs ≠ .accepted →
      GroundStep packet nowMs (refusalStatus (app.guardStatus packet nowMs)) app.groundCommandGuard
        app.commandProcessor
  | unauthorized : app.guardStatus packet nowMs = .accepted → app.permits packet = false →
      GroundStep packet nowMs .rejectedUnauthorized (app.groundCommandGuard.take packet.sequenceNumber)
        app.commandProcessor
  | processed (status : CommandStatus) (processor : CommandProcessor) :
      app.guardStatus packet nowMs = .accepted → app.permits packet = true →
      CommandProcessor.Step app.commandProcessor packet status processor →
      GroundStep packet nowMs status (app.groundCommandGuard.take packet.sequenceNumber) processor

theorem groundCommand_step (packet : CommandPacket) (nowMs : UInt64) :
    app.GroundStep packet nowMs (app.groundCommand packet nowMs).1.commandResult.status
      (app.groundCommand packet nowMs).2.1 (app.groundCommand packet nowMs).2.2 := by
  have hguard := GroundCommandGuard.evaluate_snd app.groundCommandGuard packet.sequenceNumber packet.timestampMs nowMs
  have hauth := CommandAuthorizer.authorize_authorized app.commandAuthorizer packet
  cases hs : app.guardStatus packet nowMs with
  | accepted =>
    have hcode := hs
    rw [guardStatus] at hcode
    rw [if_pos hcode] at hguard
    cases hp : app.permits packet with
    | true =>
      have hok := hauth.trans hp
      simp only [groundCommand, hcode, hok, if_true, hguard]
      exact .processed _ _ hs hp (CommandProcessor.process_step app.commandProcessor packet)
    | false =>
      have hok := hauth.trans hp
      simp only [groundCommand, hcode, hok, Bool.false_eq_true, if_false, hguard]
      exact .unauthorized hs hp
  | _ =>
    have hrefused : app.GroundStep packet nowMs _ _ _ := .guardRefused (by rw [hs]; simp)
    have hcode := hs
    rw [guardStatus] at hcode
    rw [if_neg (by simp [hcode])] at hguard
    rw [hs] at hrefused
    simpa only [groundCommand, hcode, hguard, rejectGroundCommand, refusalStatus] using hrefused

/-- a command reaches the processor -/
def Admitted (packet : CommandPacket) (nowMs : UInt64) : Prop :=
  app.guardStatus packet nowMs = .accepted ∧ app.permits packet = true

instance (packet : CommandPacket) (nowMs : UInt64) : Decidable (app.Admitted packet nowMs) := by
  unfold Admitted; infer_instance

variable {app} in
/-- an admitted command is processed -/
theorem GroundStep.of_admitted {packet : CommandPacket} {nowMs : UInt64} {status : CommandStatus}
    {guard : GroundCommandGuard} {processor : CommandProcessor}
    (h : app.GroundStep packet nowMs status guard processor) (hadmitted : app.Admitted packet nowMs) :
    guard = app.groundCommandGuard.take packet.sequenceNumber ∧
      CommandProcessor.Step app.commandProcessor packet status processor := by
  cases h with
  | guardRefused hg => exact absurd hadmitted.1 hg
  | unauthorized _ hp => exact absurd (hadmitted.2.symm.trans hp) (by simp)
  | processed _ _ _ _ hstep => exact ⟨rfl, hstep⟩

variable {app} in
/-- guard and processor after an admitted command -/
theorem groundCommand_of_admitted {packet : CommandPacket} {nowMs : UInt64} (h : app.Admitted packet nowMs) :
    (app.groundCommand packet nowMs).2 =
      (app.groundCommandGuard.take packet.sequenceNumber, (app.commandProcessor.process packet).2) := by
  obtain ⟨hs, hp⟩ := h
  have hauth := (CommandAuthorizer.authorize_authorized app.commandAuthorizer packet).trans hp
  have hguard := GroundCommandGuard.evaluate_snd app.groundCommandGuard packet.sequenceNumber packet.timestampMs nowMs
  rw [guardStatus] at hs
  rw [if_pos hs] at hguard
  simp [groundCommand, hs, hauth, hguard]

/-- the processor after the ground-command part -/
def afterGround : CommandProcessor := (app.groundPhase input).2.2

theorem groundPhase_of_none (h : input.command = none) :
    app.groundPhase input = (none, app.groundCommandGuard, app.commandProcessor) := by
  simp [groundPhase, h]

theorem groundPhase_of_some {packet : CommandPacket} (h : input.command = some packet) :
    app.groundPhase input =
      (some (app.groundCommand packet input.timestampMs).1, (app.groundCommand packet input.timestampMs).2) := by
  simp [groundPhase, h]

/-! ## The internal-fault part -/

/-- the internal fault a step selects -/
def primaryFault : FaultCode :=
  selectPrimaryFault (internalFaultCandidates (app.watchdogEvaluation input).1 (app.healthEvaluation input))

/-- the raw conditions behind the watchdog report and the critical health reports -/
def watchdogExpires : Prop :=
  (app.armedWatchdog input).elapsed input.timestampMs ≥ app.watchdog.config.timeoutMs.toUInt64 ∨
    (app.armedWatchdog input).countAfter input.loopDurationMs ≥ app.watchdog.config.maxMissedDeadlines

def loopMissed : Prop := input.loopDurationMs ≥ app.healthMonitor.thresholds.loopDeadlineMs

def sensorTimedOut : Prop := input.sensorAgeMs ≥ app.healthMonitor.thresholds.sensorTimeoutMs

def memoryCritical : Prop :=
  input.memoryLoadPercent.ge app.healthMonitor.thresholds.memoryCriticalPercent = true

def cpuCritical : Prop := input.cpuLoadPercent.ge app.healthMonitor.thresholds.cpuCriticalPercent = true

instance : Decidable (app.watchdogExpires input) := by unfold watchdogExpires; infer_instance
instance : Decidable (app.loopMissed input) := by unfold loopMissed; infer_instance
instance : Decidable (app.sensorTimedOut input) := by unfold sensorTimedOut; infer_instance
instance : Decidable (app.memoryCritical input) := by unfold memoryCritical; infer_instance
instance : Decidable (app.cpuCritical input) := by unfold cpuCritical; infer_instance

@[simp] theorem armedWatchdog_config : (app.armedWatchdog input).config = app.watchdog.config := by
  unfold armedWatchdog Watchdog.reset
  split_ifs <;> rfl

theorem watchdogReport_expired_iff :
    (app.watchdogEvaluation input).1.status = .expired ↔ app.watchdogExpires input := by
  unfold watchdogEvaluation watchdogExpires
  rw [Watchdog.evaluate_expired_iff, armedWatchdog_config]

theorem criticalFault_healthEvaluation :
    HealthMonitor.criticalFault (app.healthEvaluation input) =
      if app.loopMissed input then some .watchdogDeadlineMiss
      else if app.sensorTimedOut input then some .sensorTimeout
      else if app.memoryCritical input then some .memoryOverload
      else if app.cpuCritical input then some .cpuOverload
      else none :=
  HealthMonitor.criticalFault_evaluate _ _

theorem watchdogFaultActive_eq :
    watchdogFaultActive (app.watchdogEvaluation input).1 = decide (app.watchdogExpires input) ∧
      (app.watchdogExpires input → (app.watchdogEvaluation input).1.fault = .watchdogDeadlineMiss) := by
  have hexp := app.watchdogReport_expired_iff input
  have hfault := Watchdog.evaluate_fault (app.armedWatchdog input) input.timestampMs input.loopDurationMs
  change (app.watchdogEvaluation input).1.fault = _ at hfault
  rw [show ((app.armedWatchdog input).evaluate input.timestampMs input.loopDurationMs) =
    app.watchdogEvaluation input from rfl] at hfault
  by_cases h : app.watchdogExpires input
  · rw [if_pos (hexp.2 h)] at hfault
    simp [watchdogFaultActive, hexp.2 h, hfault, h]
  · have hne := mt hexp.1 h
    simp [watchdogFaultActive, hne, h]

/-- a critical report always names a fault, so the candidate list is the critical fault of each detector -/
theorem internalFaultCandidates_eq :
    internalFaultCandidates (app.watchdogEvaluation input).1 (app.healthEvaluation input) =
      (if app.watchdogExpires input then [.watchdogDeadlineMiss] else []) ++
        (HealthMonitor.criticalFault (app.healthEvaluation input)).toList := by
  obtain ⟨hactive, hfault⟩ := app.watchdogFaultActive_eq input
  have hnamed : HealthMonitor.criticalFault (app.healthEvaluation input) ≠ some .none := by
    rw [criticalFault_healthEvaluation]
    split_ifs <;> simp
  unfold internalFaultCandidates
  congr 1
  · rw [hactive]
    by_cases h : app.watchdogExpires input <;> simp [h, hfault]
  · unfold HealthMonitor.criticalFault healthFaultActive at *
    by_cases hc : (app.healthEvaluation input).status = .critical
    · rw [if_pos hc] at hnamed
      have hne : (app.healthEvaluation input).fault ≠ .none := fun h => hnamed (congrArg some h)
      simp [hc, hne]
    · simp [hc]

/-- **The selected fault.** A missed loop deadline is the watchdog's fault whichever detector reports it, and the
health monitor's masking order agrees with the FDIR priorities, so the selection is by priority over all the raw
conditions. -/
theorem primaryFault_eq :
    app.primaryFault input =
      if app.watchdogExpires input ∨ app.loopMissed input then .watchdogDeadlineMiss
      else if app.sensorTimedOut input then .sensorTimeout
      else if app.memoryCritical input then .memoryOverload
      else if app.cpuCritical input then .cpuOverload
      else .none := by
  rw [primaryFault, internalFaultCandidates_eq, criticalFault_healthEvaluation]
  by_cases hw : app.watchdogExpires input <;> by_cases hl : app.loopMissed input <;>
    by_cases hs : app.sensorTimedOut input <;> by_cases hm : app.memoryCritical input <;>
    by_cases hc : app.cpuCritical input <;> simp only [hw, hl, hs, hm, hc, if_true, if_false, or_self, or_true,
      true_or, Option.toList_some, Option.toList_none, List.append_nil, List.nil_append, List.cons_append] <;> rfl

/-- the selected fault is one the detectors can report -/
theorem primaryFault_cases : app.primaryFault input = .none ∨ FdirManager.Detectable (app.primaryFault input) := by
  unfold FdirManager.Detectable
  rw [primaryFault_eq]
  split_ifs <;> simp

/-- the raw condition behind each fault the detectors report -/
def Raised : FaultCode → Prop
  | .watchdogDeadlineMiss => app.watchdogExpires input ∨ app.loopMissed input
  | .sensorTimeout => app.sensorTimedOut input
  | .memoryOverload => app.memoryCritical input
  | .cpuOverload => app.cpuCritical input
  | _ => False

instance (fault : FaultCode) : Decidable (app.Raised input fault) := by
  unfold Raised
  split <;> infer_instance

/-- no condition holds exactly when no fault is selected -/
theorem primaryFault_eq_none : app.primaryFault input = .none ↔ ∀ fault, ¬ app.Raised input fault := by
  rw [primaryFault_eq]
  constructor
  · intro h
    split_ifs at h with hw hs hm hc
    intro fault
    cases fault <;> simp only [Raised, not_false_eq_true] <;> assumption
  · intro h
    have hw : ¬ (app.watchdogExpires input ∨ app.loopMissed input) := h .watchdogDeadlineMiss
    have hs : ¬ app.sensorTimedOut input := h .sensorTimeout
    have hm : ¬ app.memoryCritical input := h .memoryOverload
    have hc : ¬ app.cpuCritical input := h .cpuOverload
    rw [if_neg hw, if_neg hs, if_neg hm, if_neg hc]

/-- **The selected fault is the raised one of highest priority.** -/
theorem primaryFault_greatest (h : app.primaryFault input ≠ .none) :
    app.Raised input (app.primaryFault input) ∧ ∀ fault, app.Raised input fault → fault ≠ app.primaryFault input →
      (dispositionFor fault).priority < (dispositionFor (app.primaryFault input)).priority := by
  rw [primaryFault_eq] at h ⊢
  split_ifs at h ⊢ with hw hs hm hc
  case neg => exact absurd rfl h
  all_goals
    refine ⟨by assumption, fun fault hraised hne => ?_⟩
    cases fault <;> simp only [Raised] at hraised <;> first | contradiction | decide

theorem primaryFault_isNamed : (app.primaryFault input).isNamed = true := by
  rw [primaryFault_eq]
  split_ifs <;> rfl

/-- the processor after the internal-fault part: a selected fault overwrites the active one and moves the mode -/
def respond (c : CommandProcessor) (fault : FaultCode) : CommandProcessor :=
  if fault = .none then c
  else { c with modeManager := ⟨faultMode (dispositionFor fault).response c.modeManager.mode⟩, lastFault := fault }

@[simp] theorem respond_none (c : CommandProcessor) : respond c .none = c := rfl

theorem respond_of_ne {c : CommandProcessor} {fault : FaultCode} (h : fault ≠ .none) :
    respond c fault = { c with
      modeManager := ⟨faultMode (dispositionFor fault).response c.modeManager.mode⟩, lastFault := fault } :=
  if_neg h

@[simp] theorem respond_recoverySupervisor (c : CommandProcessor) (fault : FaultCode) :
    (respond c fault).recoverySupervisor = c.recoverySupervisor := by
  unfold respond
  split_ifs <;> rfl

theorem respond_lastFault (c : CommandProcessor) (fault : FaultCode) :
    (respond c fault).lastFault = if fault = .none then c.lastFault else fault := by
  unfold respond
  split_ifs <;> rfl

@[simp] theorem respond_mode (c : CommandProcessor) (fault : FaultCode) :
    (respond c fault).modeManager.mode = faultMode (dispositionFor fault).response c.modeManager.mode := by
  unfold respond
  split_ifs with h
  · rw [h]; exact (FdirManager.faultMode_none _).symm
  · rfl

theorem process_makeInternalFaultCommand (c : CommandProcessor) {fault : FaultCode} (hf : fault.isNamed = true)
    (now : UInt64) :
    (c.process (makeInternalFaultCommand fault now)).2 = { c with
      modeManager := ⟨faultMode (dispositionFor fault).response c.modeManager.mode⟩, lastFault := fault } := by
  have harg : commandArgumentToFault (makeInternalFaultCommand fault now).argument = some fault :=
    commandArgumentToFault_toRaw hf
  have hid : (makeInternalFaultCommand fault now).commandId = .injectFault := rfl
  rw [← CommandProcessor.processInjectFault_snd, CommandProcessor.process, CommandProcessor.execute]
  simp only [hid, harg]

theorem internalPhase_snd (c : CommandProcessor) :
    (internalPhase c (app.watchdogEvaluation input).1 (app.healthEvaluation input) input.timestampMs).2 =
      respond c (app.primaryFault input) := by
  by_cases h : app.primaryFault input = .none
  · rw [h, respond_none]
    unfold internalPhase
    exact congrArg Prod.snd (if_pos h)
  · rw [respond_of_ne h, ← process_makeInternalFaultCommand c (app.primaryFault_isNamed input) input.timestampMs]
    unfold internalPhase
    rw [primaryFault] at h ⊢
    simp only [h, if_false]
    split_ifs <;> rfl

/-! ## The whole step -/

@[simp] theorem step_commandProcessor :
    (app.step input).2.commandProcessor = respond (app.afterGround input) (app.primaryFault input) :=
  app.internalPhase_snd input (app.afterGround input)

theorem step_currentMode :
    (app.step input).2.currentMode =
      faultMode (dispositionFor (app.primaryFault input)).response (app.afterGround input).modeManager.mode := by
  rw [currentMode, step_commandProcessor, respond_mode]

theorem step_lastFault :
    (app.step input).2.lastFault =
      if app.primaryFault input = .none then (app.afterGround input).lastFault else app.primaryFault input := by
  rw [lastFault, step_commandProcessor, respond_lastFault]

theorem step_groundCommandGuard : (app.step input).2.groundCommandGuard = (app.groundPhase input).2.1 := rfl

theorem step_watchdog :
    (app.step input).2.watchdog =
      { app.watchdog with
        lastKickMs := input.timestampMs
        missedDeadlineCount := (app.armedWatchdog input).countAfter input.loopDurationMs } := by
  change (app.watchdogEvaluation input).2.kick input.timestampMs = _
  rw [watchdogEvaluation, Watchdog.evaluate_snd, Watchdog.kick]
  simp only [armedWatchdog_config]

theorem step_primaryInternalFault : (app.step input).1.primaryInternalFault = app.primaryFault input := by
  change (internalPhase _ _ _ _).1.primaryInternalFault = _
  unfold internalPhase primaryFault
  simp only
  split_ifs <;> rfl

/-- an internal fault is processed exactly when one is selected -/
theorem step_internalFaultProcessed :
    (app.step input).1.internalFaultProcessed = true ↔ app.primaryFault input ≠ .none := by
  change (internalPhase _ _ _ _).1.internalFaultProcessed = true ↔ _
  unfold internalPhase primaryFault
  simp only
  split_ifs with h <;> simp [h]

theorem step_commandResult_of_some {packet : CommandPacket} (h : input.command = some packet) :
    (app.step input).1.commandResult = (app.groundCommand packet input.timestampMs).1.commandResult := by
  change ((app.groundPhase input).1.getD {}).commandResult = _
  rw [groundPhase_of_some app input h]
  rfl

theorem afterGround_of_none (h : input.command = none) : app.afterGround input = app.commandProcessor := by
  rw [afterGround, groundPhase_of_none app input h]

/-- **The ground-command part inside a step.** -/
theorem step_ground {packet : CommandPacket} (h : input.command = some packet) :
    app.GroundStep packet input.timestampMs (app.step input).1.commandResult.status
      (app.step input).2.groundCommandGuard (app.afterGround input) := by
  rw [step_commandResult_of_some app input h, step_groundCommandGuard, afterGround, groundPhase_of_some app input h]
  exact app.groundCommand_step packet input.timestampMs

/-! ## Configuration -/

/-- the parts of the application that no step changes -/
structure ConfiguredBy (cfg : FlightSoftwareAppConfig) (app : FlightSoftwareApp) : Prop where
  guard : app.groundCommandGuard.configuration = cfg.groundCommandGuard
  policy : app.commandAuthorizer.configuration = cfg.commandAuthorization
  recovery : app.commandProcessor.recoverySupervisor.configuration = cfg.recoverySupervisor
  watchdog : app.watchdog.config = {}
  thresholds : app.healthMonitor.thresholds = {}

theorem configuredBy_ofConfig (cfg : FlightSoftwareAppConfig) : ConfiguredBy cfg (ofConfig cfg) :=
  ⟨rfl, rfl, rfl, rfl, rfl⟩

variable {app input} in
theorem GroundStep.configuration {packet : CommandPacket} {nowMs : UInt64} {status : CommandStatus}
    {guard : GroundCommandGuard} {processor : CommandProcessor}
    (h : app.GroundStep packet nowMs status guard processor) :
    guard.configuration = app.groundCommandGuard.configuration ∧
      processor.recoverySupervisor.configuration = app.commandProcessor.recoverySupervisor.configuration := by
  cases h with
  | processed _ _ _ _ hstep => cases hstep <;> simp [GroundCommandGuard.take]
  | _ => exact ⟨rfl, rfl⟩

theorem groundPhase_configuration :
    (app.step input).2.groundCommandGuard.configuration = app.groundCommandGuard.configuration ∧
      (app.afterGround input).recoverySupervisor.configuration =
        app.commandProcessor.recoverySupervisor.configuration := by
  cases hc : input.command with
  | none => simp [step_groundCommandGuard, afterGround, groundPhase_of_none app input hc]
  | some packet => exact (step_ground app input hc).configuration

variable {app input} in
theorem ConfiguredBy.step {cfg : FlightSoftwareAppConfig} (h : ConfiguredBy cfg app) :
    ConfiguredBy cfg (app.step input).2 where
  guard := (app.groundPhase_configuration input).1.trans h.guard
  policy := h.policy
  recovery := by
    rw [step_commandProcessor, respond_recoverySupervisor, (app.groundPhase_configuration input).2, h.recovery]
  watchdog := by rw [step_watchdog]; exact h.watchdog
  thresholds := h.thresholds

/-- the state a run of steps from the constructor ends in -/
def run (cfg : FlightSoftwareAppConfig) (inputs : List FlightSoftwareStepInput) : FlightSoftwareApp :=
  Machine.final step (ofConfig cfg) inputs

theorem run_snoc (cfg : FlightSoftwareAppConfig) (inputs : List FlightSoftwareStepInput) :
    run cfg (inputs ++ [input]) = ((run cfg inputs).step input).2 := Machine.final_snoc _ _ _ _

theorem run_append (cfg : FlightSoftwareAppConfig) (inputs more : List FlightSoftwareStepInput) :
    run cfg (inputs ++ more) = Machine.final step (run cfg inputs) more := Machine.final_append _ _ _ _

/-- what a step keeps holds after every run -/
theorem run_inv {P : FlightSoftwareApp → Prop} (hstep : ∀ app input, P app → P (step app input).2)
    {cfg : FlightSoftwareAppConfig} (h : P (ofConfig cfg)) (inputs : List FlightSoftwareStepInput) :
    P (run cfg inputs) := Machine.final_inv step hstep h inputs

theorem run_configuredBy (cfg : FlightSoftwareAppConfig) (inputs : List FlightSoftwareStepInput) :
    ConfiguredBy cfg (run cfg inputs) :=
  run_inv (fun _ _ h => h.step) (configuredBy_ofConfig cfg) inputs

end AstraFsw.FlightSoftwareApp
