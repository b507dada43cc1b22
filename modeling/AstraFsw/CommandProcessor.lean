/-
Semantic command processing with bounded recovery supervision (`fsw/src/command_processor.cpp`,
`fsw/src/recovery_supervisor.cpp`).

The C++ processor holds a reference to the application's one `ModeManager`; here that mode manager is a field of the
processor, and the application reads the mode through it. The constructors' `valid_` flags and error texts are
functions of the configuration, which never changes after construction.

`Step` says what one command can do to the processor, one rule for each outcome, and `execute_step` that the code does
nothing else. Every later result about commands goes by cases on these rules.

The switch has no default and the status starts as ACCEPTED, so an id without an enumerator is accepted
(`rejectsUnknown_iff`): only the authorizer in front of the processor keeps such packets out.
-/
import AstraFsw.CommandPacket
import AstraFsw.FdirManager

namespace AstraFsw

/-! ## Recovery supervision -/

structure RecoverySupervisorConfig where
  maximumFailedAttempts : UInt32 := 3
deriving DecidableEq, Repr

inductive RecoveryAttemptStatus where
  | success
  | failed
  | failSafeForced
  | invalidConfiguration
deriving DecidableEq, Repr

structure RecoveryAttemptResult where
  status : RecoveryAttemptStatus := .success
  failedAttempts : UInt32 := 0
  maximumFailedAttempts : UInt32 := 0
  failSafeForced : Bool := false
deriving DecidableEq, Repr

structure RecoverySupervisor where
  configuration : RecoverySupervisorConfig := {}
  failedAttempts : UInt32 := 0
deriving DecidableEq, Repr

namespace RecoverySupervisor

def valid (r : RecoverySupervisor) : Bool := r.configuration.maximumFailedAttempts != 0

def validationError (r : RecoverySupervisor) : String :=
  if r.valid then "" else "maximum failed recovery attempts must be greater than zero"

def beginSession (r : RecoverySupervisor) : RecoverySupervisor := { r with failedAttempts := 0 }

def recordSuccess (r : RecoverySupervisor) : RecoveryAttemptResult × RecoverySupervisor :=
  let maximumFailedAttempts := r.configuration.maximumFailedAttempts
  if !r.valid then
    ({ status := .invalidConfiguration, failedAttempts := r.failedAttempts, maximumFailedAttempts }, r)
  else ({ status := .success, maximumFailedAttempts }, { r with failedAttempts := 0 })

def recordFailure (r : RecoverySupervisor) (modeManager : ModeManager) :
    RecoveryAttemptResult × RecoverySupervisor × ModeManager :=
  let maximumFailedAttempts := r.configuration.maximumFailedAttempts
  if !r.valid then
    ({ status := .invalidConfiguration, failedAttempts := r.failedAttempts, maximumFailedAttempts }, r, modeManager)
  else
    let failedAttempts := r.failedAttempts + 1
    if failedAttempts ≥ maximumFailedAttempts then
      let forced := modeManager.transitionTo .safe .none
      ({ status := if forced.1 then .failSafeForced else .failed, failedAttempts, maximumFailedAttempts,
         failSafeForced := forced.1 }, { r with failedAttempts }, forced.2)
    else ({ status := .failed, failedAttempts, maximumFailedAttempts }, { r with failedAttempts }, modeManager)

/-- the failure that forces SAFE: the count it makes reaches the limit -/
def atLimit (r : RecoverySupervisor) : Bool :=
  r.valid && decide (r.failedAttempts + 1 ≥ r.configuration.maximumFailedAttempts)

/-- the supervisor after a recorded failure (an invalid one counts nothing) -/
def afterFailure (r : RecoverySupervisor) : RecoverySupervisor :=
  if r.valid then { r with failedAttempts := r.failedAttempts + 1 } else r

theorem recordFailure_forced (r : RecoverySupervisor) (mm : ModeManager) :
    (r.recordFailure mm).1.failSafeForced = r.atLimit := by
  unfold recordFailure atLimit
  cases r.valid
  · rfl
  · simp only [Bool.not_true, Bool.false_eq_true, if_false, Bool.true_and]
    split_ifs with h <;> simp [h]

theorem recordFailure_state (r : RecoverySupervisor) (mm : ModeManager) :
    (r.recordFailure mm).2 = (r.afterFailure, if r.atLimit then ⟨.safe⟩ else mm) := by
  unfold recordFailure atLimit afterFailure
  cases r.valid
  · rfl
  · simp only [Bool.not_true, Bool.false_eq_true, if_false, if_true, Bool.true_and]
    by_cases h : r.failedAttempts + 1 ≥ r.configuration.maximumFailedAttempts
    · rw [if_pos h, ModeManager.transitionTo_safe, if_pos (decide_eq_true h)]
    · rw [if_neg h, if_neg (by simpa using h)]

/-- the supervisor after an accepted transition -/
def afterTransition (r : RecoverySupervisor) (source target : Mode) : RecoverySupervisor :=
  if source = .safe ∧ target = .recovery then r.beginSession
  else if source = .recovery ∧ target ≠ .recovery then r.recordSuccess.2
  else r

theorem recordSuccess_snd (r : RecoverySupervisor) (h : r.valid = true) :
    r.recordSuccess.2 = { r with failedAttempts := 0 } := by
  simp [recordSuccess, h]

@[simp] theorem afterFailure_configuration (r : RecoverySupervisor) :
    r.afterFailure.configuration = r.configuration := by
  unfold afterFailure
  split_ifs <;> rfl

@[simp] theorem afterTransition_configuration (r : RecoverySupervisor) (source target : Mode) :
    (r.afterTransition source target).configuration = r.configuration := by
  unfold afterTransition recordSuccess
  split_ifs <;> rfl

end RecoverySupervisor

/-! ## The command processor -/

inductive CommandStatus where
  | accepted
  | rejectedBadArgument
  | rejectedInvalidTransition
  | rejectedUnknownCommand
  | rejectedDuplicateSequence
  | rejectedReplayedSequence
  | rejectedStaleTimestamp
  | rejectedFutureTimestamp
  | rejectedGuardConfiguration
  | rejectedUnauthorized
  | rejectedRecoveryLimit
deriving DecidableEq, Repr

namespace CommandStatus

def toRaw : CommandStatus → UInt8
  | accepted => 0
  | rejectedBadArgument => 1
  | rejectedInvalidTransition => 2
  | rejectedUnknownCommand => 3
  | rejectedDuplicateSequence => 4
  | rejectedReplayedSequence => 5
  | rejectedStaleTimestamp => 6
  | rejectedFutureTimestamp => 7
  | rejectedGuardConfiguration => 8
  | rejectedUnauthorized => 9
  | rejectedRecoveryLimit => 10

/-- `command_status_to_string` -/
def toString : CommandStatus → String
  | accepted => "ACCEPTED"
  | rejectedBadArgument => "REJECTED_BAD_ARGUMENT"
  | rejectedInvalidTransition => "REJECTED_INVALID_TRANSITION"
  | rejectedUnknownCommand => "REJECTED_UNKNOWN_COMMAND"
  | rejectedDuplicateSequence => "REJECTED_DUPLICATE_SEQUENCE"
  | rejectedReplayedSequence => "REJECTED_REPLAYED_SEQUENCE"
  | rejectedStaleTimestamp => "REJECTED_STALE_TIMESTAMP"
  | rejectedFutureTimestamp => "REJECTED_FUTURE_TIMESTAMP"
  | rejectedGuardConfiguration => "REJECTED_GUARD_CONFIGURATION"
  | rejectedUnauthorized => "REJECTED_UNAUTHORIZED"
  | rejectedRecoveryLimit => "REJECTED_RECOVERY_LIMIT"

end CommandStatus

structure CommandResult where
  status : CommandStatus := .accepted
  commandId : CommandId := .noop
  sequenceNumber : UInt32 := 0
  resultingMode : Mode := .boot
  resultingFault : FaultCode := .none
  message : String := ""
deriving DecidableEq, Repr

structure CommandProcessor where
  /-- the application's mode manager, held by reference in the source -/
  modeManager : ModeManager := {}
  recoverySupervisor : RecoverySupervisor := {}
  lastFault : FaultCode := .none
deriving DecidableEq, Repr

namespace CommandProcessor

def valid (c : CommandProcessor) : Bool := c.recoverySupervisor.valid

def validationError (c : CommandProcessor) : String := c.recoverySupervisor.validationError

/-- the body of the SET_MODE case, from the requested mode on: status, message and state -/
def processSetMode (c : CommandProcessor) (requestedMode : Mode) : CommandStatus × String × CommandProcessor :=
  let modeBefore := c.modeManager.mode
  let transition := c.modeManager.transitionTo requestedMode c.lastFault
  if !transition.1 then
    if modeBefore = .recovery ∧ requestedMode ≠ .recovery then
      let recoveryResult := c.recoverySupervisor.recordFailure c.modeManager
      let c := { c with recoverySupervisor := recoveryResult.2.1, modeManager := recoveryResult.2.2 }
      if recoveryResult.1.failSafeForced then
        (.rejectedRecoveryLimit,
          "SET_MODE rejected: recovery failure limit reached attempts=" ++
            toString recoveryResult.1.failedAttempts.toNat ++ " fail_safe=SAFE", c)
      else (.rejectedInvalidTransition, "SET_MODE rejected: invalid mode transition", c)
    else (.rejectedInvalidTransition, "SET_MODE rejected: invalid mode transition", c)
  else
    let c := { c with modeManager := transition.2 }
    if modeBefore = .safe ∧ requestedMode = .recovery then
      (.accepted, "SET_MODE accepted", { c with recoverySupervisor := c.recoverySupervisor.beginSession })
    else if modeBefore = .recovery ∧ requestedMode ≠ .recovery then
      (.accepted, "SET_MODE accepted", { c with recoverySupervisor := c.recoverySupervisor.recordSuccess.2 })
    else (.accepted, "SET_MODE accepted", c)

/-- the body of the INJECT_FAULT case, from the requested fault on: message and state -/
def processInjectFault (c : CommandProcessor) (requestedFault : FaultCode) : String × CommandProcessor :=
  let action := FdirManager.applyFault c.modeManager requestedFault
  ("INJECT_FAULT accepted: severity=" ++ action.1.disposition.severity.toString ++
      " response=" ++ action.1.disposition.response.toString ++
      (if action.1.safeFallbackUsed then " fallback=ENTER_SAFE" else ""),
    { c with lastFault := requestedFault, modeManager := action.2 })

/-- the switch of `process`: status, message and state; an id without an enumerator leaves the result's defaults -/
def execute (c : CommandProcessor) (packet : CommandPacket) : CommandStatus × String × CommandProcessor :=
  match packet.commandId with
  | .noop => (.accepted, "NOOP accepted", c)
  | .requestTelemetry => (.accepted, "Telemetry request accepted", c)
  | .clearFault => (.accepted, "Fault state cleared", { c with lastFault := .none })
  | .setMode =>
    match commandArgumentToMode packet.argument with
    | none => (.rejectedBadArgument, "SET_MODE rejected: invalid mode argument", c)
    | some requestedMode => c.processSetMode requestedMode
  | .injectFault =>
    match commandArgumentToFault packet.argument with
    | none => (.rejectedBadArgument, "INJECT_FAULT rejected: invalid fault argument", c)
    | some requestedFault =>
      let injected := c.processInjectFault requestedFault
      (.accepted, injected.1, injected.2)
  | .other _ => (.accepted, "", c)

def process (c : CommandProcessor) (packet : CommandPacket) : CommandResult × CommandProcessor :=
  let executed := c.execute packet
  ({ status := executed.1
     commandId := packet.commandId
     sequenceNumber := packet.sequenceNumber
     resultingMode := executed.2.2.modeManager.mode
     resultingFault := executed.2.2.lastFault
     message := executed.2.1 }, executed.2.2)

/-! ## What a command can do -/

/-- the status and the state a command ends in, one rule for each outcome -/
inductive Step (c : CommandProcessor) (p : CommandPacket) : CommandStatus → CommandProcessor → Prop
  | idle : p.commandId ≠ .setMode → p.commandId ≠ .injectFault → p.commandId ≠ .clearFault → Step c p .accepted c
  | clear : p.commandId = .clearFault → Step c p .accepted { c with lastFault := .none }
  | badMode : p.commandId = .setMode → commandArgumentToMode p.argument = none → Step c p .rejectedBadArgument c
  | badFault : p.commandId = .injectFault → commandArgumentToFault p.argument = none →
      Step c p .rejectedBadArgument c
  | move (m : Mode) : p.commandId = .setMode → commandArgumentToMode p.argument = some m →
      ModeManager.isValidTransition c.modeManager.mode m = true →
      Step c p .accepted { c with
        modeManager := ⟨m⟩, recoverySupervisor := c.recoverySupervisor.afterTransition c.modeManager.mode m }
  | refuse (m : Mode) : p.commandId = .setMode → commandArgumentToMode p.argument = some m →
      ModeManager.isValidTransition c.modeManager.mode m = false → c.modeManager.mode ≠ .recovery →
      Step c p .rejectedInvalidTransition c
  | failedExit (m : Mode) : p.commandId = .setMode → commandArgumentToMode p.argument = some m →
      ModeManager.isValidTransition c.modeManager.mode m = false → c.modeManager.mode = .recovery →
      c.recoverySupervisor.atLimit = false →
      Step c p .rejectedInvalidTransition { c with recoverySupervisor := c.recoverySupervisor.afterFailure }
  | recoveryLimit (m : Mode) : p.commandId = .setMode → commandArgumentToMode p.argument = some m →
      ModeManager.isValidTransition c.modeManager.mode m = false → c.modeManager.mode = .recovery →
      c.recoverySupervisor.atLimit = true →
      Step c p .rejectedRecoveryLimit { c with
        modeManager := ⟨.safe⟩, recoverySupervisor := c.recoverySupervisor.afterFailure }
  | inject (f : FaultCode) : p.commandId = .injectFault → commandArgumentToFault p.argument = some f →
      Step c p .accepted { c with
        modeManager := ⟨FdirManager.faultMode (FdirManager.dispositionFor f).response c.modeManager.mode⟩,
        lastFault := f }

theorem processInjectFault_snd (c : CommandProcessor) (f : FaultCode) :
    (c.processInjectFault f).2 = { c with
      modeManager := ⟨FdirManager.faultMode (FdirManager.dispositionFor f).response c.modeManager.mode⟩,
      lastFault := f } := by
  change { c with lastFault := f, modeManager := (FdirManager.applyFault c.modeManager f).2 } = _
  rw [FdirManager.applyFault_snd]

theorem processSetMode_step (c : CommandProcessor) (p : CommandPacket) (m : Mode) (hid : p.commandId = .setMode)
    (hm : commandArgumentToMode p.argument = some m) :
    Step c p (c.processSetMode m).1 (c.processSetMode m).2.2 := by
  cases hv : ModeManager.isValidTransition c.modeManager.mode m with
  | true =>
    have hmove := Step.move m hid hm hv
    simp only [processSetMode, ModeManager.transitionTo_of_valid c.lastFault hv, Bool.not_true, Bool.false_eq_true,
      if_false]
    unfold RecoverySupervisor.afterTransition at hmove
    split_ifs at hmove ⊢ <;> exact hmove
  | false =>
    simp only [processSetMode, ModeManager.transitionTo_of_invalid c.lastFault hv, Bool.not_false, if_true]
    by_cases hr : c.modeManager.mode = .recovery
    · -- RECOVERY has its own edge, so a refused target is another mode
      have hne : m ≠ .recovery := by
        rintro rfl; simp [hr] at hv
      rw [if_pos ⟨hr, hne⟩, RecoverySupervisor.recordFailure_forced, RecoverySupervisor.recordFailure_state]
      cases hl : c.recoverySupervisor.atLimit with
      | true => exact Step.recoveryLimit m hid hm hv hr hl
      | false => exact Step.failedExit m hid hm hv hr hl
    · rw [if_neg (fun h => hr h.1)]
      exact Step.refuse m hid hm hv hr

/-- **The code follows the rules.** -/
theorem execute_step (c : CommandProcessor) (p : CommandPacket) : Step c p (c.execute p).1 (c.execute p).2.2 := by
  unfold execute
  cases hid : p.commandId with
  | clearFault => exact .clear hid
  | setMode =>
    cases hm : commandArgumentToMode p.argument with
    | none => exact .badMode hid hm
    | some m => exact processSetMode_step c p m hid hm
  | injectFault =>
    cases hf : commandArgumentToFault p.argument with
    | none => exact .badFault hid hf
    | some f => simpa only [processInjectFault_snd] using Step.inject f hid hf
  | _ => exact .idle (by simp [hid]) (by simp [hid]) (by simp [hid])

theorem process_step (c : CommandProcessor) (p : CommandPacket) :
    Step c p (c.process p).1.status (c.process p).2 := execute_step c p

namespace Step

variable {c c' : CommandProcessor} {p : CommandPacket} {status : CommandStatus}

theorem of_clearFault (h : Step c p status c') (hid : p.commandId = .clearFault) :
    status = .accepted ∧ c' = { c with lastFault := .none } := by
  cases h with
  | clear => exact ⟨rfl, rfl⟩
  | idle _ _ hne => exact absurd hid hne
  | badMode h | badFault h => exact absurd (hid.symm.trans h) (by simp)
  | move _ h | refuse _ h | failedExit _ h | recoveryLimit _ h | inject _ h =>
    exact absurd (hid.symm.trans h) (by simp)

theorem of_injectFault (h : Step c p status c') (hid : p.commandId = .injectFault) {f : FaultCode}
    (hf : commandArgumentToFault p.argument = some f) : status = .accepted ∧ c'.lastFault = f := by
  cases h with
  | inject f' _ hf' => exact ⟨rfl, Option.some.inj (hf'.symm.trans hf)⟩
  | badFault _ hnone => exact absurd (hnone.symm.trans hf) (by simp)
  | idle _ hne => exact absurd hid hne
  | clear h | badMode h => exact absurd (hid.symm.trans h) (by simp)
  | move _ h | refuse _ h | failedExit _ h | recoveryLimit _ h => exact absurd (hid.symm.trans h) (by simp)

/-- a SET_MODE along an edge of the table moves the mode and keeps the active fault -/
theorem of_setMode (h : Step c p status c') (hid : p.commandId = .setMode) {m : Mode}
    (hm : commandArgumentToMode p.argument = some m)
    (hv : ModeManager.isValidTransition c.modeManager.mode m = true) :
    status = .accepted ∧ c'.modeManager.mode = m ∧ c'.lastFault = c.lastFault := by
  have hsame : ∀ m', commandArgumentToMode p.argument = some m' → m' = m := fun m' h =>
    Option.some.inj (h.symm.trans hm)
  have hrefused : ∀ m', commandArgumentToMode p.argument = some m' →
      ModeManager.isValidTransition c.modeManager.mode m' ≠ false := by
    intro m' hm' h
    rw [hsame m' hm', hv] at h
    cases h
  cases h with
  | move m' _ hm' _ => exact ⟨rfl, hsame m' hm', rfl⟩
  | badMode _ hnone => exact absurd (hnone.symm.trans hm) (by simp)
  | refuse m' _ hm' h | failedExit m' _ hm' h | recoveryLimit m' _ hm' h => exact absurd h (hrefused m' hm')
  | idle hne => exact absurd hid hne
  | clear h | badFault h | inject _ h => exact absurd (hid.symm.trans h) (by simp)

/-- an id without an enumerator falls through the switch -/
theorem of_unknown (h : Step c p status c') (hid : p.commandId.toRaw ∉ commandIdValues) :
    status = .accepted ∧ c' = c := by
  have hne : ∀ id : CommandId, id.toRaw ∈ commandIdValues → p.commandId ≠ id := by
    rintro id hmem rfl
    exact hid hmem
  cases h with
  | idle => exact ⟨rfl, rfl⟩
  | clear h | badMode h | badFault h => exact absurd h (hne _ (by decide))
  | move _ h | refuse _ h | failedExit _ h | recoveryLimit _ h | inject _ h => exact absurd h (hne _ (by decide))

end Step

/-! ## Commands without an enumerator -/

/-- the mode, the active fault and the recovery counter -/
def observed (c : CommandProcessor) : Mode × FaultCode × UInt32 :=
  (c.modeManager.mode, c.lastFault, c.recoverySupervisor.failedAttempts)

/-- what rejecting unknown commands asks of one packet in one state: an id without an enumerator is reported as unknown
and changes nothing that is observed, and what is accepted has an enumerator -/
def RejectsUnknown (c : CommandProcessor) (packet : CommandPacket) : Prop :=
  (packet.commandId.toRaw ∉ commandIdValues →
    (c.process packet).1.status = .rejectedUnknownCommand ∧ (c.process packet).2.observed = c.observed) ∧
  ((c.process packet).1.status = .accepted → packet.commandId.toRaw ∈ commandIdValues)

/-- **Unknown commands are not rejected by the processor.** In every state, a packet is treated as asked exactly when its
id has an enumerator. Every other id is accepted, with an empty message, and the state stays what it was. -/
theorem rejectsUnknown_iff (c : CommandProcessor) (packet : CommandPacket) :
    (RejectsUnknown c packet ↔ packet.commandId.toRaw ∈ commandIdValues) ∧
    (packet.commandId.toRaw ∉ commandIdValues →
      (c.process packet).1.status = .accepted ∧ (c.process packet).1.message = "" ∧ (c.process packet).2 = c) := by
  have hunknown : packet.commandId.toRaw ∉ commandIdValues →
      (c.process packet).1.status = .accepted ∧ (c.process packet).2 = c := (process_step c packet).of_unknown
  refine ⟨⟨?_, ?_⟩, ?_⟩
  · rintro ⟨-, haccepted⟩
    by_contra hid
    exact hid (haccepted (hunknown hid).1)
  · intro hid
    exact ⟨fun h => absurd hid h, fun _ => hid⟩
  · intro hid
    obtain ⟨hstatus, hstate⟩ := hunknown hid
    refine ⟨hstatus, ?_, hstate⟩
    obtain ⟨raw, hraw⟩ : ∃ raw, packet.commandId = .other raw := by
      cases h : packet.commandId with
      | other raw => exact ⟨raw, rfl⟩
      | _ => exact absurd (by rw [h]; decide) hid
    simp only [process, execute, hraw]

/-- command id 5, the first without an enumerator -/
def unknownCommand : CommandPacket := { sequenceNumber := 1, commandId := CommandId.ofRaw 5 }

/-- the processor of a new application accepts it -/
theorem unknownCommand_accepted :
    (({} : CommandProcessor).process unknownCommand).1.status = .accepted ∧
      unknownCommand.commandId.toRaw ∉ commandIdValues ∧ ¬ RejectsUnknown {} unknownCommand := by
  have haccepted : (({} : CommandProcessor).process unknownCommand).1.status = .accepted := by decide
  have hid : unknownCommand.commandId.toRaw ∉ commandIdValues := by decide
  exact ⟨haccepted, hid, fun h => hid (h.2 haccepted)⟩

end CommandProcessor

end AstraFsw
