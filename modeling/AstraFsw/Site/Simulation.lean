/-
The browser console against the flight application.

An `Exchange` is one ground command given to both: to the console as a request by names, to the application as a packet
inside a step with nominal health. `Agrees` relates the states, the console's names to the application's enumerators.
- `transitionAllowed_toString`, `faults_lookup`: the tables are the switches of the mode manager and the FDIR manager;
- `Agrees.verdict`, `policyAllows_eq_none`, `Agrees.process`: guard, policy and processor answer alike, each by its
  rules;
- `simulates`: so does a whole step, and it keeps the relation;
- `console_simulates_app`: so does every run.
-/
import AstraFsw.App.Recovery
import AstraFsw.Site.Model

namespace AstraFsw.Site

open FdirManager (dispositionFor faultMode responseMode)

/-! ## The tables -/

theorem toString_eq_safe {m : Mode} : m.toString = "SAFE" ↔ m = .safe := by cases m <;> decide

theorem toString_eq_recovery {m : Mode} : m.toString = "RECOVERY" ↔ m = .recovery := by cases m <;> decide

theorem toString_eq_test {m : Mode} : m.toString = "TEST" ↔ m = .test := by cases m <;> decide

/-- every mode has a row -/
theorem transitions_lookup (m : Mode) : (model.transitions.lookup m.toString).isNone = false := by cases m <;> decide

/-- **The transition table is the mode manager's switch.** -/
theorem transitionAllowed_toString (source target : Mode) :
    transitionAllowed source.toString target.toString = ModeManager.isValidTransition source target := by
  cases source <;> cases target <;> decide

/-- the mode a response asks for, if it moves at all -/
def target? : FaultResponse → Option Mode
  | .none => none
  | .holdCurrentMode => none
  | .enterDegradedSensor => some .degradedSensor
  | .enterDegradedPayload => some .degradedPayload
  | .enterSafe => some .safe

/-- **The fault table is the FDIR manager's switch.** -/
theorem faults_lookup {f : FaultCode} (h : f.isNamed = true) :
    ∃ entry, model.faults.lookup f.toString = some entry ∧
      entry.targetMode = (target? (dispositionFor f).response).map Mode.toString ∧
      entry.severity = (dispositionFor f).severity.toString := by
  cases f with
  | other raw => simp [FaultCode.isNamed] at h
  | _ => exact ⟨_, rfl, rfl, rfl⟩

theorem faultMode_eq (r : FaultResponse) (m : Mode) :
    faultMode r m = match target? r with
      | none => m
      | some t => if ModeManager.isValidTransition m t then t else .safe := by
  cases r with
  | none => exact FdirManager.faultMode_none m
  | holdCurrentMode => exact FdirManager.faultMode_holdCurrentMode m
  | _ => rfl

/-! ## Agreement -/

/-- the console's state shows what guard and processor hold -/
structure Agrees (s : State) (guard : GroundCommandGuard) (c : CommandProcessor) : Prop where
  mode : s.mode = c.modeManager.mode.toString
  fault : s.fault = c.lastFault.toString
  /-- so the name determines the code -/
  named : c.lastFault.isNamed = true
  sequence : s.highestCommandSequence = if guard.sequenceInitialized then some guard.highestSequence.toNat else none
  attempts : s.recoveryAttempts = c.recoverySupervisor.failedAttempts.toNat

namespace Agrees

variable {s : State} {guard : GroundCommandGuard} {c : CommandProcessor}

theorem initial (configuration : RecoverySupervisorConfig) (guardConfiguration : GroundCommandGuardConfig) :
    Agrees {} { configuration := guardConfiguration } { recoverySupervisor := { configuration } } :=
  ⟨rfl, rfl, rfl, rfl, rfl⟩

/-- events do not matter -/
theorem addEvent (h : Agrees s guard c) (kind message severity : String) :
    Agrees (s.addEvent kind message severity) guard c :=
  ⟨h.mode, h.fault, h.named, h.sequence, h.attempts⟩

/-- the acknowledgement of a command does not matter -/
theorem reply (h : Agrees s guard c) (command : String) (sequence : ℕ) (status detail : String) :
    Agrees (s.reply command sequence status detail).2 guard c :=
  ⟨h.mode, h.fault, h.named, h.sequence, h.attempts⟩

theorem take (h : Agrees s guard c) (number : UInt32) :
    Agrees { s with highestCommandSequence := some number.toNat } (guard.take number) c :=
  ⟨h.mode, h.fault, h.named, rfl, h.attempts⟩

theorem forceMode (h : Agrees s guard c) (m : Mode) (reason : String) :
    Agrees (s.forceMode m.toString reason) guard { c with modeManager := ⟨m⟩ } := by
  unfold State.forceMode
  split_ifs <;> exact ⟨rfl, h.fault, h.named, h.sequence, h.attempts⟩

/-- a recovery count set on both sides -/
theorem withAttempts (h : Agrees s guard c) {attempts : ℕ} {supervisor : RecoverySupervisor}
    (hattempts : attempts = supervisor.failedAttempts.toNat) :
    Agrees { s with recoveryAttempts := attempts } guard { c with recoverySupervisor := supervisor } :=
  ⟨h.mode, h.fault, h.named, h.sequence, hattempts⟩

/-- the application has no such flag -/
theorem withActive (h : Agrees s guard c) (active : Bool) : Agrees { s with recoveryActive := active } guard c :=
  ⟨h.mode, h.fault, h.named, h.sequence, h.attempts⟩

/-! ## Faults -/

theorem setFault (h : Agrees s guard c) {f : FaultCode} (hf : f.isNamed = true) :
    Agrees { s with fault := f.toString } guard { c with lastFault := f } :=
  ⟨h.mode, rfl, hf, h.sequence, h.attempts⟩

theorem enterTarget (h : Agrees s guard c) (r : FaultResponse) (faultName : String) :
    Agrees (s.enterTarget ((target? r).map Mode.toString) faultName) guard
      { c with modeManager := ⟨faultMode r c.modeManager.mode⟩ } := by
  rw [faultMode_eq]
  cases target? r with
  | none => exact h
  | some t =>
    simp only [Option.map_some, State.enterTarget, h.mode, transitionAllowed_toString]
    split_ifs with hvalid hsafe
    · exact h.forceMode t faultName
    · exact h.forceMode .safe _
    · -- SAFE stays where it is
      rw [ne_eq, toString_eq_safe, not_not] at hsafe
      rw [← hsafe]
      exact h

/-- **Injection.** The console's fallback ends in the mode of the fault response. -/
theorem applyFault (h : Agrees s guard c) {f : FaultCode} (hf : f.isNamed = true) (origin : String) :
    (s.applyFault f.toString origin).1.status = "ACCEPTED" ∧
      Agrees (s.applyFault f.toString origin).2 guard { c with
        modeManager := ⟨faultMode (dispositionFor f).response c.modeManager.mode⟩, lastFault := f } := by
  obtain ⟨entry, hentry, htarget, -⟩ := faults_lookup hf
  have hset := h.setFault hf
  simp only [State.applyFault, hentry, htarget]
  refine ⟨trivial, ?_⟩
  by_cases hnew : s.fault ≠ f.toString
  · rw [if_pos hnew]
    exact (hset.addEvent _ _ _).enterTarget _ _
  · rw [if_neg hnew]
    exact hset.enterTarget _ _

/-! ## Modes -/

/-- the console counts a failed exit where the table refuses one from RECOVERY -/
theorem exit_iff (h : Agrees s guard c) (m : Mode) :
    (s.mode = "RECOVERY" ∧ m.toString ≠ "RECOVERY" ∧ (!transitionAllowed "RECOVERY" m.toString) = true) ↔
      c.modeManager.mode = .recovery ∧ ModeManager.isValidTransition c.modeManager.mode m = false := by
  have hallowed : transitionAllowed "RECOVERY" m.toString = ModeManager.isValidTransition .recovery m :=
    transitionAllowed_toString .recovery m
  rw [h.mode, toString_eq_recovery, ne_eq, toString_eq_recovery, hallowed, Bool.not_eq_true']
  constructor
  · rintro ⟨hr, -, hv⟩
    exact ⟨hr, by rw [hr, hv]⟩
  · rintro ⟨hr, hv⟩
    rw [hr] at hv
    refine ⟨hr, ?_, hv⟩
    -- RECOVERY has its own edge
    rintro rfl
    rw [ModeManager.isValidTransition_self] at hv
    cases hv

/-- an accepted transition: both sides restart the count where a session begins and where one ends -/
theorem move (h : Agrees s guard c) (hvalid : c.recoverySupervisor.valid = true) {m : Mode}
    (hv : ModeManager.isValidTransition c.modeManager.mode m = true) :
    (s.processSetMode m.toString).1.status = "ACCEPTED" ∧
      Agrees (s.processSetMode m.toString).2 guard { c with
        modeManager := ⟨m⟩, recoverySupervisor := c.recoverySupervisor.afterTransition c.modeManager.mode m } := by
  have hmoved := h.forceMode m "SET_MODE"
  have hexit : ¬ (c.modeManager.mode = .recovery ∧ ModeManager.isValidTransition c.modeManager.mode m = false) := by
    rw [hv]
    exact fun hexit => Bool.noConfusion hexit.2
  rw [State.processSetMode, transitions_lookup, if_neg Bool.false_ne_true, if_neg (mt (h.exit_iff m).1 hexit), h.mode,
    transitionAllowed_toString, hv, Bool.not_true, if_neg Bool.false_ne_true]
  refine ⟨rfl, ?_⟩
  simp only [toString_eq_safe, toString_eq_recovery, ne_eq, RecoverySupervisor.afterTransition]
  have hbegin : 0 = c.recoverySupervisor.beginSession.failedAttempts.toNat := rfl
  have hsuccess : 0 = c.recoverySupervisor.recordSuccess.2.failedAttempts.toNat := by
    rw [RecoverySupervisor.recordSuccess_snd _ hvalid]; rfl
  split_ifs
  · exact (hmoved.withAttempts hbegin).withActive true
  · exact (hmoved.withAttempts hsuccess).withActive false
  · exact hmoved

/-- a refused transition outside RECOVERY changes nothing -/
theorem refuse (h : Agrees s guard c) {m : Mode} (hv : ModeManager.isValidTransition c.modeManager.mode m = false)
    (hr : c.modeManager.mode ≠ .recovery) :
    (s.processSetMode m.toString).1.status = "REJECTED_INVALID_TRANSITION" ∧
      Agrees (s.processSetMode m.toString).2 guard c := by
  have hexit : ¬ (c.modeManager.mode = .recovery ∧ ModeManager.isValidTransition c.modeManager.mode m = false) :=
    fun hexit => hr hexit.1
  rw [State.processSetMode, transitions_lookup, if_neg Bool.false_ne_true, if_neg (mt (h.exit_iff m).1 hexit), h.mode,
    transitionAllowed_toString, hv, Bool.not_false, if_pos rfl]
  exact ⟨rfl, h⟩

/-- a failed exit from RECOVERY is counted, and forces SAFE at the limit -/
theorem failedExit {count : ℕ} (h : Agrees s guard c) (hinv : FlightSoftwareApp.RecoveryInv 3 c count) {m : Mode}
    (hv : ModeManager.isValidTransition c.modeManager.mode m = false) (hr : c.modeManager.mode = .recovery) :
    (s.processSetMode m.toString).1.status =
        (if c.recoverySupervisor.atLimit then "REJECTED_RECOVERY_LIMIT" else "REJECTED_INVALID_TRANSITION") ∧
      Agrees (s.processSetMode m.toString).2 guard { c with
        modeManager := if c.recoverySupervisor.atLimit then ⟨.safe⟩ else c.modeManager
        recoverySupervisor := c.recoverySupervisor.afterFailure } := by
  have hcounted : s.recoveryAttempts + 1 = c.recoverySupervisor.afterFailure.failedAttempts.toNat := by
    rw [hinv.afterFailure_toNat hr, h.attempts]
  have hlimit : s.recoveryAttempts + 1 ≥ model.maximumFailedExits ↔ c.recoverySupervisor.atLimit = true := by
    obtain ⟨hcount, hlt⟩ := hinv.session hr
    rw [hinv.atLimit_iff hr, h.attempts, hcount]
    change count + 1 ≥ 3 ↔ _
    omega
  have hfailed := h.withAttempts hcounted
  rw [State.processSetMode, transitions_lookup, if_neg Bool.false_ne_true, if_pos ((h.exit_iff m).2 ⟨hr, hv⟩)]
  simp only [hlimit]
  split_ifs
  · exact ⟨rfl, (hfailed.forceMode .safe _).withActive false⟩
  · exact ⟨rfl, hfailed⟩

end Agrees

/-! ## Commands -/

/-- the console's argument names what the packet's argument decodes to; the other commands have no argument -/
def SameArgument : CommandId → Option String → UInt32 → Prop
  | .setMode, name, argument => ∃ m, name = some m.toString ∧ commandArgumentToMode argument = some m
  | .injectFault, name, argument => ∃ f, name = some f.toString ∧ commandArgumentToFault argument = some f
  | .other _, _, _ => False
  | _, _, _ => True

/-- the boxes as a command policy; there is no box for NOOP and REQUEST_TELEMETRY -/
def Policy.authorization (policy : Policy) : CommandAuthorizationConfig where
  allowSetMode := policy.allowSetMode
  allowFaultInjection := policy.allowFaultInjection
  allowFaultClear := policy.allowFaultClear
  allowTestMode := policy.allowTestMode

section

variable {s : State} {guard : GroundCommandGuard} {c : CommandProcessor} {packet : CommandPacket}
  {argument : Option String}

/-- **The boxes permit what the authorizer permits.** -/
theorem policyAllows_eq_none (policy : Policy) (h : SameArgument packet.commandId argument packet.argument) :
    policyAllows policy packet.commandId.toString argument = none ↔
      CommandAuthorizer.permits policy.authorization packet = true := by
  unfold CommandAuthorizer.permits
  cases hid : packet.commandId with
  | other raw => rw [hid] at h; exact h.elim
  | setMode =>
    rw [hid] at h
    obtain ⟨m, rfl, hm⟩ := h
    have htest : some m.toString = some "TEST" ↔ m = .test := by rw [Option.some.injEq, toString_eq_test]
    simp only [policyAllows, CommandId.toString, htest, hm, Policy.authorization]
    cases policy.allowSetMode <;> cases policy.allowTestMode <;> by_cases ht : m = .test <;> simp [ht]
  | noop | requestTelemetry => simp [policyAllows, CommandId.toString, Policy.authorization]
  | injectFault =>
    cases hbox : policy.allowFaultInjection <;>
      simp [policyAllows, CommandId.toString, Policy.authorization, hbox]
  | clearFault =>
    cases hbox : policy.allowFaultClear <;> simp [policyAllows, CommandId.toString, Policy.authorization, hbox]

/-- **The processors answer alike**, by each of the processor's rules. -/
theorem Agrees.process {c' : CommandProcessor} {status : CommandStatus} {count : ℕ} (h : Agrees s guard c)
    (hinv : FlightSoftwareApp.RecoveryInv 3 c count) (hstep : CommandProcessor.Step c packet status c')
    (hargument : SameArgument packet.commandId argument packet.argument) :
    (s.processCommand packet.commandId.toString argument).1.status = status.toString ∧
      Agrees (s.processCommand packet.commandId.toString argument).2 guard c' := by
  have hmode : packet.commandId = .setMode → ∀ m, commandArgumentToMode packet.argument = some m →
      s.processCommand packet.commandId.toString argument = s.processSetMode m.toString := by
    intro hid m hm
    rw [hid] at hargument ⊢
    obtain ⟨m', rfl, hm'⟩ := hargument
    obtain rfl : m' = m := Option.some.inj (hm'.symm.trans hm)
    rfl
  cases hstep with
  | idle hset hinject hclear =>
    cases hid : packet.commandId with
    | noop | requestTelemetry => exact ⟨rfl, h⟩
    | setMode => exact absurd hid hset
    | injectFault => exact absurd hid hinject
    | clearFault => exact absurd hid hclear
    | other raw => rw [hid] at hargument; exact hargument.elim
  | clear hid =>
    rw [hid]
    exact ⟨rfl, (h.setFault (f := .none) rfl).addEvent _ _ _⟩
  | badMode hid hnone =>
    rw [hid] at hargument
    obtain ⟨m, -, hm⟩ := hargument
    rw [hnone] at hm
    cases hm
  | badFault hid hnone =>
    rw [hid] at hargument
    obtain ⟨f, -, hf⟩ := hargument
    rw [hnone] at hf
    cases hf
  | move m hid hm hv =>
    rw [hmode hid m hm]
    exact h.move hinv.valid hv
  | refuse m hid hm hv hr =>
    rw [hmode hid m hm]
    exact h.refuse hv hr
  | failedExit m hid hm hv hr hl =>
    rw [hmode hid m hm]
    have hexit := h.failedExit hinv hv hr
    rw [hl] at hexit
    exact hexit
  | recoveryLimit m hid hm hv hr hl =>
    rw [hmode hid m hm]
    have hexit := h.failedExit hinv hv hr
    rw [hl] at hexit
    exact hexit
  | inject f hid hf =>
    rw [hid] at hargument ⊢
    obtain ⟨f', rfl, hf'⟩ := hargument
    obtain rfl : f' = f := Option.some.inj (hf'.symm.trans hf)
    exact h.applyFault (commandArgumentToFault_isNamed hf) "GROUND"

end

/-! ## The guard -/

theorem sequenceIsNewer_toNat (candidate reference : UInt32) :
    sequenceIsNewer candidate.toNat reference.toNat = GroundCommandGuard.sequenceIsNewer candidate reference := by
  have hreference := reference.toNat_lt
  have hdistance : ((candidate.toNat : ℤ) - reference.toNat + uint32Mod).tmod uint32Mod =
      ((candidate.toNat : ℤ) - reference.toNat) % 2 ^ 32 := by
    rw [Int.tmod_eq_emod_of_nonneg (by rw [uint32Mod]; omega), uint32Mod]
    omega
  rw [Bool.eq_iff_iff, GroundCommandGuard.sequenceIsNewer_iff, SerialNumber.newer_iff (by norm_num)]
  simp only [sequenceIsNewer, hdistance, Bool.and_eq_true, bne_iff_ne, ne_eq, decide_eq_true_eq, uint32Half]
  push_cast
  omega

/-- the limits of the tables and the policy of the boxes -/
def configuration (policy : Policy) (eventLogCapacity : ℕ) : FlightSoftwareAppConfig where
  groundCommandGuard :=
    { maximumAgeMs := UInt64.ofInt model.maximumAgeMs, maximumFutureSkewMs := UInt64.ofInt model.maximumFutureSkewMs }
  commandAuthorization := policy.authorization
  recoverySupervisor := { maximumFailedAttempts := UInt32.ofNat model.maximumFailedExits }
  eventLogCapacity := eventLogCapacity

/-- one ground command, given to the console as a request and to the application as a packet inside a step -/
structure Exchange where
  request : Request
  packet : CommandPacket
  input : FlightSoftwareStepInput
  carried : input.command = some packet
  command : request.command = packet.commandId.toString
  argument : SameArgument packet.commandId request.argument packet.argument
  sequence : request.sequence = packet.sequenceNumber.toNat
  /-- the mission time leaves room for the offset -/
  stamped : (packet.timestampMs.toNat : ℤ) = input.timestampMs.toNat + request.timestampOffsetMs
  nominal : (FlightSoftwareApp.healthEvaluation {} input).status ≠ .critical

namespace Exchange

variable (e : Exchange)

theorem toUint32_sequence : toUint32 e.request.sequence = e.packet.sequenceNumber.toNat := by
  have hlt := e.packet.sequenceNumber.toNat_lt
  rw [e.sequence, toUint32, uint32Mod]
  omega

/-- the window of the guard, from the offset -/
theorem inWindow_iff :
    GroundCommandGuard.InWindow (configuration {} 0).groundCommandGuard e.packet.timestampMs e.input.timestampMs ↔
      ¬ e.request.timestampOffsetMs < -model.maximumAgeMs ∧
      ¬ e.request.timestampOffsetMs > model.maximumFutureSkewMs := by
  have hstamped := e.stamped
  change _ ≤ _ + 500 ∧ _ ≤ _ + 2000 ↔ ¬ _ < (-2000 : ℤ) ∧ ¬ _ > (500 : ℤ)
  omega

theorem future_iff : e.packet.timestampMs > e.input.timestampMs ↔ 0 < e.request.timestampOffsetMs := by
  have hstamped := e.stamped
  rw [gt_iff_lt, UInt64.lt_iff_toNat_lt]
  omega

end Exchange

/-- the console's checks as a status of the guard -/
def State.verdict (s : State) (offset : ℤ) (sequence : ℕ) : GroundCommandGuardStatus :=
  if offset < -model.maximumAgeMs then .rejectedStaleTimestamp
  else if offset > model.maximumFutureSkewMs then .rejectedFutureTimestamp
  else if s.highestCommandSequence = some sequence then .rejectedDuplicateSequence
  else if s.highestCommandSequence.any fun reference => !sequenceIsNewer sequence reference then
    .rejectedReplayedSequence
  else .accepted

theorem sendCommand_of_verdict (s : State) (policy : Policy) (request : Request) :
    (s.verdict request.timestampOffsetMs (toUint32 request.sequence) = .accepted →
      s.sendCommand policy request = s.dispatch policy request (toUint32 request.sequence)) ∧
    (s.verdict request.timestampOffsetMs (toUint32 request.sequence) ≠ .accepted → ∃ detail,
      s.sendCommand policy request = s.reply request.command (toUint32 request.sequence)
        (FlightSoftwareApp.refusalStatus
          (s.verdict request.timestampOffsetMs (toUint32 request.sequence))).toString detail) := by
  unfold State.verdict State.sendCommand
  simp only
  split_ifs
  · exact ⟨nofun, fun _ => ⟨_, rfl⟩⟩
  · exact ⟨nofun, fun _ => ⟨_, rfl⟩⟩
  · exact ⟨nofun, fun _ => ⟨_, rfl⟩⟩
  · exact ⟨nofun, fun _ => ⟨_, rfl⟩⟩
  · exact ⟨fun _ => rfl, fun hne => absurd rfl hne⟩

section

variable {s : State} {guard : GroundCommandGuard} {c : CommandProcessor}

/-- the sequence rules -/
theorem Agrees.sequenceStatus (h : Agrees s guard c) (number : UInt32) :
    (if guard.sequenceOk number then GroundCommandGuardStatus.accepted
      else if number = guard.highestSequence then .rejectedDuplicateSequence else .rejectedReplayedSequence) =
    if s.highestCommandSequence = some number.toNat then .rejectedDuplicateSequence
    else if s.highestCommandSequence.any fun reference => !sequenceIsNewer number.toNat reference then
      .rejectedReplayedSequence
    else .accepted := by
  rw [h.sequence, GroundCommandGuard.sequenceOk]
  cases guard.sequenceInitialized with
  | false => rfl
  | true =>
    by_cases hduplicate : number = guard.highestSequence
    · rw [hduplicate, GroundCommandGuard.not_sequenceIsNewer_self]
      simp
    · have hne : ¬ some guard.highestSequence.toNat = some number.toNat := by
        rw [Option.some.injEq, UInt32.toNat_inj]
        exact fun heq => hduplicate heq.symm
      simp only [if_true, if_neg hne, if_neg hduplicate, Option.any_some, sequenceIsNewer_toNat, Bool.not_true,
        Bool.false_or]
      cases GroundCommandGuard.sequenceIsNewer number guard.highestSequence <;> rfl

/-- **The guards answer alike.** -/
theorem Agrees.verdict (h : Agrees s guard c)
    (hconfiguration : guard.configuration = (configuration {} 0).groundCommandGuard) (e : Exchange) :
    (guard.evaluate e.packet.sequenceNumber e.packet.timestampMs e.input.timestampMs).1.status =
      s.verdict e.request.timestampOffsetMs e.packet.sequenceNumber.toNat := by
  have hvalid : guard.valid = true := by
    rw [GroundCommandGuard.valid, hconfiguration]
    decide
  rw [(GroundCommandGuard.evaluate_spec hvalid _ _ _).1, hconfiguration, State.verdict]
  by_cases hwindow : GroundCommandGuard.InWindow (configuration {} 0).groundCommandGuard e.packet.timestampMs
      e.input.timestampMs
  · obtain ⟨hstale, hfuture⟩ := e.inWindow_iff.1 hwindow
    rw [if_pos hwindow, if_neg hstale, if_neg hfuture, h.sequenceStatus]
  · have hout := mt e.inWindow_iff.2 hwindow
    have hmodel : model.maximumAgeMs = 2000 ∧ model.maximumFutureSkewMs = 500 := ⟨rfl, rfl⟩
    rw [if_neg hwindow]
    by_cases hfuture : 0 < e.request.timestampOffsetMs
    · rw [if_pos (e.future_iff.2 hfuture), if_neg (by omega), if_pos (by omega)]
    · rw [if_neg (mt e.future_iff.1 hfuture), if_pos (by omega)]

end

/-! ## One step -/

section

variable {policy : Policy} {eventLogCapacity : ℕ} {s : State} {app : FlightSoftwareApp}

/-- no condition of the health monitor is critical -/
theorem Exchange.criticalFault_eq_none (e : Exchange) (h : app.ConfiguredBy (configuration policy eventLogCapacity)) :
    HealthMonitor.criticalFault (app.healthEvaluation e.input) = none := by
  have hhealth : app.healthEvaluation e.input = FlightSoftwareApp.healthEvaluation {} e.input := by
    rw [FlightSoftwareApp.healthEvaluation, FlightSoftwareApp.healthEvaluation, HealthMonitor.evaluate, h.thresholds]
    rfl
  rw [hhealth]
  exact if_neg e.nominal

theorem Exchange.loop_not_missed (e : Exchange) (h : app.ConfiguredBy (configuration policy eventLogCapacity)) :
    ¬ app.loopMissed e.input := by
  intro hmissed
  have hnone := e.criticalFault_eq_none h
  rw [FlightSoftwareApp.criticalFault_healthEvaluation, if_pos hmissed] at hnone
  cases hnone

theorem Exchange.countAfter_eq (e : Exchange) (h : app.ConfiguredBy (configuration policy eventLogCapacity)) :
    (app.armedWatchdog e.input).countAfter e.input.loopDurationMs =
      (app.armedWatchdog e.input).missedDeadlineCount := by
  refine if_neg ?_
  have hmissed := e.loop_not_missed h
  rw [FlightSoftwareApp.loopMissed, h.thresholds] at hmissed
  rw [FlightSoftwareApp.armedWatchdog_config, h.watchdog]
  exact hmissed

/-- **No internal fault is selected**, as long as the watchdog has not expired. -/
theorem Exchange.primaryFault_eq_none (e : Exchange) (h : app.ConfiguredBy (configuration policy eventLogCapacity))
    (hexpires : ¬ app.watchdogExpires e.input) : app.primaryFault e.input = .none := by
  have hnone := e.criticalFault_eq_none h
  rw [FlightSoftwareApp.criticalFault_healthEvaluation] at hnone
  rw [FlightSoftwareApp.primaryFault_eq]
  split_ifs at hnone with hloop hsensor hmemory hcpu
  rw [if_neg (fun hor => hor.elim hexpires hloop), if_neg hsensor, if_neg hmemory, if_neg hcpu]

/-- the watchdog's timeout has not passed -/
theorem not_elapsed {input : FlightSoftwareStepInput} (h : app.ConfiguredBy (configuration policy eventLogCapacity))
    (htime : app.watchdogInitialized = true →
      input.timestampMs.toNat < app.watchdog.lastKickMs.toNat + ({} : WatchdogConfig).timeoutMs.toNat) :
    ¬ (app.armedWatchdog input).elapsed input.timestampMs ≥ app.watchdog.config.timeoutMs.toUInt64 := by
  have htimeout : ({} : WatchdogConfig).timeoutMs.toNat = 500 := rfl
  rw [h.watchdog, ge_iff_le, UInt64.le_iff_toNat_le, UInt32.toNat_toUInt64, FlightSoftwareApp.armedWatchdog,
    Watchdog.elapsed, htimeout]
  split_ifs with hinit hle hle
  · have hbefore := htime hinit
    rw [UInt64.toNat_sub_of_le _ _ hle]
    omega
  · decide
  · -- the first step has just reset the watchdog
    rw [Watchdog.reset, UInt64.sub_self]
    decide
  · decide

/-- **The ground commands are answered alike.** -/
theorem Agrees.ground {count : ℕ} (h : Agrees s app.groundCommandGuard app.commandProcessor)
    (hconfigured : app.ConfiguredBy (configuration policy eventLogCapacity))
    (hcount : FlightSoftwareApp.RecoveryInv 3 app.commandProcessor count) (e : Exchange) {status : CommandStatus}
    {guard : GroundCommandGuard} {processor : CommandProcessor}
    (hstep : app.GroundStep e.packet e.input.timestampMs status guard processor) :
    (s.sendCommand policy e.request).1 = status.toString ∧
      Agrees (s.sendCommand policy e.request).2 guard processor := by
  obtain ⟨haccepted, hrefused⟩ := sendCommand_of_verdict s policy e.request
  rw [e.toUint32_sequence, ← h.verdict hconfigured.guard e] at haccepted hrefused
  have hpolicy := policyAllows_eq_none policy e.argument
  have hpermits : CommandAuthorizer.permits policy.authorization e.packet = app.permits e.packet := by
    rw [FlightSoftwareApp.permits, hconfigured.policy]
    rfl
  rw [← e.command, hpermits] at hpolicy
  cases hstep with
  | guardRefused hguard =>
    obtain ⟨detail, hreply⟩ := hrefused hguard
    rw [hreply]
    exact ⟨rfl, h.reply _ _ _ _⟩
  | unauthorized hguard hdenied =>
    obtain ⟨rejection, hrejection⟩ : ∃ rejection, policyAllows policy e.request.command e.request.argument =
        some rejection := by
      rw [← Option.ne_none_iff_exists', ne_eq, hpolicy, hdenied]
      exact Bool.false_ne_true
    rw [haccepted hguard, State.dispatch, hrejection]
    exact ⟨rfl, (h.take _).reply _ _ _ _⟩
  | processed _ _ hguard hpermitted hprocessed =>
    obtain ⟨hstatus, hagrees⟩ := (h.take e.packet.sequenceNumber).process hcount hprocessed e.argument
    rw [← e.command] at hstatus hagrees
    rw [haccepted hguard, State.dispatch, hpolicy.2 hpermitted]
    exact ⟨hstatus, hagrees.reply _ _ _ _⟩

end

/-- the states of the two sides after the same exchanges -/
structure Related (policy : Policy) (eventLogCapacity : ℕ) (s : State) (app : FlightSoftwareApp) : Prop where
  agrees : Agrees s app.groundCommandGuard app.commandProcessor
  configured : app.ConfiguredBy (configuration policy eventLogCapacity)
  /-- the failure count of a recovery session stays below the limit -/
  recovery : ∃ count, FlightSoftwareApp.RecoveryInv 3 app.commandProcessor count
  unmissed : app.watchdog.missedDeadlineCount = 0

/-- the step comes before the watchdog's timeout -/
def InTime (app : FlightSoftwareApp) (e : Exchange) : Prop :=
  app.watchdogInitialized = true →
    e.input.timestampMs.toNat < app.watchdog.lastKickMs.toNat + ({} : WatchdogConfig).timeoutMs.toNat

namespace Related

variable {policy : Policy} {eventLogCapacity : ℕ} {s : State} {app : FlightSoftwareApp}

theorem initial : Related policy eventLogCapacity {} (.ofConfig (configuration policy eventLogCapacity)) where
  agrees := Agrees.initial _ _
  configured := FlightSoftwareApp.configuredBy_ofConfig _
  recovery := ⟨0, rfl, by decide, nofun, fun _ _ => rfl⟩
  unmissed := rfl

theorem countAfter_eq_zero (h : Related policy eventLogCapacity s app) (e : Exchange) :
    (app.armedWatchdog e.input).countAfter e.input.loopDurationMs = 0 := by
  rw [e.countAfter_eq h.configured, FlightSoftwareApp.armedWatchdog]
  split_ifs
  · exact h.unmissed
  · rfl

theorem elapsed_lt (h : Related policy eventLogCapacity s app) (e : Exchange) (htime : InTime app e) :
    ¬ (app.armedWatchdog e.input).elapsed e.input.timestampMs ≥ app.watchdog.config.timeoutMs.toUInt64 :=
  not_elapsed h.configured htime

/-- **No internal fault is selected.** -/
theorem primaryFault_eq_none (h : Related policy eventLogCapacity s app) (e : Exchange) (htime : InTime app e) :
    app.primaryFault e.input = .none := by
  refine e.primaryFault_eq_none h.configured ?_
  rw [FlightSoftwareApp.watchdogExpires, h.countAfter_eq_zero, h.configured.watchdog]
  rintro (hlate | hmany)
  · have hlt := h.elapsed_lt e htime
    rw [h.configured.watchdog] at hlt
    exact hlt hlate
  · exact absurd hmany (by decide)

/-- **The ground commands are answered alike.** -/
theorem ground (h : Related policy eventLogCapacity s app) (e : Exchange) {status : CommandStatus}
    {guard : GroundCommandGuard} {processor : CommandProcessor}
    (hstep : app.GroundStep e.packet e.input.timestampMs status guard processor) :
    (s.sendCommand policy e.request).1 = status.toString ∧
      Agrees (s.sendCommand policy e.request).2 guard processor := by
  obtain ⟨count, hcount⟩ := h.recovery
  exact h.agrees.ground h.configured hcount e hstep

/-- **One exchange.** The statuses are the same and the states stay related. -/
theorem step (h : Related policy eventLogCapacity s app) (e : Exchange) (htime : InTime app e) :
    (s.sendCommand policy e.request).1 = (app.step e.input).1.commandResult.status.toString ∧
      Related policy eventLogCapacity (s.sendCommand policy e.request).2 (app.step e.input).2 := by
  obtain ⟨hstatus, hagrees⟩ := h.ground e (app.step_ground e.input e.carried)
  obtain ⟨count, hcount⟩ := h.recovery
  refine ⟨hstatus, ?_, h.configured.step, ⟨_, hcount.step e.input⟩, ?_⟩
  · rw [FlightSoftwareApp.step_commandProcessor, h.primaryFault_eq_none e htime, FlightSoftwareApp.respond_none]
    exact hagrees
  · rw [FlightSoftwareApp.step_watchdog]
    exact h.countAfter_eq_zero e

end Related

/-! ## Whole runs -/

theorem simulates (policy : Policy) (eventLogCapacity : ℕ) :
    Machine.Simulates (fun s (e : Exchange) => s.sendCommand policy e.request) (fun app e => app.step e.input)
      (Related policy eventLogCapacity) InTime fun status output => status = output.commandResult.status.toString :=
  fun _ _ e h htime => h.step e htime

/-- a step kicks the watchdog at its own time -/
theorem inTime_step (app : FlightSoftwareApp) (e e' : Exchange)
    (h : e'.input.timestampMs.toNat < e.input.timestampMs.toNat + ({} : WatchdogConfig).timeoutMs.toNat) :
    InTime (app.step e.input).2 e' := by
  intro _
  rw [FlightSoftwareApp.step_watchdog]
  exact h

/-- every branch shows the status it returns -/
theorem sendCommand_lastStatus (s : State) (policy : Policy) (request : Request) :
    (s.sendCommand policy request).2.lastStatus = (s.sendCommand policy request).1 := by
  unfold State.sendCommand State.dispatch
  simp only
  split_ifs
  case neg => split <;> rfl
  all_goals rfl

/-- the state of the console after a list of requests -/
def State.run (policy : Policy) (requests : List Request) : State :=
  Machine.final (fun s request => State.sendCommand s policy request) {} requests

/-- **The console's command path simulates the flight application.** Give both the same commands, in any number and
order, with any sequence numbers and offsets, the application with the tables' limits and the boxes' policy, each step
with nominal health and before the watchdog's timeout. After every command both acknowledge the same status and have the
same mode, active fault, highest sequence number and recovery-failure count. -/
theorem console_simulates_app (policy : Policy) (eventLogCapacity : ℕ) (exchanges : List Exchange)
    (htimes : exchanges.IsChain fun e e' =>
      e'.input.timestampMs.toNat < e.input.timestampMs.toNat + ({} : WatchdogConfig).timeoutMs.toNat)
    (pre : List Exchange) (e : Exchange) (post : List Exchange) (hsplit : exchanges = pre ++ e :: post) :
    let app := FlightSoftwareApp.run (configuration policy eventLogCapacity) (pre.map (·.input))
    let after := FlightSoftwareApp.run (configuration policy eventLogCapacity) ((pre ++ [e]).map (·.input))
    let console := State.run policy ((pre ++ [e]).map (·.request))
    let status := (app.step e.input).1.commandResult.status
    console.lastStatus = status.toString ∧ (app.step e.input).1.telemetry.lastCommandStatus = status.toRaw ∧
    console.mode = after.currentMode.toString ∧
    console.fault = after.lastFault.toString ∧ after.lastFault.isNamed = true ∧
    console.highestCommandSequence = (if after.groundCommandGuard.sequenceInitialized then
      some after.groundCommandGuard.highestSequence.toNat else none) ∧
    console.recoveryAttempts = after.commandProcessor.recoverySupervisor.failedAttempts.toNat := by
  intro app after console status
  have happ : ∀ es : List Exchange, FlightSoftwareApp.run (configuration policy eventLogCapacity) (es.map (·.input)) =
      Machine.final (fun app (e : Exchange) => FlightSoftwareApp.step app e.input)
        (.ofConfig (configuration policy eventLogCapacity)) es := fun es => Machine.final_map _ _ _ _
  have hconsole : ∀ es : List Exchange, State.run policy (es.map (·.request)) =
      Machine.final (fun s (e : Exchange) => State.sendCommand s policy e.request) {} es :=
    fun es => Machine.final_map _ _ _ _
  -- the application starts without a kick, so the first exchange is always in time
  have hallowed := Machine.allowed_of_isChain (fun app (e : Exchange) => FlightSoftwareApp.step app e.input)
    (fun app e e' _ h => inTime_step app e e' h) (s := .ofConfig (configuration policy eventLogCapacity)) htimes
    (fun _ _ => nofun)
  obtain ⟨hstatus, hrelated⟩ := (simulates policy eventLogCapacity).run Related.initial hallowed pre e post hsplit
  rw [← happ, ← hconsole] at hrelated
  rw [← happ] at hstatus
  have hlast : console.lastStatus = status.toString := by
    rw [← hstatus, ← sendCommand_lastStatus]
    exact congrArg State.lastStatus ((hconsole _).trans (Machine.final_snoc _ _ _ _))
  have htelemetry : (app.step e.input).1.telemetry.lastCommandStatus = status.toRaw := by
    change (app.groundPhase e.input).1.elim _ _ = ((app.groundPhase e.input).1.getD {}).commandResult.status.toRaw
    rw [app.groundPhase_of_some e.input e.carried]
    rfl
  exact ⟨hlast, htelemetry, hrelated.agrees.mode, hrelated.agrees.fault, hrelated.agrees.named,
    hrelated.agrees.sequence, hrelated.agrees.attempts⟩

/-- SET_MODE NOMINAL at the oldest offset of the window -/
def setNominal : Exchange where
  request := { command := "SET_MODE", argument := some "NOMINAL", sequence := 1, timestampOffsetMs := -2000 }
  packet := { sequenceNumber := 1, timestampMs := 8000, commandId := .setMode, argument := 1 }
  input := { command := some ⟨1, 8000, .setMode, 1⟩, timestampMs := 10000 }
  carried := rfl
  command := rfl
  argument := ⟨.nominal, rfl, by decide⟩
  sequence := rfl
  stamped := rfl
  nominal := by decide

/-- INJECT_FAULT CPU_OVERLOAD 499 ms later, at the newest offset -/
def injectCpuOverload : Exchange where
  request := { command := "INJECT_FAULT", argument := some "CPU_OVERLOAD", sequence := 2, timestampOffsetMs := 500 }
  packet := { sequenceNumber := 2, timestampMs := 10999, commandId := .injectFault, argument := 300 }
  input := { command := some ⟨2, 10999, .injectFault, 300⟩, timestampMs := 10499 }
  carried := rfl
  command := rfl
  argument := ⟨.cpuOverload, rfl, by decide⟩
  sequence := rfl
  stamped := rfl
  nominal := by decide

/-- the console ends in the application's mode, DEGRADED_PAYLOAD -/
theorem console_simulates_app_injection :
    (State.run {} [setNominal.request, injectCpuOverload.request]).mode =
      (FlightSoftwareApp.run (configuration {} 256) [setNominal.input, injectCpuOverload.input]).currentMode.toString ∧
    (State.run {} [setNominal.request, injectCpuOverload.request]).mode = "DEGRADED_PAYLOAD" :=
  ⟨(console_simulates_app {} 256 [setNominal, injectCpuOverload] (by decide) [setNominal] injectCpuOverload []
    rfl).2.2.1, by decide⟩

end AstraFsw.Site
