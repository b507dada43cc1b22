/-
Recovery sessions over whole runs.

A refused exit is a SET_MODE that passes guard and policy, decodes to a mode, and asks for a transition the table
prohibits, in a step that starts in RECOVERY. `exitsSinceEntry` counts them since the mode last became RECOVERY, as a
history variable: the supervisor's counter is not read.

- `RecoveryInv`: in RECOVERY the supervisor's counter is that count and below the limit; outside RECOVERY and SAFE it
  is 0, so a session never inherits failures, whichever mode it is entered from;
- `recovery_limit`: the N-th refused exit of a session, and no other command, is answered REJECTED_RECOVERY_LIMIT, and
  it moves the mode to SAFE.
-/
import AstraFsw.App.Step

namespace AstraFsw.FlightSoftwareApp

open FdirManager (dispositionFor faultMode)

/-! ## Refused exits -/

/-- the packet passes guard and policy, decodes to a mode, and the table prohibits the transition -/
def RefusedTransition (app : FlightSoftwareApp) (packet : CommandPacket) (nowMs : UInt64) : Prop :=
  app.guardStatus packet nowMs = .accepted ∧ app.permits packet = true ∧ packet.commandId = .setMode ∧
    ∃ m ∈ commandArgumentToMode packet.argument, ModeManager.isValidTransition app.currentMode m = false

instance (app : FlightSoftwareApp) (packet : CommandPacket) (nowMs : UInt64) :
    Decidable (app.RefusedTransition packet nowMs) := by
  unfold RefusedTransition; infer_instance

/-- the step carries a refused SET_MODE -/
def RefusedExit (app : FlightSoftwareApp) (input : FlightSoftwareStepInput) : Prop :=
  ∃ packet ∈ input.command, app.RefusedTransition packet input.timestampMs

instance (app : FlightSoftwareApp) (input : FlightSoftwareStepInput) : Decidable (app.RefusedExit input) := by
  unfold RefusedExit; infer_instance

/-- refused exits since the mode last became RECOVERY -/
def exitsSinceEntry (count : ℕ) (app : FlightSoftwareApp) (input : FlightSoftwareStepInput) : ℕ :=
  if app.currentMode = .recovery then (if app.RefusedExit input then count + 1 else count) else 0

theorem exitsSinceEntry_of_none {app : FlightSoftwareApp} {input : FlightSoftwareStepInput} (h : input.command = none)
    (count : ℕ) : exitsSinceEntry count app input = if app.currentMode = .recovery then count else 0 := by
  have hno : ¬ app.RefusedExit input := by simp [RefusedExit, h]
  rw [exitsSinceEntry, if_neg hno]

theorem exitsSinceEntry_of_some {app : FlightSoftwareApp} {input : FlightSoftwareStepInput} {packet : CommandPacket}
    (h : input.command = some packet) (count : ℕ) :
    exitsSinceEntry count app input = if app.currentMode = .recovery then
      (if app.RefusedTransition packet input.timestampMs then count + 1 else count) else 0 := by
  have hiff : app.RefusedExit input ↔ app.RefusedTransition packet input.timestampMs := by simp [RefusedExit, h]
  rw [exitsSinceEntry, if_congr hiff rfl rfl]

/-! ## The invariant -/

/-- a session's counter is its count of refused exits and below the limit; outside a session and SAFE it is 0 -/
structure RecoveryInv (N : ℕ) (c : CommandProcessor) (count : ℕ) : Prop where
  limit : c.recoverySupervisor.configuration.maximumFailedAttempts.toNat = N
  pos : 0 < N
  session : c.modeManager.mode = .recovery → c.recoverySupervisor.failedAttempts.toNat = count ∧ count < N
  outside : c.modeManager.mode ≠ .recovery → c.modeManager.mode ≠ .safe → c.recoverySupervisor.failedAttempts = 0

namespace RecoveryInv

variable {N count : ℕ} {c : CommandProcessor}

theorem valid (h : RecoveryInv N c count) : c.recoverySupervisor.valid = true := by
  have hne : c.recoverySupervisor.configuration.maximumFailedAttempts ≠ 0 := by
    intro h0
    have hl := h.limit
    rw [h0] at hl
    exact h.pos.ne hl
  simpa [RecoverySupervisor.valid] using hne

/-- the failure that reaches the limit is the N-th of the session -/
theorem atLimit_iff (h : RecoveryInv N c count) (hr : c.modeManager.mode = .recovery) :
    c.recoverySupervisor.atLimit = true ↔ count + 1 = N := by
  obtain ⟨hcount, hlt⟩ := h.session hr
  have hN := c.recoverySupervisor.configuration.maximumFailedAttempts.toNat_lt
  rw [h.limit] at hN
  have hadd : (c.recoverySupervisor.failedAttempts + 1).toNat = count + 1 := by
    rw [UInt32.toNat_add, hcount, UInt32.toNat_one]
    exact Nat.mod_eq_of_lt (by omega)
  simp only [RecoverySupervisor.atLimit, h.valid, Bool.true_and, decide_eq_true_eq, ge_iff_le,
    UInt32.le_iff_toNat_le, hadd, h.limit]
  omega

/-- below the limit the counter does not wrap -/
theorem afterFailure_toNat (h : RecoveryInv N c count) (hr : c.modeManager.mode = .recovery) :
    c.recoverySupervisor.afterFailure.failedAttempts.toNat = c.recoverySupervisor.failedAttempts.toNat + 1 := by
  obtain ⟨hcount, hlt⟩ := h.session hr
  have hN := c.recoverySupervisor.configuration.maximumFailedAttempts.toNat_lt
  rw [h.limit] at hN
  simp only [RecoverySupervisor.afterFailure, h.valid, if_true]
  rw [UInt32.toNat_add, UInt32.toNat_one]
  exact Nat.mod_eq_of_lt (by omega)

/-- the count matters in a session only -/
theorem mono {count' : ℕ} (h : RecoveryInv N c count) (heq : c.modeManager.mode = .recovery → count' = count) :
    RecoveryInv N c count' :=
  { h with session := fun hr => heq hr ▸ h.session hr }

/-- a fault response never enters RECOVERY, and enters a degraded mode from NOMINAL only -/
theorem respond {r : FaultResponse} {f : FaultCode} (h : RecoveryInv N c count) :
    RecoveryInv N { c with modeManager := ⟨faultMode r c.modeManager.mode⟩, lastFault := f } count := by
  rcases FdirManager.faultMode_cases r c.modeManager.mode with hm | hm | ⟨hn, hm⟩ | ⟨hn, hm⟩ <;> rw [hm]
  · exact ⟨h.limit, h.pos, h.session, h.outside⟩
  · exact ⟨h.limit, h.pos, by simp, by simp⟩
  all_goals exact ⟨h.limit, h.pos, by simp, fun _ _ => h.outside (by simp [hn]) (by simp [hn])⟩

/-- an accepted transition: the counter restarts where a session begins and where one ends -/
theorem move {m : Mode} (h : RecoveryInv N c count)
    (hv : ModeManager.isValidTransition c.modeManager.mode m = true) :
    RecoveryInv N { c with
      modeManager := ⟨m⟩
      recoverySupervisor := c.recoverySupervisor.afterTransition c.modeManager.mode m }
      (if c.modeManager.mode = .recovery then count else 0) := by
  refine ⟨by simpa using h.limit, h.pos, ?_, ?_⟩
  · rintro (rfl : m = .recovery)
    by_cases hr : c.modeManager.mode = .recovery
    · simpa [RecoverySupervisor.afterTransition, hr] using h.session hr
    · by_cases hs : c.modeManager.mode = .safe
      · simp [RecoverySupervisor.afterTransition, RecoverySupervisor.beginSession, hs, h.pos]
      · simp [RecoverySupervisor.afterTransition, hr, hs, h.outside hr hs, h.pos]
  · intro (hm : m ≠ .recovery) (hms : m ≠ .safe)
    by_cases hr : c.modeManager.mode = .recovery
    · simp [RecoverySupervisor.afterTransition, hr, hm, RecoverySupervisor.recordSuccess_snd _ h.valid]
    · have hs : c.modeManager.mode ≠ .safe := by
        intro hs
        rw [hs, ModeManager.isValidTransition_from_safe] at hv
        exact hv.elim hms hm
      simpa [RecoverySupervisor.afterTransition, hr, hs] using h.outside hr hs

/-- a failed exit below the limit counts one more -/
theorem failedExit (h : RecoveryInv N c count) (hr : c.modeManager.mode = .recovery)
    (hl : c.recoverySupervisor.atLimit = false) :
    RecoveryInv N { c with recoverySupervisor := c.recoverySupervisor.afterFailure } (count + 1) := by
  obtain ⟨hcount, hlt⟩ := h.session hr
  have hne : count + 1 ≠ N := mt (h.atLimit_iff hr).2 (by simp [hl])
  refine ⟨by simpa using h.limit, h.pos, fun _ => ⟨?_, by omega⟩, fun hn => absurd hr hn⟩
  rw [← hcount]
  exact h.afterFailure_toNat hr

end RecoveryInv

/-! ## Steps -/

variable {app : FlightSoftwareApp} {packet : CommandPacket} {nowMs : UInt64} {status : CommandStatus}
  {guard : GroundCommandGuard} {processor : CommandProcessor}

/-- a refused SET_MODE in RECOVERY is a recorded failure, and forces SAFE at the limit -/
theorem GroundStep.of_refusedTransition (h : app.GroundStep packet nowMs status guard processor)
    (hrefused : app.RefusedTransition packet nowMs) (hr : app.currentMode = .recovery) :
    (app.commandProcessor.recoverySupervisor.atLimit = true ∧ status = .rejectedRecoveryLimit ∧
        processor.modeManager.mode = .safe) ∨
      (app.commandProcessor.recoverySupervisor.atLimit = false ∧ status = .rejectedInvalidTransition ∧
        processor = { app.commandProcessor with
          recoverySupervisor := app.commandProcessor.recoverySupervisor.afterFailure }) := by
  obtain ⟨hguard, hpermit, hid, m, hm, hv⟩ := hrefused
  cases h with
  | guardRefused hg => exact absurd hguard hg
  | unauthorized _ hp => simp [hp] at hpermit
  | processed _ _ _ _ hstep =>
    cases hstep with
    | recoveryLimit _ _ _ _ _ hl => exact Or.inl ⟨hl, rfl, rfl⟩
    | failedExit _ _ _ _ _ hl => exact Or.inr ⟨hl, rfl, rfl⟩
    | move m' _ hm' hv' =>
      obtain rfl : m' = m := Option.some.inj (hm'.symm.trans hm)
      exact absurd (hv'.symm.trans hv) (by simp)
    | refuse _ _ _ _ hne => exact absurd hr hne
    | badMode _ hnone => exact absurd (hnone.symm.trans hm) (by simp)
    | idle hne => exact absurd hid hne
    | clear hid' | badFault hid' | inject _ hid' => exact absurd (hid.symm.trans hid') (by simp)

/-- a refused SET_MODE is the only command answered REJECTED_RECOVERY_LIMIT, and only in RECOVERY at the limit -/
theorem GroundStep.of_recoveryLimit (h : app.GroundStep packet nowMs status guard processor)
    (hs : status = .rejectedRecoveryLimit) :
    app.currentMode = .recovery ∧ app.RefusedTransition packet nowMs ∧
      app.commandProcessor.recoverySupervisor.atLimit = true := by
  cases h with
  | guardRefused hg => revert hs; cases app.guardStatus packet nowMs <;> simp [refusalStatus]
  | unauthorized => cases hs
  | processed _ _ hg hp hstep =>
    cases hstep with
    | recoveryLimit m hid hm hv hr hl => exact ⟨hr, ⟨hg, hp, hid, m, hm, hv⟩, hl⟩
    | _ => cases hs

/-- the ground command keeps the invariant -/
theorem GroundStep.recoveryInv {N count : ℕ} (h : app.GroundStep packet nowMs status guard processor)
    (hinv : RecoveryInv N app.commandProcessor count) :
    RecoveryInv N processor (if app.currentMode = .recovery then
      (if app.RefusedTransition packet nowMs then count + 1 else count) else 0) := by
  by_cases hrefused : app.RefusedTransition packet nowMs ∧ app.currentMode = .recovery
  · rw [if_pos hrefused.2, if_pos hrefused.1]
    rcases h.of_refusedTransition hrefused.1 hrefused.2 with ⟨-, -, hsafe⟩ | ⟨hl, -, rfl⟩
    · refine ⟨?_, hinv.pos, by simp [hsafe], by simp [hsafe]⟩
      rw [h.configuration.2, hinv.limit]
    · exact hinv.failedExit hrefused.2 hl
  · have hkeep : (if app.currentMode = .recovery then
        (if app.RefusedTransition packet nowMs then count + 1 else count) else 0) =
          if app.currentMode = .recovery then count else 0 := by
      by_cases hr : app.currentMode = .recovery
      · rw [if_pos hr, if_pos hr, if_neg fun hp => hrefused ⟨hp, hr⟩]
      · rw [if_neg hr, if_neg hr]
    rw [hkeep]
    have hself : RecoveryInv N app.commandProcessor (if app.currentMode = .recovery then count else 0) :=
      hinv.mono fun hr => if_pos hr
    cases h with
    | guardRefused | unauthorized => exact hself
    | processed _ _ hg hp hstep =>
      cases hstep with
      | move _ _ _ hv => exact hinv.move hv
      | inject => exact hself.respond
      | clear => exact ⟨hself.limit, hself.pos, hself.session, hself.outside⟩
      | failedExit m hid hm hv hr | recoveryLimit m hid hm hv hr =>
        exact absurd ⟨⟨hg, hp, hid, m, hm, hv⟩, hr⟩ hrefused
      | _ => exact hself

/-- a step keeps the invariant -/
theorem RecoveryInv.step {N count : ℕ} (h : RecoveryInv N app.commandProcessor count)
    (input : FlightSoftwareStepInput) :
    RecoveryInv N (app.step input).2.commandProcessor (exitsSinceEntry count app input) := by
  have hground : RecoveryInv N (app.afterGround input) (exitsSinceEntry count app input) := by
    cases hc : input.command with
    | none =>
      rw [afterGround_of_none app input hc, exitsSinceEntry_of_none hc]
      exact h.mono fun hr => if_pos hr
    | some packet =>
      rw [exitsSinceEntry_of_some hc]
      exact (step_ground app input hc).recoveryInv h
  rw [step_commandProcessor, FlightSoftwareApp.respond]
  split_ifs
  · exact hground
  · exact hground.respond

/-- only the failed exit that completes the limit is answered REJECTED_RECOVERY_LIMIT -/
theorem RecoveryInv.rejectedRecoveryLimit_iff {N count : ℕ} (h : RecoveryInv N app.commandProcessor count)
    (input : FlightSoftwareStepInput) :
    (app.step input).1.commandResult.status = .rejectedRecoveryLimit ↔
      app.currentMode = .recovery ∧ app.RefusedExit input ∧ count + 1 = N := by
  constructor
  · intro hstatus
    cases hc : input.command with
    | none =>
      rw [show (app.step input).1.commandResult = {} by
        change ((app.groundPhase input).1.getD {}).commandResult = _
        rw [groundPhase_of_none app input hc]; rfl] at hstatus
      cases hstatus
    | some packet =>
      obtain ⟨hr, hrefused, hl⟩ := (step_ground app input hc).of_recoveryLimit hstatus
      exact ⟨hr, ⟨packet, hc, hrefused⟩, (h.atLimit_iff hr).1 hl⟩
  · rintro ⟨hr, ⟨packet, hc, hrefused⟩, hN⟩
    rcases (step_ground app input hc).of_refusedTransition hrefused hr with ⟨-, hstatus, -⟩ | ⟨hl, -, -⟩
    · exact hstatus
    · exact absurd ((h.atLimit_iff hr).2 hN) (by simp [hl])

/-- a refused exit ends the session in SAFE when it completes the limit, and leaves the mode before -/
theorem RecoveryInv.step_of_refusedExit {N count : ℕ} {input : FlightSoftwareStepInput}
    (h : RecoveryInv N app.commandProcessor count) (hr : app.currentMode = .recovery)
    (hrefused : app.RefusedExit input) :
    if count + 1 = N then
      (app.afterGround input).modeManager.mode = .safe ∧ (app.step input).2.currentMode = .safe
    else (app.step input).1.commandResult.status = .rejectedInvalidTransition ∧
      (app.afterGround input).modeManager.mode = .recovery := by
  obtain ⟨packet, hc, hrefused⟩ := hrefused
  have hlimit := h.atLimit_iff hr
  rcases (step_ground app input hc).of_refusedTransition hrefused hr with ⟨hl, -, hsafe⟩ | ⟨hl, hstatus, heq⟩
  · rw [if_pos (hlimit.1 hl)]
    refine ⟨hsafe, ?_⟩
    rw [step_currentMode, hsafe]
    exact FdirManager.faultMode_safe _
  · rw [if_neg (fun hN => by simp [hlimit.2 hN] at hl)]
    exact ⟨hstatus, by rw [heq]; exact hr⟩

theorem recoveryInv_ofConfig {cfg : FlightSoftwareAppConfig} (hv : (ofConfig cfg).valid = true) :
    RecoveryInv cfg.recoverySupervisor.maximumFailedAttempts.toNat (ofConfig cfg).commandProcessor 0 := by
  have hne : cfg.recoverySupervisor.maximumFailedAttempts ≠ 0 := by
    simp only [FlightSoftwareApp.valid, CommandProcessor.valid, RecoverySupervisor.valid, Bool.and_eq_true] at hv
    exact bne_iff_ne.1 hv.1.1
  refine ⟨rfl, Nat.pos_of_ne_zero fun h => hne (UInt32.toNat_inj.1 h), ?_, fun _ _ => rfl⟩
  intro h
  cases h

/-- the invariant holds after every run of a valid configuration -/
theorem run_recoveryInv {cfg : FlightSoftwareAppConfig} (hv : (ofConfig cfg).valid = true)
    (inputs : List FlightSoftwareStepInput) :
    RecoveryInv cfg.recoverySupervisor.maximumFailedAttempts.toNat (run cfg inputs).commandProcessor
      (Machine.history step exitsSinceEntry (ofConfig cfg) 0 inputs) :=
  Machine.history_inv step (P := fun app count => RecoveryInv _ app.commandProcessor count)
    (fun _ _ input h => h.step input) (recoveryInv_ofConfig hv) inputs

/-- **Bounded recovery sessions.** In every run of a valid configuration with limit N: in RECOVERY the counter is the
number of refused exits since the mode became RECOVERY and below N; outside RECOVERY and SAFE it is 0; the N-th refused
exit of a session, and nothing else, is answered REJECTED_RECOVERY_LIMIT and moves the mode to SAFE; every earlier one
is answered REJECTED_INVALID_TRANSITION and leaves the mode. -/
theorem recovery_limit (cfg : FlightSoftwareAppConfig) (hv : (ofConfig cfg).valid = true)
    (inputs : List FlightSoftwareStepInput) :
    let N := cfg.recoverySupervisor.maximumFailedAttempts.toNat
    let app := run cfg inputs
    let count := Machine.history step exitsSinceEntry (ofConfig cfg) 0 inputs
    let failedAttempts := app.commandProcessor.recoverySupervisor.failedAttempts.toNat
    (app.currentMode = .recovery → failedAttempts < N ∧ failedAttempts = count) ∧
    (app.currentMode ≠ .recovery → app.currentMode ≠ .safe → failedAttempts = 0) ∧
    ∀ input,
      ((app.step input).1.commandResult.status = .rejectedRecoveryLimit ↔
        app.currentMode = .recovery ∧ app.RefusedExit input ∧ count + 1 = N) ∧
      (app.currentMode = .recovery → app.RefusedExit input →
        if count + 1 = N then
          (app.afterGround input).modeManager.mode = .safe ∧ (app.step input).2.currentMode = .safe
        else (app.step input).1.commandResult.status = .rejectedInvalidTransition ∧
          (app.afterGround input).modeManager.mode = .recovery) := by
  intro N app count failedAttempts
  have hinv : RecoveryInv N app.commandProcessor count := run_recoveryInv hv inputs
  refine ⟨fun hr => ?_, fun hr hs => ?_, fun input => ⟨hinv.rejectedRecoveryLimit_iff input, ?_⟩⟩
  · obtain ⟨hcount, hlt⟩ := hinv.session hr
    exact ⟨hcount.trans_lt hlt, hcount⟩
  · exact congrArg UInt32.toNat (hinv.outside hr hs)
  · intro hr hrefused
    exact hinv.step_of_refusedExit hr hrefused

/-- SAFE, RECOVERY and two refused exits to BOOT: the third is the limit -/
theorem recovery_limit_third_exit :
    ((run {} [{ command := some ⟨1, 0, .setMode, 4⟩ }, { command := some ⟨2, 0, .setMode, 5⟩ },
        { command := some ⟨3, 0, .setMode, 0⟩ }, { command := some ⟨4, 0, .setMode, 0⟩ }]).step
      { command := some ⟨5, 0, .setMode, 0⟩ }).1.commandResult.status = .rejectedRecoveryLimit :=
  ((recovery_limit {} (by decide) _).2.2 _).1.2 ⟨by decide, by decide, by decide⟩

end AstraFsw.FlightSoftwareApp
