/-
The active fault over whole runs: what overwrites it and what clears it.

The active fault is one variable with three writers: an accepted CLEAR_FAULT, an accepted INJECT_FAULT (whose argument
may decode to NONE) and the internal-fault part (`GroundStep.lastFault_cases`, `step_lastFault`). So
- a latched fault is not safe from a lesser internal fault: `latch_kept_iff` says in which runs it is kept, and
  `latch_lost` gives a run where it is not;
- denying CLEAR_FAULT does not keep the active fault: `fault_kept_iff` says in which runs it is kept, and
  `fault_cleared_by_injection` gives a run where it is not.
-/
import AstraFsw.App.Step

namespace AstraFsw.FlightSoftwareApp

open FdirManager (dispositionFor)

variable {app : FlightSoftwareApp} {input : FlightSoftwareStepInput} {packet : CommandPacket} {nowMs : UInt64}
  {status : CommandStatus} {guard : GroundCommandGuard} {processor : CommandProcessor}

/-! ## The writers of the active fault -/

/-- what a ground command does to the active fault -/
theorem GroundStep.lastFault_cases (h : app.GroundStep packet nowMs status guard processor) :
    processor.lastFault = app.lastFault ∨
      (app.Admitted packet nowMs ∧ packet.commandId = .clearFault ∧ processor.lastFault = .none) ∨
      (app.Admitted packet nowMs ∧ packet.commandId = .injectFault ∧
        commandArgumentToFault packet.argument = some processor.lastFault) := by
  cases h with
  | processed _ _ hg hp hstep =>
    cases hstep with
    | clear hid => exact Or.inr (Or.inl ⟨⟨hg, hp⟩, hid, rfl⟩)
    | inject f hid hf => exact Or.inr (Or.inr ⟨⟨hg, hp⟩, hid, hf⟩)
    | _ => exact Or.inl rfl
  | _ => exact Or.inl rfl

/-- an admitted CLEAR_FAULT clears, and is accepted -/
theorem GroundStep.of_clearFault (h : app.GroundStep packet nowMs status guard processor)
    (hid : packet.commandId = .clearFault) :
    (status = .accepted ↔ app.Admitted packet nowMs) ∧ (app.Admitted packet nowMs → processor.lastFault = .none) := by
  cases h with
  | guardRefused hg =>
    have hne : refusalStatus (app.guardStatus packet nowMs) ≠ .accepted := by
      revert hg
      cases app.guardStatus packet nowMs <;> simp [refusalStatus]
    exact ⟨⟨fun h => absurd h hne, fun h => absurd h.1 hg⟩, fun h => absurd h.1 hg⟩
  | unauthorized _ hp => simp [Admitted, hp]
  | processed _ _ hg hp hstep =>
    obtain ⟨hs, hprocessor⟩ := hstep.of_clearFault hid
    exact ⟨iff_of_true hs ⟨hg, hp⟩, fun _ => by rw [hprocessor]⟩

/-- an admitted INJECT_FAULT makes the decoded fault the active one -/
theorem GroundStep.of_injectFault (h : app.GroundStep packet nowMs status guard processor)
    (hid : packet.commandId = .injectFault) (hadmitted : app.Admitted packet nowMs) {fault : FaultCode}
    (hf : commandArgumentToFault packet.argument = some fault) : processor.lastFault = fault :=
  ((h.of_admitted hadmitted).2.of_injectFault hid hf).2

/-- the active fault is always an enumerated one -/
theorem step_lastFault_isNamed (h : app.lastFault.isNamed = true) (input : FlightSoftwareStepInput) :
    (app.step input).2.lastFault.isNamed = true := by
  rw [step_lastFault]
  split_ifs
  · cases hc : input.command with
    | none => rw [afterGround_of_none app input hc]; exact h
    | some packet =>
      rcases (step_ground app input hc).lastFault_cases with heq | ⟨-, -, heq⟩ | ⟨-, -, heq⟩
      · rw [heq]; exact h
      · rw [heq]; rfl
      · exact commandArgumentToFault_isNamed heq
  · exact app.primaryFault_isNamed input

theorem run_lastFault_isNamed (cfg : FlightSoftwareAppConfig) (inputs : List FlightSoftwareStepInput) :
    (run cfg inputs).lastFault.isNamed = true :=
  run_inv (P := fun app => app.lastFault.isNamed = true) (fun _ input h => step_lastFault_isNamed h input) rfl inputs

/-! ## Latching -/

/-- the disposition requires operator clear -/
def Latched (fault : FaultCode) : Prop := (dispositionFor fault).operatorClearRequired = true

instance (fault : FaultCode) : Decidable (Latched fault) := by unfold Latched; infer_instance

/-- `g` may follow `f` as the active fault: it is `f`, or has strictly higher priority -/
def Supersedes (f g : FaultCode) : Prop := g = f ∨ (dispositionFor f).priority < (dispositionFor g).priority

/-- a step with an accepted CLEAR_FAULT -/
def AcceptsClear (app : FlightSoftwareApp) (input : FlightSoftwareStepInput) : Prop :=
  ∃ packet ∈ input.command, packet.commandId = .clearFault ∧ (app.step input).1.commandResult.status = .accepted

/-- a step whose CLEAR_FAULT passes guard and policy -/
def AdmitsClear (app : FlightSoftwareApp) (input : FlightSoftwareStepInput) : Prop :=
  ∃ packet ∈ input.command, packet.commandId = .clearFault ∧ app.Admitted packet input.timestampMs

theorem acceptsClear_iff : app.AcceptsClear input ↔ app.AdmitsClear input := by
  unfold AcceptsClear AdmitsClear
  refine exists_congr fun packet => and_congr_right fun hc => and_congr_right fun hid => ?_
  exact ((step_ground app input hc).of_clearFault hid).1

/-- the latch is kept in a run: a latched active fault stays, or gives way to faults of higher priority, until a
CLEAR_FAULT is accepted -/
def LatchKept (cfg : FlightSoftwareAppConfig) (inputs : List FlightSoftwareStepInput) : Prop :=
  ∀ pre mid post, inputs = pre ++ mid ++ post → Latched (run cfg pre).lastFault →
    (∀ e ∈ Machine.trace step (run cfg pre) mid, ¬ AcceptsClear e.1 e.2) →
    Supersedes (run cfg pre).lastFault (run cfg (pre ++ mid)).lastFault

/-- the step that loses the latch: a latched fault is active, no CLEAR_FAULT is admitted, a condition holds, and all
that hold have strictly lower priority -/
def Overrides (app : FlightSoftwareApp) (input : FlightSoftwareStepInput) : Prop :=
  Latched app.lastFault ∧ ¬ app.AdmitsClear input ∧ (∃ fault, app.Raised input fault) ∧
    ∀ fault, app.Raised input fault → (dispositionFor fault).priority < (dispositionFor app.lastFault).priority

/-- among enumerated faults, one above a latched fault is latched -/
theorem latched_of_priority {f g : FaultCode} (hf : Latched f)
    (h : (dispositionFor f).priority < (dispositionFor g).priority) : Latched g := by
  have hmin : ∀ f, Latched f → 70 ≤ (dispositionFor f).priority := by
    intro f hf
    cases f with
    | other raw => exact (by decide : (70 : UInt8) ≤ 255)
    | _ => revert hf; decide
  have hlt : 70 < (dispositionFor g).priority := UInt8.lt_of_le_of_lt (hmin f hf) h
  cases g with
  | other raw => rfl
  | _ => revert hlt; decide

/-- the preorder a kept latch follows -/
def LatchRel (s t : FlightSoftwareApp) : Prop := Latched s.lastFault → Supersedes s.lastFault t.lastFault

theorem latchRel_trans (a b c : FlightSoftwareApp) (hab : LatchRel a b) (hbc : LatchRel b c) : LatchRel a c := by
  intro ha
  rcases hab ha with heq | hlt
  · have hb : Latched b.lastFault := heq ▸ ha
    unfold Supersedes
    rw [← heq]
    exact hbc hb
  · rcases hbc (latched_of_priority ha hlt) with heq | hlt'
    · exact Or.inr (heq ▸ hlt)
    · exact Or.inr (UInt8.lt_trans hlt hlt')

/-- without injection, a step that accepts no CLEAR_FAULT writes the active fault through the internal part only -/
theorem afterGround_lastFault_of_noInjection (hpolicy : app.commandAuthorizer.configuration.allowFaultInjection = false)
    (hclear : ¬ app.AdmitsClear input) : (app.afterGround input).lastFault = app.lastFault := by
  cases hc : input.command with
  | none => rw [afterGround_of_none app input hc]; rfl
  | some packet =>
    rcases (step_ground app input hc).lastFault_cases with heq | ⟨hadmitted, hid, -⟩ | ⟨hadmitted, hid, -⟩
    · exact heq
    · exact absurd ⟨packet, hc, hid, hadmitted⟩ hclear
    · have hdenied : app.permits packet = false := by simp [permits, CommandAuthorizer.permits, hid, hpolicy]
      exact absurd (hadmitted.2.symm.trans hdenied) (by simp)

/-- **One step and the latch.** -/
theorem latchRel_step_iff (hpolicy : app.commandAuthorizer.configuration.allowFaultInjection = false)
    (hnamed : app.lastFault.isNamed = true) :
    (¬ app.AcceptsClear input → LatchRel app (app.step input).2) ↔ ¬ app.Overrides input := by
  rw [acceptsClear_iff]
  by_cases hclear : app.AdmitsClear input
  · exact iff_of_true (fun h => absurd hclear h) fun h => h.2.1 hclear
  have hkept := afterGround_lastFault_of_noInjection hpolicy hclear
  by_cases hnone : app.primaryFault input = .none
  · refine iff_of_true (fun _ _ => Or.inl ?_) ?_
    · rw [step_lastFault, if_pos hnone, hkept]
    · rintro ⟨-, -, ⟨fault, hraised⟩, -⟩
      exact (app.primaryFault_eq_none input).1 hnone fault hraised
  · obtain ⟨hraised, hmax⟩ := app.primaryFault_greatest input hnone
    have hlast : (app.step input).2.lastFault = app.primaryFault input := by rw [step_lastFault, if_neg hnone]
    constructor
    · rintro h ⟨hlatched, -, -, hlow⟩
      have hlt := hlow _ hraised
      rcases h hclear hlatched with heq | hgt
      · rw [hlast] at heq
        rw [heq] at hlt
        exact UInt8.lt_irrefl _ hlt
      · rw [hlast] at hgt
        exact UInt8.lt_irrefl _ (UInt8.lt_trans hlt hgt)
    · intro h _ hlatched
      unfold Supersedes
      rw [hlast]
      by_contra hno
      obtain ⟨hne, hle⟩ := not_or.1 hno
      -- not above and not equal: distinct enumerated faults have distinct priorities, so strictly below
      have hlt : (dispositionFor (app.primaryFault input)).priority < (dispositionFor app.lastFault).priority := by
        refine UInt8.lt_of_le_of_ne (UInt8.not_lt.1 hle) fun heq => hne ?_
        exact FdirManager.priority_injective (app.primaryFault_isNamed input) hnamed heq
      refine h ⟨hlatched, hclear, ⟨_, hraised⟩, fun fault hf => ?_⟩
      by_cases heq : fault = app.primaryFault input
      · rw [heq]; exact hlt
      · exact UInt8.lt_trans (hmax fault hf heq) hlt

/-- every state of a run's trace is the end of a run -/
theorem exists_run_of_mem_trace {cfg : FlightSoftwareAppConfig} {inputs : List FlightSoftwareStepInput}
    {e : FlightSoftwareApp × FlightSoftwareStepInput} (he : e ∈ Machine.trace step (ofConfig cfg) inputs) :
    ∃ pre, run cfg pre = e.1 := by
  obtain ⟨pre, post, -, h⟩ := (Machine.mem_trace step).1 he
  exact ⟨pre, h⟩

/-- **When the latch is kept.** Without fault injection, a latched active fault is kept in a run exactly when no step
of the run, other than one that admits a CLEAR_FAULT, starts with a latched active fault and has raised conditions that
are all of strictly lower priority. -/
theorem latch_kept_iff (cfg : FlightSoftwareAppConfig)
    (hpolicy : cfg.commandAuthorization.allowFaultInjection = false) (inputs : List FlightSoftwareStepInput) :
    LatchKept cfg inputs ↔ ∀ e ∈ Machine.trace step (ofConfig cfg) inputs, ¬ Overrides e.1 e.2 := by
  have hsteps : (∀ e ∈ Machine.trace step (ofConfig cfg) inputs, ¬ AcceptsClear e.1 e.2 →
      LatchRel e.1 (step e.1 e.2).2) ↔ ∀ e ∈ Machine.trace step (ofConfig cfg) inputs, ¬ Overrides e.1 e.2 := by
    refine forall_congr' fun e => forall_congr' fun he => ?_
    obtain ⟨pre, hpre⟩ := exists_run_of_mem_trace he
    refine latchRel_step_iff ?_ (hpre ▸ run_lastFault_isNamed cfg pre)
    rw [← hpre, (run_configuredBy cfg pre).policy, hpolicy]
  rw [← hsteps, ← Machine.segments_rel_iff step (A := fun app input => ¬ AcceptsClear app input)
    (fun _ _ => Or.inl rfl) latchRel_trans]
  constructor
  · intro h pre mid post hsplit hclear hlatched
    exact h pre mid post hsplit hlatched hclear
  · intro h pre mid post hsplit hlatched hclear
    exact h pre mid post hsplit hclear hlatched

/-- a memory overload escalated by a sensor timeout: the latch is kept -/
theorem latch_kept_escalation : LatchKept { commandAuthorization := { allowFaultInjection := false } }
    [{ memoryLoadPercent := ⟨0x42BE0000⟩ }, { sensorAgeMs := 1000 }] := by
  refine (latch_kept_iff { commandAuthorization := { allowFaultInjection := false } } rfl _).2 fun e he h => ?_
  simp only [Machine.trace_cons, Machine.trace_nil, List.mem_cons, List.not_mem_nil, or_false] at he
  rcases he with rfl | rfl
  · exact absurd h.1 (by decide)
  · exact absurd (h.2.2.2 .sensorTimeout (by decide)) (by decide)

/-- a sensor timeout, then a CPU overload: the active fault ends as CPU_OVERLOAD, and no CLEAR_FAULT was sent -/
theorem latch_lost : ¬ LatchKept { commandAuthorization := { allowFaultInjection := false } }
    [{ sensorAgeMs := 1000 }, { cpuLoadPercent := ⟨0x42BE0000⟩ }] := by
  intro h
  have hkept := h [{ sensorAgeMs := 1000 }] [{ cpuLoadPercent := ⟨0x42BE0000⟩ }] [] rfl (by decide)
    (by simp [AcceptsClear])
  rcases hkept with heq | hlt
  · exact absurd heq (by decide)
  · exact absurd hlt (by decide)

/-! ## The fault-clear permission -/

/-- an active fault, once there, is there after every later step of the run -/
def FaultKept (cfg : FlightSoftwareAppConfig) (inputs : List FlightSoftwareStepInput) : Prop :=
  ∀ pre mid post, inputs = pre ++ mid ++ post → (run cfg pre).lastFault ≠ .none →
    (run cfg (pre ++ mid)).lastFault ≠ .none

/-- the step that clears by injection: a fault is active, no condition holds, and an admitted INJECT_FAULT has an
argument whose low half word is 0 -/
def ClearsByInjection (app : FlightSoftwareApp) (input : FlightSoftwareStepInput) : Prop :=
  app.lastFault ≠ .none ∧ (∀ fault, ¬ app.Raised input fault) ∧
    ∃ packet ∈ input.command, packet.commandId = .injectFault ∧ app.Admitted packet input.timestampMs ∧
      packet.argument.toNat % 2 ^ 16 = 0

/-- with CLEAR_FAULT denied, a ground command clears an active fault only as an injected NONE -/
theorem afterGround_lastFault_eq_none (hpolicy : app.commandAuthorizer.configuration.allowFaultClear = false)
    (hactive : app.lastFault ≠ .none) (input : FlightSoftwareStepInput) :
    (app.afterGround input).lastFault = .none ↔
      ∃ packet ∈ input.command, packet.commandId = .injectFault ∧ app.Admitted packet input.timestampMs ∧
        packet.argument.toNat % 2 ^ 16 = 0 := by
  constructor
  · intro hcleared
    cases hc : input.command with
    | none =>
      rw [afterGround_of_none app input hc] at hcleared
      exact absurd hcleared hactive
    | some packet =>
      rcases (step_ground app input hc).lastFault_cases with heq | ⟨hadmitted, hid, -⟩ | ⟨hadmitted, hid, hf⟩
      · exact absurd (heq.symm.trans hcleared) hactive
      · have hdenied : app.permits packet = false := by simp [permits, CommandAuthorizer.permits, hid, hpolicy]
        exact absurd (hadmitted.2.symm.trans hdenied) (by simp)
      · rw [hcleared] at hf
        exact ⟨packet, rfl, hid, hadmitted, commandArgumentToFault_eq_some_none.1 hf⟩
  · rintro ⟨packet, hc, hid, hadmitted, hzero⟩
    exact (step_ground app input hc).of_injectFault hid hadmitted (commandArgumentToFault_eq_some_none.2 hzero)

/-- **One step and the permission.** -/
theorem lastFault_step_iff (hpolicy : app.commandAuthorizer.configuration.allowFaultClear = false) :
    (app.lastFault ≠ .none → (app.step input).2.lastFault ≠ .none) ↔ ¬ app.ClearsByInjection input := by
  by_cases hactive : app.lastFault = .none
  · exact iff_of_true (fun h => absurd hactive h) fun h => h.1 hactive
  have hground := afterGround_lastFault_eq_none hpolicy hactive input
  by_cases hnone : app.primaryFault input = .none
  · have hquiet := (app.primaryFault_eq_none input).1 hnone
    rw [step_lastFault, if_pos hnone, ne_eq, ne_eq, hground]
    constructor
    · intro h hclears
      exact h hactive hclears.2.2
    · intro h _ hinject
      exact h ⟨hactive, hquiet, hinject⟩
  · refine iff_of_true (fun _ => ?_) ?_
    · rw [step_lastFault, if_neg hnone]
      exact hnone
    · intro h
      exact hnone ((app.primaryFault_eq_none input).2 h.2.1)

/-- **When the permission holds.** With CLEAR_FAULT denied, an active fault is kept in a run exactly when no step of
the run starts with an active fault, has no raised condition, and admits an INJECT_FAULT whose argument's low half word
is 0. -/
theorem fault_kept_iff (cfg : FlightSoftwareAppConfig) (hpolicy : cfg.commandAuthorization.allowFaultClear = false)
    (inputs : List FlightSoftwareStepInput) :
    FaultKept cfg inputs ↔ ∀ e ∈ Machine.trace step (ofConfig cfg) inputs, ¬ ClearsByInjection e.1 e.2 := by
  have hsteps : (∀ e ∈ Machine.trace step (ofConfig cfg) inputs, True →
      (e.1.lastFault ≠ .none → (step e.1 e.2).2.lastFault ≠ .none)) ↔
      ∀ e ∈ Machine.trace step (ofConfig cfg) inputs, ¬ ClearsByInjection e.1 e.2 := by
    refine forall_congr' fun e => forall_congr' fun he => ?_
    obtain ⟨pre, hpre⟩ := exists_run_of_mem_trace he
    rw [true_imp_iff]
    refine lastFault_step_iff ?_
    rw [← hpre, (run_configuredBy cfg pre).policy, hpolicy]
  rw [← hsteps, ← Machine.segments_rel_iff step (A := fun _ _ => True)
    (R := fun s t => s.lastFault ≠ .none → t.lastFault ≠ .none) (fun _ h => h) fun _ _ _ hab hbc h => hbc (hab h)]
  constructor
  · intro h pre mid post hsplit _
    exact h pre mid post hsplit
  · intro h pre mid post hsplit
    exact h pre mid post hsplit fun _ _ => trivial

/-- a sensor timeout, then a denied CLEAR_FAULT: the fault is kept -/
theorem fault_kept_denied : FaultKept { commandAuthorization := { allowFaultClear := false } }
    [{ sensorAgeMs := 1000 }, { command := some ⟨1, 0, .clearFault, 0⟩ }] := by
  refine (fault_kept_iff { commandAuthorization := { allowFaultClear := false } } rfl _).2 fun e he h => ?_
  simp only [Machine.trace_cons, Machine.trace_nil, List.mem_cons, List.not_mem_nil, or_false] at he
  rcases he with rfl | rfl
  · exact absurd rfl h.1
  · obtain ⟨packet, hc, hid, -⟩ := h.2.2
    obtain rfl := Option.some.inj hc
    cases hid

/-- a sensor timeout, then INJECT_FAULT with argument 0: the fault is gone, though CLEAR_FAULT is denied -/
theorem fault_cleared_by_injection : ¬ FaultKept { commandAuthorization := { allowFaultClear := false } }
    [{ sensorAgeMs := 1000 }, { command := some ⟨1, 0, .injectFault, 0⟩ }] := by
  intro h
  have hkept := h [{ sensorAgeMs := 1000 }] [{ command := some ⟨1, 0, .injectFault, 0⟩ }] [] rfl (by decide)
  exact absurd hkept (by decide)

end AstraFsw.FlightSoftwareApp
