/-
The command policy over whole runs.

The authorizer reads a SET_MODE argument with the decoder the processor uses, so they agree on all 2^32 arguments. The
only other writers of mode and active fault are the fault responses, which never enter TEST and lead from BOOT and SAFE
to SAFE only, and the internal-fault part, which writes a detectable fault.
- `mode_ne_test_step`, `mode_boot_or_safe_step`, `lastFault_detectable_step`: one step keeps each restriction;
- `policy_enforced`: all of it, over every run.
-/
import AstraFsw.App.Latch

namespace AstraFsw.FlightSoftwareApp

open FdirManager (dispositionFor faultMode Detectable)

variable {app : FlightSoftwareApp} {input : FlightSoftwareStepInput} {packet : CommandPacket} {nowMs : UInt64}
  {status : CommandStatus} {guard : GroundCommandGuard} {processor : CommandProcessor}

/-! ## TEST mode -/

/-- a fault response never enters TEST -/
theorem faultMode_ne_test {r : FaultResponse} {m : Mode} (h : m ≠ .test) : faultMode r m ≠ .test := by
  rcases FdirManager.faultMode_cases r m with heq | heq | ⟨-, heq⟩ | ⟨-, heq⟩ <;> rw [heq]
  · exact h
  all_goals simp

/-- the policy refuses every argument the processor would decode to TEST -/
theorem GroundStep.mode_ne_test (h : app.GroundStep packet nowMs status guard processor)
    (hpolicy : app.commandAuthorizer.configuration.allowTestMode = false) (hmode : app.currentMode ≠ .test) :
    processor.modeManager.mode ≠ .test := by
  cases h with
  | processed _ _ _ hp hstep =>
    cases hstep with
    | move m hid hm _ =>
      rintro (rfl : m = .test)
      simp [permits, CommandAuthorizer.permits, hid, hm, hpolicy] at hp
    | inject => exact faultMode_ne_test hmode
    | recoveryLimit => simp
    | _ => exact hmode
  | _ => exact hmode

theorem mode_ne_test_step (hpolicy : app.commandAuthorizer.configuration.allowTestMode = false)
    (hmode : app.currentMode ≠ .test) (input : FlightSoftwareStepInput) : (app.step input).2.currentMode ≠ .test := by
  rw [step_currentMode]
  refine faultMode_ne_test ?_
  cases hc : input.command with
  | none => rw [afterGround_of_none app input hc]; exact hmode
  | some packet => exact (step_ground app input hc).mode_ne_test hpolicy hmode

/-! ## SET_MODE -/

/-- from BOOT and SAFE a fault response stays or enters SAFE -/
theorem faultMode_boot_or_safe {r : FaultResponse} {m : Mode} (h : m = .boot ∨ m = .safe) :
    faultMode r m = .boot ∨ faultMode r m = .safe := by
  rcases h with rfl | rfl <;> cases r <;> decide

/-- without SET_MODE no ground command writes the mode but by a fault response -/
theorem GroundStep.mode_boot_or_safe (h : app.GroundStep packet nowMs status guard processor)
    (hpolicy : app.commandAuthorizer.configuration.allowSetMode = false)
    (hmode : app.currentMode = .boot ∨ app.currentMode = .safe) :
    processor.modeManager.mode = .boot ∨ processor.modeManager.mode = .safe := by
  cases h with
  | processed _ _ _ hp hstep =>
    cases hstep with
    | move m hid => simp [permits, CommandAuthorizer.permits, hid, hpolicy] at hp
    | inject => exact faultMode_boot_or_safe hmode
    | recoveryLimit => exact Or.inr rfl
    | _ => exact hmode
  | _ => exact hmode

theorem mode_boot_or_safe_step (hpolicy : app.commandAuthorizer.configuration.allowSetMode = false)
    (hmode : app.currentMode = .boot ∨ app.currentMode = .safe) (input : FlightSoftwareStepInput) :
    (app.step input).2.currentMode = .boot ∨ (app.step input).2.currentMode = .safe := by
  rw [step_currentMode]
  refine faultMode_boot_or_safe ?_
  cases hc : input.command with
  | none => rw [afterGround_of_none app input hc]; exact hmode
  | some packet => exact (step_ground app input hc).mode_boot_or_safe hpolicy hmode

/-! ## INJECT_FAULT -/

/-- without injection a ground command keeps the active fault or clears it -/
theorem afterGround_lastFault_kept_or_none
    (hpolicy : app.commandAuthorizer.configuration.allowFaultInjection = false) (input : FlightSoftwareStepInput) :
    (app.afterGround input).lastFault = app.lastFault ∨ (app.afterGround input).lastFault = .none := by
  cases hc : input.command with
  | none => exact Or.inl (by rw [afterGround_of_none app input hc]; rfl)
  | some packet =>
    rcases (step_ground app input hc).lastFault_cases with heq | ⟨-, -, heq⟩ | ⟨hadmitted, hid, -⟩
    · exact Or.inl heq
    · exact Or.inr heq
    · have hp := hadmitted.2
      simp [permits, CommandAuthorizer.permits, hid, hpolicy] at hp

theorem lastFault_detectable_step (hpolicy : app.commandAuthorizer.configuration.allowFaultInjection = false)
    (h : app.lastFault = .none ∨ Detectable app.lastFault) (input : FlightSoftwareStepInput) :
    (app.step input).2.lastFault = .none ∨ Detectable (app.step input).2.lastFault := by
  rw [step_lastFault]
  split_ifs with hnone
  · rcases afterGround_lastFault_kept_or_none hpolicy input with heq | heq <;> rw [heq]
    · exact h
    · exact Or.inl rfl
  · exact app.primaryFault_cases input

/-- without injection a new active fault is the one the step selected -/
theorem lastFault_new_step (hpolicy : app.commandAuthorizer.configuration.allowFaultInjection = false)
    (hnew : (app.step input).2.lastFault ≠ app.lastFault) (hactive : (app.step input).2.lastFault ≠ .none) :
    (app.step input).1.primaryInternalFault = (app.step input).2.lastFault := by
  rw [step_primaryInternalFault]
  rw [step_lastFault] at hnew hactive ⊢
  split_ifs at hnew hactive ⊢ with hnone
  · rcases afterGround_lastFault_kept_or_none hpolicy input with heq | heq
    · exact absurd heq hnew
    · exact absurd heq hactive
  · rfl

/-! ## Whole runs -/

/-- what a step keeps under a policy holds after every run of a configuration with that policy -/
theorem run_policy_inv {cfg : FlightSoftwareAppConfig} {P : FlightSoftwareApp → Prop}
    (hstep : ∀ app : FlightSoftwareApp, app.commandAuthorizer.configuration = cfg.commandAuthorization → P app →
      ∀ input, P (app.step input).2) (h : P (ofConfig cfg)) (inputs : List FlightSoftwareStepInput) :
    P (run cfg inputs) :=
  (run_inv (P := fun app => app.commandAuthorizer.configuration = cfg.commandAuthorization ∧ P app)
    (fun app input ⟨hcfg, hp⟩ => ⟨hcfg, hstep app hcfg hp input⟩) ⟨rfl, h⟩ inputs).2

/-- **The policy is enforced over every run.** Without TEST mode the mode is never TEST; without SET_MODE it is BOOT or
SAFE; without fault injection the active fault is NONE or a detectable one, and a new active fault is the internal fault
its step selected. -/
theorem policy_enforced (cfg : FlightSoftwareAppConfig) (inputs : List FlightSoftwareStepInput) :
    (cfg.commandAuthorization.allowTestMode = false → (run cfg inputs).currentMode ≠ .test) ∧
    (cfg.commandAuthorization.allowSetMode = false →
      (run cfg inputs).currentMode = .boot ∨ (run cfg inputs).currentMode = .safe) ∧
    (cfg.commandAuthorization.allowFaultInjection = false →
      ((run cfg inputs).lastFault = .none ∨ (run cfg inputs).lastFault = .cpuOverload ∨
        (run cfg inputs).lastFault = .memoryOverload ∨ (run cfg inputs).lastFault = .sensorTimeout ∨
        (run cfg inputs).lastFault = .watchdogDeadlineMiss) ∧
      ∀ input, (run cfg (inputs ++ [input])).lastFault ≠ (run cfg inputs).lastFault →
        (run cfg (inputs ++ [input])).lastFault ≠ .none →
        ((run cfg inputs).step input).1.primaryInternalFault = (run cfg (inputs ++ [input])).lastFault) := by
  refine ⟨fun hpolicy => ?_, fun hpolicy => ?_, fun hpolicy => ⟨?_, fun input hnew hactive => ?_⟩⟩
  · exact run_policy_inv (P := fun app => app.currentMode ≠ .test)
      (fun app hcfg h => mode_ne_test_step (by rw [hcfg, hpolicy]) h) nofun inputs
  · exact run_policy_inv (P := fun app => app.currentMode = .boot ∨ app.currentMode = .safe)
      (fun app hcfg h => mode_boot_or_safe_step (by rw [hcfg, hpolicy]) h) (Or.inl rfl) inputs
  · exact run_policy_inv (P := fun app => app.lastFault = .none ∨ Detectable app.lastFault)
      (fun app hcfg h => lastFault_detectable_step (by rw [hcfg, hpolicy]) h) (Or.inl rfl) inputs
  · rw [run_snoc] at hnew hactive ⊢
    exact lastFault_new_step (by rw [(run_configuredBy cfg inputs).policy, hpolicy]) hnew hactive

end AstraFsw.FlightSoftwareApp
