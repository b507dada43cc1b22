/-
Every validated system configuration is runnable.

The rules of `validate_configuration` are written a second time in the constructors of the scheduler, the guard, the
recovery supervisor and the event logger. Here the two are compared:
- `validateRateGroups_iff`: the rate-group checks pass exactly when the scheduler constructor accepts the two groups;
- `Validated.executive_valid`: what validates makes a valid executive;
- `validated_runnable`: in every run of it, no step reports INVALID_CONFIGURATION and no ground command is answered with
  the guard's configuration error.
-/
import AstraFsw.App.Rejection
import AstraFsw.Configuration.Service
import AstraFsw.Executive.Schedule

namespace AstraFsw

open FlightSoftwareExecutive

/-! ## The two sets of rules -/

/-- the rate-group checks of the service are those of the scheduler's constructor -/
theorem validateRateGroup_valid_iff_checked (field : String) (group : RateGroupConfig) :
    (validateRateGroup field group.periodTicks group.phaseTicks group.relativeDeadlineTicks).valid = true ↔
      RateGroupScheduler.Checked group := by
  rw [validateRateGroup_valid_iff]
  simp only [UInt32.lt_iff_toNat_lt, UInt32.le_iff_toNat_le, ne_eq, ← UInt32.toNat_inj, UInt32.toNat_zero,
    ← Nat.pos_iff_ne_zero]
  constructor
  · intro h
    obtain ⟨hperiod, hphase, hdeadline, hle⟩ := h
    exact ⟨hperiod, hphase, hdeadline, hle⟩
  · intro h
    exact ⟨h.period, h.phase, h.deadline, h.deadline_le⟩

theorem validateRateGroups_iff (executive : FlightSoftwareExecutiveConfig) :
    ((validateFlight executive).valid = true ∧ (validateHousekeeping executive).valid = true) ↔
      (RateGroupScheduler.ofConfig (makeSchedulerConfiguration executive)).valid = true := by
  apply Iff.trans _ (makeSchedulerConfiguration_valid_iff executive).symm
  apply and_congr
  · exact validateRateGroup_valid_iff_checked _ (flightRateGroup executive)
  · exact validateRateGroup_valid_iff_checked _ (housekeepingRateGroup executive)

variable {configuration : SystemConfiguration}

theorem Validated.scheduler_valid (h : Validated configuration) :
    (FlightSoftwareExecutive.ofConfig configuration.executive).scheduler.valid = true :=
  (validateRateGroups_iff configuration.executive).1 ⟨h.flight, h.housekeeping⟩

theorem Validated.app_valid (h : Validated configuration) :
    (FlightSoftwareApp.ofConfig configuration.executive.app).valid = true := by
  have hcapacity : 0 < configuration.executive.app.eventLogCapacity := by
    have := h.capacity.1
    omega
  simp [FlightSoftwareApp.valid, FlightSoftwareApp.ofConfig, CommandProcessor.valid, RecoverySupervisor.valid,
    GroundCommandGuard.valid, EventLogger.valid, h.recovery, h.age, h.skew, hcapacity]

theorem Validated.executive_valid (h : Validated configuration) :
    (FlightSoftwareExecutive.ofConfig configuration.executive).valid = true := by
  simp only [FlightSoftwareExecutive.valid, Bool.and_eq_true]
  exact ⟨h.scheduler_valid, h.app_valid⟩

/-! ## Runs -/

theorem Validated.step_output (h : Validated configuration) (pre : List FlightSoftwareExecutiveInput)
    (input : FlightSoftwareExecutiveInput) :
    ((run configuration.executive pre).step input).1.schedulerStatus ≠ .invalidConfiguration ∧
      ((run configuration.executive pre).step input).1.flightOutput.commandResult.status ≠
        .rejectedGuardConfiguration := by
  have hscheduled := run_scheduled h.scheduler_valid pre
  have hguard : (run configuration.executive pre).app.groundCommandGuard.valid = true := by
    rw [run_app h.scheduler_valid]
    exact FlightSoftwareApp.run_guard_valid h.app_valid _
  cases hc : (run configuration.executive pre).scheduler.continuous input.tick with
  | false =>
    rw [step_of_refused hscheduled hc]
    simp
  | true =>
    rw [step_of_accepted hscheduled hc]
    refine ⟨by simp, ?_⟩
    simp only
    split_ifs
    · exact FlightSoftwareApp.step_status_ne_guardConfiguration hguard input.flightInput
    · simp

/-- **Every validated configuration is runnable.** For every system configuration:
- if it validates, its executive is valid, and in every run, whatever the ticks and inputs, no step reports
  INVALID_CONFIGURATION and no ground command is answered REJECTED_GUARD_CONFIGURATION;
- the two rate-group checks pass exactly when the scheduler's constructor accepts the list the executive gives it. -/
theorem validated_runnable (configuration : SystemConfiguration) :
    ((validateConfiguration configuration).valid = true →
      (FlightSoftwareExecutive.ofConfig configuration.executive).valid = true ∧
      ∀ inputs, ∀ output ∈ outputs configuration.executive inputs,
        output.schedulerStatus ≠ .invalidConfiguration ∧
          output.flightOutput.commandResult.status ≠ .rejectedGuardConfiguration) ∧
    (((validateFlight configuration.executive).valid = true ∧
        (validateHousekeeping configuration.executive).valid = true) ↔
      (RateGroupScheduler.ofConfig (makeSchedulerConfiguration configuration.executive)).valid = true) := by
  refine ⟨?_, validateRateGroups_iff configuration.executive⟩
  intro hvalid
  have h := (validateConfiguration_valid_iff configuration).1 hvalid
  refine ⟨h.executive_valid, ?_⟩
  intro inputs output houtput
  obtain ⟨pre, input, post, -, rfl⟩ := (Machine.mem_outputs _).1 houtput
  exact h.step_output pre input

/-- flight on every second tick, and a ground guard of its own -/
def tunedConfiguration : SystemConfiguration where
  revision := 3
  executive := {
    app := { groundCommandGuard := { maximumAgeMs := 2000 }, eventLogCapacity := 64 }
    flightPeriodTicks := 2
    flightDeadlineTicks := 2
    housekeepingPeriodTicks := 8
    housekeepingPhaseTicks := 1 }

/-- SET_MODE to NOMINAL at tick 2, the second release of the flight group -/
def tunedInputs : List FlightSoftwareExecutiveInput :=
  [{ tick := 0, flightInput := { timestampMs := 100 } },
   { tick := 1, flightInput := { timestampMs := 110 } },
   { tick := 2, flightInput := {
      command := some { sequenceNumber := 1, timestampMs := 90, commandId := .setMode, argument := 1 }
      timestampMs := 120 } }]

theorem validated_runnable_tuned :
    (FlightSoftwareExecutive.ofConfig tunedConfiguration.executive).valid = true ∧
      ∀ output ∈ outputs tunedConfiguration.executive tunedInputs,
        output.schedulerStatus ≠ .invalidConfiguration ∧
          output.flightOutput.commandResult.status ≠ .rejectedGuardConfiguration :=
  have h := (validated_runnable tunedConfiguration).1 (by decide)
  ⟨h.1, h.2 tunedInputs⟩

-- the command is answered in the third step
example : ((outputs tunedConfiguration.executive tunedInputs).map fun output =>
    (output.flightOutput.commandResult.status, output.flightOutput.telemetry.mode)) =
    [(.accepted, .boot), (.accepted, .boot), (.accepted, .nominal)] := by decide

end AstraFsw
