/-
The executive is a schedule of the application.

- `embedsApp`: over any run, the application inside the executive is the application alone, run on the flight inputs
  presented at accepted ticks that are due (`Machine.Embeds`);
- `clock_eq_acceptedCount`: the ticks accepted are 0, 1, 2, ..., so the schedule depends on the ticks presented only;
- `executive_schedules_app`: both together, for any ticks, inputs and simulated delays;
- `never_executes_iff`: a run executes nothing and reports INVALID_CONFIGURATION throughout exactly when a rate group is
  refused. Validity of the executive also asks for a valid application, but `step` is gated by the scheduler's status
  alone: with valid rate groups, an application that reports itself invalid is stepped all the same
  (`invalid_app_executed`).
-/
import AstraFsw.Executive.Model

namespace AstraFsw.FlightSoftwareExecutive

variable {configuration : FlightSoftwareExecutiveConfig} {executive : FlightSoftwareExecutive}
variable {input : FlightSoftwareExecutiveInput}

/-! ## The scheduler inside -/

/-- a job that is reported complete if it is due keeps the tasks and the clock -/
theorem completed_built {configs : List RateGroupConfig} {scheduler : RateGroupScheduler}
    (h : RateGroupScheduler.Built configs scheduler) (due : Bool) (taskId : UInt16) (tick : UInt64) :
    RateGroupScheduler.Built configs (if due then scheduler.complete taskId tick else ({}, scheduler)).2 ∧
      (if due then scheduler.complete taskId tick else ({}, scheduler)).2.clock = scheduler.clock := by
  cases due with
  | false => exact ⟨h, rfl⟩
  | true => exact ⟨h.call (.complete taskId tick), RateGroupScheduler.complete_clock h.valid taskId tick⟩

theorem flightPart_built (h : Scheduled configuration executive) :
    RateGroupScheduler.Built (makeSchedulerConfiguration configuration) (flightPart configuration executive input).2 ∧
      (flightPart configuration executive input).2.clock = (executive.scheduler.step input.tick).2.clock :=
  completed_built (h.call (.step input.tick)) _ _ _

theorem housekeepingPart_built (h : Scheduled configuration executive) :
    RateGroupScheduler.Built (makeSchedulerConfiguration configuration)
        (housekeepingPart configuration executive input).2 ∧
      (housekeepingPart configuration executive input).2.clock = (executive.scheduler.step input.tick).2.clock := by
  have hflown : RateGroupScheduler.Built _ (flightPart configuration executive input).2 := (flightPart_built h).1
  obtain ⟨hbuilt, hclock⟩ := completed_built hflown (housekeepingDue configuration input.tick)
    ExecutiveTaskId.housekeepingSnapshot.toRaw input.tick
  exact ⟨hbuilt, hclock.trans (flightPart_built h).2⟩

theorem Scheduled.step (h : Scheduled configuration executive) : Scheduled configuration (executive.step input).2 := by
  cases hc : executive.scheduler.continuous input.tick with
  | false =>
    rw [step_of_refused h hc]
    exact h
  | true =>
    rw [step_of_accepted h hc]
    exact (housekeepingPart_built h).1

theorem scheduled_ofConfig (hv : (ofConfig configuration).scheduler.valid = true) :
    Scheduled configuration (ofConfig configuration) := RateGroupScheduler.built_ofConfig hv

theorem run_scheduled (hv : (ofConfig configuration).scheduler.valid = true)
    (inputs : List FlightSoftwareExecutiveInput) : Scheduled configuration (run configuration inputs) :=
  Machine.final_inv step (fun _ _ h => h.step) (scheduled_ofConfig hv) inputs

/-! ## Accepted ticks -/

theorem status_ok_iff (h : Scheduled configuration executive) :
    (executive.step input).1.schedulerStatus = .ok ↔ input.tick.toNat = executive.scheduler.clock := by
  rw [← RateGroupScheduler.continuous_iff]
  cases hc : executive.scheduler.continuous input.tick with
  | false => simp [step_of_refused h hc]
  | true => simp [step_of_accepted h hc]

/-- the number of steps answered OK -/
def acceptedCount (outputs : List FlightSoftwareExecutiveOutput) : ℕ :=
  outputs.countP fun output => decide (output.schedulerStatus = .ok)

theorem step_clock (h : Scheduled configuration executive) :
    (executive.step input).2.scheduler.clock =
      executive.scheduler.clock + acceptedCount [(executive.step input).1] := by
  cases hc : executive.scheduler.continuous input.tick with
  | false => simp [step_of_refused h hc, acceptedCount]
  | true =>
    have hclock : (housekeepingPart configuration executive input).2.clock = executive.scheduler.clock + 1 := by
      calc (housekeepingPart configuration executive input).2.clock
          = (executive.scheduler.step input.tick).2.clock := (housekeepingPart_built h).2
        _ = input.tick.toNat + 1 := by rw [RateGroupScheduler.step_of_continuous h.valid hc]; rfl
        _ = executive.scheduler.clock + 1 := by rw [(RateGroupScheduler.continuous_iff _ _).1 hc]
    simpa [step_of_accepted h hc, acceptedCount] using hclock

theorem clock_eq_acceptedCount (hv : (ofConfig configuration).scheduler.valid = true)
    (inputs : List FlightSoftwareExecutiveInput) :
    (run configuration inputs).scheduler.clock = acceptedCount (outputs configuration inputs) := by
  induction inputs using List.reverseRecOn with
  | nil =>
    have hinit := (RateGroupScheduler.ofConfig_spec hv).1
    change (RateGroupScheduler.ofConfig _).clock = 0
    rw [hinit]
    rfl
  | append_singleton inputs input ih =>
    rw [run, Machine.final_snoc, outputs, Machine.outputs_snoc, acceptedCount, List.countP_append]
    calc ((run configuration inputs).step input).2.scheduler.clock
        = (run configuration inputs).scheduler.clock + acceptedCount [((run configuration inputs).step input).1] :=
          step_clock (run_scheduled hv inputs)
      _ = acceptedCount (outputs configuration inputs) + acceptedCount [((run configuration inputs).step input).1] := by
          rw [ih]

/-! ## The application inside -/

/-- the tick is at or after the flight phase, a whole number of periods later -/
def FlightDue (configuration : FlightSoftwareExecutiveConfig) (tick : UInt64) : Prop :=
  Periodic.Due configuration.flightPhaseTicks.toNat configuration.flightPeriodTicks.toNat tick.toNat

instance (configuration : FlightSoftwareExecutiveConfig) (tick : UInt64) : Decidable (FlightDue configuration tick) := by
  unfold FlightDue; infer_instance

theorem flightDue_iff (configuration : FlightSoftwareExecutiveConfig) (tick : UInt64) :
    flightDue configuration tick = true ↔ FlightDue configuration tick :=
  RateGroupScheduler.due_iff (flightRateGroup configuration) tick

/-- the flight input of a step, if its tick is accepted and due -/
def scheduledInput (configuration : FlightSoftwareExecutiveConfig) (executive : FlightSoftwareExecutive)
    (input : FlightSoftwareExecutiveInput) : List FlightSoftwareStepInput :=
  if (executive.step input).1.schedulerStatus = .ok ∧ FlightDue configuration input.tick then [input.flightInput]
  else []

/-- the flight inputs presented at the accepted, due ticks of a run, in order -/
def scheduledInputs (configuration : FlightSoftwareExecutiveConfig) (inputs : List FlightSoftwareExecutiveInput) :
    List FlightSoftwareStepInput :=
  Machine.innerInputs step (scheduledInput configuration) (ofConfig configuration) inputs

/-- the flight output of a step, if the flight software ran -/
def flightOutputs (output : FlightSoftwareExecutiveOutput) : List FlightSoftwareStepOutput :=
  if output.flightSoftwareRan then [output.flightOutput] else []

theorem scheduledInput_of_refused (h : Scheduled configuration executive)
    (hc : executive.scheduler.continuous input.tick = false) : scheduledInput configuration executive input = [] := by
  simp [scheduledInput, step_of_refused h hc]

theorem scheduledInput_of_accepted (h : Scheduled configuration executive)
    (hc : executive.scheduler.continuous input.tick = true) :
    scheduledInput configuration executive input =
      if flightDue configuration input.tick then [input.flightInput] else [] := by
  simp [scheduledInput, step_of_accepted h hc, flightDue_iff]

/-- **One step of the executive is one step of the application, or none.** -/
theorem embedsApp (configuration : FlightSoftwareExecutiveConfig) :
    Machine.Embeds step FlightSoftwareApp.step (Scheduled configuration) (·.app) (scheduledInput configuration)
      flightOutputs where
  keeps := fun _ _ h => h.step
  state := by
    intro executive input h
    cases hc : executive.scheduler.continuous input.tick with
    | false => simp [scheduledInput_of_refused h hc, step_of_refused h hc]
    | true =>
      simp only [scheduledInput_of_accepted h hc, step_of_accepted h hc]
      split_ifs <;> rfl
  results := by
    intro executive input h
    cases hc : executive.scheduler.continuous input.tick with
    | false => simp [scheduledInput_of_refused h hc, step_of_refused h hc, flightOutputs]
    | true =>
      simp only [scheduledInput_of_accepted h hc, step_of_accepted h hc, flightOutputs]
      split_ifs <;> rfl

/-- the application inside a run is a run of the application -/
theorem run_app (hv : (ofConfig configuration).scheduler.valid = true) (inputs : List FlightSoftwareExecutiveInput) :
    (run configuration inputs).app = FlightSoftwareApp.run configuration.app (scheduledInputs configuration inputs) :=
  (embedsApp configuration).final (scheduled_ofConfig hv) inputs

theorem flightSoftwareRan_iff (h : Scheduled configuration executive) :
    (executive.step input).1.flightSoftwareRan = true ↔
      (executive.step input).1.schedulerStatus = .ok ∧ FlightDue configuration input.tick := by
  cases hc : executive.scheduler.continuous input.tick with
  | false => simp [step_of_refused h hc]
  | true => simp [step_of_accepted h hc, flightDue_iff]

/-- a step that does not run the flight software leaves the application alone -/
theorem app_of_not_ran (h : Scheduled configuration executive)
    (hran : (executive.step input).1.flightSoftwareRan = false) : (executive.step input).2.app = executive.app := by
  cases hc : executive.scheduler.continuous input.tick with
  | false => rw [step_of_refused h hc]
  | true =>
    rw [step_of_accepted h hc] at hran ⊢
    simp only at hran
    simp [hran]

/-- **The executive is a faithful schedule of the application.** For valid rate groups and any list of inputs, with any
ticks, flight inputs and simulated delays:
- the application's whole state is that of a standalone application stepped once on each flight input presented at an
  accepted tick `t` with `t ≥ phase` and `(t - phase) % period = 0`, in order, and the flight outputs are its outputs;
- a step is answered OK exactly when its tick is the number of ticks accepted before it; the flight software runs
  exactly at the accepted due ticks, and any other step leaves the application untouched. -/
theorem executive_schedules_app (configuration : FlightSoftwareExecutiveConfig)
    (hv : (ofConfig configuration).scheduler.valid = true) (inputs : List FlightSoftwareExecutiveInput) :
    (run configuration inputs).app =
      FlightSoftwareApp.run configuration.app (scheduledInputs configuration inputs) ∧
    (outputs configuration inputs).flatMap flightOutputs =
      Machine.outputs FlightSoftwareApp.step (FlightSoftwareApp.ofConfig configuration.app)
        (scheduledInputs configuration inputs) ∧
    ∀ pre input post, inputs = pre ++ input :: post →
      (((run configuration pre).step input).1.schedulerStatus = .ok ↔
        input.tick.toNat = acceptedCount (outputs configuration pre)) ∧
      (((run configuration pre).step input).1.flightSoftwareRan = true ↔
        ((run configuration pre).step input).1.schedulerStatus = .ok ∧ FlightDue configuration input.tick) ∧
      (((run configuration pre).step input).1.flightSoftwareRan = false →
        ((run configuration pre).step input).2.app = (run configuration pre).app) := by
  refine ⟨run_app hv inputs, (embedsApp configuration).outputs (scheduled_ofConfig hv) inputs, ?_⟩
  intro pre input _ _
  have h := run_scheduled hv pre
  refine ⟨?_, flightSoftwareRan_iff h, app_of_not_ran h⟩
  rw [← clock_eq_acceptedCount hv]
  exact status_ok_iff h

/-- flight software every second tick, at ticks 1, 3, ... -/
def oddTicks : FlightSoftwareExecutiveConfig := { flightPeriodTicks := 2, flightPhaseTicks := 1 }

/-- ticks 0, 5 (refused) and 1: the flight input of tick 1 is the only one executed -/
theorem executive_schedules_app_odd :
    (run oddTicks [{ tick := 0, flightInput := { timestampMs := 7 } }, { tick := 5 },
        { tick := 1, flightInput := { timestampMs := 9 } }]).app =
      FlightSoftwareApp.run {} [{ timestampMs := 9 }] :=
  (executive_schedules_app oddTicks (by decide) _).1

/-! ## An invalid executive -/

/-- nothing runs, every step reports INVALID_CONFIGURATION, and mode and active fault stay BOOT and NONE -/
structure NeverExecutes (configuration : FlightSoftwareExecutiveConfig)
    (inputs : List FlightSoftwareExecutiveInput) : Prop where
  flight : ∀ output ∈ outputs configuration inputs, output.flightSoftwareRan = false
  housekeeping : ∀ output ∈ outputs configuration inputs, output.housekeepingRan = false
  status : ∀ output ∈ outputs configuration inputs, output.schedulerStatus = .invalidConfiguration
  mode : (run configuration inputs).currentMode = .boot
  fault : (run configuration inputs).lastFault = .none

theorem step_of_invalid (h : executive.scheduler.valid = false) :
    executive.step input =
      ({ schedulerStatus := .invalidConfiguration, schedulerStatistics := executive.scheduler.statistics },
        executive) := by
  simp [step, RateGroupScheduler.step, h]

/-- with a refused rate group, every step is refused -/
theorem outputs_of_invalid (h : executive.scheduler.valid = false) (inputs : List FlightSoftwareExecutiveInput) :
    Machine.final step executive inputs = executive ∧
      ∀ output ∈ Machine.outputs step executive inputs,
        output = { schedulerStatus := .invalidConfiguration
                   schedulerStatistics := executive.scheduler.statistics } := by
  induction inputs with
  | nil => exact ⟨rfl, by simp⟩
  | cons input inputs ih =>
    rw [Machine.final_cons, Machine.outputs_cons, step_of_invalid h]
    refine ⟨ih.1, ?_⟩
    intro output houtput
    rcases List.mem_cons.1 houtput with heq | hrest
    · exact heq
    · exact ih.2 output hrest

/-- **When an executive never executes.** A run of any length executes nothing exactly when it is empty or one of the
two rate groups is refused; whether the application is valid does not enter. -/
theorem never_executes_iff (configuration : FlightSoftwareExecutiveConfig)
    (inputs : List FlightSoftwareExecutiveInput) :
    NeverExecutes configuration inputs ↔
      inputs = [] ∨
        ¬ (RateGroupScheduler.Checked (flightRateGroup configuration) ∧
          RateGroupScheduler.Checked (housekeepingRateGroup configuration)) := by
  rw [← makeSchedulerConfiguration_valid_iff]
  cases hv : (ofConfig configuration).scheduler.valid with
  | false =>
    obtain ⟨hrun, houtputs⟩ := outputs_of_invalid hv inputs
    refine iff_of_true ?_ (Or.inr (by simp))
    refine ⟨?_, ?_, ?_, ?_, ?_⟩
    · intro output houtput
      rw [houtputs output houtput]
    · intro output houtput
      rw [houtputs output houtput]
    · intro output houtput
      rw [houtputs output houtput]
    · rw [run, hrun]; rfl
    · rw [run, hrun]; rfl
  | true =>
    cases inputs with
    | nil => exact iff_of_true ⟨by simp [outputs], by simp [outputs], by simp [outputs], rfl, rfl⟩ (Or.inl rfl)
    | cons input inputs =>
      refine iff_of_false ?_ (by simp)
      intro hnever
      have hstatus := hnever.status _ List.mem_cons_self
      -- a valid scheduler answers OK or TICK_DISCONTINUITY
      have h := scheduled_ofConfig hv
      cases hc : (ofConfig configuration).scheduler.continuous input.tick with
      | false =>
        rw [step_of_refused h hc] at hstatus
        cases hstatus
      | true =>
        rw [step_of_accepted h hc] at hstatus
        cases hstatus

/-- a recovery limit of zero: the supervisor, and with it the executive, is invalid -/
def noRecoveryLimit : FlightSoftwareExecutiveConfig :=
  { app := { recoverySupervisor := { maximumFailedAttempts := 0 } } }

/-- SET_MODE to NOMINAL at tick 0 -/
def nominalAtTickZero : FlightSoftwareExecutiveInput :=
  { flightInput := { command := some ⟨1, 0, .setMode, 1⟩ } }

/-- **An invalid application is executed**: the step is answered OK, the flight software runs, and the mode changes. -/
theorem invalid_app_executed :
    (ofConfig noRecoveryLimit).valid = false ∧
      (outputs noRecoveryLimit [nominalAtTickZero]).map (fun output =>
        (output.schedulerStatus, output.flightSoftwareRan, output.housekeepingRan)) = [(.ok, true, true)] ∧
      (run noRecoveryLimit [nominalAtTickZero]).currentMode = .nominal ∧
      ¬ ∀ configuration, (ofConfig configuration).valid = false → ∀ inputs, NeverExecutes configuration inputs := by
  refine ⟨by decide, by decide, by decide, fun h => ?_⟩
  have hmode := (h noRecoveryLimit (by decide) [nominalAtTickZero]).mode
  revert hmode
  decide

end AstraFsw.FlightSoftwareExecutive
