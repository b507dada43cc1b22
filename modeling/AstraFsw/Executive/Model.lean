/-
The flight-software executive (`fsw/src/flight_software_executive.cpp`): the rate-group scheduler dispatching the
application and the housekeeping snapshot.

A step asks the scheduler for the releases of a tick and handles them in order (`dispatch`); each handled release is
reported to the scheduler as complete in the same step.

- `makeSchedulerConfiguration_valid_iff`: the scheduler part is accepted exactly when both rate groups pass its checks;
- `step_of_refused`, `step_of_accepted`: the two shapes of a step.
-/
import AstraFsw.App.Step
import AstraFsw.Core.Periodic
import AstraFsw.Scheduler.Releases

namespace AstraFsw

/-! ## Data -/

inductive ExecutiveTaskId where
  | flightSoftwareStep
  | housekeepingSnapshot
deriving DecidableEq, Repr

namespace ExecutiveTaskId

def toRaw : ExecutiveTaskId → UInt16
  | flightSoftwareStep => 1
  | housekeepingSnapshot => 2

/-- the enumerator with a raw value; the `switch` has a case for no other value -/
def ofRaw? (raw : UInt16) : Option ExecutiveTaskId :=
  if raw = 1 then some flightSoftwareStep else if raw = 2 then some housekeepingSnapshot else none

@[simp] theorem ofRaw?_toRaw (task : ExecutiveTaskId) : ofRaw? task.toRaw = some task := by
  cases task <;> rfl

end ExecutiveTaskId

structure FlightSoftwareExecutiveConfig where
  app : FlightSoftwareAppConfig := {}
  flightPeriodTicks : UInt32 := 1
  flightPhaseTicks : UInt32 := 0
  flightDeadlineTicks : UInt32 := 1
  housekeepingPeriodTicks : UInt32 := 10
  housekeepingPhaseTicks : UInt32 := 0
  housekeepingDeadlineTicks : UInt32 := 2
deriving DecidableEq, Repr

structure FlightSoftwareExecutiveInput where
  tick : UInt64 := 0
  flightInput : FlightSoftwareStepInput := {}
  simulatedFlightCompletionDelayTicks : UInt32 := 0
deriving DecidableEq, Repr

structure FlightSoftwareExecutiveOutput where
  schedulerStatus : SchedulerStatus := .invalidConfiguration
  releases : List RateGroupRelease := []
  deadlineMisses : List DeadlineMiss := []
  flightSoftwareRan : Bool := false
  flightOutput : FlightSoftwareStepOutput := {}
  flightCompletion : CompletionResult := {}
  housekeepingRan : Bool := false
  housekeepingCompletion : CompletionResult := {}
  schedulerStatistics : List RateGroupStatistics := []
deriving DecidableEq, Repr

structure FlightSoftwareExecutive where
  scheduler : RateGroupScheduler := {}
  app : FlightSoftwareApp := {}
deriving DecidableEq, Repr

namespace FlightSoftwareExecutive

/-! ## Construction -/

def flightRateGroup (configuration : FlightSoftwareExecutiveConfig) : RateGroupConfig where
  taskId := ExecutiveTaskId.flightSoftwareStep.toRaw
  name := "flight_software_step"
  periodTicks := configuration.flightPeriodTicks
  phaseTicks := configuration.flightPhaseTicks
  relativeDeadlineTicks := configuration.flightDeadlineTicks

def housekeepingRateGroup (configuration : FlightSoftwareExecutiveConfig) : RateGroupConfig where
  taskId := ExecutiveTaskId.housekeepingSnapshot.toRaw
  name := "housekeeping_snapshot"
  periodTicks := configuration.housekeepingPeriodTicks
  phaseTicks := configuration.housekeepingPhaseTicks
  relativeDeadlineTicks := configuration.housekeepingDeadlineTicks

def makeSchedulerConfiguration (configuration : FlightSoftwareExecutiveConfig) : List RateGroupConfig :=
  [flightRateGroup configuration, housekeepingRateGroup configuration]

def ofConfig (configuration : FlightSoftwareExecutiveConfig) : FlightSoftwareExecutive where
  scheduler := RateGroupScheduler.ofConfig (makeSchedulerConfiguration configuration)
  app := FlightSoftwareApp.ofConfig configuration.app

def valid (executive : FlightSoftwareExecutive) : Bool := executive.scheduler.valid && executive.app.valid

def validationError (executive : FlightSoftwareExecutive) : String :=
  if !executive.scheduler.valid then executive.scheduler.validationError else executive.app.validationError

def currentMode (executive : FlightSoftwareExecutive) : Mode := executive.app.currentMode

def lastFault (executive : FlightSoftwareExecutive) : FaultCode := executive.app.lastFault

/-! ## A step -/

/-- the reported end of the flight job: the tick plus the simulated delay, saturating -/
def flightCompletionTick (input : FlightSoftwareExecutiveInput) : UInt64 :=
  if input.simulatedFlightCompletionDelayTicks > 0 then
    let delay := input.simulatedFlightCompletionDelayTicks.toUInt64
    if input.tick > RateGroupScheduler.uint64Max - delay then RateGroupScheduler.uint64Max else input.tick + delay
  else input.tick

/-- one pass of the loop over the releases -/
def dispatch (input : FlightSoftwareExecutiveInput) (state : FlightSoftwareExecutiveOutput × FlightSoftwareExecutive)
    (release : RateGroupRelease) : FlightSoftwareExecutiveOutput × FlightSoftwareExecutive :=
  match ExecutiveTaskId.ofRaw? release.taskId with
  | some .flightSoftwareStep =>
    let flight := state.2.app.step input.flightInput
    let completion := state.2.scheduler.complete release.taskId (flightCompletionTick input)
    ({ state.1 with flightSoftwareRan := true, flightOutput := flight.1, flightCompletion := completion.1 },
      { scheduler := completion.2, app := flight.2 })
  | some .housekeepingSnapshot =>
    let completion := state.2.scheduler.complete release.taskId input.tick
    ({ state.1 with housekeepingRan := true, housekeepingCompletion := completion.1 },
      { state.2 with scheduler := completion.2 })
  | none => state

def step (executive : FlightSoftwareExecutive) (input : FlightSoftwareExecutiveInput) :
    FlightSoftwareExecutiveOutput × FlightSoftwareExecutive :=
  let scheduled := executive.scheduler.step input.tick
  let output : FlightSoftwareExecutiveOutput :=
    { schedulerStatus := scheduled.1.status
      releases := scheduled.1.releases
      deadlineMisses := scheduled.1.deadlineMisses }
  if scheduled.1.status ≠ .ok then
    ({ output with schedulerStatistics := scheduled.2.statistics }, { executive with scheduler := scheduled.2 })
  else
    let dispatched := scheduled.1.releases.foldl (dispatch input) (output, { executive with scheduler := scheduled.2 })
    ({ dispatched.1 with schedulerStatistics := dispatched.2.scheduler.statistics }, dispatched.2)

/-- the state after a list of inputs, and the outputs of the steps -/
def run (configuration : FlightSoftwareExecutiveConfig) (inputs : List FlightSoftwareExecutiveInput) :
    FlightSoftwareExecutive :=
  Machine.final step (ofConfig configuration) inputs

def outputs (configuration : FlightSoftwareExecutiveConfig) (inputs : List FlightSoftwareExecutiveInput) :
    List FlightSoftwareExecutiveOutput :=
  Machine.outputs step (ofConfig configuration) inputs

/-! ## What the scheduler part accepts -/

theorem makeSchedulerConfiguration_valid_iff (configuration : FlightSoftwareExecutiveConfig) :
    (ofConfig configuration).scheduler.valid = true ↔
      RateGroupScheduler.Checked (flightRateGroup configuration) ∧
        RateGroupScheduler.Checked (housekeepingRateGroup configuration) := by
  have hnames : (flightRateGroup configuration).name ≠ "" ∧ (housekeepingRateGroup configuration).name ≠ "" := by
    simp [flightRateGroup, housekeepingRateGroup]
  have hids : ((makeSchedulerConfiguration configuration).map (·.taskId)).Nodup := by
    change [ExecutiveTaskId.flightSoftwareStep.toRaw, ExecutiveTaskId.housekeepingSnapshot.toRaw].Nodup
    decide
  apply (RateGroupScheduler.ofConfig_valid_iff _).trans
  constructor
  · rintro ⟨-, hall, -⟩
    exact ⟨(hall _ (by simp [makeSchedulerConfiguration])).2, (hall _ (by simp [makeSchedulerConfiguration])).2⟩
  · rintro ⟨hflight, hhousekeeping⟩
    refine ⟨by simp [makeSchedulerConfiguration], ?_, hids⟩
    intro config hconfig
    rcases List.mem_pair.1 hconfig with rfl | rfl
    · exact ⟨hnames.1, hflight⟩
    · exact ⟨hnames.2, hhousekeeping⟩

/-! ## The two shapes of a step -/

section Step

variable {configuration : FlightSoftwareExecutiveConfig} {executive : FlightSoftwareExecutive}
variable {input : FlightSoftwareExecutiveInput}

/-- the scheduler of an executive built from a configuration, at any later time -/
def Scheduled (configuration : FlightSoftwareExecutiveConfig) (executive : FlightSoftwareExecutive) : Prop :=
  RateGroupScheduler.Built (makeSchedulerConfiguration configuration) executive.scheduler

def flightDue (configuration : FlightSoftwareExecutiveConfig) (tick : UInt64) : Bool :=
  RateGroupScheduler.due (flightRateGroup configuration) tick

def housekeepingDue (configuration : FlightSoftwareExecutiveConfig) (tick : UInt64) : Bool :=
  RateGroupScheduler.due (housekeepingRateGroup configuration) tick

/-- the completion of a due flight job, and the scheduler after it -/
def flightPart (configuration : FlightSoftwareExecutiveConfig) (executive : FlightSoftwareExecutive)
    (input : FlightSoftwareExecutiveInput) : CompletionResult × RateGroupScheduler :=
  let released := (executive.scheduler.step input.tick).2
  if flightDue configuration input.tick then
    released.complete ExecutiveTaskId.flightSoftwareStep.toRaw (flightCompletionTick input)
  else ({}, released)

/-- the completion of a due housekeeping job, and the scheduler after it -/
def housekeepingPart (configuration : FlightSoftwareExecutiveConfig) (executive : FlightSoftwareExecutive)
    (input : FlightSoftwareExecutiveInput) : CompletionResult × RateGroupScheduler :=
  let flown := (flightPart configuration executive input).2
  if housekeepingDue configuration input.tick then
    flown.complete ExecutiveTaskId.housekeepingSnapshot.toRaw input.tick
  else ({}, flown)

/-- the release of a task at a due tick -/
def releaseOf (tick : UInt64) (task : TaskState) : RateGroupRelease where
  taskId := task.config.taskId
  releaseTick := tick
  absoluteDeadlineTick := tick + task.config.relativeDeadlineTicks.toUInt64
  releaseCount := task.releaseCount + 1

/-- the scheduler holds the two tasks, in order -/
theorem Scheduled.tasks (h : Scheduled configuration executive) :
    ∃ flight housekeeping, executive.scheduler.tasks = [flight, housekeeping] ∧
      flight.config = flightRateGroup configuration ∧ housekeeping.config = housekeepingRateGroup configuration := by
  obtain ⟨flight, housekeeping, htasks⟩ : ∃ t₁ t₂, executive.scheduler.tasks = [t₁, t₂] := by
    have hlen := congrArg List.length h.configs
    rw [List.length_map] at hlen
    exact List.length_eq_two.1 hlen
  refine ⟨flight, housekeeping, htasks, ?_⟩
  have hconfigs := h.configs
  rw [htasks] at hconfigs
  simpa [makeSchedulerConfiguration] using hconfigs

/-- the releases of an accepted tick: those of the flight task, then those of the housekeeping task -/
theorem Scheduled.releases (h : Scheduled configuration executive)
    (hc : executive.scheduler.continuous input.tick = true) :
    ∃ flight housekeeping : RateGroupRelease,
      flight.taskId = ExecutiveTaskId.flightSoftwareStep.toRaw ∧
      housekeeping.taskId = ExecutiveTaskId.housekeepingSnapshot.toRaw ∧
      (executive.scheduler.step input.tick).1.releases =
        (if flightDue configuration input.tick then [flight] else []) ++
          (if housekeepingDue configuration input.tick then [housekeeping] else []) := by
  obtain ⟨t₁, t₂, htasks, h₁, h₂⟩ := h.tasks
  have hflight : RateGroupScheduler.due t₁.config input.tick = flightDue configuration input.tick := by rw [h₁]; rfl
  have hhousekeeping : RateGroupScheduler.due t₂.config input.tick = housekeepingDue configuration input.tick := by
    rw [h₂]; rfl
  refine ⟨releaseOf input.tick t₁, releaseOf input.tick t₂, congrArg (·.taskId) h₁, congrArg (·.taskId) h₂, ?_⟩
  rw [RateGroupScheduler.step_of_continuous h.valid hc, htasks]
  simp only [List.filterMap_cons, List.filterMap_nil, RateGroupScheduler.stepTask_spec, hflight, hhousekeeping]
  cases flightDue configuration input.tick <;> cases housekeepingDue configuration input.tick <;> rfl

theorem step_of_refused (h : Scheduled configuration executive)
    (hc : executive.scheduler.continuous input.tick = false) :
    executive.step input =
      ({ schedulerStatus := .tickDiscontinuity, schedulerStatistics := executive.scheduler.statistics },
        executive) := by
  simp [step, RateGroupScheduler.step_of_not_continuous h.valid hc]

/-- **An accepted step**: the two jobs, each if it is due, the flight job first. -/
theorem step_of_accepted (h : Scheduled configuration executive)
    (hc : executive.scheduler.continuous input.tick = true) :
    executive.step input =
      ({ schedulerStatus := .ok
         releases := (executive.scheduler.step input.tick).1.releases
         deadlineMisses := (executive.scheduler.step input.tick).1.deadlineMisses
         flightSoftwareRan := flightDue configuration input.tick
         flightOutput := if flightDue configuration input.tick then (executive.app.step input.flightInput).1 else {}
         flightCompletion := (flightPart configuration executive input).1
         housekeepingRan := housekeepingDue configuration input.tick
         housekeepingCompletion := (housekeepingPart configuration executive input).1
         schedulerStatistics := (housekeepingPart configuration executive input).2.statistics },
        { scheduler := (housekeepingPart configuration executive input).2
          app := if flightDue configuration input.tick then (executive.app.step input.flightInput).2
            else executive.app }) := by
  obtain ⟨flight, housekeeping, hflight, hhousekeeping, hreleases⟩ := h.releases hc
  have hstatus : (executive.scheduler.step input.tick).1.status = .ok := by
    rw [RateGroupScheduler.step_of_continuous h.valid hc]
  unfold step
  simp only [hstatus, hreleases, ne_eq, not_true_eq_false, if_false]
  unfold housekeepingPart flightPart
  cases flightDue configuration input.tick <;> cases housekeepingDue configuration input.tick <;>
    simp [dispatch, hflight, hhousekeeping]

end Step

end FlightSoftwareExecutive

end AstraFsw
