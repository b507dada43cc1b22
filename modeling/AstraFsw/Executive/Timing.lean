/-
Timing accounting of the executive.

Of the three places where the scheduler counts a miss only the late completion can fire: every job is completed in the
step that releases it, so no job is pending when a tick looks for overdue jobs. A flight job is late exactly when its
simulated delay exceeds the deadline; the housekeeping job is completed at its release tick and never late.

- `Quiescent`: a task between two steps of the executive, with the number of its misses;
- `Quiescent.job`: a job that is released and completed at once;
- `Accounted.step`: one step of the executive; `timing_accounting`: every run whose accepted ticks leave room for the
  largest deadline and delay.
-/
import AstraFsw.Executive.Schedule
import AstraFsw.Scheduler.Deadlines

namespace AstraFsw

namespace RateGroupScheduler

/-! ## A job released and completed at once -/

/-- nothing pending, every release completed, and so many misses -/
structure Quiescent (config : RateGroupConfig) (missCount : ℕ) (task : TaskState) : Prop where
  config_eq : task.config = config
  idle : task.pending = false
  completed : task.completionCount = task.releaseCount
  missed : task.deadlineMissCount.toNat = missCount

theorem quiescent_initialTask (config : RateGroupConfig) : Quiescent config 0 (initialTask config) :=
  ⟨rfl, rfl, rfl, rfl⟩

section Job

variable {config : RateGroupConfig} {missCount : ℕ} {task : TaskState} {tick : UInt64}

/-- an idle task misses nothing -/
theorem Quiescent.stepTask_misses (h : Quiescent config missCount task) : (stepTask tick task).1 = [] := by
  rw [stepTask_spec]
  simp [misses, h.idle]

theorem Quiescent.stepTask_not_due (h : Quiescent config missCount task) (hnot : due config tick = false) :
    (stepTask tick task).2.2 = task := by
  rw [stepTask_spec, h.config_eq, hnot]
  simp [afterMiss, misses, h.idle, h.config_eq, hnot]

/-- **A job of one step.** Released at `tick` and completed with a delay, it is late, and counted as a miss, exactly
when the delay exceeds the deadline. -/
theorem Quiescent.job (h : Quiescent config missCount task) (hdue : due config tick = true)
    (hroom : tick.toNat + config.relativeDeadlineTicks.toNat < 2 ^ 64) (hcount : missCount + 1 < 2 ^ 64)
    {k : UInt64} {delay : ℕ} (hk : k.toNat = tick.toNat + delay) (taskId : UInt16) :
    (completeTask (stepTask tick task).2.2 taskId k).1.status =
        (if config.relativeDeadlineTicks.toNat < delay then .completedLate else .completedOnTime) ∧
      Quiescent config (missCount + if config.relativeDeadlineTicks.toNat < delay then 1 else 0)
        (completeTask (stepTask tick task).2.2 taskId k).2 := by
  have hdue' : due task.config tick = true := by rw [h.config_eq, hdue]
  have hholds := holds_of_due hdue'
  rw [h.config_eq] at hholds
  -- the release keeps the counts but its own
  have hcounts : (stepTask tick task).2.2.completionCount = task.completionCount ∧
      (stepTask tick task).2.2.deadlineMissCount = task.deadlineMissCount ∧
      (stepTask tick task).2.2.releaseCount = task.releaseCount + 1 := by
    rw [stepTask_spec, hdue']
    simp [afterMiss, misses, h.idle]
  generalize (stepTask tick task).2.2 = released at hholds hcounts
  obtain ⟨hcompletions, hmisses, hreleases⟩ := hcounts
  have honTime : onTime released k = true ↔ ¬ config.relativeDeadlineTicks.toNat < delay := by
    rw [hholds.onTime_eq hroom, hk, decide_eq_true_eq]
    omega
  rw [completeTask_of_pending hholds.pending, hholds.recorded_eq, Bool.or_false]
  by_cases hlate : config.relativeDeadlineTicks.toNat < delay
  · have hoff : onTime released k = false := Bool.eq_false_iff.2 fun h => honTime.1 h hlate
    simp only [hlate, hoff, if_true, if_false, Bool.false_eq_true]
    refine ⟨trivial, hholds.config_eq, rfl, ?_, ?_⟩
    · rw [hcompletions, h.completed, hreleases]
    · rw [hmisses, toNat_add_one (by rw [h.missed]; exact hcount), h.missed]
  · have hon := honTime.2 hlate
    simp only [hlate, hon, if_true, if_false]
    refine ⟨trivial, hholds.config_eq, rfl, ?_, ?_⟩
    · rw [hcompletions, h.completed, hreleases]
    · rw [hmisses, h.missed, Nat.add_zero]

end Job

/-! ## A scheduler of two tasks -/

section TwoTasks

variable {s : RateGroupScheduler} {t₁ t₂ : TaskState} {taskId : UInt16}

theorem complete_first (hv : s.valid = true) (htasks : s.tasks = [t₁, t₂]) (h₁ : t₁.config.taskId = taskId)
    (k : UInt64) :
    s.complete taskId k =
      ((completeTask t₁ taskId k).1, { s with tasks := [(completeTask t₁ taskId k).2, t₂] }) := by
  have htask : s.taskOf taskId = some t₁ := by simp [taskOf, htasks, h₁]
  have hindex : [t₁, t₂].findIdx (·.config.taskId == taskId) = 0 := by simp [List.findIdx_cons, h₁]
  rw [complete_of_some hv htask, htasks, hindex]
  rfl

theorem complete_second (hv : s.valid = true) (htasks : s.tasks = [t₁, t₂]) (h₁ : t₁.config.taskId ≠ taskId)
    (h₂ : t₂.config.taskId = taskId) (k : UInt64) :
    s.complete taskId k =
      ((completeTask t₂ taskId k).1, { s with tasks := [t₁, (completeTask t₂ taskId k).2] }) := by
  have htask : s.taskOf taskId = some t₂ := by simp [taskOf, htasks, h₁, h₂]
  have hindex : [t₁, t₂].findIdx (·.config.taskId == taskId) = 1 := by
    simp [List.findIdx_cons, beq_false_of_ne h₁, h₂]
  rw [complete_of_some hv htask, htasks, hindex]
  rfl

end TwoTasks

end RateGroupScheduler

namespace FlightSoftwareExecutive

open RateGroupScheduler (Quiescent)

variable {configuration : FlightSoftwareExecutiveConfig} {executive : FlightSoftwareExecutive}
variable {input : FlightSoftwareExecutiveInput}

/-- a step reports the statistics it leaves -/
theorem step_statistics (executive : FlightSoftwareExecutive) (input : FlightSoftwareExecutiveInput) :
    (executive.step input).1.schedulerStatistics = (executive.step input).2.scheduler.statistics := by
  unfold step
  dsimp only
  split_ifs <;> rfl

/-! ## Late releases -/

/-- the step released the flight task, and the simulated delay exceeds its deadline -/
def releasedLate (configuration : FlightSoftwareExecutiveConfig) (output : FlightSoftwareExecutiveOutput)
    (input : FlightSoftwareExecutiveInput) : Bool :=
  output.releases.any (·.taskId == ExecutiveTaskId.flightSoftwareStep.toRaw) &&
    decide (configuration.flightDeadlineTicks < input.simulatedFlightCompletionDelayTicks)

/-- the number of flight releases of a run whose simulated delay exceeds the deadline -/
def lateReleases (configuration : FlightSoftwareExecutiveConfig) (inputs : List FlightSoftwareExecutiveInput) : ℕ :=
  (Machine.trace step (ofConfig configuration) inputs).countP fun e =>
    releasedLate configuration (e.1.step e.2).1 e.2

theorem lateReleases_snoc (inputs : List FlightSoftwareExecutiveInput) (input : FlightSoftwareExecutiveInput) :
    lateReleases configuration (inputs ++ [input]) = lateReleases configuration inputs +
      if releasedLate configuration ((run configuration inputs).step input).1 input then 1 else 0 := by
  rw [lateReleases, Machine.trace_append, List.countP_append, Machine.trace_cons, Machine.trace_nil,
    List.countP_singleton]
  rfl

/-- with the tick this far below 2^64, the reported end of the flight job is exact -/
theorem toNat_flightCompletionTick (htick : input.tick.toNat ≤ 2 ^ 64 - 2 ^ 33) :
    (flightCompletionTick input).toNat = input.tick.toNat + input.simulatedFlightCompletionDelayTicks.toNat := by
  have hdelay := input.simulatedFlightCompletionDelayTicks.toNat_lt
  have hmax : RateGroupScheduler.uint64Max.toNat = 2 ^ 64 - 1 := rfl
  have hle : input.simulatedFlightCompletionDelayTicks.toUInt64 ≤ RateGroupScheduler.uint64Max := by
    rw [UInt64.le_iff_toNat_le, UInt32.toNat_toUInt64, hmax]
    omega
  unfold flightCompletionTick
  dsimp only
  split_ifs with hpos hsaturated
  · rw [gt_iff_lt, UInt64.lt_iff_toNat_lt, UInt64.toNat_sub_of_le _ _ hle, UInt32.toNat_toUInt64, hmax] at hsaturated
    omega
  · rw [UInt64.toNat_add, UInt32.toNat_toUInt64]
    exact Nat.mod_eq_of_lt (by omega)
  · have hzero : input.simulatedFlightCompletionDelayTicks.toNat = 0 := by
      rw [gt_iff_lt, UInt32.lt_iff_toNat_lt, UInt32.toNat_zero] at hpos
      omega
    rw [hzero, Nat.add_zero]

/-! ## Steps -/

/-- both tasks between two steps: the flight task with so many misses, the housekeeping task with none -/
def Accounted (configuration : FlightSoftwareExecutiveConfig) (late : ℕ) (executive : FlightSoftwareExecutive) : Prop :=
  ∃ flight housekeeping, executive.scheduler.tasks = [flight, housekeeping] ∧
    Quiescent (flightRateGroup configuration) late flight ∧
    Quiescent (housekeepingRateGroup configuration) 0 housekeeping

/-- the flight task is released exactly when it is due -/
theorem releasedLate_of_accepted (h : Scheduled configuration executive)
    (hc : executive.scheduler.continuous input.tick = true) :
    releasedLate configuration (executive.step input).1 input =
      (flightDue configuration input.tick &&
        decide (configuration.flightDeadlineTicks < input.simulatedFlightCompletionDelayTicks)) := by
  obtain ⟨flight, housekeeping, hflight, hhousekeeping, hreleases⟩ := h.releases hc
  have hother : ExecutiveTaskId.housekeepingSnapshot.toRaw ≠ ExecutiveTaskId.flightSoftwareStep.toRaw := by decide
  rw [releasedLate, step_of_accepted h hc, hreleases]
  cases flightDue configuration input.tick <;> cases housekeepingDue configuration input.tick <;>
    simp [hflight, hhousekeeping, hother]

section AcceptedStep

variable (h : Scheduled configuration executive) (htick : input.tick.toNat ≤ 2 ^ 64 - 2 ^ 33)
  {flight housekeeping : TaskState}
include h htick

/-- the flight job of an accepted step, if it is due -/
theorem flightPart_tasks (hc : executive.scheduler.continuous input.tick = true)
    (htasks : executive.scheduler.tasks = [flight, housekeeping]) {late : ℕ} (hlate : late ≤ input.tick.toNat)
    (hflight : Quiescent (flightRateGroup configuration) late flight) :
    ((flightPart configuration executive input).1.status = .completedLate ↔
        releasedLate configuration (executive.step input).1 input = true) ∧
      ∃ flight', (flightPart configuration executive input).2.tasks =
          [flight', (RateGroupScheduler.stepTask input.tick housekeeping).2.2] ∧
        Quiescent (flightRateGroup configuration)
          (late + if releasedLate configuration (executive.step input).1 input then 1 else 0) flight' := by
  have hstep := RateGroupScheduler.step_of_continuous h.valid hc
  have hvalid : (executive.scheduler.step input.tick).2.valid = true := by rw [hstep]; exact h.valid
  have hreleased : (executive.scheduler.step input.tick).2.tasks =
      [(RateGroupScheduler.stepTask input.tick flight).2.2,
        (RateGroupScheduler.stepTask input.tick housekeeping).2.2] := by
    rw [hstep, htasks]
    rfl
  rw [releasedLate_of_accepted h hc]
  unfold flightPart
  dsimp only
  cases hdue : flightDue configuration input.tick with
  | false =>
    refine ⟨by simp, _, hreleased, ?_⟩
    rw [hflight.stepTask_not_due hdue]
    exact hflight
  | true =>
    have hid : (RateGroupScheduler.stepTask input.tick flight).2.2.config.taskId =
        ExecutiveTaskId.flightSoftwareStep.toRaw := by
      rw [RateGroupScheduler.stepTask_config, hflight.config_eq]
      rfl
    have hdeadline := configuration.flightDeadlineTicks.toNat_lt
    obtain ⟨hstatus, hquiescent⟩ := hflight.job hdue
      (by change _ + configuration.flightDeadlineTicks.toNat < _; omega) (by omega)
      (toNat_flightCompletionTick htick) ExecutiveTaskId.flightSoftwareStep.toRaw
    rw [if_pos rfl, RateGroupScheduler.complete_first hvalid hreleased hid]
    simp only [Bool.true_and, decide_eq_true_eq, UInt32.lt_iff_toNat_lt]
    refine ⟨?_, _, rfl, hquiescent⟩
    rw [hstatus]
    change (if configuration.flightDeadlineTicks.toNat < _ then _ else _) = _ ↔ _
    split_ifs with hexceeds <;> simp [hexceeds]

/-- the housekeeping job of an accepted step, if it is due, is never late -/
theorem housekeepingPart_tasks (hhousekeeping : Quiescent (housekeepingRateGroup configuration) 0 housekeeping)
    {flight' : TaskState} (hconfig : flight'.config = flightRateGroup configuration)
    (hflown : (flightPart configuration executive input).2.tasks =
      [flight', (RateGroupScheduler.stepTask input.tick housekeeping).2.2]) :
    ∃ housekeeping', (housekeepingPart configuration executive input).2.tasks = [flight', housekeeping'] ∧
      Quiescent (housekeepingRateGroup configuration) 0 housekeeping' := by
  have hvalid : (flightPart configuration executive input).2.valid = true := (flightPart_built h).1.valid
  unfold housekeepingPart
  dsimp only
  cases hdue : housekeepingDue configuration input.tick with
  | false =>
    refine ⟨_, hflown, ?_⟩
    rw [hhousekeeping.stepTask_not_due hdue]
    exact hhousekeeping
  | true =>
    have hid : (RateGroupScheduler.stepTask input.tick housekeeping).2.2.config.taskId =
        ExecutiveTaskId.housekeepingSnapshot.toRaw := by
      rw [RateGroupScheduler.stepTask_config, hhousekeeping.config_eq]
      rfl
    have hother : flight'.config.taskId ≠ ExecutiveTaskId.housekeepingSnapshot.toRaw := by
      rw [hconfig]
      change ExecutiveTaskId.flightSoftwareStep.toRaw ≠ _
      decide
    have hdeadline := configuration.housekeepingDeadlineTicks.toNat_lt
    -- completed at its release tick: the delay is 0
    have hdelay : input.tick.toNat = input.tick.toNat + 0 := rfl
    obtain ⟨-, hquiescent⟩ := hhousekeeping.job hdue
      (by change _ + configuration.housekeepingDeadlineTicks.toNat < _; omega) (by omega) hdelay
      ExecutiveTaskId.housekeepingSnapshot.toRaw
    rw [if_pos rfl, RateGroupScheduler.complete_second hvalid hflown hother hid]
    exact ⟨_, rfl, hquiescent⟩

end AcceptedStep

/-- **One step.** It reports no miss of the scheduler, a late completion exactly for a late release, and leaves both
tasks accounted for. -/
theorem Accounted.step {late : ℕ} (ha : Accounted configuration late executive) (h : Scheduled configuration executive)
    (hlate : late ≤ executive.scheduler.clock)
    (htick : (executive.step input).1.schedulerStatus = .ok → input.tick.toNat ≤ 2 ^ 64 - 2 ^ 33) :
    (executive.step input).1.deadlineMisses = [] ∧
      ((executive.step input).1.flightCompletion.status = .completedLate ↔
        releasedLate configuration (executive.step input).1 input = true) ∧
      Accounted configuration
        (late + if releasedLate configuration (executive.step input).1 input then 1 else 0)
        (executive.step input).2 := by
  cases hc : executive.scheduler.continuous input.tick with
  | false =>
    rw [step_of_refused h hc]
    exact ⟨rfl, by simp [releasedLate], ha⟩
  | true =>
    obtain ⟨flight, housekeeping, htasks, hflight, hhousekeeping⟩ := ha
    have hclock := (RateGroupScheduler.continuous_iff _ _).1 hc
    have hbound : input.tick.toNat ≤ 2 ^ 64 - 2 ^ 33 := htick (by rw [step_of_accepted h hc])
    obtain ⟨hstatus, flight', hflown, hflight'⟩ := flightPart_tasks h hbound hc htasks (hclock ▸ hlate) hflight
    obtain ⟨housekeeping', hkept, hhousekeeping'⟩ :=
      housekeepingPart_tasks h hbound hhousekeeping hflight'.config_eq hflown
    have hmisses : (executive.scheduler.step input.tick).1.deadlineMisses = [] := by
      rw [RateGroupScheduler.step_of_continuous h.valid hc, htasks]
      simp [hflight.stepTask_misses, hhousekeeping.stepTask_misses]
    generalize releasedLate configuration (executive.step input).1 input = exceeded at *
    rw [step_of_accepted h hc]
    exact ⟨hmisses, hstatus, flight', housekeeping', hkept, hflight', hhousekeeping'⟩

/-! ## Runs -/

theorem run_snoc (inputs : List FlightSoftwareExecutiveInput) (input : FlightSoftwareExecutiveInput) :
    run configuration (inputs ++ [input]) = ((run configuration inputs).step input).2 := Machine.final_snoc _ _ _ _

theorem accounted_ofConfig (hv : (ofConfig configuration).scheduler.valid = true) :
    Accounted configuration 0 (ofConfig configuration) := by
  refine ⟨_, _, ?_, RateGroupScheduler.quiescent_initialTask _, RateGroupScheduler.quiescent_initialTask _⟩
  exact congrArg (·.tasks) (RateGroupScheduler.ofConfig_spec hv).1

/-- every late release takes a tick of its own -/
theorem lateReleases_le_clock (hv : (ofConfig configuration).scheduler.valid = true)
    (inputs : List FlightSoftwareExecutiveInput) :
    lateReleases configuration inputs ≤ (run configuration inputs).scheduler.clock := by
  induction inputs using List.reverseRecOn with
  | nil => exact Nat.zero_le _
  | append_singleton inputs input ih =>
    have h := run_scheduled hv inputs
    have hone : (if releasedLate configuration ((run configuration inputs).step input).1 input then 1 else 0) ≤
        acceptedCount [((run configuration inputs).step input).1] := by
      cases hc : (run configuration inputs).scheduler.continuous input.tick with
      | false => simp [step_of_refused h hc, releasedLate]
      | true =>
        split_ifs
        · simp [step_of_accepted h hc, acceptedCount]
        · exact Nat.zero_le _
    rw [lateReleases_snoc, run_snoc]
    calc lateReleases configuration inputs + _
        ≤ (run configuration inputs).scheduler.clock + acceptedCount [((run configuration inputs).step input).1] :=
          Nat.add_le_add ih hone
      _ = ((run configuration inputs).step input).2.scheduler.clock := (step_clock h).symm

/-- the accepted ticks of a run leave room for the largest deadline and delay -/
def TicksBounded (configuration : FlightSoftwareExecutiveConfig) (inputs : List FlightSoftwareExecutiveInput) : Prop :=
  ∀ pre input post, inputs = pre ++ input :: post →
    ((run configuration pre).step input).1.schedulerStatus = .ok → input.tick.toNat ≤ 2 ^ 64 - 2 ^ 33

theorem TicksBounded.of_forall {inputs : List FlightSoftwareExecutiveInput}
    (h : ∀ input ∈ inputs, input.tick.toNat ≤ 2 ^ 64 - 2 ^ 33) : TicksBounded configuration inputs := by
  intro pre input post hsplit _
  exact h input (by rw [hsplit]; exact List.mem_append_right _ List.mem_cons_self)

theorem TicksBounded.of_append {pre post : List FlightSoftwareExecutiveInput}
    (h : TicksBounded configuration (pre ++ post)) : TicksBounded configuration pre := by
  intro first input last hsplit hok
  exact h first input (last ++ post) (by rw [hsplit, List.append_assoc, List.cons_append]) hok

theorem run_accounted (hv : (ofConfig configuration).scheduler.valid = true)
    (inputs : List FlightSoftwareExecutiveInput) (hticks : TicksBounded configuration inputs) :
    Accounted configuration (lateReleases configuration inputs) (run configuration inputs) := by
  induction inputs using List.reverseRecOn with
  | nil => exact accounted_ofConfig hv
  | append_singleton inputs input ih =>
    rw [lateReleases_snoc, run_snoc]
    exact ((ih hticks.of_append).step (run_scheduled hv inputs) (lateReleases_le_clock hv inputs)
      (hticks inputs input [] rfl)).2.2

/-- **Timing accounting.** In every run of an executive with valid rate groups whose accepted ticks stay at or below
2^64 - 2^33: no step reports a miss of the scheduler; the flight completion is COMPLETED_LATE exactly in the steps that
release the flight task with a delay beyond its deadline; and after every step no task is pending, each has completed
what it released, the flight task has missed its late releases and the housekeeping task nothing, which is also what the
step reports. -/
theorem timing_accounting (configuration : FlightSoftwareExecutiveConfig)
    (hv : (ofConfig configuration).scheduler.valid = true) (inputs : List FlightSoftwareExecutiveInput)
    (hticks : TicksBounded configuration inputs) :
    ∀ pre input post, inputs = pre ++ input :: post →
      ((run configuration pre).step input).1.deadlineMisses = [] ∧
      (((run configuration pre).step input).1.flightCompletion.status = .completedLate ↔
        releasedLate configuration ((run configuration pre).step input).1 input = true) ∧
      (∃ flight housekeeping, (run configuration (pre ++ [input])).scheduler.tasks = [flight, housekeeping] ∧
        Quiescent (flightRateGroup configuration) (lateReleases configuration (pre ++ [input])) flight ∧
        Quiescent (housekeepingRateGroup configuration) 0 housekeeping) ∧
      ((run configuration pre).step input).1.schedulerStatistics =
        (run configuration (pre ++ [input])).scheduler.statistics := by
  intro pre input post hsplit
  rw [hsplit] at hticks
  have hpre := run_accounted hv pre hticks.of_append
  obtain ⟨hmisses, hstatus, -⟩ :=
    hpre.step (run_scheduled hv pre) (lateReleases_le_clock hv pre) (hticks pre input post rfl)
  refine ⟨hmisses, hstatus, run_accounted hv (pre ++ [input]) ?_, ?_⟩
  · rw [← List.singleton_append, ← List.append_assoc] at hticks
    exact hticks.of_append
  · rw [run_snoc]
    exact step_statistics _ _

/-- the deadline of the default flight task is 1 tick -/
def delayedAtTickZero : FlightSoftwareExecutiveInput := { tick := 0, simulatedFlightCompletionDelayTicks := 2 }

theorem timing_accounting_delayed :
    ((run {} []).step delayedAtTickZero).1.flightCompletion.status = .completedLate ∧
      ∃ flight housekeeping, (run {} [delayedAtTickZero]).scheduler.tasks = [flight, housekeeping] ∧
        Quiescent (flightRateGroup {}) (lateReleases {} [delayedAtTickZero]) flight ∧
        Quiescent (housekeepingRateGroup {}) 0 housekeeping := by
  have hticks : TicksBounded {} [delayedAtTickZero] := TicksBounded.of_forall (by decide)
  obtain ⟨-, hstatus, htasks, -⟩ :=
    timing_accounting {} (by decide) [delayedAtTickZero] hticks [] delayedAtTickZero [] rfl
  exact ⟨hstatus.2 (by decide), htasks⟩

end FlightSoftwareExecutive

end AstraFsw
