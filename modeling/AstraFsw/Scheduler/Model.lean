/-
The rate-group scheduler (`fsw/src/rate_group_scheduler.cpp`).

Ticks and counters are 64-bit. The loop over the tasks in `step` has the same body for every task and no exit, so it is
`stepTask` on each task; `complete` changes the first task with the id (`find_task`).

Results:
- `stepTask_spec`, `completeTask_of_pending`: the bodies on one task, case by case;
- `ofConfig_spec`, `ofConfig_valid_iff`: the tasks the constructor builds, and what it accepts.
-/
import Mathlib.Tactic

namespace AstraFsw

/-! ## Data -/

inductive SchedulerStatus where
  | ok
  | invalidConfiguration
  | tickDiscontinuity
deriving DecidableEq, Repr

inductive CompletionStatus where
  | completedOnTime
  | completedLate
  | unknownTask
  | notPending
  | schedulerInvalid
deriving DecidableEq, Repr

structure RateGroupConfig where
  taskId : UInt16 := 0
  name : String := ""
  periodTicks : UInt32 := 1
  phaseTicks : UInt32 := 0
  relativeDeadlineTicks : UInt32 := 1
deriving DecidableEq, Repr

structure RateGroupRelease where
  taskId : UInt16 := 0
  releaseTick : UInt64 := 0
  absoluteDeadlineTick : UInt64 := 0
  releaseCount : UInt64 := 0
deriving DecidableEq, Repr

structure DeadlineMiss where
  taskId : UInt16 := 0
  releaseTick : UInt64 := 0
  deadlineTick : UInt64 := 0
  observedTick : UInt64 := 0
deriving DecidableEq, Repr

structure SchedulerStepResult where
  status : SchedulerStatus := .ok
  tick : UInt64 := 0
  releases : List RateGroupRelease := []
  deadlineMisses : List DeadlineMiss := []
deriving DecidableEq, Repr

structure CompletionResult where
  status : CompletionStatus := .schedulerInvalid
  taskId : UInt16 := 0
  releaseTick : UInt64 := 0
  deadlineTick : UInt64 := 0
  completionTick : UInt64 := 0
deriving DecidableEq, Repr

structure RateGroupStatistics where
  taskId : UInt16 := 0
  releaseCount : UInt64 := 0
  completionCount : UInt64 := 0
  deadlineMissCount : UInt64 := 0
  pending : Bool := false
deriving DecidableEq, Repr

structure TaskState where
  config : RateGroupConfig
  pending : Bool := false
  deadlineMissRecorded : Bool := false
  releaseTick : UInt64 := 0
  deadlineTick : UInt64 := 0
  releaseCount : UInt64 := 0
  completionCount : UInt64 := 0
  deadlineMissCount : UInt64 := 0
deriving DecidableEq, Repr

structure RateGroupScheduler where
  valid : Bool := false
  validationError : String := ""
  tasks : List TaskState := []
  tickInitialized : Bool := false
  lastTick : UInt64 := 0
deriving DecidableEq, Repr

namespace RateGroupScheduler

/-! ## Construction -/

def initialTask (config : RateGroupConfig) : TaskState := { config := config }

/-- one pass of the constructor's loop: the checks on one entry, then the task is added -/
def addTask (tasks : List TaskState) (config : RateGroupConfig) : Except String (List TaskState) :=
  if config.name = "" then .error "rate-group name must not be empty"
  else if config.periodTicks = 0 then .error "rate-group period must be greater than zero"
  else if config.phaseTicks ≥ config.periodTicks then .error "rate-group phase must be less than its period"
  else if config.relativeDeadlineTicks = 0 ∨ config.relativeDeadlineTicks > config.periodTicks then
    .error "rate-group deadline must be in the range [1, period]"
  else if tasks.any (·.config.taskId == config.taskId) then .error "rate-group task IDs must be unique"
  else .ok (tasks ++ [initialTask config])

def buildTasks : List TaskState → List RateGroupConfig → Except String (List TaskState)
  | tasks, [] => .ok tasks
  | tasks, config :: configuration =>
    match addTask tasks config with
    | .error e => .error e
    | .ok tasks => buildTasks tasks configuration

def ofConfig (configuration : List RateGroupConfig) : RateGroupScheduler :=
  if configuration = [] then { validationError := "scheduler requires at least one rate group" }
  else match buildTasks [] configuration with
    | .error e => { validationError := e }
    | .ok tasks => { valid := true, tasks }

/-! ## One task -/

/-- the two copies of the miss record in the loop body -/
def recordMiss (task : TaskState) (tick : UInt64) : DeadlineMiss × TaskState :=
  ({ taskId := task.config.taskId, releaseTick := task.releaseTick, deadlineTick := task.deadlineTick,
     observedTick := tick },
    { task with deadlineMissRecorded := true, deadlineMissCount := task.deadlineMissCount + 1 })

def due (config : RateGroupConfig) (tick : UInt64) : Bool :=
  decide (tick ≥ config.phaseTicks.toUInt64) &&
    (tick - config.phaseTicks.toUInt64) % config.periodTicks.toUInt64 == 0

/-- the loop body: the miss records, the release and the task after it -/
def stepTask (tick : UInt64) (task : TaskState) : List DeadlineMiss × Option RateGroupRelease × TaskState :=
  let late : List DeadlineMiss × TaskState :=
    if task.pending && !task.deadlineMissRecorded && decide (tick > task.deadlineTick) then
      ([(recordMiss task tick).1], (recordMiss task tick).2)
    else ([], task)
  let task := late.2
  if !due task.config tick then (late.1, none, task)
  else
    let overrun : List DeadlineMiss × TaskState :=
      if task.pending && !task.deadlineMissRecorded then ([(recordMiss task tick).1], (recordMiss task tick).2)
      else ([], task)
    let task : TaskState :=
      { overrun.2 with
        pending := true
        deadlineMissRecorded := false
        releaseTick := tick
        deadlineTick := tick + overrun.2.config.relativeDeadlineTicks.toUInt64
        releaseCount := overrun.2.releaseCount + 1 }
    (late.1 ++ overrun.1,
      some { taskId := task.config.taskId, releaseTick := task.releaseTick, absoluteDeadlineTick := task.deadlineTick,
             releaseCount := task.releaseCount },
      task)

/-- the part of `complete` after the task is found: the result and the task after it -/
def completeTask (task : TaskState) (taskId : UInt16) (completionTick : UInt64) : CompletionResult × TaskState :=
  if !task.pending then ({ status := .notPending, taskId, completionTick }, task)
  else
    let result : CompletionResult :=
      { taskId, completionTick, releaseTick := task.releaseTick, deadlineTick := task.deadlineTick }
    let task := { task with completionCount := task.completionCount + 1 }
    let completedOnTime := decide (completionTick ≥ task.releaseTick) && decide (completionTick ≤ task.deadlineTick) &&
      !task.deadlineMissRecorded
    if completedOnTime then
      ({ result with status := .completedOnTime }, { task with pending := false, deadlineMissRecorded := false })
    else
      let task :=
        if !task.deadlineMissRecorded then
          { task with deadlineMissRecorded := true, deadlineMissCount := task.deadlineMissCount + 1 }
        else task
      ({ result with status := .completedLate }, { task with pending := false, deadlineMissRecorded := false })

/-! ## The scheduler -/

/-- `std::numeric_limits<std::uint64_t>::max()` -/
def uint64Max : UInt64 := 0xFFFFFFFFFFFFFFFF

/-- does the tick pass the two continuity checks? -/
def continuous (s : RateGroupScheduler) (tick : UInt64) : Bool :=
  if !s.tickInitialized then tick == 0 else !(s.lastTick == uint64Max || tick != s.lastTick + 1)

def step (s : RateGroupScheduler) (tick : UInt64) : SchedulerStepResult × RateGroupScheduler :=
  if !s.valid then ({ status := .invalidConfiguration, tick }, s)
  else if !s.continuous tick then ({ status := .tickDiscontinuity, tick }, s)
  else
    let stepped := s.tasks.map (stepTask tick)
    ({ status := .ok, tick, releases := stepped.filterMap (·.2.1), deadlineMisses := stepped.flatMap (·.1) },
      { s with tasks := stepped.map (·.2.2), tickInitialized := true, lastTick := tick })

/-- the first task with the id and its position -/
def findTask (s : RateGroupScheduler) (taskId : UInt16) : Option (ℕ × TaskState) :=
  (s.tasks.find? (·.config.taskId == taskId)).map (s.tasks.findIdx (·.config.taskId == taskId), ·)

def complete (s : RateGroupScheduler) (taskId : UInt16) (completionTick : UInt64) :
    CompletionResult × RateGroupScheduler :=
  if !s.valid then ({ status := .schedulerInvalid, taskId, completionTick }, s)
  else match s.findTask taskId with
    | none => ({ status := .unknownTask, taskId, completionTick }, s)
    | some (i, task) =>
      let completed := completeTask task taskId completionTick
      (completed.1, { s with tasks := s.tasks.set i completed.2 })

def statistics (s : RateGroupScheduler) : List RateGroupStatistics :=
  s.tasks.map fun task =>
    { taskId := task.config.taskId, releaseCount := task.releaseCount, completionCount := task.completionCount,
      deadlineMissCount := task.deadlineMissCount, pending := task.pending }

/-- the two calls, as inputs of one machine -/
inductive Call where
  | step (tick : UInt64)
  | complete (taskId : UInt16) (completionTick : UInt64)
deriving DecidableEq, Repr

inductive Result where
  | step (result : SchedulerStepResult)
  | complete (result : CompletionResult)
deriving DecidableEq, Repr

def call (s : RateGroupScheduler) : Call → Result × RateGroupScheduler
  | .step tick => (.step (s.step tick).1, (s.step tick).2)
  | .complete taskId completionTick =>
    (.complete (s.complete taskId completionTick).1, (s.complete taskId completionTick).2)

/-! ## One task, case by case -/

/-- the loop body records a miss -/
def misses (task : TaskState) (tick : UInt64) : Bool :=
  task.pending && !task.deadlineMissRecorded && (decide (tick > task.deadlineTick) || due task.config tick)

/-- the task after the miss records of a tick -/
def afterMiss (task : TaskState) (tick : UInt64) : TaskState :=
  if misses task tick then (recordMiss task tick).2 else task

/-- **The loop body.** At most one miss is recorded, and a due task is released after it. -/
theorem stepTask_spec (tick : UInt64) (task : TaskState) :
    stepTask tick task =
      (if misses task tick then [(recordMiss task tick).1] else [],
        if due task.config tick then
          some { taskId := task.config.taskId, releaseTick := tick,
                 absoluteDeadlineTick := tick + task.config.relativeDeadlineTicks.toUInt64,
                 releaseCount := task.releaseCount + 1 }
        else none,
        if due task.config tick then
          { afterMiss task tick with
            pending := true
            deadlineMissRecorded := false
            releaseTick := tick
            deadlineTick := tick + task.config.relativeDeadlineTicks.toUInt64
            releaseCount := task.releaseCount + 1 }
        else afterMiss task tick) := by
  unfold stepTask afterMiss misses
  cases hp : task.pending <;> cases hr : task.deadlineMissRecorded <;> cases hd : due task.config tick <;>
    by_cases hl : tick > task.deadlineTick <;> simp [hp, hr, hd, hl, recordMiss]

@[simp] theorem afterMiss_config (task : TaskState) (tick : UInt64) : (afterMiss task tick).config = task.config := by
  unfold afterMiss
  split_ifs <;> rfl

@[simp] theorem stepTask_config (tick : UInt64) (task : TaskState) :
    (stepTask tick task).2.2.config = task.config := by
  rw [stepTask_spec]
  split_ifs <;> simp

/-- a completion in the window of a job without a recorded miss -/
def onTime (task : TaskState) (completionTick : UInt64) : Bool :=
  decide (completionTick ≥ task.releaseTick) && decide (completionTick ≤ task.deadlineTick) &&
    !task.deadlineMissRecorded

theorem completeTask_of_not_pending {task : TaskState} (h : task.pending = false) (taskId : UInt16) (tick : UInt64) :
    completeTask task taskId tick = ({ status := .notPending, taskId, completionTick := tick }, task) := by
  simp [completeTask, h]

/-- **The completion of a pending job.** It is counted, and a late one without a recorded miss is counted as a miss. -/
theorem completeTask_of_pending {task : TaskState} (h : task.pending = true) (taskId : UInt16) (tick : UInt64) :
    completeTask task taskId tick =
      ({ status := if onTime task tick then .completedOnTime else .completedLate, taskId, completionTick := tick,
         releaseTick := task.releaseTick, deadlineTick := task.deadlineTick },
        { task with
          completionCount := task.completionCount + 1
          deadlineMissCount := if onTime task tick || task.deadlineMissRecorded then task.deadlineMissCount
            else task.deadlineMissCount + 1
          pending := false
          deadlineMissRecorded := false }) := by
  unfold completeTask onTime
  cases hr : task.deadlineMissRecorded <;> by_cases hw : tick ≥ task.releaseTick <;>
    by_cases hd : tick ≤ task.deadlineTick <;> simp [h, hw, hd]

@[simp] theorem completeTask_config (task : TaskState) (taskId : UInt16) (tick : UInt64) :
    (completeTask task taskId tick).2.config = task.config := by
  cases h : task.pending with
  | false => rw [completeTask_of_not_pending h]
  | true => rw [completeTask_of_pending h]

/-! ## What the constructor accepts -/

/-- the checks on one entry -/
structure Checked (config : RateGroupConfig) : Prop where
  period : 0 < config.periodTicks.toNat
  phase : config.phaseTicks.toNat < config.periodTicks.toNat
  deadline : 0 < config.relativeDeadlineTicks.toNat
  deadline_le : config.relativeDeadlineTicks.toNat ≤ config.periodTicks.toNat

theorem addTask_eq_ok_iff {tasks out : List TaskState} {config : RateGroupConfig} :
    addTask tasks config = .ok out ↔
      config.name ≠ "" ∧ Checked config ∧ (∀ task ∈ tasks, task.config.taskId ≠ config.taskId) ∧
        tasks ++ [initialTask config] = out := by
  unfold addTask
  constructor
  · intro h
    split_ifs at h with hname hperiod hphase hdeadline hid
    obtain ⟨hpos, hle⟩ := not_or.1 hdeadline
    refine ⟨hname, ⟨?_, ?_, ?_, ?_⟩, by simpa using hid, Except.ok.inj h⟩
    · exact Nat.pos_of_ne_zero fun h0 => hperiod (UInt32.toNat_inj.1 h0)
    · exact UInt32.lt_iff_toNat_lt.1 (UInt32.not_le.1 hphase)
    · exact Nat.pos_of_ne_zero fun h0 => hpos (UInt32.toNat_inj.1 h0)
    · exact UInt32.le_iff_toNat_le.1 (UInt32.not_lt.1 hle)
  · rintro ⟨hname, ⟨hperiod, hphase, hdeadline, hdeadlineLe⟩, hfresh, rfl⟩
    have hperiod' : config.periodTicks ≠ 0 := fun h0 => by simp [h0] at hperiod
    have hdeadline' : config.relativeDeadlineTicks ≠ 0 := fun h0 => by simp [h0] at hdeadline
    have hphase' : ¬ config.phaseTicks ≥ config.periodTicks := UInt32.not_le.2 (UInt32.lt_iff_toNat_lt.2 hphase)
    have hle : ¬ config.relativeDeadlineTicks > config.periodTicks :=
      UInt32.not_lt.2 (UInt32.le_iff_toNat_le.2 hdeadlineLe)
    have hids : ¬ (tasks.any (·.config.taskId == config.taskId)) = true := by simpa using hfresh
    rw [if_neg hname, if_neg hperiod', if_neg hphase', if_neg (not_or.2 ⟨hdeadline', hle⟩), if_neg hids]

theorem buildTasks_eq_ok_iff {tasks out : List TaskState} {configuration : List RateGroupConfig}
    (hids : (tasks.map (·.config.taskId)).Nodup) :
    buildTasks tasks configuration = .ok out ↔
      (∀ config ∈ configuration, config.name ≠ "" ∧ Checked config) ∧
        (tasks.map (·.config.taskId) ++ configuration.map (·.taskId)).Nodup ∧
        tasks ++ configuration.map initialTask = out := by
  induction configuration generalizing tasks with
  | nil => simp [buildTasks, hids]
  | cons config configuration ih =>
    have hids_append : (tasks ++ [initialTask config]).map (·.config.taskId) ++ configuration.map (·.taskId) =
        tasks.map (·.config.taskId) ++ (config :: configuration).map (·.taskId) := by
      simp [initialTask]
    unfold buildTasks
    constructor
    · intro h
      cases hadd : addTask tasks config with
      | error e => simp [hadd] at h
      | ok added =>
        obtain ⟨hname, hchecked, hfresh, rfl⟩ := addTask_eq_ok_iff.1 hadd
        have hadded : ((tasks ++ [initialTask config]).map (·.config.taskId)).Nodup := by
          rw [List.map_append, List.nodup_append]
          refine ⟨hids, by simp, fun a ha b hb => ?_⟩
          obtain ⟨task, htask, rfl⟩ := List.mem_map.1 ha
          rw [List.mem_singleton.1 hb]
          exact hfresh task htask
        simp only [hadd] at h
        obtain ⟨hall, hnodup, rfl⟩ := (ih hadded).1 h
        refine ⟨List.forall_mem_cons.2 ⟨⟨hname, hchecked⟩, hall⟩, hids_append ▸ hnodup, by simp⟩
    · rintro ⟨hall, hnodup, rfl⟩
      obtain ⟨⟨hname, hchecked⟩, hall⟩ := List.forall_mem_cons.1 hall
      have hfresh : ∀ task ∈ tasks, task.config.taskId ≠ config.taskId := by
        intro task htask
        exact (List.nodup_append.1 hnodup).2.2 _ (List.mem_map_of_mem htask) _ (by simp)
      rw [← hids_append] at hnodup
      rw [addTask_eq_ok_iff.2 ⟨hname, hchecked, hfresh, rfl⟩]
      exact (ih (List.nodup_append.1 hnodup).1).2 ⟨hall, hnodup, by simp⟩

/-- **What the constructor accepts.** -/
theorem ofConfig_valid_iff (configuration : List RateGroupConfig) :
    (ofConfig configuration).valid = true ↔
      configuration ≠ [] ∧ (∀ config ∈ configuration, config.name ≠ "" ∧ Checked config) ∧
        (configuration.map (·.taskId)).Nodup := by
  unfold ofConfig
  constructor
  · intro h
    split_ifs at h with hempty
    cases hok : buildTasks [] configuration with
    | error e => simp [hok] at h
    | ok out =>
      obtain ⟨hall, hids, -⟩ := (@buildTasks_eq_ok_iff [] out configuration List.nodup_nil).1 hok
      exact ⟨hempty, hall, hids⟩
  · rintro ⟨hempty, hall, hids⟩
    rw [if_neg hempty, (@buildTasks_eq_ok_iff [] _ configuration List.nodup_nil).2 ⟨hall, hids, rfl⟩]

/-- **A valid scheduler** has one idle task for each entry, in order; the entries are checked and their ids unique. -/
theorem ofConfig_spec {configuration : List RateGroupConfig} (h : (ofConfig configuration).valid = true) :
    ofConfig configuration = { valid := true, tasks := configuration.map initialTask } ∧
      (∀ config ∈ configuration, Checked config) ∧ (configuration.map (·.taskId)).Nodup := by
  obtain ⟨hempty, hall, hids⟩ := (ofConfig_valid_iff configuration).1 h
  refine ⟨?_, fun c hc => (hall c hc).2, hids⟩
  unfold ofConfig
  rw [if_neg hempty, (@buildTasks_eq_ok_iff [] _ configuration List.nodup_nil).2 ⟨hall, hids, rfl⟩]
  rfl

end RateGroupScheduler

end AstraFsw
