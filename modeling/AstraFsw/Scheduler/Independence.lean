/-
Rate groups do not interfere.

`soloScheduler` keeps of a scheduler the tasks with one id. A call on the whole scheduler acts on it as the same call,
if the call concerns the id, and not at all otherwise, and it answers with the part of the results that carries the id
(`embedsSolo`). With unique ids the kept part of a valid scheduler is the scheduler configured with that one task, so
the runs of the two agree (`rate_groups_independent`).
-/
import AstraFsw.Scheduler.Run

namespace AstraFsw.RateGroupScheduler

variable {taskId : UInt16}

/-! ## The part of one task -/

/-- the scheduler with only the tasks of the id -/
def soloScheduler (taskId : UInt16) (s : RateGroupScheduler) : RateGroupScheduler :=
  { s with tasks := s.tasks.filter (·.config.taskId == taskId) }

/-- step calls concern every task, a completion the task it is addressed to -/
def Call.concerns (taskId : UInt16) : Call → Bool
  | .step _ => true
  | .complete id _ => id == taskId

/-- the part of a result that carries the id: its releases and misses of a step, a completion result as a whole -/
def Result.partOf (taskId : UInt16) : Result → List Result
  | .step result =>
    [.step { result with
      releases := result.releases.filter (·.taskId == taskId)
      deadlineMisses := result.deadlineMisses.filter (·.taskId == taskId) }]
  | .complete result => if result.taskId == taskId then [.complete result] else []

/-! ## One step -/

theorem soloScheduler_step {s : RateGroupScheduler} (hv : s.valid = true) (tick : UInt64) :
    (soloScheduler taskId s).step tick =
      ({ (s.step tick).1 with
          releases := (s.step tick).1.releases.filter (·.taskId == taskId)
          deadlineMisses := (s.step tick).1.deadlineMisses.filter (·.taskId == taskId) },
        soloScheduler taskId (s.step tick).2) := by
  have hv' : (soloScheduler taskId s).valid = true := hv
  cases hc : s.continuous tick with
  | false =>
    have hc' : (soloScheduler taskId s).continuous tick = false := hc
    rw [step_of_not_continuous hv hc, step_of_not_continuous hv' hc']
    rfl
  | true =>
    have hc' : (soloScheduler taskId s).continuous tick = true := hc
    rw [step_of_continuous hv hc, step_of_continuous hv' hc']
    have hreleases := filter_filterMap (f := fun task => (stepTask tick task).2.1) (p := (·.taskId == taskId))
      (q := (·.config.taskId == taskId)) (fun task release h => by rw [(stepTask_taskId tick task).1 release h]) s.tasks
    have hmisses := filter_flatMap (f := fun task => (stepTask tick task).1) (p := (·.taskId == taskId))
      (q := (·.config.taskId == taskId)) (fun task miss h => by rw [(stepTask_taskId tick task).2 miss h]) s.tasks
    have htasks : (s.tasks.map fun task => (stepTask tick task).2.2).filter (·.config.taskId == taskId) =
        (s.tasks.filter (·.config.taskId == taskId)).map fun task => (stepTask tick task).2.2 := by
      rw [List.filter_map]
      simp only [Function.comp_def, stepTask_config]
    simp only [soloScheduler, hreleases, hmisses, htasks]

/-! ## One completion -/

theorem soloScheduler_taskOf (s : RateGroupScheduler) : (soloScheduler taskId s).taskOf taskId = s.taskOf taskId := by
  unfold taskOf soloScheduler
  rw [List.find?_filter]
  simp only [Bool.decide_and, Bool.and_self, Bool.decide_eq_true]

/-- replacing the first match of `p` by another match, in the list and among its matches -/
theorem filter_set_findIdx_self {α : Type*} {p : α → Bool} {a a' : α} {l : List α} (h : l.find? p = some a)
    (hp : p a' = true) : (l.set (l.findIdx p) a').filter p = (l.filter p).set ((l.filter p).findIdx p) a' := by
  obtain ⟨pre, post, rfl, hpre, ha, hset⟩ := exists_split_of_find? h
  have hnone : pre.filter p = [] := List.filter_eq_nil_iff.2 (by simpa using hpre)
  rw [hset, List.filter_append, List.filter_append, hnone, List.filter_cons_of_pos hp, List.filter_cons_of_pos ha,
    List.nil_append, List.nil_append, List.findIdx_cons, ha]
  rfl

/-- replacing the first match of `p` changes no filter that both elements fail -/
theorem filter_set_findIdx_of_not {α : Type*} {p q : α → Bool} {a a' : α} {l : List α} (h : l.find? p = some a)
    (ha : q a = false) (ha' : q a' = false) : (l.set (l.findIdx p) a').filter q = l.filter q := by
  obtain ⟨pre, post, hsplit, -, -, hset⟩ := exists_split_of_find? h
  rw [hset, hsplit, List.filter_append, List.filter_append, List.filter_cons_of_neg (by simp [ha']),
    List.filter_cons_of_neg (by simp [ha])]

theorem soloScheduler_complete_self {s : RateGroupScheduler} (hv : s.valid = true) (tick : UInt64) :
    (soloScheduler taskId s).complete taskId tick =
      ((s.complete taskId tick).1, soloScheduler taskId (s.complete taskId tick).2) := by
  have hv' : (soloScheduler taskId s).valid = true := hv
  cases h : s.taskOf taskId with
  | none => rw [complete_of_none hv h, complete_of_none hv' (by rw [soloScheduler_taskOf, h])]
  | some task =>
    rw [complete_of_some hv h, complete_of_some hv' (by rw [soloScheduler_taskOf, h])]
    have hid : ((completeTask task taskId tick).2.config.taskId == taskId) = true := by
      rw [completeTask_config, taskOf_taskId h, beq_self_eq_true]
    simp only [soloScheduler, filter_set_findIdx_self h hid]

theorem soloScheduler_complete_other {s : RateGroupScheduler} (hv : s.valid = true) {id : UInt16} (hne : id ≠ taskId)
    (tick : UInt64) : soloScheduler taskId (s.complete id tick).2 = soloScheduler taskId s := by
  cases h : s.taskOf id with
  | none => rw [complete_of_none hv h]
  | some task =>
    rw [complete_of_some hv h]
    have hold : (task.config.taskId == taskId) = false := by
      rw [taskOf_taskId h]
      exact beq_false_of_ne hne
    have hnew : ((completeTask task id tick).2.config.taskId == taskId) = false := by
      rw [completeTask_config]
      exact hold
    simp only [soloScheduler,
      filter_set_findIdx_of_not (q := fun t : TaskState => t.config.taskId == taskId) h hold hnew]

/-! ## Runs -/

/-- **One call.** The scheduler embeds the part of a task, which the other tasks' completions do not reach. -/
theorem embedsSolo (configuration : List RateGroupConfig) (taskId : UInt16) :
    Machine.Embeds call call (Built configuration) (soloScheduler taskId)
      (fun _ c => if c.concerns taskId then [c] else []) (Result.partOf taskId) where
  keeps s c h := h.call c
  state s c h := by
    cases c with
    | step tick => exact (congrArg Prod.snd (soloScheduler_step h.valid tick)).symm
    | complete id tick =>
      by_cases hid : id = taskId
      · subst hid
        simp only [Call.concerns, beq_self_eq_true, if_true, Machine.final_cons, Machine.final_nil]
        exact (congrArg Prod.snd (soloScheduler_complete_self h.valid tick)).symm
      · simp only [Call.concerns, beq_false_of_ne hid, Bool.false_eq_true, if_false, Machine.final_nil]
        exact soloScheduler_complete_other h.valid hid tick
  results s c h := by
    cases c with
    | step tick =>
      simp only [Call.concerns, if_true, Machine.outputs_cons, Machine.outputs_nil, call, Result.partOf,
        soloScheduler_step h.valid]
    | complete id tick =>
      have haddress := complete_taskId h.valid id tick
      by_cases hid : id = taskId
      · subst hid
        simp only [Call.concerns, beq_self_eq_true, if_true, Machine.outputs_cons, Machine.outputs_nil, call,
          Result.partOf, haddress, soloScheduler_complete_self h.valid]
      · simp only [Call.concerns, beq_false_of_ne hid, Bool.false_eq_true, if_false, Machine.outputs_nil, call,
          Result.partOf, haddress]

/-- the part of a valid scheduler is the scheduler of the one task -/
theorem soloScheduler_ofConfig {configuration : List RateGroupConfig} (hv : (ofConfig configuration).valid = true)
    {config : RateGroupConfig} (hmem : config ∈ configuration) :
    soloScheduler config.taskId (ofConfig configuration) = ofConfig [config] := by
  obtain ⟨-, hall, hids⟩ := (ofConfig_valid_iff configuration).1 hv
  have hvalid : (ofConfig [config]).valid = true := by
    refine (ofConfig_valid_iff [config]).2 ⟨by simp, ?_, by simp⟩
    intro c hc
    rw [List.mem_singleton.1 hc]
    exact hall config hmem
  rw [(ofConfig_spec hv).1, (ofConfig_spec hvalid).1, soloScheduler, List.filter_map]
  have hsame : ((fun task : TaskState => task.config.taskId == config.taskId) ∘ initialTask) =
      fun c : RateGroupConfig => c.taskId == config.taskId := rfl
  rw [hsame, filter_eq_singleton hids hmem]

/-- **Rate groups do not interfere.** For every list of calls: the results that carry a task's id are the results of the
scheduler configured with that task alone, run on the step calls and the completions addressed to it, and so are its
statistics. -/
theorem rate_groups_independent (configuration : List RateGroupConfig) (hv : (ofConfig configuration).valid = true)
    (config : RateGroupConfig) (hmem : config ∈ configuration) (calls : List Call) :
    (results configuration calls).flatMap (Result.partOf config.taskId) =
      results [config] (calls.filter (Call.concerns config.taskId)) ∧
    (run configuration calls).statistics.filter (·.taskId == config.taskId) =
      (run [config] (calls.filter (Call.concerns config.taskId))).statistics := by
  have hembeds := embedsSolo configuration config.taskId
  have hfinal := hembeds.final (built_ofConfig hv) calls
  have houtputs := hembeds.outputs (built_ofConfig hv) calls
  rw [Machine.innerInputs_filter, soloScheduler_ofConfig hv hmem] at hfinal houtputs
  refine ⟨houtputs, ?_⟩
  rw [run, run, ← hfinal, statistics, statistics, List.filter_map]
  rfl

/-- two tasks, of period 2 and 1, the first of them completed -/
def controlAndTelemetry : List RateGroupConfig :=
  [{ taskId := 1, name := "control", periodTicks := 2 }, { taskId := 2, name := "telemetry" }]

theorem rate_groups_independent_two :
    (results controlAndTelemetry [.step 0, .complete 1 0, .step 1, .step 2]).flatMap (Result.partOf 2) =
      results [{ taskId := 2, name := "telemetry" }] [.step 0, .step 1, .step 2] :=
  (rate_groups_independent controlAndTelemetry (by decide) { taskId := 2, name := "telemetry" } (by decide)
    [.step 0, .complete 1 0, .step 1, .step 2]).1

end AstraFsw.RateGroupScheduler
