/-
Deadline verdicts, job by job.

A job of a task with period P and relative deadline D, released at tick r, is in turn
- open: pending without a recorded miss, until the step at tick `detectionTick`, the lesser of r + D + 1 and r + P;
- missed: pending with a recorded miss, from that step to the next release at r + P;
- settled: completed, or replaced by the next release.
The two miss branches of the loop body both fall on `detectionTick`: for D < P the deadline test fires there, for D = P
the overrun test does, in the step that releases the next job.

`quiet_run` carries an open or missed job over the steps in between, and `settled_run` shows that a settled job gets no
record any more. `deadline_verdicts` puts the three together along a run.
-/
import AstraFsw.Scheduler.Accounting
import AstraFsw.Scheduler.Releases

namespace AstraFsw.RateGroupScheduler

/-! ## A job -/

/-- the absolute deadline the code computes at the release -/
def deadlineOf (config : RateGroupConfig) (r : UInt64) : UInt64 := r + config.relativeDeadlineTicks.toUInt64

/-- the tick at which an open job is found late -/
def detectionTick (config : RateGroupConfig) (r : UInt64) : ℕ :=
  min (r.toNat + config.relativeDeadlineTicks.toNat + 1) (r.toNat + config.periodTicks.toNat)

/-- the task holds the job released at `r`, with or without a recorded miss -/
structure Holds (config : RateGroupConfig) (r : UInt64) (recorded : Bool) (task : TaskState) : Prop where
  config_eq : task.config = config
  pending : task.pending = true
  recorded_eq : task.deadlineMissRecorded = recorded
  releaseTick_eq : task.releaseTick = r
  deadlineTick_eq : task.deadlineTick = deadlineOf config r

/-- no further miss of the job released at `r` can be recorded -/
def Settled (r : UInt64) (task : TaskState) : Prop :=
  task.pending = true → task.releaseTick = r → task.deadlineMissRecorded = true

/-- the miss record of the job -/
def missOf (config : RateGroupConfig) (r observedTick : UInt64) : DeadlineMiss :=
  { taskId := config.taskId, releaseTick := r, deadlineTick := deadlineOf config r, observedTick }

/-- the DeadlineMiss records of the job of the task released at `r` -/
def jobRecords (taskId : UInt16) (r : UInt64) (results : List Result) : List DeadlineMiss :=
  (recordsOf taskId results).filter (·.releaseTick == r)

theorem jobRecords_append (taskId : UInt16) (r : UInt64) (a b : List Result) :
    jobRecords taskId r (a ++ b) = jobRecords taskId r a ++ jobRecords taskId r b := by
  rw [jobRecords, recordsOf, List.flatMap_append, List.filter_append]
  rfl

theorem jobRecords_cons (taskId : UInt16) (r : UInt64) (result : Result) (results : List Result) :
    jobRecords taskId r (result :: results) = jobRecords taskId r [result] ++ jobRecords taskId r results :=
  jobRecords_append taskId r [result] results

/-! ## The loop body on a job -/

/-- a settled job gets no record, not even at its own tick -/
theorem Settled.stepTask_records {r : UInt64} {task : TaskState} (hs : Settled r task) (tick : UInt64) :
    (stepTask tick task).1.filter (·.releaseTick == r) = [] := by
  rw [stepTask_spec]
  dsimp only
  split_ifs with hmisses
  · obtain ⟨⟨hp, hr⟩, -⟩ : (task.pending = true ∧ task.deadlineMissRecorded = false) ∧ _ := by
      simpa [misses] using hmisses
    have hne : task.releaseTick ≠ r := fun heq => absurd (hs hp heq) (by simp [hr])
    rw [List.filter_cons_of_neg (by simpa [recordMiss] using hne), List.filter_nil]
  · rfl

section LoopBody

variable {config : RateGroupConfig} {r tick : UInt64} {task : TaskState}

theorem toNat_deadlineOf (hroom : r.toNat + config.relativeDeadlineTicks.toNat < 2 ^ 64) :
    (deadlineOf config r).toNat = r.toNat + config.relativeDeadlineTicks.toNat := by
  rw [deadlineOf, UInt64.toNat_add, UInt32.toNat_toUInt64]
  exact Nat.mod_eq_of_lt hroom

/-- a due task holds the open job of the tick after it -/
theorem holds_of_due (hdue : due task.config tick = true) : Holds task.config tick false (stepTask tick task).2.2 := by
  rw [stepTask_spec]
  simp only [hdue, if_true]
  exact ⟨afterMiss_config task tick, rfl, rfl, rfl, rfl⟩

/-- an open job is on time from its release to its deadline -/
theorem Holds.onTime_eq (h : Holds config r false task)
    (hroom : r.toNat + config.relativeDeadlineTicks.toNat < 2 ^ 64) (k : UInt64) :
    onTime task k = decide (r.toNat ≤ k.toNat ∧ k.toNat ≤ r.toNat + config.relativeDeadlineTicks.toNat) := by
  have hdeadline : (deadlineOf config r).toNat = r.toNat + config.relativeDeadlineTicks.toNat := toNat_deadlineOf hroom
  simp only [onTime, h.recorded_eq, h.releaseTick_eq, h.deadlineTick_eq, ge_iff_le, UInt64.le_iff_toNat_le, hdeadline,
    Bool.not_false, Bool.and_true, Bool.decide_and]

variable (hchecked : Checked config) (hroom : r.toNat + config.periodTicks.toNat < 2 ^ 64)
  (hdue : Periodic.Due config.phaseTicks.toNat config.periodTicks.toNat r.toNat)
include hdue

/-- between two releases the task is not due -/
theorem not_due_between (hafter : r.toNat < tick.toNat) (hnext : tick.toNat < r.toNat + config.periodTicks.toNat) :
    due config tick = false := by
  rw [Bool.eq_false_iff]
  exact fun h => hdue.not_due_between hafter hnext ((due_iff config tick).1 h)

/-- a missed job is left alone until the next release -/
theorem Holds.stepTask_missed (h : Holds config r true task) (hafter : r.toNat < tick.toNat)
    (hnext : tick.toNat < r.toNat + config.periodTicks.toNat) : stepTask tick task = ([], none, task) := by
  have hnot := not_due_between hdue hafter hnext
  have hmisses : misses task tick = false := by simp [misses, h.recorded_eq]
  rw [stepTask_spec, h.config_eq, hnot, afterMiss, hmisses]
  rfl

include hchecked hroom

/-- an open job is left alone until the detection tick -/
theorem Holds.stepTask_open (h : Holds config r false task) (hafter : r.toNat < tick.toNat)
    (hbefore : tick.toNat < detectionTick config r) : stepTask tick task = ([], none, task) := by
  obtain ⟨hdeadline, hnext⟩ := Nat.lt_min.1 hbefore
  have hle := hchecked.deadline_le
  have hnot := not_due_between hdue hafter hnext
  have hmisses : misses task tick = false := by
    have hlate : ¬ tick > task.deadlineTick := by
      rw [gt_iff_lt, UInt64.lt_iff_toNat_lt, h.deadlineTick_eq, toNat_deadlineOf (by omega)]
      omega
    simp [misses, h.config_eq, hnot, hlate]
  rw [stepTask_spec, h.config_eq, hnot, afterMiss, hmisses]
  rfl

/-- **Detection.** The step at the detection tick records the miss of an open job, by one branch or the other. -/
theorem Holds.stepTask_detection (h : Holds config r false task) (htick : tick.toNat = detectionTick config r) :
    (stepTask tick task).1 = [missOf config r tick] ∧ Settled r (stepTask tick task).2.2 ∧
      (tick.toNat < r.toNat + config.periodTicks.toNat → Holds config r true (stepTask tick task).2.2) := by
  have hle := hchecked.deadline_le
  have hpos := hchecked.deadline
  have hmisses : misses task tick = true := by
    rcases Nat.lt_or_ge (r.toNat + config.relativeDeadlineTicks.toNat) tick.toNat with hlate | hoverrun
    · have hlate' : tick > task.deadlineTick := by
        rw [gt_iff_lt, UInt64.lt_iff_toNat_lt, h.deadlineTick_eq, toNat_deadlineOf (by omega)]
        exact hlate
      simp [misses, h.pending, h.recorded_eq, hlate']
    · -- D = P: the deadline has not passed, and the tick is the next release
      have hnext : tick.toNat = r.toNat + config.periodTicks.toNat := by
        rw [htick, detectionTick] at hoverrun ⊢
        omega
      have hrelease : due task.config tick = true := by
        rw [h.config_eq, due_iff, hnext]
        exact hdue.add_period
      simp [misses, h.pending, h.recorded_eq, hrelease]
  have hafter : r.toNat < tick.toNat := by
    rw [htick, detectionTick]
    omega
  refine ⟨?_, ?_, ?_⟩
  · rw [stepTask_spec, hmisses]
    simp only [if_true, recordMiss, missOf, h.config_eq, h.releaseTick_eq, h.deadlineTick_eq]
  · -- the recorded job, or the next one
    rw [stepTask_spec]
    dsimp only
    split_ifs
    · exact fun _ heq => absurd (congrArg UInt64.toNat heq) (Nat.ne_of_gt hafter)
    · rw [afterMiss, hmisses]
      exact fun _ _ => rfl
  · intro hnext
    have hnot := not_due_between hdue hafter hnext
    rw [stepTask_spec, h.config_eq, hnot, afterMiss, hmisses]
    exact ⟨h.config_eq, h.pending, rfl, h.releaseTick_eq, h.deadlineTick_eq⟩

end LoopBody

/-! ## Calls on a job -/

section Effects

variable {taskId : UInt16} {task task' : TaskState} {clock clock' : ℕ} {c : Call} {records : List DeadlineMiss}
  {completions : List CompletionResult}

theorem Effect.clock_le (h : Effect taskId task clock c task' clock' records completions) : clock ≤ clock' := by
  cases h with
  | tick _ _ => exact Nat.le_succ clock
  | _ => exact Nat.le_refl clock

/-- a settled job stays settled and gets no record, except by a release at its own tick -/
theorem Effect.settled {r : UInt64} (h : Effect taskId task clock c task' clock' records completions)
    (hs : Settled r task) (hother : clock' = clock + 1 → clock ≠ r.toNat) :
    Settled r task' ∧ records.filter (·.releaseTick == r) = [] := by
  cases h with
  | skip _ _ _ => exact ⟨hs, rfl⟩
  | complete k =>
    refine ⟨?_, rfl⟩
    intro hp
    cases htask : task.pending with
    | false => rw [completeTask_of_not_pending htask, htask] at hp; exact absurd hp (by simp)
    | true => rw [completeTask_of_pending htask] at hp; exact absurd hp (by simp)
  | tick tick htick =>
    have hne : tick ≠ r := fun heq => hother rfl (by rw [← htick, heq])
    have hafter : Settled r (afterMiss task tick) := by
      unfold afterMiss
      split_ifs
      · exact fun _ _ => rfl
      · exact hs
    refine ⟨?_, hs.stepTask_records tick⟩
    rw [stepTask_spec]
    dsimp only
    split_ifs
    · exact fun _ heq => absurd heq hne
    · exact hafter

/-- a call that neither ticks nor completes a task, or ticks it when its loop body does nothing, changes nothing -/
theorem Effect.quiet (h : Effect taskId task clock c task' clock' records completions)
    (hnone : ∀ k, c ≠ .complete taskId k)
    (hquiet : clock' = clock + 1 → ∀ tick : UInt64, tick.toNat = clock → stepTask tick task = ([], none, task)) :
    task' = task ∧ records = [] := by
  cases h with
  | skip _ _ _ => exact ⟨rfl, rfl⟩
  | complete k => exact absurd rfl (hnone k)
  | tick tick htick =>
    rw [hquiet rfl tick htick]
    exact ⟨rfl, rfl⟩

end Effects

/-! ## Runs on a job -/

section Runs

variable {configuration : List RateGroupConfig} (hids : (configuration.map (·.taskId)).Nodup) {taskId : UInt16}
include hids

theorem final_clock_le {s : RateGroupScheduler} (hbuilt : Built configuration s) {task : TaskState}
    (htask : s.taskOf taskId = some task) (calls : List Call) : s.clock ≤ (Machine.final call s calls).clock := by
  induction calls generalizing s task with
  | nil => exact Nat.le_refl _
  | cons c calls ih =>
    obtain ⟨task', htask', heffect⟩ := call_effect hbuilt.valid (hbuilt.nodup hids) htask c
    exact heffect.clock_le.trans (ih (hbuilt.call c) htask')

/-- **Waiting.** While the loop body does nothing to the task and nobody completes it, it stays and gets no record. -/
theorem quiet_run {s : RateGroupScheduler} (hbuilt : Built configuration s) {task : TaskState}
    (htask : s.taskOf taskId = some task) {bound : ℕ}
    (hquiet : ∀ tick : UInt64, s.clock ≤ tick.toNat → tick.toNat < bound → stepTask tick task = ([], none, task))
    (calls : List Call) (hnone : ∀ k, .complete taskId k ∉ calls)
    (hbound : (Machine.final call s calls).clock ≤ bound) :
    (Machine.final call s calls).taskOf taskId = some task ∧ recordsOf taskId (Machine.outputs call s calls) = [] := by
  induction calls generalizing s with
  | nil => exact ⟨htask, rfl⟩
  | cons c calls ih =>
    obtain ⟨task', htask', heffect⟩ := call_effect hbuilt.valid (hbuilt.nodup hids) htask c
    have hle := heffect.clock_le
    have hrest : (s.call c).2.clock ≤ bound := (final_clock_le hids (hbuilt.call c) htask' calls).trans hbound
    obtain ⟨rfl, hrecords⟩ := heffect.quiet (fun k hk => hnone k (hk ▸ List.mem_cons_self))
      fun htick tick heq => hquiet tick heq.ge (by omega)
    obtain ⟨hfinal, houtputs⟩ := ih (hbuilt.call c) htask' (fun tick hge => hquiet tick (hle.trans hge))
      (fun k hk => hnone k (List.mem_cons_of_mem _ hk)) hbound
    refine ⟨hfinal, ?_⟩
    rw [Machine.outputs_cons, recordsOf, List.flatMap_cons]
    rw [recordsOf, List.flatMap_singleton] at hrecords
    rw [hrecords]
    exact houtputs

/-- **Afterwards.** A settled job gets no record, in a run that starts after its release or ends before it. -/
theorem settled_run {s : RateGroupScheduler} (hbuilt : Built configuration s) {task : TaskState} {r : UInt64}
    (htask : s.taskOf taskId = some task) (hs : Settled r task) (calls : List Call)
    (hother : r.toNat < s.clock ∨ (Machine.final call s calls).clock ≤ r.toNat) :
    jobRecords taskId r (Machine.outputs call s calls) = [] ∧
      ∃ task', (Machine.final call s calls).taskOf taskId = some task' ∧ Settled r task' := by
  induction calls generalizing s task with
  | nil => exact ⟨rfl, task, htask, hs⟩
  | cons c calls ih =>
    obtain ⟨task', htask', heffect⟩ := call_effect hbuilt.valid (hbuilt.nodup hids) htask c
    have hle := heffect.clock_le
    have hend := final_clock_le hids (hbuilt.call c) htask' calls
    rw [Machine.final_cons] at hother
    obtain ⟨hs', hrecords⟩ := heffect.settled hs fun htick => by
      rcases hother with h | h <;> omega
    obtain ⟨houtputs, hfinal⟩ := ih (hbuilt.call c) htask' hs' (hother.imp_left hle.trans_lt')
    refine ⟨?_, hfinal⟩
    rw [Machine.outputs_cons, jobRecords_cons, houtputs, List.append_nil]
    exact hrecords

end Runs

/-! ## One job, from its release on -/

/-- COMPLETED_ON_TIME exactly for a completion tick from the release to the deadline -/
def verdict (config : RateGroupConfig) (r completionTick : UInt64) : CompletionStatus :=
  if r.toNat ≤ completionTick.toNat ∧ completionTick.toNat ≤ r.toNat + config.relativeDeadlineTicks.toNat then
    .completedOnTime
  else .completedLate

/-- the answer to the completion of the job -/
def completionOf (config : RateGroupConfig) (r completionTick : UInt64) (status : CompletionStatus) :
    CompletionResult :=
  { status, taskId := config.taskId, releaseTick := r, deadlineTick := deadlineOf config r, completionTick }

section Job

variable {configuration : List RateGroupConfig} (hids : (configuration.map (·.taskId)).Nodup) {config : RateGroupConfig}
  (hchecked : Checked config) {r : UInt64} (hroom : r.toNat + config.periodTicks.toNat < 2 ^ 64)
  (hdue : Periodic.Due config.phaseTicks.toNat config.periodTicks.toNat r.toNat)
  {s : RateGroupScheduler} (hbuilt : Built configuration s) {task : TaskState}
  (htask : s.taskOf config.taskId = some task) (hafter : r.toNat < s.clock)
include hids hdue hbuilt htask hafter

/-- a missed job stays until its task completes it or is released again -/
theorem missed_run (hholds : Holds config r true task) (calls : List Call)
    (hnone : ∀ k, .complete config.taskId k ∉ calls)
    (hbefore : (Machine.final call s calls).clock ≤ r.toNat + config.periodTicks.toNat) :
    (Machine.final call s calls).taskOf config.taskId = some task :=
  (quiet_run hids hbuilt htask
    (fun _ hge hlt => hholds.stepTask_missed hdue (Nat.lt_of_lt_of_le hafter hge) hlt) calls hnone hbefore).1

include hchecked hroom

/-- an open job stays until the detection tick and gets no record before it -/
theorem open_run (hholds : Holds config r false task) (calls : List Call)
    (hnone : ∀ k, .complete config.taskId k ∉ calls)
    (hbefore : (Machine.final call s calls).clock ≤ detectionTick config r) :
    (Machine.final call s calls).taskOf config.taskId = some task ∧
      jobRecords config.taskId r (Machine.outputs call s calls) = [] := by
  obtain ⟨hfinal, hrecords⟩ := quiet_run hids hbuilt htask
    (fun _ hge hlt => hholds.stepTask_open hchecked hroom hdue (Nat.lt_of_lt_of_le hafter hge) hlt) calls hnone hbefore
  exact ⟨hfinal, by rw [jobRecords, hrecords, List.filter_nil]⟩

/-- **Completed first.** A completion before the detection tick gets the exact verdict, and the job no record. -/
theorem job_completed (hholds : Holds config r false task) (mid : List Call) (k : UInt64) (rest : List Call)
    (hnone : ∀ k, .complete config.taskId k ∉ mid)
    (hbefore : (Machine.final call s mid).clock ≤ detectionTick config r) :
    ((Machine.final call s mid).complete config.taskId k).1 = completionOf config r k (verdict config r k) ∧
      jobRecords config.taskId r (Machine.outputs call s (mid ++ .complete config.taskId k :: rest)) = [] := by
  obtain ⟨hopen, hmid⟩ := open_run hids hchecked hroom hdue hbuilt htask hafter hholds mid hnone hbefore
  have hbuilt' : Built configuration (Machine.final call s mid) :=
    Machine.final_inv call (fun _ c h => h.call c) hbuilt mid
  have hclock := final_clock_le hids hbuilt htask mid
  have hle := hchecked.deadline_le
  have hcomplete := complete_of_some hbuilt'.valid hopen k
  rw [completeTask_of_pending hholds.pending, hholds.onTime_eq (by omega)] at hcomplete
  refine ⟨?_, ?_⟩
  · rw [hcomplete]
    simp only [completionOf, verdict, hholds.releaseTick_eq, hholds.deadlineTick_eq, decide_eq_true_eq]
  · -- the completed job is settled
    have htask' := taskOf_complete hbuilt'.valid config.taskId config.taskId k
    rw [if_pos rfl, hopen, Option.map_some, completeTask_of_pending hholds.pending] at htask'
    have hstart : r.toNat < ((Machine.final call s mid).complete config.taskId k).2.clock := by
      rw [complete_clock hbuilt'.valid]
      omega
    have hrest := (settled_run hids (hbuilt'.call (.complete config.taskId k)) htask'
      (fun hp => absurd hp (by simp)) rest (Or.inl hstart)).1
    rw [Machine.outputs_append, jobRecords_append, hmid, List.nil_append, Machine.outputs_cons, jobRecords_cons, hrest,
      List.append_nil]
    rfl

/-- **Found late.** The step at the detection tick, and no other, records the miss of an open job. Until the next
release the job stays, with its miss recorded. -/
theorem job_missed (hholds : Holds config r false task) (mid : List Call) (tick : UInt64)
    (hnone : ∀ k, .complete config.taskId k ∉ mid) (htick : tick.toNat = detectionTick config r)
    (hclock : tick.toNat = (Machine.final call s mid).clock) (rest : List Call) :
    jobRecords config.taskId r [.step ((Machine.final call s mid).step tick).1] = [missOf config r tick] ∧
      jobRecords config.taskId r (Machine.outputs call s (mid ++ .step tick :: rest)) = [missOf config r tick] ∧
      ((Machine.final call s (mid ++ .step tick :: rest)).clock ≤ r.toNat + config.periodTicks.toNat →
        (∀ k, .complete config.taskId k ∉ rest) →
        ∃ missed, Holds config r true missed ∧
          (Machine.final call s (mid ++ .step tick :: rest)).taskOf config.taskId = some missed) := by
  obtain ⟨hopen, hmid⟩ :=
    open_run hids hchecked hroom hdue hbuilt htask hafter hholds mid hnone (by rw [← hclock, htick])
  obtain ⟨hmiss, hsettled, hmissed⟩ := hholds.stepTask_detection hchecked hroom hdue htick
  have hbuilt' : Built configuration (Machine.final call s mid) :=
    Machine.final_inv call (fun _ c h => h.call c) hbuilt mid
  have hgrow := final_clock_le hids hbuilt htask mid
  rw [Machine.final_append, Machine.final_cons, Machine.outputs_append, Machine.outputs_cons]
  generalize Machine.final call s mid = s' at *
  have hc := (continuous_iff s' tick).2 hclock
  have hnow : jobRecords config.taskId r [.step (s'.step tick).1] = [missOf config r tick] := by
    have hrecords := @step_missesOf _ (hbuilt'.nodup hids) tick _ _ hopen
    simp only [jobRecords, recordsOf, List.flatMap_singleton, step_of_continuous hbuilt'.valid hc, hrecords, hmiss]
    simp [missOf]
  have htask' : (s'.step tick).2.taskOf config.taskId = some (stepTask tick task).2.2 := by
    rw [taskOf_step hbuilt'.valid, if_pos hc, hopen, Option.map_some]
  have hclock' : (s'.step tick).2.clock = tick.toNat + 1 := by
    rw [step_of_continuous hbuilt'.valid hc]
    rfl
  have hstart : r.toNat < (s'.step tick).2.clock := by omega
  refine ⟨hnow, ?_, ?_⟩
  · have hrest := (settled_run hids (hbuilt'.call (.step tick)) htask' hsettled rest (Or.inl hstart)).1
    rw [jobRecords_append, jobRecords_cons, hmid, List.nil_append, hrest, List.append_nil]
    exact hnow
  · intro hnext hnone'
    have hle := final_clock_le hids (hbuilt'.call (.step tick)) htask' rest
    have hholds' := hmissed (by
      change (s'.step tick).2.clock ≤ _ at hle
      omega)
    exact ⟨_, hholds', missed_run hids hdue (hbuilt'.call (.step tick)) htask' hstart hholds' rest hnone' hnext⟩

end Job

/-- the completion of a missed job is late, and counts no second miss -/
theorem complete_missed {s : RateGroupScheduler} (hv : s.valid = true) {config : RateGroupConfig} {r : UInt64}
    {task : TaskState} (htask : s.taskOf config.taskId = some task) (h : Holds config r true task) (k : UInt64) :
    (s.complete config.taskId k).1 = completionOf config r k .completedLate ∧
      (s.complete config.taskId k).2.statistics.map (·.deadlineMissCount) =
        s.statistics.map (·.deadlineMissCount) := by
  have hlate : onTime task k = false := by simp [onTime, h.recorded_eq]
  rw [complete_of_some hv htask]
  refine ⟨?_, ?_⟩
  · rw [completeTask_of_pending h.pending, hlate]
    simp only [completionOf, h.releaseTick_eq, h.deadlineTick_eq, Bool.false_eq_true, if_false]
  · have hcount : (completeTask task config.taskId k).2.deadlineMissCount = task.deadlineMissCount := by
      rw [completeTask_of_pending h.pending, hlate, h.recorded_eq]
      rfl
    simp only [statistics, List.map_map, Function.comp_def]
    exact map_set_findIdx htask hcount

/-! ## The release -/

theorem Built.exists_taskOf {configuration : List RateGroupConfig} (hids : (configuration.map (·.taskId)).Nodup)
    {config : RateGroupConfig} (hmem : config ∈ configuration) {s : RateGroupScheduler} (h : Built configuration s) :
    ∃ task, s.taskOf config.taskId = some task ∧ task.config = config := by
  rw [← h.configs] at hmem
  obtain ⟨task, htask, rfl⟩ := List.mem_map.1 hmem
  exact ⟨task, taskOf_of_mem (h.nodup hids) htask, rfl⟩

/-- a step that releases a task finds it due, and leaves it holding the open job -/
theorem step_released {s : RateGroupScheduler} (hv : s.valid = true) (hids : (s.tasks.map (·.config.taskId)).Nodup)
    {task : TaskState} {taskId : UInt16} (htask : s.taskOf taskId = some task) {r : UInt64} {release : RateGroupRelease}
    (hrelease : release ∈ (s.step r).1.releases) (hid : release.taskId = taskId) :
    r.toNat = s.clock ∧ Periodic.Due task.config.phaseTicks.toNat task.config.periodTicks.toNat r.toNat ∧
      ∃ task', (s.step r).2.taskOf taskId = some task' ∧ Holds task.config r false task' := by
  cases hc : s.continuous r with
  | false =>
    rw [step_of_not_continuous hv hc] at hrelease
    exact absurd hrelease List.not_mem_nil
  | true =>
    have hafter := taskOf_step hv r taskId
    rw [if_pos hc, htask, Option.map_some] at hafter
    rw [step_of_continuous hv hc] at hrelease
    obtain ⟨t, ht, hsome⟩ := List.mem_filterMap.1 hrelease
    -- the released task is the task with the id
    have hsame : t = task := by
      have htaskOf := taskOf_of_mem hids ht
      rw [← (stepTask_taskId r t).1 release hsome, hid, htask] at htaskOf
      exact (Option.some.inj htaskOf).symm
    subst hsame
    have hdue : due t.config r = true := by
      rw [stepTask_spec] at hsome
      by_contra hnot
      simp [hnot] at hsome
    exact ⟨(continuous_iff s r).1 hc, (due_iff t.config r).1 hdue, _, hafter, holds_of_due hdue⟩

theorem clock_le_lastTick (s : RateGroupScheduler) : s.clock ≤ s.lastTick.toNat + 1 := by
  unfold clock
  split_ifs <;> omega

/-! ## Whole runs -/

section Run

variable {configuration : List RateGroupConfig} (hv : (ofConfig configuration).valid = true) {config : RateGroupConfig}
  (hmem : config ∈ configuration) {pre : List Call} {r : UInt64} {release : RateGroupRelease}
  (hrelease : release ∈ ((run configuration pre).step r).1.releases) (hid : release.taskId = config.taskId)
include hv hmem hrelease hid

/-- what the release leaves: the open job, and no record for it so far -/
theorem job_opened :
    Built configuration ((run configuration pre).step r).2 ∧ r.toNat < ((run configuration pre).step r).2.clock ∧
      Periodic.Due config.phaseTicks.toNat config.periodTicks.toNat r.toNat ∧
      (∃ task, ((run configuration pre).step r).2.taskOf config.taskId = some task ∧ Holds config r false task) ∧
      ∀ post, jobRecords config.taskId r (results configuration (pre ++ .step r :: post)) =
        jobRecords config.taskId r (Machine.outputs call ((run configuration pre).step r).2 post) := by
  have hids := (ofConfig_spec hv).2.2
  have hbuilt := run_built hv pre
  -- before the release the task is settled: it starts without a job
  obtain ⟨task₀, htask₀, -⟩ := (built_ofConfig hv).exists_taskOf hids hmem
  have hidle : Settled r task₀ := by
    have hinitial := List.mem_of_find?_eq_some htask₀
    rw [(ofConfig_spec hv).1] at hinitial
    obtain ⟨c, -, rfl⟩ := List.mem_map.1 hinitial
    exact fun hp => absurd hp (by simp [initialTask])
  obtain ⟨task, htask, rfl⟩ := hbuilt.exists_taskOf hids hmem
  obtain ⟨hclock, hdue, hholds⟩ := step_released hbuilt.valid (hbuilt.nodup hids) htask hrelease hid
  obtain ⟨hpre, task', htask', hsettled⟩ :=
    settled_run hids (built_ofConfig hv) htask₀ hidle pre (Or.inr hclock.ge)
  have hc := (continuous_iff (run configuration pre) r).2 hclock
  refine ⟨hbuilt.call (.step r), ?_, hdue, hholds, ?_⟩
  · rw [step_of_continuous hbuilt.valid hc]
    exact Nat.lt_succ_self r.toNat
  · intro post
    -- the releasing step may record a miss, but of the job before
    have hnow : jobRecords task.config.taskId r [.step ((run configuration pre).step r).1] = [] := by
      have hrecords := @step_missesOf _ (hbuilt.nodup hids) r _ _ htask'
      simp only [jobRecords, recordsOf, List.flatMap_singleton, step_of_continuous hbuilt.valid hc, hrecords]
      exact hsettled.stepTask_records r
    rw [results, Machine.outputs_append, jobRecords_append, hpre, List.nil_append, Machine.outputs_cons,
      jobRecords_cons]
    change jobRecords _ _ [.step ((run configuration pre).step r).1] ++ _ = _
    rw [hnow]
    rfl

end Run

/-- **Deadline verdicts.** For every run of a valid scheduler and every job of a task that a step released at `r`:
- completed before the step at the detection tick, it gets no DeadlineMiss record, and is COMPLETED_ON_TIME exactly for
  a completion tick from r to r + D;
- otherwise that step, and no other, records its one miss; a completion before the next release is then
  COMPLETED_LATE and counts no second miss. -/
theorem deadline_verdicts (configuration : List RateGroupConfig) (hv : (ofConfig configuration).valid = true)
    (config : RateGroupConfig) (hmem : config ∈ configuration) (pre : List Call) (r : UInt64) (post : List Call)
    (hlast : (run configuration (pre ++ Call.step r :: post)).lastTick.toNat + config.periodTicks.toNat < 2 ^ 64)
    (release : RateGroupRelease) (hrelease : release ∈ ((run configuration pre).step r).1.releases)
    (hid : release.taskId = config.taskId) :
    (deadlineOf config r).toNat = r.toNat + config.relativeDeadlineTicks.toNat ∧
    (∀ mid k rest, post = mid ++ Call.complete config.taskId k :: rest → (∀ k', Call.complete config.taskId k' ∉ mid) →
      (run configuration (pre ++ Call.step r :: mid)).clock ≤ detectionTick config r →
      ((run configuration (pre ++ Call.step r :: mid)).complete config.taskId k).1 =
          completionOf config r k (verdict config r k) ∧
        jobRecords config.taskId r (results configuration (pre ++ Call.step r :: post)) = []) ∧
    (∀ mid tick rest, post = mid ++ Call.step tick :: rest → (∀ k, Call.complete config.taskId k ∉ mid) →
      tick.toNat = detectionTick config r → ((run configuration (pre ++ Call.step r :: mid)).step tick).1.status = .ok →
      jobRecords config.taskId r [Result.step ((run configuration (pre ++ Call.step r :: mid)).step tick).1] =
          [missOf config r tick] ∧
        jobRecords config.taskId r (results configuration (pre ++ Call.step r :: post)) = [missOf config r tick] ∧
        ∀ later k rest', rest = later ++ Call.complete config.taskId k :: rest' →
          (∀ k', Call.complete config.taskId k' ∉ later) →
          (run configuration (pre ++ Call.step r :: mid ++ Call.step tick :: later)).clock ≤
            r.toNat + config.periodTicks.toNat →
          let s := run configuration (pre ++ Call.step r :: mid ++ Call.step tick :: later)
          (s.complete config.taskId k).1 = completionOf config r k .completedLate ∧
            (s.complete config.taskId k).2.statistics.map (·.deadlineMissCount) =
              s.statistics.map (·.deadlineMissCount)) := by
  have hids := (ofConfig_spec hv).2.2
  have hchecked := (ofConfig_spec hv).2.1 config hmem
  obtain ⟨hbuilt, hafter, hdue, ⟨task, htask, hholds⟩, hrecords⟩ := job_opened hv hmem hrelease hid
  have hrun (calls : List Call) : run configuration (pre ++ .step r :: calls) =
      Machine.final call ((run configuration pre).step r).2 calls := Machine.final_append _ _ _ _
  have hroom : r.toNat + config.periodTicks.toNat < 2 ^ 64 := by
    have hend := final_clock_le hids hbuilt htask post
    rw [← hrun] at hend
    have hlastTick := clock_le_lastTick (run configuration (pre ++ .step r :: post))
    omega
  have hle := hchecked.deadline_le
  refine ⟨toNat_deadlineOf (by omega), ?_, ?_⟩
  · intro mid k rest hsplit hnone hbefore
    rw [hrun] at hbefore
    rw [hrecords, hrun, hsplit]
    exact job_completed hids hchecked hroom hdue hbuilt htask hafter hholds mid k rest hnone hbefore
  · intro mid tick rest hsplit hnone htick hok
    have hmid : Built configuration (run configuration (pre ++ .step r :: mid)) := run_built hv _
    have hclock := (step_status hmid.valid tick).1 hok
    rw [hrun] at hclock
    have hmissed := job_missed hids hchecked hroom hdue hbuilt htask hafter hholds mid tick hnone htick hclock
    rw [hrecords, hrun, hsplit]
    refine ⟨(hmissed rest).1, (hmissed rest).2.1, ?_⟩
    intro later k rest' hrest hnone' hbefore
    rw [List.append_assoc, List.cons_append, hrun] at hbefore ⊢
    obtain ⟨missed, hholds', htask'⟩ := (hmissed later).2.2 hbefore hnone'
    have hvalid : (run configuration (pre ++ .step r :: (mid ++ .step tick :: later))).valid = true :=
      (run_built hv _).valid
    rw [hrun] at hvalid
    exact complete_missed hvalid htask' hholds' k

/-- the job released at tick 0 with deadline 1 is found late at tick 2, in the step that releases the next job -/
theorem deadline_verdicts_overrun :
    jobRecords 1 0 (results [overrunTask] overrunCalls) = [missOf overrunTask 0 2] :=
  ((deadline_verdicts [overrunTask] (by decide) overrunTask List.mem_cons_self [] 0 [.step 1, .step 2, .complete 1 2]
    (by decide) { taskId := 1, releaseTick := 0, absoluteDeadlineTick := 1, releaseCount := 1 } (by decide) rfl).2.2
    [.step 1] 2 [.complete 1 2] rfl (by simp) (by decide) (by decide)).2.1

end AstraFsw.RateGroupScheduler
