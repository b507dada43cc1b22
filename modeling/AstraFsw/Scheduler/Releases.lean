/-
Ticks and releases over whole runs.

- `acceptedTicks_eq`: the accepted ticks are 0, 1, 2, ... in order, and the clock is their number;
- `inert_refused`: a rejected tick, an unknown task and a task that is not pending leave the state alone, so deleting
  those calls changes nothing else (`Machine.prune_outputs`);
- `CountsReleases`: a task's release count is the number of its periodic ticks below the clock, whatever completions
  were reported;
- `release_schedule`: all of it, and the releases of an accepted tick in closed form.
-/
import AstraFsw.Core.Periodic
import AstraFsw.Scheduler.Run

namespace AstraFsw.RateGroupScheduler

/-! ## Accepted ticks -/

/-- the ticks that `step` answered with OK, in order -/
def acceptedTicks (results : List Result) : List UInt64 :=
  results.filterMap fun
    | .step result => if result.status = .ok then some result.tick else none
    | .complete _ => none

theorem acceptedTicks_snoc (results : List Result) (result : Result) :
    acceptedTicks (results ++ [result]) = acceptedTicks results ++ acceptedTicks [result] := List.filterMap_append

theorem step_status {s : RateGroupScheduler} (hv : s.valid = true) (tick : UInt64) :
    (s.step tick).1.status = .ok ↔ tick.toNat = s.clock := by
  rw [← continuous_iff]
  cases hc : s.continuous tick with
  | false => simp [step_of_not_continuous hv hc]
  | true => simp [step_of_continuous hv hc]

/-- one call: the clock is the number of accepted ticks -/
theorem acceptedTicks_call {s : RateGroupScheduler} (hv : s.valid = true) {ticks : List UInt64}
    (h : ticks.map UInt64.toNat = List.range s.clock) (c : Call) :
    (ticks ++ acceptedTicks [(s.call c).1]).map UInt64.toNat = List.range (s.call c).2.clock := by
  cases c with
  | step tick =>
    change (ticks ++ acceptedTicks [.step (s.step tick).1]).map UInt64.toNat = List.range (s.step tick).2.clock
    cases hc : s.continuous tick with
    | false =>
      rw [step_of_not_continuous hv hc]
      simpa [acceptedTicks] using h
    | true =>
      have htick := (continuous_iff s tick).1 hc
      rw [step_of_continuous hv hc]
      change (ticks ++ [tick]).map UInt64.toNat = List.range (tick.toNat + 1)
      rw [List.map_append, h, htick, List.range_succ]
      simp [htick]
  | complete taskId tick =>
    change (ticks ++ []).map UInt64.toNat = List.range (s.complete taskId tick).2.clock
    rw [List.append_nil, complete_clock hv, h]

theorem acceptedTicks_eq {configuration : List RateGroupConfig} (hv : (ofConfig configuration).valid = true)
    (calls : List Call) :
    (acceptedTicks (results configuration calls)).map UInt64.toNat = List.range (run configuration calls).clock := by
  induction calls using List.reverseRecOn with
  | nil =>
    change [] = List.range (ofConfig configuration).clock
    rw [(ofConfig_spec hv).1]
    rfl
  | append_singleton calls c ih =>
    rw [run, results, Machine.final_snoc, Machine.outputs_snoc, acceptedTicks_snoc]
    exact acceptedTicks_call (run_built hv calls).valid ih c

theorem clock_eq_length {configuration : List RateGroupConfig} (hv : (ofConfig configuration).valid = true)
    (calls : List Call) :
    (run configuration calls).clock = (acceptedTicks (results configuration calls)).length := by
  simpa using (congrArg List.length (acceptedTicks_eq hv calls)).symm

theorem clock_le_length {configuration : List RateGroupConfig} (hv : (ofConfig configuration).valid = true)
    (calls : List Call) : (run configuration calls).clock ≤ calls.length := by
  rw [clock_eq_length hv]
  calc (acceptedTicks (results configuration calls)).length
      ≤ (results configuration calls).length := List.length_filterMap_le _ _
    _ = calls.length := Machine.length_outputs _ _ _

/-- the next tick, from the last accepted one -/
theorem toNat_eq_clock_iff {configuration : List RateGroupConfig} (hv : (ofConfig configuration).valid = true)
    (calls : List Call) (tick : UInt64) :
    tick.toNat = (run configuration calls).clock ↔
      match (acceptedTicks (results configuration calls)).getLast? with
      | none => tick = 0
      | some last => tick.toNat = last.toNat + 1 := by
  have heq := acceptedTicks_eq hv calls
  have hlen := clock_eq_length hv calls
  rcases List.eq_nil_or_concat (acceptedTicks (results configuration calls)) with hnil | ⟨ticks, last, hconcat⟩
  · rw [hlen, hnil]
    simp [← UInt64.toNat_inj]
  · rw [List.concat_eq_append] at hconcat
    have hlast : last.toNat = ticks.length := by
      rw [hlen, hconcat, List.length_append, List.length_singleton, List.map_append, List.range_succ] at heq
      simpa using (List.append_inj_right' heq rfl)
    rw [hlen, hconcat]
    simp [hlast]

/-! ## Refused calls -/

/-- a rejected tick, or a completion of an unknown task or of one that is not pending -/
def refused : Result → Bool
  | .step result => result.status != .ok
  | .complete result => result.status == .unknownTask || result.status == .notPending

/-- **Refused calls leave the state alone.** -/
theorem inert_refused : Machine.Inert call refused := by
  intro s c hrefused
  cases hv : s.valid with
  | false =>
    cases c with
    | step tick => simp [call, step, hv]
    | complete taskId tick => simp [call, complete, hv]
  | true =>
    cases c with
    | step tick =>
      change (s.step tick).2 = s
      cases hc : s.continuous tick with
      | false => rw [step_of_not_continuous hv hc]
      | true =>
        change ((s.step tick).1.status != .ok) = true at hrefused
        rw [step_of_continuous hv hc] at hrefused
        cases hrefused
    | complete taskId tick =>
      change (s.complete taskId tick).2 = s
      cases htask : s.taskOf taskId with
      | none => rw [complete_of_none hv htask]
      | some task =>
        rw [complete_of_some hv htask]
        cases hp : task.pending with
        | false =>
          rw [completeTask_of_not_pending hp]
          have hset := set_findIdx_self htask
          simp only [hset]
        | true =>
          change refused (.complete (s.complete taskId tick).1) = true at hrefused
          rw [complete_of_some hv htask, completeTask_of_pending hp] at hrefused
          cases hon : onTime task tick <;> simp [refused, hon] at hrefused

/-! ## Release counts -/

/-- the code's due test is that of the periodic ticks -/
theorem due_iff (config : RateGroupConfig) (tick : UInt64) :
    due config tick = true ↔
      Periodic.Due config.phaseTicks.toNat config.periodTicks.toNat tick.toNat := by
  unfold due Periodic.Due
  by_cases h : config.phaseTicks.toUInt64 ≤ tick
  · have hle := UInt64.le_iff_toNat_le.1 h
    rw [UInt32.toNat_toUInt64] at hle
    simp only [ge_iff_le, h, decide_true, Bool.true_and, beq_iff_eq, hle, true_and, ← UInt64.toNat_inj,
      UInt64.toNat_mod, UInt64.toNat_sub_of_le _ _ h, UInt32.toNat_toUInt64, UInt64.toNat_zero]
  · have hle : ¬ config.phaseTicks.toNat ≤ tick.toNat := by
      rwa [UInt64.le_iff_toNat_le, UInt32.toNat_toUInt64] at h
    simp [h, hle]

/-- the task's release count is the number of its periodic ticks below the clock -/
def CountsReleases (clock : ℕ) (task : TaskState) : Prop :=
  task.releaseCount.toNat =
    Nat.count (Periodic.Due task.config.phaseTicks.toNat task.config.periodTicks.toNat) clock

theorem CountsReleases.toNat_add_one {clock : ℕ} {task : TaskState} (h : CountsReleases clock task)
    (hclock : clock + 1 < 2 ^ 64) : (task.releaseCount + 1).toNat = task.releaseCount.toNat + 1 := by
  have hle : task.releaseCount.toNat ≤ clock := h.trans_le (Nat.count_le _)
  exact RateGroupScheduler.toNat_add_one (by omega)

/-- the loop body counts a due tick -/
theorem CountsReleases.stepTask {clock : ℕ} {task : TaskState} (h : CountsReleases clock task)
    (hclock : clock + 1 < 2 ^ 64) {tick : UInt64} (htick : tick.toNat = clock) :
    CountsReleases (clock + 1) (RateGroupScheduler.stepTask tick task).2.2 := by
  have hsame : (afterMiss task tick).releaseCount = task.releaseCount := by
    unfold afterMiss
    split_ifs <;> rfl
  have hdue := due_iff task.config tick
  rw [htick] at hdue
  unfold CountsReleases
  rw [stepTask_config, Nat.count_succ, stepTask_spec, ← h]
  by_cases hd : due task.config tick = true
  · rw [if_pos (hdue.1 hd)]
    simp only [hd, if_true]
    exact h.toNat_add_one hclock
  · rw [if_neg (mt hdue.2 hd)]
    simp only [hd, if_false, Bool.false_eq_true, hsame, Nat.add_zero]

theorem CountsReleases.completeTask {clock : ℕ} {task : TaskState} (h : CountsReleases clock task) (taskId : UInt16)
    (tick : UInt64) : CountsReleases clock (RateGroupScheduler.completeTask task taskId tick).2 := by
  cases hp : task.pending with
  | false => rw [completeTask_of_not_pending hp]; exact h
  | true => rw [completeTask_of_pending hp]; exact h

/-- one call keeps every task's count -/
theorem countsReleases_call {s : RateGroupScheduler} (hv : s.valid = true)
    (h : ∀ task ∈ s.tasks, CountsReleases s.clock task) (hclock : s.clock + 1 < 2 ^ 64) (c : Call) :
    ∀ task ∈ (s.call c).2.tasks, CountsReleases (s.call c).2.clock task := by
  intro task' htask'
  cases c with
  | step tick =>
    change task' ∈ (s.step tick).2.tasks at htask'
    change CountsReleases (s.step tick).2.clock task'
    cases hc : s.continuous tick with
    | false =>
      rw [step_of_not_continuous hv hc] at htask' ⊢
      exact h task' htask'
    | true =>
      have htick := (continuous_iff s tick).1 hc
      rw [step_of_continuous hv hc] at htask' ⊢
      obtain ⟨task, htask, rfl⟩ := List.mem_map.1 htask'
      change CountsReleases (tick.toNat + 1) _
      rw [htick]
      exact (h task htask).stepTask hclock htick
  | complete taskId tick =>
    change task' ∈ (s.complete taskId tick).2.tasks at htask'
    change CountsReleases (s.complete taskId tick).2.clock task'
    rw [complete_clock hv]
    cases ht : s.taskOf taskId with
    | none =>
      rw [complete_of_none hv ht] at htask'
      exact h task' htask'
    | some task =>
      rw [complete_of_some hv ht] at htask'
      rcases List.mem_or_eq_of_mem_set htask' with hold | rfl
      · exact h task' hold
      · exact (h task (List.mem_of_find?_eq_some ht)).completeTask taskId tick

theorem run_countsReleases {configuration : List RateGroupConfig} (hv : (ofConfig configuration).valid = true)
    (calls : List Call) (hlen : calls.length < 2 ^ 64) :
    ∀ task ∈ (run configuration calls).tasks, CountsReleases (run configuration calls).clock task := by
  induction calls using List.reverseRecOn with
  | nil =>
    change ∀ task ∈ (ofConfig configuration).tasks, CountsReleases (ofConfig configuration).clock task
    rw [(ofConfig_spec hv).1]
    intro task htask
    obtain ⟨config, -, rfl⟩ := List.mem_map.1 htask
    exact (Nat.count_zero _).symm
  | append_singleton calls c ih =>
    rw [List.length_append, List.length_singleton] at hlen
    have hclock := clock_le_length hv calls
    rw [run, Machine.final_snoc]
    exact countsReleases_call (run_built hv calls).valid (ih (by omega)) (by omega) c

/-! ## The releases of an accepted tick -/

/-- what a release says: the task, the tick and the count -/
def releaseEntry (release : RateGroupRelease) : UInt16 × UInt64 × ℕ :=
  (release.taskId, release.releaseTick, release.releaseCount.toNat)

/-- the entries a configuration calls for at a tick -/
def dueEntries (configuration : List RateGroupConfig) (tick : UInt64) : List (UInt16 × UInt64 × ℕ) :=
  (configuration.filter fun config =>
    decide (Periodic.Due config.phaseTicks.toNat config.periodTicks.toNat tick.toNat)).map fun config =>
      (config.taskId, tick, (tick.toNat - config.phaseTicks.toNat) / config.periodTicks.toNat + 1)

/-- over the tasks in order, the releases are the due entries -/
theorem releases_eq_dueEntries {tasks : List TaskState} {tick : UInt64}
    (hchecked : ∀ task ∈ tasks, Checked task.config) (hcounts : ∀ task ∈ tasks, CountsReleases tick.toNat task)
    (htick : tick.toNat + 1 < 2 ^ 64) :
    (tasks.filterMap fun task => (stepTask tick task).2.1).map releaseEntry =
      dueEntries (tasks.map (·.config)) tick := by
  induction tasks with
  | nil => rfl
  | cons task tasks ih =>
    have hrest := ih (fun t ht => hchecked t (List.mem_cons_of_mem _ ht))
      fun t ht => hcounts t (List.mem_cons_of_mem _ ht)
    have hcount := hcounts task List.mem_cons_self
    have hphase := (hchecked task List.mem_cons_self).phase
    unfold dueEntries at hrest ⊢
    by_cases hdue : due task.config tick = true
    · have hd := (due_iff task.config tick).1 hdue
      have hvalue : task.releaseCount.toNat =
          (tick.toNat - task.config.phaseTicks.toNat) / task.config.periodTicks.toNat :=
        hcount.trans (Periodic.count_of_due hphase hd)
      rw [List.filterMap_cons_some (by rw [stepTask_spec, if_pos hdue]), List.map_cons, hrest, List.map_cons,
        List.filter_cons_of_pos (by simpa using hd), List.map_cons]
      simp only [releaseEntry, hcount.toNat_add_one htick, hvalue]
    · have hd := mt (due_iff task.config tick).2 hdue
      rw [List.filterMap_cons_none (by rw [stepTask_spec, if_neg hdue]), hrest, List.map_cons,
        List.filter_cons_of_neg (by simpa using hd)]

/-- with unique ids, a tick releases no task twice -/
theorem dueEntries_nodup {configuration : List RateGroupConfig} (hids : (configuration.map (·.taskId)).Nodup)
    (tick : UInt64) : ((dueEntries configuration tick).map Prod.fst).Nodup := by
  unfold dueEntries
  rw [List.map_map]
  exact hids.sublist (List.filter_sublist.map _)

theorem step_releases {configuration : List RateGroupConfig} (hv : (ofConfig configuration).valid = true)
    (calls : List Call) (hlen : calls.length + 1 < 2 ^ 64) {tick : UInt64}
    (hok : ((run configuration calls).step tick).1.status = .ok) :
    ((run configuration calls).step tick).1.releases.map releaseEntry = dueEntries configuration tick := by
  have hbuilt := run_built hv calls
  have htick := (step_status hbuilt.valid tick).1 hok
  have hclock := clock_le_length hv calls
  have hchecked : ∀ task ∈ (run configuration calls).tasks, Checked task.config := by
    intro task htask
    refine (ofConfig_spec hv).2.1 _ ?_
    rw [← hbuilt.configs]
    exact List.mem_map_of_mem htask
  rw [step_of_continuous hbuilt.valid ((continuous_iff _ tick).2 htick)]
  have hcounts : ∀ task ∈ (run configuration calls).tasks, CountsReleases tick.toNat task := by
    rw [htick]
    exact run_countsReleases hv calls (by omega)
  have heq := releases_eq_dueEntries hchecked hcounts (by omega)
  rwa [hbuilt.configs] at heq

/-- **Ticks and releases.** For every list of fewer than 2^64 calls to a valid scheduler:
- the accepted ticks are 0, 1, 2, ... in order, and a step is answered OK exactly when its tick is the successor of the
  last accepted one, or 0 at the start;
- the releases of an accepted tick are the entries of the tasks that are due, in configuration order and each once, with
  count `(tick - phase) / period + 1`, whatever completions were reported;
- deleting every refused call changes neither the other results nor the statistics. -/
theorem release_schedule (configuration : List RateGroupConfig) (hv : (ofConfig configuration).valid = true)
    (calls : List Call) (hlen : calls.length < 2 ^ 64) :
    (acceptedTicks (results configuration calls)).map UInt64.toNat =
      List.range (acceptedTicks (results configuration calls)).length ∧
    (∀ pre tick post, calls = pre ++ Call.step tick :: post →
      (((run configuration pre).step tick).1.status = .ok ↔
        match (acceptedTicks (results configuration pre)).getLast? with
        | none => tick = 0
        | some last => tick.toNat = last.toNat + 1) ∧
      (((run configuration pre).step tick).1.status = .ok →
        ((run configuration pre).step tick).1.releases.map releaseEntry = dueEntries configuration tick ∧
        (((run configuration pre).step tick).1.releases.map (·.taskId)).Nodup)) ∧
    (results configuration (Machine.prune call refused (ofConfig configuration) calls) =
        (results configuration calls).filter (fun result => !refused result) ∧
      (run configuration (Machine.prune call refused (ofConfig configuration) calls)).statistics =
        (run configuration calls).statistics) := by
  refine ⟨?_, fun pre tick post hsplit => ⟨?_, fun hok => ?_⟩, ?_, ?_⟩
  · rw [← clock_eq_length hv]
    exact acceptedTicks_eq hv calls
  · rw [step_status (run_built hv pre).valid]
    exact toNat_eq_clock_iff hv pre tick
  · have hlen' : pre.length + 1 < 2 ^ 64 := by
      rw [hsplit, List.length_append, List.length_cons] at hlen
      omega
    have hreleases := step_releases hv pre hlen' hok
    refine ⟨hreleases, ?_⟩
    have hnodup := dueEntries_nodup (ofConfig_spec hv).2.2 tick
    rw [← hreleases, List.map_map] at hnodup
    exact hnodup
  · exact Machine.prune_outputs call inert_refused _ calls
  · exact congrArg statistics (Machine.prune_final call inert_refused _ calls)

/-- a task of period 2, its second release at tick 2 -/
def everySecondTick : RateGroupConfig := { taskId := 1, name := "telemetry", periodTicks := 2 }

theorem release_schedule_second_release :
    ((run [everySecondTick] [.step 0, .step 1, .complete 1 1]).step 2).1.releases.map releaseEntry = [(1, 2, 2)] :=
  (((release_schedule [everySecondTick] (by decide) [.step 0, .step 1, .complete 1 1, .step 2] (by decide)).2.1
    [.step 0, .step 1, .complete 1 1] 2 [] rfl).2 (by decide)).1

end AstraFsw.RateGroupScheduler
