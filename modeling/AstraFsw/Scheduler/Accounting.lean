/-
Job accounting over whole runs, from the results the calls return.

For each task the counters are compared with its completion results (`completionsOf`) and its DeadlineMiss records
(`recordsOf`). A miss is recorded at three places of the code (past the deadline, overrun at the next release, late
completion) under one flag; the flag of a pending job is set exactly when the job has a record (`Account.recorded`).

- `call_effect`: a call runs the loop body of a task, completes its job, or does nothing to it;
- `Account.stepTask`, `Account.completeTask`: one loop body and one completion keep the account;
- `job_accounting`: after every list of fewer than 2^64 calls, every task's counters are the counted results.
-/
import AstraFsw.Scheduler.Run

namespace AstraFsw.RateGroupScheduler

/-! ## What the calls returned for a task -/

/-- the completion results addressed to the task -/
def completionsOf (taskId : UInt16) (results : List Result) : List CompletionResult :=
  results.filterMap fun
    | .complete result => if result.taskId = taskId then some result else none
    | .step _ => none

/-- the DeadlineMiss records of the task -/
def recordsOf (taskId : UInt16) (results : List Result) : List DeadlineMiss :=
  results.flatMap fun
    | .step result => result.deadlineMisses.filter (·.taskId == taskId)
    | .complete _ => []

def onTimeCount (completions : List CompletionResult) : ℕ := completions.countP (·.status == .completedOnTime)

def lateCount (completions : List CompletionResult) : ℕ := completions.countP (·.status == .completedLate)

/-- late completions of jobs without a DeadlineMiss record -/
def unrecordedCount (completions : List CompletionResult) (records : List DeadlineMiss) : ℕ :=
  completions.countP fun result =>
    result.status == .completedLate && !records.any (·.releaseTick == result.releaseTick)

theorem onTimeCount_snoc (completions : List CompletionResult) (result : CompletionResult) :
    onTimeCount (completions ++ [result]) =
      onTimeCount completions + if result.status = .completedOnTime then 1 else 0 := by
  simp [onTimeCount, List.countP_singleton]

theorem lateCount_snoc (completions : List CompletionResult) (result : CompletionResult) :
    lateCount (completions ++ [result]) = lateCount completions + if result.status = .completedLate then 1 else 0 := by
  simp [lateCount, List.countP_singleton]

theorem unrecordedCount_snoc (completions : List CompletionResult) (records : List DeadlineMiss)
    (result : CompletionResult) :
    unrecordedCount (completions ++ [result]) records = unrecordedCount completions records +
      if result.status = .completedLate ∧ ¬ ∃ m ∈ records, m.releaseTick = result.releaseTick then 1 else 0 := by
  simp [unrecordedCount, List.countP_singleton]

theorem completionsOf_snoc (taskId : UInt16) (results : List Result) (result : Result) :
    completionsOf taskId (results ++ [result]) = completionsOf taskId results ++ completionsOf taskId [result] :=
  List.filterMap_append

theorem recordsOf_snoc (taskId : UInt16) (results : List Result) (result : Result) :
    recordsOf taskId (results ++ [result]) = recordsOf taskId results ++ recordsOf taskId [result] :=
  List.flatMap_append

/-! ## The effect of one call on one task -/

/-- the task and the clock after a call, and what it returned for the task. A refused step and another task's completion
leave the task and return nothing for it. -/
inductive Effect (taskId : UInt16) (task : TaskState) (clock : ℕ) :
    Call → TaskState → ℕ → List DeadlineMiss → List CompletionResult → Prop
  | skip (c : Call) : (∀ tick, c ≠ .complete taskId tick) → (∀ tick, c = .step tick → tick.toNat ≠ clock) →
      Effect taskId task clock c task clock [] []
  | tick (tick : UInt64) : tick.toNat = clock →
      Effect taskId task clock (.step tick) (stepTask tick task).2.2 (clock + 1) (stepTask tick task).1 []
  | complete (tick : UInt64) :
      Effect taskId task clock (.complete taskId tick) (completeTask task taskId tick).2 clock []
        [(completeTask task taskId tick).1]

/-- **Every call has one of the three effects on every task.** -/
theorem call_effect {s : RateGroupScheduler} (hv : s.valid = true) (hids : (s.tasks.map (·.config.taskId)).Nodup)
    {taskId : UInt16} {task : TaskState} (h : s.taskOf taskId = some task) (c : Call) :
    ∃ task', (s.call c).2.taskOf taskId = some task' ∧
      Effect taskId task s.clock c task' (s.call c).2.clock (recordsOf taskId [(s.call c).1])
        (completionsOf taskId [(s.call c).1]) := by
  cases c with
  | step tick =>
    change ∃ task', (s.step tick).2.taskOf taskId = some task' ∧
      Effect taskId task s.clock _ task' (s.step tick).2.clock (recordsOf taskId [.step (s.step tick).1]) []
    rw [taskOf_step hv]
    cases hc : s.continuous tick with
    | false =>
      rw [step_of_not_continuous hv hc]
      refine ⟨task, h, .skip _ (by simp) fun t ht => ?_⟩
      obtain rfl := Call.step.inj ht
      exact fun htick => absurd ((continuous_iff s tick).2 htick) (by simp [hc])
    | true =>
      have htick := (continuous_iff s tick).1 hc
      have hclock : (s.step tick).2.clock = s.clock + 1 := by
        rw [step_of_continuous hv hc, ← htick]
        rfl
      have hrecords : recordsOf taskId [.step (s.step tick).1] = (stepTask tick task).1 := by
        rw [← step_missesOf hids h, step_of_continuous hv hc]
        simp [recordsOf]
      rw [hclock, hrecords, h]
      exact ⟨_, rfl, .tick tick htick⟩
  | complete id tick =>
    change ∃ task', (s.complete id tick).2.taskOf taskId = some task' ∧
      Effect taskId task s.clock _ task' (s.complete id tick).2.clock []
        (completionsOf taskId [.complete (s.complete id tick).1])
    have haddress : (s.complete id tick).1.taskId = id := complete_taskId hv id tick
    rw [taskOf_complete hv, complete_clock hv]
    by_cases heq : taskId = id
    · subst heq
      have hcompletions : completionsOf taskId [.complete (s.complete taskId tick).1] =
          [(completeTask task taskId tick).1] := by
        rw [complete_of_some hv h] at haddress ⊢
        simp only [completionsOf, List.filterMap_cons, List.filterMap_nil]
        rw [if_pos haddress]
      rw [hcompletions, if_pos rfl, h]
      exact ⟨_, rfl, .complete tick⟩
    · have hcompletions : completionsOf taskId [.complete (s.complete id tick).1] = [] := by
        have hne : (s.complete id tick).1.taskId ≠ taskId := fun h => heq (h.symm.trans haddress)
        simp [completionsOf, hne]
      rw [hcompletions, if_neg heq, h]
      exact ⟨task, rfl, .skip _ (fun t ht => heq (Call.complete.inj ht).1.symm) (by simp)⟩

/-- no call creates a task -/
theorem taskOf_call_eq_none {s : RateGroupScheduler} (hv : s.valid = true) {taskId : UInt16}
    (h : s.taskOf taskId = none) (c : Call) : (s.call c).2.taskOf taskId = none := by
  cases c with
  | step tick =>
    change (s.step tick).2.taskOf taskId = none
    rw [taskOf_step hv, h]
    split_ifs <;> rfl
  | complete id tick =>
    change (s.complete id tick).2.taskOf taskId = none
    rw [taskOf_complete hv, h]
    split_ifs <;> rfl

/-! ## The account of one task -/

/-- the counters are the counted results; `n` bounds the calls and `clock` the ticks so far -/
structure Account (n clock : ℕ) (task : TaskState) (completions : List CompletionResult)
    (records : List DeadlineMiss) : Prop where
  releases : task.releaseCount.toNat = onTimeCount completions + task.deadlineMissCount.toNat +
    if task.pending && !task.deadlineMissRecorded then 1 else 0
  completed : task.completionCount.toNat = onTimeCount completions + lateCount completions
  missed : task.deadlineMissCount.toNat = records.length + unrecordedCount completions records
  releases_le : task.releaseCount.toNat ≤ n
  completed_le : task.completionCount.toNat ≤ n
  /-- the flag of a pending job says whether the job has a record -/
  recorded : task.pending = true → (task.deadlineMissRecorded = true ↔ ∃ m ∈ records, m.releaseTick = task.releaseTick)
  pendingTick : task.pending = true → task.releaseTick.toNat < clock
  recordTick : ∀ m ∈ records, m.releaseTick.toNat < clock
  lateTick : ∀ r ∈ completions, r.status = .completedLate → r.releaseTick.toNat < clock ∧
    (task.pending = true → r.releaseTick ≠ task.releaseTick)

theorem account_initialTask (config : RateGroupConfig) : Account 0 0 (initialTask config) [] [] := by
  constructor <;> simp [initialTask, onTimeCount, lateCount, unrecordedCount]

namespace Account

variable {n clock : ℕ} {task : TaskState} {completions : List CompletionResult} {records : List DeadlineMiss}

/-- a call that does not concern the task -/
theorem mono (h : Account n clock task completions records) : Account (n + 1) clock task completions records :=
  { h with releases_le := Nat.le_succ_of_le h.releases_le, completed_le := Nat.le_succ_of_le h.completed_le }

/-- a record for the pending job changes the verdict of no earlier late completion -/
theorem unrecordedCount_append (h : Account n clock task completions records) (hp : task.pending = true)
    {m : DeadlineMiss} (hm : m.releaseTick = task.releaseTick) :
    unrecordedCount completions (records ++ [m]) = unrecordedCount completions records := by
  apply List.countP_congr
  intro r hr
  by_cases hs : r.status = .completedLate
  · have hne := (h.lateTick r hr hs).2 hp
    have hno : (m.releaseTick == r.releaseTick) = false := by
      rw [hm, beq_eq_false_iff_ne]
      exact Ne.symm hne
    simp [List.any_append, hno]
  · simp [hs]

/-- the miss records of a tick -/
theorem afterMiss (h : Account n clock task completions records) (tick : UInt64) :
    Account n clock (RateGroupScheduler.afterMiss task tick) completions
      (records ++ if misses task tick then [(recordMiss task tick).1] else []) := by
  unfold RateGroupScheduler.afterMiss
  by_cases hmiss : misses task tick = true
  · rw [if_pos hmiss, if_pos hmiss]
    obtain ⟨⟨hp, hr⟩, -⟩ : (task.pending = true ∧ task.deadlineMissRecorded = false) ∧ _ := by
      simpa [misses] using hmiss
    have hreleases := h.releases
    rw [hp, hr, Bool.not_false, Bool.and_true, if_pos rfl] at hreleases
    have hlt := task.releaseCount.toNat_lt
    have hcount : (task.deadlineMissCount + 1).toNat = task.deadlineMissCount.toNat + 1 := toNat_add_one (by omega)
    refine ⟨?_, h.completed, ?_, h.releases_le, h.completed_le, fun _ => ?_, h.pendingTick, ?_, h.lateTick⟩
    · change task.releaseCount.toNat = _ + (task.deadlineMissCount + 1).toNat + _
      rw [hreleases, hcount]
      simp [recordMiss, Nat.add_assoc]
    · change (task.deadlineMissCount + 1).toNat = _
      rw [hcount, h.missed, h.unrecordedCount_append hp rfl, List.length_append]
      simp only [List.length_cons, List.length_nil]
      omega
    · exact iff_of_true rfl ⟨_, List.mem_append_right _ List.mem_cons_self, rfl⟩
    · intro m hm
      rcases List.mem_append.1 hm with hm | hm
      · exact h.recordTick m hm
      · rw [List.mem_singleton.1 hm]
        exact h.pendingTick hp
  · rw [if_neg hmiss, if_neg hmiss, List.append_nil]
    exact h

/-- after the miss records of a tick, a due task has no open job -/
theorem afterMiss_closed {tick : UInt64} (hdue : due task.config tick = true) :
    ((RateGroupScheduler.afterMiss task tick).pending &&
      !(RateGroupScheduler.afterMiss task tick).deadlineMissRecorded) = false := by
  unfold RateGroupScheduler.afterMiss misses
  cases hp : task.pending <;> cases hr : task.deadlineMissRecorded <;> simp [hp, hr, hdue, recordMiss]

/-- **The loop body keeps the account.** The tick is the next one of the clock. -/
theorem stepTask (h : Account n clock task completions records) (hn : n + 1 < 2 ^ 64) {tick : UInt64}
    (htick : tick.toNat = clock) :
    Account (n + 1) (clock + 1) (RateGroupScheduler.stepTask tick task).2.2 completions
      (records ++ (RateGroupScheduler.stepTask tick task).1) := by
  rw [stepTask_spec]
  have hmiss := h.afterMiss tick
  have hsame : (RateGroupScheduler.afterMiss task tick).releaseCount = task.releaseCount := by
    unfold RateGroupScheduler.afterMiss
    split_ifs <;> rfl
  by_cases hdue : due task.config tick = true
  · simp only [hdue, if_true]
    have hcount : (task.releaseCount + 1).toNat = task.releaseCount.toNat + 1 := by
      have := h.releases_le
      exact toNat_add_one (by omega)
    have hreleases := hmiss.releases
    rw [afterMiss_closed hdue, hsame] at hreleases
    refine ⟨?_, hmiss.completed, hmiss.missed, ?_, Nat.le_succ_of_le hmiss.completed_le, fun _ => ?_, fun _ => ?_,
      fun m hm => Nat.lt_succ_of_lt (hmiss.recordTick m hm), fun r hr hs => ?_⟩
    · change (task.releaseCount + 1).toNat = _
      rw [hcount, hreleases]
      simp
    · change (task.releaseCount + 1).toNat ≤ n + 1
      rw [hcount]
      exact Nat.succ_le_succ h.releases_le
    · -- the new job is released at a tick no record has
      refine iff_of_false (by simp) ?_
      rintro ⟨m, hm, heq⟩
      have hlt := hmiss.recordTick m hm
      rw [heq] at hlt
      change tick.toNat < clock at hlt
      omega
    · change tick.toNat < clock + 1
      omega
    · have hlt := (hmiss.lateTick r hr hs).1
      refine ⟨Nat.lt_succ_of_lt hlt, fun _ heq => ?_⟩
      rw [heq] at hlt
      change tick.toNat < clock at hlt
      omega
  · simp only [hdue, if_false, Bool.false_eq_true]
    exact { hmiss with
      releases_le := Nat.le_succ_of_le hmiss.releases_le
      completed_le := Nat.le_succ_of_le hmiss.completed_le
      pendingTick := fun hp => Nat.lt_succ_of_lt (hmiss.pendingTick hp)
      recordTick := fun m hm => Nat.lt_succ_of_lt (hmiss.recordTick m hm)
      lateTick := fun r hr hs => ⟨Nat.lt_succ_of_lt (hmiss.lateTick r hr hs).1, (hmiss.lateTick r hr hs).2⟩ }

/-- the account of a pending job that is completed with this result, from the two counts it changes -/
theorem close (h : Account n clock task completions records) (hn : n + 1 < 2 ^ 64) (hp : task.pending = true)
    {result : CompletionResult} (htick : result.releaseTick = task.releaseTick)
    (hstatus : result.status = .completedOnTime ∨ result.status = .completedLate) (missCount : UInt64)
    (hreleases : task.releaseCount.toNat = onTimeCount (completions ++ [result]) + missCount.toNat)
    (hmissed : missCount.toNat = records.length + unrecordedCount (completions ++ [result]) records) :
    Account (n + 1) clock
      { task with
        completionCount := task.completionCount + 1
        deadlineMissCount := missCount
        pending := false
        deadlineMissRecorded := false } (completions ++ [result]) records := by
  have hcount : (task.completionCount + 1).toNat = task.completionCount.toNat + 1 := by
    have hle := h.completed_le
    exact toNat_add_one (by omega)
  refine ⟨hreleases, ?_, hmissed, h.releases_le.trans (Nat.le_succ n), ?_, by simp, by simp, h.recordTick, ?_⟩
  · change (task.completionCount + 1).toNat = _
    rw [hcount, h.completed, onTimeCount_snoc, lateCount_snoc]
    rcases hstatus with hs | hs <;> simp [hs] <;> omega
  · change (task.completionCount + 1).toNat ≤ n + 1
    rw [hcount]
    exact Nat.succ_le_succ h.completed_le
  · intro r hr hs
    rcases List.mem_append.1 hr with hr | hr
    · exact ⟨(h.lateTick r hr hs).1, by simp⟩
    · rw [List.mem_singleton.1 hr, htick]
      exact ⟨h.pendingTick hp, by simp⟩

/-- **A completion keeps the account.** -/
theorem completeTask (h : Account n clock task completions records) (hn : n + 1 < 2 ^ 64) (taskId : UInt16)
    (tick : UInt64) :
    Account (n + 1) clock (RateGroupScheduler.completeTask task taskId tick).2
      (completions ++ [(RateGroupScheduler.completeTask task taskId tick).1]) records := by
  cases hp : task.pending with
  | false =>
    rw [completeTask_of_not_pending hp]
    refine { h.mono with releases := ?_, completed := ?_, missed := ?_, lateTick := ?_ }
    · simpa [onTimeCount_snoc] using h.releases
    · simpa [onTimeCount_snoc, lateCount_snoc] using h.completed
    · simpa [unrecordedCount_snoc] using h.missed
    · intro r hr hs
      rcases List.mem_append.1 hr with hr | hr
      · exact h.lateTick r hr hs
      · rw [List.mem_singleton.1 hr] at hs
        cases hs
  | true =>
    have hreleases := h.releases
    have hmissed := h.missed
    have hrecorded := h.recorded hp
    rw [hp, Bool.true_and] at hreleases
    rw [completeTask_of_pending hp]
    cases hon : onTime task tick with
    | true =>
      -- an on-time job has no recorded miss
      have hr : task.deadlineMissRecorded = false := by
        unfold onTime at hon
        simpa using (Bool.and_eq_true_iff.1 hon).2
      rw [hr] at hreleases
      refine h.close hn hp rfl (Or.inl rfl) task.deadlineMissCount ?_ ?_
      · rw [onTimeCount_snoc, hreleases]
        simp
        omega
      · simpa [unrecordedCount_snoc] using hmissed
    | false =>
      cases hr : task.deadlineMissRecorded with
      | true =>
        -- the miss was counted with its record
        rw [hr] at hreleases hrecorded
        refine h.close hn hp rfl (Or.inr rfl) task.deadlineMissCount ?_ ?_
        · simpa [onTimeCount_snoc] using hreleases
        · rw [unrecordedCount_snoc, if_neg (not_and_not_right.2 fun _ => hrecorded.1 rfl)]
          exact hmissed
      | false =>
        -- counted now, without a record
        rw [hr] at hreleases hrecorded
        have hlt := task.releaseCount.toNat_lt
        have hcount : (task.deadlineMissCount + 1).toNat = task.deadlineMissCount.toNat + 1 := by
          simp only [Bool.not_false, if_true] at hreleases
          exact toNat_add_one (by omega)
        refine h.close hn hp rfl (Or.inr rfl) (task.deadlineMissCount + 1) ?_ ?_
        · rw [onTimeCount_snoc, hreleases, hcount]
          simp
          omega
        · have hnone : ¬ ∃ m ∈ records, m.releaseTick = task.releaseTick := by
            intro hsome
            exact absurd (hrecorded.2 hsome) (by simp)
          rw [unrecordedCount_snoc, if_pos ⟨rfl, hnone⟩, hcount, hmissed]
          omega

/-- **Every effect keeps the account.** -/
theorem effect (h : Account n clock task completions records) (hn : n + 1 < 2 ^ 64) {taskId : UInt16} {c : Call}
    {task' : TaskState} {clock' : ℕ} {records' : List DeadlineMiss} {completions' : List CompletionResult}
    (heffect : Effect taskId task clock c task' clock' records' completions') :
    Account (n + 1) clock' task' (completions ++ completions') (records ++ records') := by
  cases heffect with
  | skip _ _ _ =>
    rw [List.append_nil, List.append_nil]
    exact h.mono
  | tick tick htick =>
    rw [List.append_nil]
    exact h.stepTask hn htick
  | complete tick =>
    rw [List.append_nil]
    exact h.completeTask hn taskId tick

end Account

/-! ## Runs -/

/-- the account of the task with an id, after a list of results -/
def AccountOf (n : ℕ) (s : RateGroupScheduler) (results : List Result) : Prop :=
  ∀ taskId task, s.taskOf taskId = some task →
    Account n s.clock task (completionsOf taskId results) (recordsOf taskId results)

/-- **One call keeps every task's account.** -/
theorem AccountOf.call {n : ℕ} {s : RateGroupScheduler} {rs : List Result} (h : AccountOf n s rs)
    (hv : s.valid = true) (hids : (s.tasks.map (·.config.taskId)).Nodup) (hn : n + 1 < 2 ^ 64) (c : Call) :
    AccountOf (n + 1) (s.call c).2 (rs ++ [(s.call c).1]) := by
  intro taskId task' htask'
  rw [completionsOf_snoc, recordsOf_snoc]
  cases htask : s.taskOf taskId with
  | none => exact absurd htask' (by simp [taskOf_call_eq_none hv htask])
  | some task =>
    obtain ⟨task'', htask'', heffect⟩ := call_effect hv hids htask c
    obtain rfl := Option.some.inj (htask''.symm.trans htask')
    exact (h taskId task htask).effect hn heffect

theorem run_accountOf {configuration : List RateGroupConfig} (hv : (ofConfig configuration).valid = true)
    (calls : List Call) (hlen : calls.length < 2 ^ 64) :
    AccountOf calls.length (run configuration calls) (results configuration calls) := by
  obtain ⟨hspec, -, hids⟩ := ofConfig_spec hv
  induction calls using List.reverseRecOn with
  | nil =>
    intro taskId task htask
    change (ofConfig configuration).taskOf taskId = some task at htask
    rw [hspec] at htask
    obtain ⟨config, -, rfl⟩ := List.mem_map.1 (List.mem_of_find?_eq_some htask)
    have hclock : (run configuration []).clock = 0 := by
      change (ofConfig configuration).clock = 0
      rw [hspec]; rfl
    rw [hclock]
    exact account_initialTask config
  | append_singleton calls c ih =>
    rw [List.length_append, List.length_singleton] at hlen ⊢
    have hbuilt := run_built hv calls
    rw [run, results, Machine.final_snoc, Machine.outputs_snoc]
    exact (ih (by omega)).call hbuilt.valid (hbuilt.nodup hids) hlen c

/-- **Exact job accounting.** After every list of fewer than 2^64 calls to a valid scheduler, for every task: its
releases are its on-time completions, its misses and its open job without a recorded miss; its completions are the
on-time and the late ones; its misses are its DeadlineMiss records and the late completions of jobs without one. -/
theorem job_accounting (configuration : List RateGroupConfig) (hv : (ofConfig configuration).valid = true)
    (calls : List Call) (hlen : calls.length < 2 ^ 64) :
    ∀ task ∈ (run configuration calls).tasks,
      let completions := completionsOf task.config.taskId (results configuration calls)
      let records := recordsOf task.config.taskId (results configuration calls)
      (task.releaseCount.toNat = onTimeCount completions + task.deadlineMissCount.toNat +
        if task.pending && !task.deadlineMissRecorded then 1 else 0) ∧
      task.completionCount.toNat = onTimeCount completions + lateCount completions ∧
      task.deadlineMissCount.toNat = records.length + unrecordedCount completions records := by
  intro task htask
  obtain ⟨-, -, hids⟩ := ofConfig_spec hv
  have haccount := run_accountOf hv calls hlen _ _ (taskOf_of_mem ((run_built hv calls).nodup hids) htask)
  exact ⟨haccount.releases, haccount.completed, haccount.missed⟩

/-- one task of period 2 and deadline 1: the first job overruns, the second completes in time -/
def overrunTask : RateGroupConfig :=
  { taskId := 1, name := "control", periodTicks := 2, relativeDeadlineTicks := 1 }

def overrunCalls : List Call := [.step 0, .step 1, .step 2, .complete 1 2]

theorem job_accounting_overrun :
    2 = onTimeCount (completionsOf 1 (results [overrunTask] overrunCalls)) + 1 + 0 :=
  (job_accounting [overrunTask] (by decide) overrunCalls (by decide)
    { config := overrunTask, releaseTick := 2, deadlineTick := 3, releaseCount := 2, completionCount := 1,
      deadlineMissCount := 1 } (by decide)).1

end AstraFsw.RateGroupScheduler
