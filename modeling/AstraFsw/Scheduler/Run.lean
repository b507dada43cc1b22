/-
Calls and runs of the rate-group scheduler, seen from one task.

A call acts on the task with a given id as the body on that task alone (`taskOf_step`, `taskOf_complete`), and on the
clock, the number of ticks accepted so far (`continuous_iff`). Configuration, validity and the order of the tasks never
change (`run_built`). With unique ids, the misses a step reports for an id are those of its task (`step_missesOf`).
-/
import AstraFsw.Core.Machine
import AstraFsw.Scheduler.Model

namespace AstraFsw.RateGroupScheduler

/-! ## The task with an id -/

/-- the task with the id -/
def taskOf (s : RateGroupScheduler) (taskId : UInt16) : Option TaskState :=
  s.tasks.find? (·.config.taskId == taskId)

theorem step_of_not_continuous {s : RateGroupScheduler} (hv : s.valid = true) {tick : UInt64}
    (hc : s.continuous tick = false) : s.step tick = ({ status := .tickDiscontinuity, tick }, s) := by
  simp [step, hv, hc]

theorem step_of_continuous {s : RateGroupScheduler} (hv : s.valid = true) {tick : UInt64}
    (hc : s.continuous tick = true) :
    s.step tick =
      ({ status := .ok, tick
         releases := s.tasks.filterMap fun task => (stepTask tick task).2.1
         deadlineMisses := s.tasks.flatMap fun task => (stepTask tick task).1 },
        { s with
          tasks := s.tasks.map fun task => (stepTask tick task).2.2
          tickInitialized := true
          lastTick := tick }) := by
  simp [step, hv, hc, List.filterMap_map, List.flatMap_map, Function.comp_def]

theorem taskOf_step {s : RateGroupScheduler} (hv : s.valid = true) (tick : UInt64) (taskId : UInt16) :
    (s.step tick).2.taskOf taskId =
      if s.continuous tick then (s.taskOf taskId).map fun task => (stepTask tick task).2.2 else s.taskOf taskId := by
  cases hc : s.continuous tick with
  | false => simp [step_of_not_continuous hv hc]
  | true => simp [step_of_continuous hv hc, taskOf, List.find?_map]

section FirstMatch

variable {α β : Type*} {p q : α → Bool} {a a' : α} {l : List α}

/-- the list around its first match, where replacing the match happens -/
theorem exists_split_of_find? (h : l.find? p = some a) :
    ∃ pre post, l = pre ++ a :: post ∧ (∀ x ∈ pre, p x = false) ∧ p a = true ∧
      ∀ b, l.set (l.findIdx p) b = pre ++ b :: post := by
  obtain ⟨ha, pre, post, rfl, hpre⟩ := List.find?_eq_some_iff_append.1 h
  have hnone : ∀ x ∈ pre, p x = false := by simpa using hpre
  have hindex : (pre ++ a :: post).findIdx p = pre.length := by
    rw [List.findIdx_append, List.findIdx_eq_length.2 hnone, if_neg (Nat.lt_irrefl _), List.findIdx_cons, ha]
    exact Nat.zero_add _
  refine ⟨pre, post, rfl, hnone, ha, ?_⟩
  intro b
  rw [hindex, List.set_append_right _ _ (Nat.le_refl _), Nat.sub_self]
  rfl

/-- replacing the first match of `p` by another match: the search for `p` finds the new element -/
theorem find?_set_findIdx_self (h : l.find? p = some a) (hp : p a' = true) :
    (l.set (l.findIdx p) a').find? p = some a' := by
  obtain ⟨pre, post, -, hpre, -, hset⟩ := exists_split_of_find? h
  rw [hset, List.find?_append, List.find?_eq_none.2 (by simpa using hpre), List.find?_cons_of_pos hp]
  rfl

/-- replacing the first match of `p` changes no search that both elements fail -/
theorem find?_set_findIdx_of_not (h : l.find? p = some a) (ha : q a = false) (ha' : q a' = false) :
    (l.set (l.findIdx p) a').find? q = l.find? q := by
  obtain ⟨pre, post, hsplit, -, -, hset⟩ := exists_split_of_find? h
  rw [hset, hsplit, List.find?_append, List.find?_append, List.find?_cons_of_neg (by simp [ha']),
    List.find?_cons_of_neg (by simp [ha])]

/-- replacing the first match by itself changes nothing -/
theorem set_findIdx_self (h : l.find? p = some a) : l.set (l.findIdx p) a = l := by
  obtain ⟨pre, post, hsplit, -, -, hset⟩ := exists_split_of_find? h
  rw [hset, hsplit]

/-- replacing the first match by an element with the same image changes no image -/
theorem map_set_findIdx {f : α → β} (h : l.find? p = some a) (hf : f a' = f a) :
    (l.set (l.findIdx p) a').map f = l.map f := by
  obtain ⟨pre, post, hsplit, -, -, hset⟩ := exists_split_of_find? h
  rw [hset, hsplit, List.map_append, List.map_append, List.map_cons, List.map_cons, hf]

end FirstMatch

theorem complete_of_none {s : RateGroupScheduler} (hv : s.valid = true) {taskId : UInt16}
    (h : s.taskOf taskId = none) (tick : UInt64) :
    s.complete taskId tick = ({ status := .unknownTask, taskId, completionTick := tick }, s) := by
  have hf : s.findTask taskId = none := by
    unfold findTask taskOf at *
    rw [h]; rfl
  simp [complete, hv, hf]

theorem complete_of_some {s : RateGroupScheduler} (hv : s.valid = true) {taskId : UInt16} {task : TaskState}
    (h : s.taskOf taskId = some task) (tick : UInt64) :
    s.complete taskId tick =
      ((completeTask task taskId tick).1,
        { s with
          tasks := s.tasks.set (s.tasks.findIdx (·.config.taskId == taskId)) (completeTask task taskId tick).2 }) := by
  have hf : s.findTask taskId = some (s.tasks.findIdx (·.config.taskId == taskId), task) := by
    unfold findTask taskOf at *
    rw [h]; rfl
  simp [complete, hv, hf]

theorem taskOf_taskId {s : RateGroupScheduler} {taskId : UInt16} {task : TaskState}
    (h : s.taskOf taskId = some task) : task.config.taskId = taskId := by
  simpa using List.find?_some h

theorem taskOf_complete {s : RateGroupScheduler} (hv : s.valid = true) (taskId id : UInt16) (tick : UInt64) :
    (s.complete taskId tick).2.taskOf id =
      if id = taskId then (s.taskOf id).map fun task => (completeTask task taskId tick).2 else s.taskOf id := by
  cases h : s.taskOf taskId with
  | none =>
    rw [complete_of_none hv h]
    split_ifs with heq
    · rw [heq, h]; rfl
    · rfl
  | some task =>
    rw [complete_of_some hv h]
    have hid := taskOf_taskId h
    split_ifs with heq
    · rw [heq, h]
      exact find?_set_findIdx_self h (by simp [hid])
    · have hne : taskId ≠ id := fun h => heq h.symm
      exact find?_set_findIdx_of_not h (by simp [hid, hne]) (by simp [hid, hne])

/-! ## Runs -/

/-- a counter that cannot wrap -/
theorem toNat_add_one {x : UInt64} (h : x.toNat + 1 < 2 ^ 64) : (x + 1).toNat = x.toNat + 1 := by
  rw [UInt64.toNat_add, UInt64.toNat_one]
  exact Nat.mod_eq_of_lt h

/-- the ticks accepted so far, as the clock the stored tick stands for -/
def clock (s : RateGroupScheduler) : ℕ := if s.tickInitialized then s.lastTick.toNat + 1 else 0

/-- **The clock decides continuity**, the overflow check included. -/
theorem continuous_iff (s : RateGroupScheduler) (tick : UInt64) : s.continuous tick = true ↔ tick.toNat = s.clock := by
  unfold continuous clock
  cases s.tickInitialized with
  | false => simp [← UInt64.toNat_inj]
  | true =>
    have hlast := s.lastTick.toNat_lt
    have htick := tick.toNat_lt
    have hmax : uint64Max.toNat = 2 ^ 64 - 1 := rfl
    simp only [Bool.not_true, Bool.false_eq_true, if_false, if_true, Bool.not_eq_true', Bool.or_eq_false_iff,
      beq_eq_false_iff_ne, bne_eq_false_iff_eq, ne_eq, ← UInt64.toNat_inj, UInt64.toNat_add, hmax, UInt64.toNat_one]
    omega

/-- a completion leaves the clock -/
theorem complete_clock {s : RateGroupScheduler} (hv : s.valid = true) (taskId : UInt16) (tick : UInt64) :
    (s.complete taskId tick).2.clock = s.clock := by
  cases h : s.taskOf taskId with
  | none => rw [complete_of_none hv h]
  | some task => rw [complete_of_some hv h]; rfl

/-- a completion result carries the id it was asked for -/
theorem complete_taskId {s : RateGroupScheduler} (hv : s.valid = true) (taskId : UInt16) (tick : UInt64) :
    (s.complete taskId tick).1.taskId = taskId := by
  cases h : s.taskOf taskId with
  | none => rw [complete_of_none hv h]
  | some task =>
    rw [complete_of_some hv h]
    cases hp : task.pending with
    | false => rw [completeTask_of_not_pending hp]
    | true => rw [completeTask_of_pending hp]

/-- the state after a list of calls, and their results -/
def run (configuration : List RateGroupConfig) (calls : List Call) : RateGroupScheduler :=
  Machine.final call (ofConfig configuration) calls

def results (configuration : List RateGroupConfig) (calls : List Call) : List Result :=
  Machine.outputs call (ofConfig configuration) calls

/-- what no call changes -/
structure Built (configuration : List RateGroupConfig) (s : RateGroupScheduler) : Prop where
  valid : s.valid = true
  configs : s.tasks.map (·.config) = configuration

theorem Built.call {configuration : List RateGroupConfig} {s : RateGroupScheduler} (h : Built configuration s)
    (c : Call) : Built configuration (s.call c).2 := by
  cases c with
  | step tick =>
    change Built configuration (s.step tick).2
    cases hc : s.continuous tick with
    | false => rw [step_of_not_continuous h.valid hc]; exact h
    | true =>
      rw [step_of_continuous h.valid hc]
      refine ⟨h.valid, ?_⟩
      rw [← h.configs, List.map_map]
      exact List.map_congr_left fun task _ => stepTask_config tick task
  | complete taskId tick =>
    change Built configuration (s.complete taskId tick).2
    cases ht : s.taskOf taskId with
    | none => rw [complete_of_none h.valid ht]; exact h
    | some task =>
      rw [complete_of_some h.valid ht]
      refine ⟨h.valid, ?_⟩
      rw [← h.configs]
      exact map_set_findIdx ht (completeTask_config task taskId tick)

theorem built_ofConfig {configuration : List RateGroupConfig} (h : (ofConfig configuration).valid = true) :
    Built configuration (ofConfig configuration) := by
  rw [(ofConfig_spec h).1]
  exact ⟨rfl, by simp [Function.comp_def, initialTask]⟩

theorem run_built {configuration : List RateGroupConfig} (h : (ofConfig configuration).valid = true)
    (calls : List Call) : Built configuration (run configuration calls) :=
  Machine.final_inv call (fun _ c h => h.call c) (built_ofConfig h) calls

theorem Built.nodup {configuration : List RateGroupConfig} {s : RateGroupScheduler} (h : Built configuration s)
    (hids : (configuration.map (·.taskId)).Nodup) : (s.tasks.map (·.config.taskId)).Nodup := by
  rw [← h.configs, List.map_map] at hids
  exact hids

/-- with unique ids, a task is the task of its id -/
theorem taskOf_of_mem {s : RateGroupScheduler} (hids : (s.tasks.map (·.config.taskId)).Nodup) {task : TaskState}
    (h : task ∈ s.tasks) : s.taskOf task.config.taskId = some task := by
  unfold taskOf
  generalize s.tasks = tasks at hids h
  induction tasks with
  | nil => simp at h
  | cons x tasks ih =>
    obtain ⟨hx, hids⟩ := List.nodup_cons.1 hids
    rcases List.mem_cons.1 h with rfl | h
    · simp
    · have hne : x.config.taskId ≠ task.config.taskId := fun heq =>
        hx (List.mem_map.2 ⟨task, h, heq.symm⟩)
      rw [List.find?_cons_of_neg (by simpa using hne)]
      exact ih hids h

/-! ## The part of a step that carries an id -/

theorem filter_filterMap {α β : Type*} {f : α → Option β} {p : β → Bool} {q : α → Bool}
    (h : ∀ a, ∀ b ∈ f a, p b = q a) (l : List α) : (l.filterMap f).filter p = (l.filter q).filterMap f := by
  induction l with
  | nil => rfl
  | cons a l ih =>
    cases hf : f a with
    | none => cases hq : q a <;> simp [hf, hq, ih]
    | some b =>
      have hpq := h a b hf
      cases hq : q a <;> simp [hf, hq, ih, hpq]

theorem filter_flatMap {α β : Type*} {f : α → List β} {p : β → Bool} {q : α → Bool}
    (h : ∀ a, ∀ b ∈ f a, p b = q a) (l : List α) : (l.flatMap f).filter p = (l.filter q).flatMap f := by
  induction l with
  | nil => rfl
  | cons a l ih =>
    rw [List.flatMap_cons, List.filter_append, ih]
    cases hq : q a with
    | false =>
      have hnone : (f a).filter p = [] := List.filter_eq_nil_iff.2 fun b hb => by simp [h a b hb, hq]
      simp [hq, hnone]
    | true =>
      have hall : (f a).filter p = f a := List.filter_eq_self.2 fun b hb => by rw [h a b hb, hq]
      simp [hq, hall]

/-- of a list with unique keys, the elements with the key of one are that one -/
theorem filter_eq_singleton {α β : Type*} [DecidableEq β] {key : α → β} {l : List α} (hkeys : (l.map key).Nodup) {a : α}
    (h : a ∈ l) : l.filter (key · == key a) = [a] := by
  induction l with
  | nil => simp at h
  | cons x l ih =>
    obtain ⟨hx, hkeys⟩ := List.nodup_cons.1 hkeys
    rcases List.mem_cons.1 h with rfl | h
    · have hrest : l.filter (key · == key a) = [] := by
        rw [List.filter_eq_nil_iff]
        intro y hy
        have hne : key y ≠ key a := fun heq => hx (List.mem_map.2 ⟨y, hy, heq⟩)
        simpa using hne
      rw [List.filter_cons_of_pos (by simp), hrest]
    · have hne : key x ≠ key a := fun heq => hx (List.mem_map.2 ⟨a, h, heq.symm⟩)
      rw [List.filter_cons_of_neg (by simpa using hne), ih hkeys h]

/-- a loop body releases and misses jobs of its own task only -/
theorem stepTask_taskId (tick : UInt64) (task : TaskState) :
    (∀ release ∈ (stepTask tick task).2.1, release.taskId = task.config.taskId) ∧
      ∀ miss ∈ (stepTask tick task).1, miss.taskId = task.config.taskId := by
  rw [stepTask_spec]
  refine ⟨?_, ?_⟩
  · intro release hrelease
    dsimp only at hrelease
    split_ifs at hrelease
    · obtain rfl := Option.some.inj hrelease
      rfl
    · exact absurd hrelease (by simp)
  · intro miss hmiss
    dsimp only at hmiss
    split_ifs at hmiss
    · rw [List.mem_singleton.1 hmiss]
      rfl
    · exact absurd hmiss List.not_mem_nil

/-- with unique ids, the misses a step reports for an id are those of its task -/
theorem step_missesOf {s : RateGroupScheduler} (hids : (s.tasks.map (·.config.taskId)).Nodup) {tick : UInt64}
    {taskId : UInt16} {task : TaskState} (h : s.taskOf taskId = some task) :
    (s.tasks.flatMap fun task => (stepTask tick task).1).filter (·.taskId == taskId) = (stepTask tick task).1 := by
  have hown : s.tasks.filter (·.config.taskId == taskId) = [task] := by
    rw [← taskOf_taskId h]
    exact filter_eq_singleton hids (List.mem_of_find?_eq_some h)
  rw [filter_flatMap (q := fun task : TaskState => task.config.taskId == taskId), hown, List.flatMap_singleton]
  intro task miss hmiss
  rw [(stepTask_taskId tick task).2 miss hmiss]

end AstraFsw.RateGroupScheduler
