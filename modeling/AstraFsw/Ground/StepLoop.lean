/-
The step loop of `tools/run_scenario.py`: send each step's command, wait for its expectation, stop at the first step
that is not matched.

Every wait scans the whole list of packets again, from the front. So a step is satisfied by any packet received so far,
also by one from before the packet that satisfied the step before it.

- `run_accounted`: a loop that passes has matched every step, in the order of the scenario;
- `step_loop_in_order`: it has observed them in order if no step started with a match older than the packet of the step
  before; a step that does start so is never satisfied by a later packet;
- `old_packet_passes`: a scenario that passes on telemetry in the opposite order.
-/
import AstraFsw.Ground.ScenarioRunner

namespace AstraFsw.Ground.StepLoop

open Polling ScenarioRunner

/-! ## The loop -/

structure ScenarioStep where
  command : Option String := none
  argument : Option String := none
  expected : Expectation := {}
deriving DecidableEq, Repr

structure Runner where
  /-- the shared list, and the wait of the current step -/
  reader : Reader Received := {}
  todo : List ScenarioStep
  current : Option ScenarioStep := none
  sequence : ℕ := 1
  /-- the commands sent, with their sequence numbers -/
  sent : List (ℕ × String × Option String) := []
  /-- the steps that passed, with the position of the packet each wait returned -/
  matched : List (ScenarioStep × ℕ) := []
  passed : Bool := true
deriving DecidableEq, Repr

namespace Runner

/-- the head of the loop: the command is sent, and the wait starts with `checked = 0` -/
def begin (r : Runner) (s : ScenarioStep) (todo : List ScenarioStep) : Runner :=
  let r := { r with reader := { entries := r.reader.entries }, todo, current := some s }
  match s.command with
  | none => r
  | some command => { r with sent := r.sent ++ [(r.sequence, command, s.argument)], sequence := r.sequence + 1 }

/-- the runner's next action -/
def advance (r : Runner) (expired : Bool) : Runner :=
  match r.current with
  | some s =>
    match r.reader.phase with
    | .returned none => { r with current := none, todo := [], passed := false }
    | .returned (some (i, _)) => { r with current := none, matched := r.matched ++ [(s, i)] }
    | _ => { r with reader := r.reader.advance (isMatch s.expected) expired }
  | none =>
    match r.todo with
    | [] => r
    | s :: todo => r.begin s todo

def step (r : Runner) : Turn Received → Runner
  | .append packet => { r with reader := { r.reader with entries := r.reader.entries ++ [packet] } }
  | .next expired => r.advance expired

def run (r : Runner) (turns : List (Turn Received)) : Runner := turns.foldl step r

def start (steps : List ScenarioStep) : Runner := { todo := steps }

/-- the loop has ended, every step marked matched -/
def Passes (r : Runner) : Prop := r.passed = true ∧ r.current = none ∧ r.todo = []

instance (r : Runner) : Decidable r.Passes := inferInstanceAs (Decidable (_ ∧ _ ∧ _))

/-- the position of the packet that satisfied the step before -/
def lastPosition (r : Runner) : ℕ := (r.matched.map Prod.snd).getLast?.getD 0

/-! ## What one action does -/

/-- the runner's action, one rule for each outcome -/
inductive Acts (r : Runner) : Runner → Prop
  | idle : r.current = none → r.todo = [] → Acts r r
  | begins (s : ScenarioStep) (todo : List ScenarioStep) : r.current = none → r.todo = s :: todo → Acts r (r.begin s todo)
  | waits (s : ScenarioStep) (expired : Bool) : r.current = some s → (∀ result, r.reader.phase ≠ .returned result) →
      Acts r { r with reader := r.reader.advance (isMatch s.expected) expired }
  | marks (s : ScenarioStep) (i : ℕ) (packet : Received) : r.current = some s →
      r.reader.phase = .returned (some (i, packet)) →
      Acts r { r with current := none, matched := r.matched ++ [(s, i)] }
  | fails (s : ScenarioStep) : r.current = some s → r.reader.phase = .returned none →
      Acts r { r with current := none, todo := [], passed := false }

/-- **The code follows the rules.** -/
theorem advance_acts (r : Runner) (expired : Bool) : Acts r (r.advance expired) := by
  unfold advance
  cases hcurrent : r.current with
  | none =>
    cases htodo : r.todo with
    | nil => exact .idle hcurrent htodo
    | cons s todo => exact .begins s todo hcurrent htodo
  | some s =>
    cases hphase : r.reader.phase with
    | returned result =>
      cases result with
      | none => exact .fails s hcurrent hphase
      | some found => exact .marks s found.1 found.2 hcurrent hphase
    | _ =>
      have hwaits := Acts.waits s expired hcurrent (fun result h => by simp [hphase] at h)
      simpa only [hcurrent] using hwaits

@[simp] theorem begin_current (r : Runner) (s : ScenarioStep) (todo : List ScenarioStep) :
    (r.begin s todo).current = some s := by
  unfold begin
  cases s.command <;> rfl

@[simp] theorem begin_todo (r : Runner) (s : ScenarioStep) (todo : List ScenarioStep) :
    (r.begin s todo).todo = todo := by
  unfold begin
  cases s.command <;> rfl

@[simp] theorem begin_matched (r : Runner) (s : ScenarioStep) (todo : List ScenarioStep) :
    (r.begin s todo).matched = r.matched := by
  unfold begin
  cases s.command <;> rfl

@[simp] theorem begin_passed (r : Runner) (s : ScenarioStep) (todo : List ScenarioStep) :
    (r.begin s todo).passed = r.passed := by
  unfold begin
  cases s.command <;> rfl

@[simp] theorem begin_reader (r : Runner) (s : ScenarioStep) (todo : List ScenarioStep) :
    (r.begin s todo).reader = { entries := r.reader.entries } := by
  unfold begin
  cases s.command <;> rfl

theorem run_snoc (r : Runner) (turns : List (Turn Received)) (t : Turn Received) :
    run r (turns ++ [t]) = step (run r turns) t := by
  simp [run, List.foldl_append]

/-- **Run rule.** What appending and every action keep, every run keeps. -/
theorem run_inv {P : Runner → Prop}
    (happend : ∀ r packet, P r → P (step r (.append packet))) (hacts : ∀ r r', Acts r r' → P r → P r') {r : Runner}
    (h : P r) (turns : List (Turn Received)) : P (run r turns) := by
  induction turns generalizing r with
  | nil => exact h
  | cons t turns ih =>
    cases t with
    | append packet => exact ih (happend r packet h)
    | next expired => exact ih (hacts r _ (advance_acts r expired) h)

/-! ## What a passing loop has matched -/

/-- the steps matched, waited for and still to do are the scenario, unless a step has failed -/
def Accounted (steps : List ScenarioStep) (r : Runner) : Prop :=
  r.passed = true → r.matched.map Prod.fst ++ r.current.toList ++ r.todo = steps

theorem run_accounted (steps : List ScenarioStep) (turns : List (Turn Received)) :
    Accounted steps (run (start steps) turns) := by
  refine run_inv (fun _ _ h => h) ?_ (fun _ => rfl) turns
  intro r r' hacts h hpassed
  cases hacts with
  | idle => exact h hpassed
  | begins s todo hcurrent htodo =>
    have hsteps := h (by simpa using hpassed)
    simpa [hcurrent, htodo] using hsteps
  | waits => exact h hpassed
  | marks s i packet hcurrent =>
    have hsteps := h hpassed
    simpa [hcurrent] using hsteps
  | fails => cases hpassed

/-- a loop that passes has matched every step, in the order of the scenario -/
theorem matched_of_passes {steps : List ScenarioStep} {turns : List (Turn Received)}
    (h : Passes (run (start steps) turns)) : (run (start steps) turns).matched.map Prod.fst = steps := by
  obtain ⟨hpassed, hcurrent, htodo⟩ := h
  have hsteps := run_accounted steps turns hpassed
  simpa [hcurrent, htodo] using hsteps

/-- the packet at the position satisfies the step -/
def Satisfies (packets : List Received) (s : ScenarioStep) (i : ℕ) : Prop :=
  ∃ packet, packets[i]? = some packet ∧ isMatch s.expected packet = true

theorem Satisfies.append {packets : List Received} {s : ScenarioStep} {i : ℕ} (h : Satisfies packets s i)
    (more : List Received) : Satisfies (packets ++ more) s i := by
  obtain ⟨packet, hget, hmatch⟩ := h
  exact ⟨packet, by rw [List.getElem?_append_left (List.getElem?_eq_some_iff.1 hget).1, hget], hmatch⟩

/-- every matched step is satisfied at its position, and the wait of the current step is sound -/
structure Evidenced (r : Runner) : Prop where
  matched : ∀ e ∈ r.matched, Satisfies r.reader.entries e.1 e.2
  reader : ∀ s, r.current = some s → Sound (isMatch s.expected) r.reader

theorem Evidenced.append {r : Runner} (h : Evidenced r) (packet : Received) : Evidenced (r.step (.append packet)) := by
  refine ⟨fun e he => (h.matched e he).append [packet], ?_⟩
  intro s hcurrent
  exact (h.reader s hcurrent).step _ (.append packet)

theorem Evidenced.acts {r r' : Runner} (h : Evidenced r) (hacts : Acts r r') : Evidenced r' := by
  cases hacts with
  | idle => exact h
  | begins s todo =>
    refine ⟨by simpa using h.matched, ?_⟩
    intro s' hcurrent
    rw [begin_reader]
    exact sound_start _ _
  | waits s expired hcurrent =>
    refine ⟨?_, ?_⟩
    · intro e he
      rw [Reader.advance_entries]
      exact h.matched e he
    · intro s' hcurrent'
      obtain rfl := Option.some.inj (hcurrent.symm.trans hcurrent')
      exact (h.reader s hcurrent).step _ (.next expired)
  | marks s i packet hcurrent hphase =>
    refine ⟨?_, by simp⟩
    intro e he
    rcases List.mem_append.1 he with hold | hnew
    · exact h.matched e hold
    · obtain rfl := List.mem_singleton.1 hnew
      exact ⟨packet, (h.reader s hcurrent).result i packet hphase⟩
  | fails => exact ⟨h.matched, by simp⟩

theorem evidenced_start (steps : List ScenarioStep) : Evidenced (start steps) := ⟨by simp [start], by simp [start]⟩

theorem run_evidenced (steps : List ScenarioStep) (turns : List (Turn Received)) :
    Evidenced (run (start steps) turns) :=
  run_inv (fun _ packet h => h.append packet) (fun _ _ hacts h => h.acts hacts) (evidenced_start steps) turns

/-! ## In order -/

/-- no packet received before the one that satisfied the step before satisfies this step -/
def startsFresh (r : Runner) (s : ScenarioStep) : Bool :=
  (r.reader.entries.take r.lastPosition).all fun packet => !isMatch s.expected packet

/-- a turn that begins a step begins it fresh -/
def freshTurn (r : Runner) : Turn Received → Bool
  | .append _ => true
  | .next _ =>
    match r.current, r.todo with
    | none, s :: _ => r.startsFresh s
    | _, _ => true

/-- every step of the run begins fresh -/
def allFresh : Runner → List (Turn Received) → Bool
  | _, [] => true
  | r, t :: turns => r.freshTurn t && allFresh (r.step t) turns

/-- the positions do not decrease, and the current step began fresh -/
structure InOrder (r : Runner) : Prop where
  positions : (r.matched.map Prod.snd).Pairwise (· ≤ ·)
  current : ∀ s, r.current = some s → r.startsFresh s = true

theorem le_getLast {positions : List ℕ} (h : positions.Pairwise (· ≤ ·)) {i : ℕ} (hi : i ∈ positions) :
    i ≤ positions.getLast?.getD 0 := by
  induction positions using List.reverseRecOn with
  | nil => simp at hi
  | append_singleton positions j =>
    rw [List.getLast?_concat, Option.getD_some]
    rcases List.mem_append.1 hi with hbefore | hlast
    · exact (List.pairwise_append.1 h).2.2 i hbefore j (List.mem_singleton_self j)
    · exact (List.mem_singleton.1 hlast).le

theorem Evidenced.lastPosition_le {r : Runner} (h : Evidenced r) : r.lastPosition ≤ r.reader.entries.length := by
  unfold lastPosition
  cases hlast : (r.matched.map Prod.snd).getLast? with
  | none => exact Nat.zero_le _
  | some i =>
    obtain ⟨e, he, rfl⟩ := List.mem_map.1 (List.mem_of_getLast? hlast)
    obtain ⟨packet, hget, -⟩ := h.matched e he
    exact (List.getElem?_eq_some_iff.1 hget).1.le

/-- a step that began fresh is satisfied no earlier than the step before -/
theorem lastPosition_le_of_fresh {r : Runner} {s : ScenarioStep} (h : r.startsFresh s = true) {i : ℕ}
    (hi : Satisfies r.reader.entries s i) : r.lastPosition ≤ i := by
  obtain ⟨packet, hget, hmatch⟩ := hi
  by_contra hlt
  have hmem : packet ∈ r.reader.entries.take r.lastPosition := by
    apply List.mem_of_getElem? (i := i)
    rw [List.getElem?_take_of_lt (Nat.lt_of_not_le hlt), hget]
  have hnot := List.all_eq_true.1 h packet hmem
  rw [hmatch] at hnot
  cases hnot

theorem InOrder.append {r : Runner} (h : InOrder r) (he : Evidenced r) (packet : Received) :
    InOrder (r.step (.append packet)) := by
  refine ⟨h.positions, ?_⟩
  intro s hcurrent
  have hfresh := h.current s hcurrent
  change ((r.reader.entries ++ [packet]).take r.lastPosition).all _ = true
  rw [List.take_append_of_le_length he.lastPosition_le]
  exact hfresh

theorem InOrder.acts {r r' : Runner} (h : InOrder r) (he : Evidenced r) (hacts : Acts r r')
    (hfresh : ∀ s todo, r.current = none → r.todo = s :: todo → r.startsFresh s = true) : InOrder r' := by
  cases hacts with
  | idle => exact h
  | begins s todo hcurrent htodo =>
    refine ⟨by simpa using h.positions, ?_⟩
    intro s' hcurrent'
    rw [begin_current, Option.some.injEq] at hcurrent'
    subst hcurrent'
    simpa [startsFresh, lastPosition] using hfresh s todo hcurrent htodo
  | waits s expired hcurrent =>
    refine ⟨h.positions, ?_⟩
    intro s' hcurrent'
    simpa [startsFresh, lastPosition, Reader.advance_entries] using h.current s' hcurrent'
  | marks s i packet hcurrent hphase =>
    refine ⟨?_, by simp⟩
    have hi : r.lastPosition ≤ i :=
      lastPosition_le_of_fresh (h.current s hcurrent) ⟨packet, (he.reader s hcurrent).result i packet hphase⟩
    rw [List.map_append, List.pairwise_append]
    refine ⟨h.positions, by simp, ?_⟩
    intro j hj k hk
    obtain rfl : k = i := by simpa using hk
    exact (le_getLast h.positions hj).trans hi
  | fails => exact ⟨h.positions, by simp⟩

/-- steps that all begin fresh are matched in order -/
theorem run_inOrder {r : Runner} (h : InOrder r) (he : Evidenced r) {turns : List (Turn Received)}
    (hfresh : allFresh r turns = true) : InOrder (run r turns) := by
  induction turns generalizing r with
  | nil => exact h
  | cons t turns ih =>
    obtain ⟨ht, hturns⟩ := Bool.and_eq_true_iff.1 hfresh
    cases t with
    | append packet => exact ih (h.append he packet) (he.append packet) hturns
    | next expired =>
      have hacts := advance_acts r expired
      refine ih (h.acts he hacts ?_) (he.acts hacts) hturns
      intro s todo hcurrent htodo
      simpa [freshTurn, hcurrent, htodo] using ht

/-- positions of packets that satisfy the steps one after the other -/
def ObservedInOrder (steps : List ScenarioStep) (packets : List Received) : Prop :=
  ∃ positions : List ℕ, positions.Pairwise (· ≤ ·) ∧ List.Forall₂ (Satisfies packets) steps positions

/-! ## A step that starts with an older match -/

/-- what can become of a step with a match at position `j` in the list when it begins -/
inductive OldMatch (done : List (ScenarioStep × ℕ)) (s : ScenarioStep) (j : ℕ) (r : Runner) : Prop
  | toDo (todo : List ScenarioStep) : r.matched = done → r.current = none → r.todo = s :: todo →
      Satisfies r.reader.entries s j → OldMatch done s j r
  | waiting : r.matched = done → r.current = some s → NotPast (isMatch s.expected) j r.reader → OldMatch done s j r
  | marked (i : ℕ) (more : List (ScenarioStep × ℕ)) : r.matched = done ++ (s, i) :: more → i ≤ j → OldMatch done s j r
  | failed : r.matched = done → r.current = none → r.todo = [] → OldMatch done s j r

theorem OldMatch.append {done : List (ScenarioStep × ℕ)} {s : ScenarioStep} {j : ℕ} {r : Runner}
    (h : OldMatch done s j r) (packet : Received) : OldMatch done s j (r.step (.append packet)) := by
  cases h with
  | toDo todo hmatched hcurrent htodo hold => exact .toDo todo hmatched hcurrent htodo (hold.append [packet])
  | waiting hmatched hcurrent hnot => exact .waiting hmatched hcurrent (hnot.step _ (.append packet))
  | marked i more hmatched hle => exact .marked i more hmatched hle
  | failed hmatched hcurrent htodo => exact .failed hmatched hcurrent htodo

theorem OldMatch.acts {done : List (ScenarioStep × ℕ)} {s : ScenarioStep} {j : ℕ} {r r' : Runner}
    (h : OldMatch done s j r) (hacts : Acts r r') : OldMatch done s j r' := by
  cases h with
  | toDo todo hmatched hcurrent htodo hold =>
    cases hacts with
    | idle _ hnil => exact absurd (htodo.symm.trans hnil) (by simp)
    | begins s' todo' _ htodo' =>
      obtain ⟨rfl, rfl⟩ := List.cons.inj (htodo.symm.trans htodo')
      obtain ⟨packet, hget, hmatch⟩ := hold
      refine .waiting (by rw [begin_matched, hmatched]) (begin_current _ _ _) ?_
      rw [begin_reader]
      exact notPast_start _ hget hmatch
    | waits _ _ hsome | marks _ _ _ hsome | fails _ hsome => exact absurd (hcurrent.symm.trans hsome) (by simp)
  | waiting hmatched hcurrent hnot =>
    cases hacts with
    | idle hnone | begins _ _ hnone => exact absurd (hcurrent.symm.trans hnone) (by simp)
    | waits s' expired hcurrent' =>
      obtain rfl := Option.some.inj (hcurrent.symm.trans hcurrent')
      exact .waiting hmatched hcurrent (hnot.step _ (.next expired))
    | marks s' i packet hcurrent' hphase =>
      obtain rfl := Option.some.inj (hcurrent.symm.trans hcurrent')
      exact .marked i [] (by rw [hmatched]) (hnot.result i packet hphase)
    | fails => exact .failed hmatched rfl rfl
  | marked i more hmatched hle =>
    cases hacts with
    | begins => exact .marked i more (by rw [begin_matched, hmatched]) hle
    | marks s' i' => exact .marked i (more ++ [(s', i')]) (by simp [hmatched]) hle
    | idle | waits | fails => exact .marked i more hmatched hle
  | failed hmatched hcurrent htodo =>
    cases hacts with
    | begins _ _ _ hcons => exact absurd (htodo.symm.trans hcons) (by simp)
    | waits _ _ hsome | marks _ _ _ hsome | fails _ hsome => exact absurd (hcurrent.symm.trans hsome) (by simp)
    | idle => exact .failed hmatched hcurrent htodo

/-- such a step, if it is marked at all, is marked no later than that match -/
theorem marked_le_of_oldMatch {done : List (ScenarioStep × ℕ)} {s : ScenarioStep} {j : ℕ} {r : Runner}
    (h : OldMatch done s j r) {i : ℕ} {more : List (ScenarioStep × ℕ)} (hmatched : r.matched = done ++ (s, i) :: more) :
    i ≤ j := by
  cases h with
  | marked i' more' hmatched' hle =>
    have htail := List.append_cancel_left (hmatched.symm.trans hmatched')
    simp only [List.cons.injEq, Prod.mk.injEq, true_and] at htail
    rw [htail.1]
    exact hle
  | toDo _ h | waiting h | failed h => exact absurd (hmatched.symm.trans h) (by simp)

/-- **A passing scenario was observed in order, where every step begins fresh.** Of every scenario, with any expectations,
and every interleaving of the loop with any telemetry:
- if every step of the run begins with no packet in the list that satisfies it and was received before the packet of the
  step before, and the loop passes, then there are positions of packets, none before its predecessor, that satisfy the
  steps one by one;
- a step that begins otherwise is not satisfied by anything later: if it is marked, its packet was received before the
  packet of the step before. -/
theorem step_loop_in_order (steps : List ScenarioStep) :
    (∀ turns, allFresh (start steps) turns = true → Passes (run (start steps) turns) →
      ObservedInOrder steps (run (start steps) turns).reader.entries) ∧
    ∀ pre s todo, (run (start steps) pre).current = none → (run (start steps) pre).todo = s :: todo →
      (run (start steps) pre).startsFresh s = false →
        ∀ post i more, (run (start steps) (pre ++ post)).matched = (run (start steps) pre).matched ++ (s, i) :: more →
          i < (run (start steps) pre).lastPosition := by
  refine ⟨?_, ?_⟩
  · intro turns hfresh hpasses
    have hevidenced := run_evidenced steps turns
    have horder := run_inOrder ⟨by simp [start], by simp [start]⟩ (evidenced_start steps) hfresh
    have hall : List.Forall₂ (Satisfies (run (start steps) turns).reader.entries)
        ((run (start steps) turns).matched.map Prod.fst) ((run (start steps) turns).matched.map Prod.snd) := by
      rw [List.forall₂_map_left_iff, List.forall₂_map_right_iff, List.forall₂_same]
      exact hevidenced.matched
    rw [matched_of_passes hpasses] at hall
    exact ⟨_, horder.positions, hall⟩
  · intro pre s todo hcurrent htodo hstale post i more hmatched
    simp only [startsFresh, List.all_eq_false, Bool.not_eq_true'] at hstale
    obtain ⟨packet, hmem, hmatch⟩ := hstale
    obtain ⟨j, hj⟩ := List.mem_iff_getElem?.1 hmem
    have hlt : j < (run (start steps) pre).lastPosition := by
      have hlen := (List.getElem?_eq_some_iff.1 hj).1
      rw [List.length_take] at hlen
      omega
    rw [List.getElem?_take_of_lt hlt] at hj
    have hold : OldMatch (run (start steps) pre).matched s j (run (start steps) pre) :=
      .toDo todo rfl hcurrent htodo ⟨packet, hj, by simpa using hmatch⟩
    have hrun := run_inv (fun _ packet h => h.append packet) (fun _ _ hacts h => h.acts hacts) hold post
    rw [run, List.foldl_append] at hmatched
    exact (marked_le_of_oldMatch hrun hmatched).trans_lt hlt

/-- first NOMINAL, then BOOT -/
def nominalThenBoot : List ScenarioStep := [{ expected := expectMode "NOMINAL" }, { expected := expectMode "BOOT" }]

/-- first BOOT, then NOMINAL, in telemetry that is complete before the loop starts -/
def bootThenNominal : List (Turn Received) :=
  [.append (telemetryIn "BOOT"), .append (telemetryIn "NOMINAL")] ++ List.replicate 8 (.next false)

/-- the order of the scenario: BOOT, then NOMINAL -/
theorem step_loop_in_order_boot :
    ObservedInOrder nominalThenBoot.reverse (run (start nominalThenBoot.reverse) bootThenNominal).reader.entries :=
  (step_loop_in_order nominalThenBoot.reverse).1 bootThenNominal (by decide) (by decide)

/-- the opposite order passes as well: the second step is satisfied by the older packet -/
theorem old_packet_passes :
    Passes (run (start nominalThenBoot) bootThenNominal) ∧
      (run (start nominalThenBoot) bootThenNominal).matched.map Prod.snd = [1, 0] ∧
      ¬ ObservedInOrder nominalThenBoot (run (start nominalThenBoot) bootThenNominal).reader.entries := by
  refine ⟨by decide, by decide, ?_⟩
  have hentries : (run (start nominalThenBoot) bootThenNominal).reader.entries =
      [telemetryIn "BOOT", telemetryIn "NOMINAL"] := by decide
  rw [hentries]
  rintro ⟨positions, hsorted, hall⟩
  obtain ⟨i, positions, ⟨packet, hget, hnominal⟩, hrest, rfl⟩ := List.forall₂_cons_left_iff.1 hall
  obtain ⟨j, positions, ⟨packet', hget', hboot⟩, -, rfl⟩ := List.forall₂_cons_left_iff.1 hrest
  have hle : i ≤ j := List.rel_of_pairwise_cons hsorted List.mem_cons_self
  -- NOMINAL is only at position 1 and BOOT only at position 0
  have hi : i = 1 := by
    match i with
    | 0 => obtain rfl := Option.some.inj hget; exact absurd hnominal (by decide)
    | 1 => rfl
    | i + 2 => simp at hget
  have hj : j = 0 := by
    match j with
    | 0 => rfl
    | 1 => obtain rfl := Option.some.inj hget'; exact absurd hboot (by decide)
    | j + 2 => simp at hget'
  omega

end Runner

end AstraFsw.Ground.StepLoop
