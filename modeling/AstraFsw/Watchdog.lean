/-
The watchdog (`fsw/src/watchdog.cpp`).

`evaluate` counts missed loop deadlines in a 32-bit counter that only `reset` clears, and expires when the time since
the last kick reaches the timeout or the count reaches its limit (`evaluate_expired_iff`).

Between two resets the count is the number of misses modulo 2^32 (`toNat_final_count`): the counter is not saturated. So
it counts the misses, and expiry by repeated misses stays, exactly in the runs with fewer than 2^32 of them
(`countsAndStays_iff`); `missed_deadlines_wrap` is the run that loses the expiry.
-/
import AstraFsw.Core.Machine
import AstraFsw.ModeManager

namespace AstraFsw

inductive WatchdogStatus where
  | ok
  | warning
  | expired
deriving DecidableEq, Repr

structure WatchdogConfig where
  warningMs : UInt32 := 400
  timeoutMs : UInt32 := 500
  loopDeadlineMs : UInt32 := 250
  maxMissedDeadlines : UInt32 := 3
deriving DecidableEq, Repr

structure WatchdogReport where
  status : WatchdogStatus := .ok
  fault : FaultCode := .none
  message : String := ""
  lastKickMs : UInt64 := 0
  elapsedSinceKickMs : UInt64 := 0
  missedDeadlineCount : UInt32 := 0
  alive : Bool := true
  loopTimingOk : Bool := true
deriving DecidableEq, Repr

structure Watchdog where
  config : WatchdogConfig := {}
  lastKickMs : UInt64 := 0
  missedDeadlineCount : UInt32 := 0
deriving DecidableEq, Repr

namespace Watchdog

def kick (w : Watchdog) (nowMs : UInt64) : Watchdog := { w with lastKickMs := nowMs }

def reset (w : Watchdog) (nowMs : UInt64) : Watchdog := { w with lastKickMs := nowMs, missedDeadlineCount := 0 }

/-- the missed-deadline count after an evaluation -/
def countAfter (w : Watchdog) (loopDurationMs : UInt32) : UInt32 :=
  if loopDurationMs ≥ w.config.loopDeadlineMs then w.missedDeadlineCount + 1 else w.missedDeadlineCount

/-- the time since the last kick, 0 when the clock is behind it -/
def elapsed (w : Watchdog) (nowMs : UInt64) : UInt64 :=
  if nowMs ≥ w.lastKickMs then nowMs - w.lastKickMs else 0

def evaluate (w : Watchdog) (nowMs : UInt64) (loopDurationMs : UInt32) : WatchdogReport × Watchdog :=
  let missedDeadlineCount := w.countAfter loopDurationMs
  let elapsed := w.elapsed nowMs
  let report : WatchdogReport :=
    { message := "Watchdog nominal", lastKickMs := w.lastKickMs, elapsedSinceKickMs := elapsed, missedDeadlineCount }
  let report :=
    if loopDurationMs ≥ w.config.loopDeadlineMs then
      { report with loopTimingOk := false, status := .warning, message := "Loop deadline missed" }
    else report
  let report :=
    if elapsed ≥ w.config.warningMs.toUInt64 ∧ elapsed < w.config.timeoutMs.toUInt64 then
      { report with status := .warning, message := "Watchdog kick warning threshold exceeded" }
    else report
  let report :=
    if missedDeadlineCount ≥ w.config.maxMissedDeadlines then
      { report with status := .expired, fault := .watchdogDeadlineMiss,
                    message := "Maximum missed loop deadlines exceeded", loopTimingOk := false }
    else report
  let report :=
    if elapsed ≥ w.config.timeoutMs.toUInt64 then
      { report with status := .expired, fault := .watchdogDeadlineMiss, message := "Watchdog timeout expired",
                    alive := false }
    else report
  (report, { w with missedDeadlineCount })

@[simp] theorem evaluate_snd (w : Watchdog) (now : UInt64) (loop : UInt32) :
    (w.evaluate now loop).2 = { w with missedDeadlineCount := w.countAfter loop } := rfl

/-- the two reasons to expire -/
theorem evaluate_expired_iff (w : Watchdog) (now : UInt64) (loop : UInt32) :
    (w.evaluate now loop).1.status = .expired ↔
      w.elapsed now ≥ w.config.timeoutMs.toUInt64 ∨ w.countAfter loop ≥ w.config.maxMissedDeadlines := by
  by_cases ht : w.elapsed now ≥ w.config.timeoutMs.toUInt64
  · simp [evaluate, ht]
  · by_cases hm : w.countAfter loop ≥ w.config.maxMissedDeadlines
    · simp [evaluate, ht, hm]
    · simp only [evaluate, ht, hm, if_false, or_self, iff_false]
      split_ifs <;> simp

theorem evaluate_fault (w : Watchdog) (now : UInt64) (loop : UInt32) :
    (w.evaluate now loop).1.fault =
      if (w.evaluate now loop).1.status = .expired then .watchdogDeadlineMiss else .none := by
  by_cases ht : w.elapsed now ≥ w.config.timeoutMs.toUInt64
  · simp [evaluate, ht]
  · by_cases hm : w.countAfter loop ≥ w.config.maxMissedDeadlines
    · simp [evaluate, ht, hm]
    · rw [if_neg (by rw [evaluate_expired_iff]; tauto)]
      simp only [evaluate, ht, hm, if_false]
      split_ifs <;> rfl

/-! ## Runs without a reset -/

inductive Call where
  | kick (nowMs : UInt64)
  | evaluate (nowMs : UInt64) (loopDurationMs : UInt32)
deriving DecidableEq, Repr

/-- one call, with the report of an evaluation -/
def call (w : Watchdog) : Call → Option WatchdogReport × Watchdog
  | .kick nowMs => (none, w.kick nowMs)
  | .evaluate nowMs loopDurationMs => (some (w.evaluate nowMs loopDurationMs).1, (w.evaluate nowMs loopDurationMs).2)

/-- an evaluation whose loop missed the deadline -/
def misses (config : WatchdogConfig) : Call → Bool
  | .kick _ => false
  | .evaluate _ loopDurationMs => decide (loopDurationMs ≥ config.loopDeadlineMs)

/-- a watchdog that was just built or reset -/
def cleared (config : WatchdogConfig) (lastKickMs : UInt64) : Watchdog := { config, lastKickMs }

theorem call_config (w : Watchdog) (c : Call) : (w.call c).2.config = w.config := by
  cases c <;> rfl

theorem final_config (w : Watchdog) (calls : List Call) : (Machine.final call w calls).config = w.config :=
  Machine.final_view call (fun c _ v => call_config v c) w

/-- one call counts its miss, modulo 2^32 -/
theorem toNat_call_count (w : Watchdog) (c : Call) :
    (w.call c).2.missedDeadlineCount.toNat =
      (w.missedDeadlineCount.toNat + if misses w.config c then 1 else 0) % 2 ^ 32 := by
  have hlt := w.missedDeadlineCount.toNat_lt
  cases c with
  | kick nowMs => exact (Nat.mod_eq_of_lt hlt).symm
  | evaluate nowMs loop =>
    simp only [call, evaluate_snd, countAfter, misses, decide_eq_true_eq]
    split_ifs
    · rw [UInt32.toNat_add]; rfl
    · exact (Nat.mod_eq_of_lt hlt).symm

/-- **The count of a run is its number of misses modulo 2^32.** -/
theorem toNat_final_count (w : Watchdog) (calls : List Call) :
    (Machine.final call w calls).missedDeadlineCount.toNat =
      (w.missedDeadlineCount.toNat + calls.countP (misses w.config)) % 2 ^ 32 := by
  induction calls generalizing w with
  | nil => exact (Nat.mod_eq_of_lt w.missedDeadlineCount.toNat_lt).symm
  | cons c calls ih =>
    rw [Machine.final_cons, ih, call_config, toNat_call_count, Nat.mod_add_mod, List.countP_cons, Nat.add_assoc,
      Nat.add_comm (List.countP _ _)]

/-- the report of an evaluation after a list of calls -/
def reportAfter (w : Watchdog) (calls : List Call) (nowMs : UInt64) (loopDurationMs : UInt32) : WatchdogReport :=
  ((Machine.final call w calls).evaluate nowMs loopDurationMs).1

theorem toNat_reportAfter_count (config : WatchdogConfig) (start : UInt64) (calls : List Call) (now : UInt64)
    (loop : UInt32) :
    ((cleared config start).reportAfter calls now loop).missedDeadlineCount.toNat =
      (calls ++ [Call.evaluate now loop]).countP (misses config) % 2 ^ 32 := by
  have hcount : ((cleared config start).reportAfter calls now loop).missedDeadlineCount =
      (Machine.final call (cleared config start) (calls ++ [.evaluate now loop])).missedDeadlineCount := by
    rw [Machine.final_snoc]
    simp only [reportAfter, call, evaluate]
    split_ifs <;> rfl
  rw [hcount, toNat_final_count]
  simp [cleared]

/-- every evaluation of the run reports the number of evaluations so far that missed the deadline -/
def CountsMisses (config : WatchdogConfig) (start : UInt64) (calls : List Call) : Prop :=
  ∀ pre now loop post, calls = pre ++ Call.evaluate now loop :: post →
    ((cleared config start).reportAfter pre now loop).missedDeadlineCount.toNat =
      (pre ++ [Call.evaluate now loop]).countP (misses config)

/-- the report expires because the count has reached its limit -/
def ExpiredByCount (config : WatchdogConfig) (report : WatchdogReport) : Prop :=
  report.status = .expired ∧ report.missedDeadlineCount ≥ config.maxMissedDeadlines

/-- once an evaluation of the run has expired by the count, every later one is expired too -/
def StaysExpired (config : WatchdogConfig) (start : UInt64) (calls : List Call) : Prop :=
  ∀ pre now loop mid now' loop' post,
    calls = pre ++ Call.evaluate now loop :: mid ++ Call.evaluate now' loop' :: post →
    ExpiredByCount config ((cleared config start).reportAfter pre now loop) →
    ((cleared config start).reportAfter (pre ++ Call.evaluate now loop :: mid) now' loop').status = .expired ∧
      ((cleared config start).reportAfter (pre ++ Call.evaluate now loop :: mid) now' loop').fault =
        .watchdogDeadlineMiss

/-- the count a report shows decides about expiry by misses -/
theorem reportAfter_expired (w : Watchdog) (calls : List Call) (now : UInt64) (loop : UInt32)
    (h : (w.reportAfter calls now loop).missedDeadlineCount ≥ w.config.maxMissedDeadlines) :
    (w.reportAfter calls now loop).status = .expired ∧
      (w.reportAfter calls now loop).fault = .watchdogDeadlineMiss := by
  have hcount : (w.reportAfter calls now loop).missedDeadlineCount =
      (Machine.final call w calls).countAfter loop := by
    simp only [reportAfter, evaluate]
    split_ifs <;> rfl
  rw [hcount, ← final_config w calls] at h
  have hexpired := ((Machine.final call w calls).evaluate_expired_iff now loop).2 (Or.inr h)
  refine ⟨hexpired, ?_⟩
  rw [reportAfter, evaluate_fault, if_pos hexpired]

/-- a run with a miss ends, up to calls that miss nothing, in a miss -/
theorem exists_last_miss (config : WatchdogConfig) (calls : List Call) (h : 0 < calls.countP (misses config)) :
    ∃ pre now loop post, calls = pre ++ Call.evaluate now loop :: post ∧
      (pre ++ [Call.evaluate now loop]).countP (misses config) = calls.countP (misses config) := by
  induction calls using List.reverseRecOn with
  | nil => simp at h
  | append_singleton calls c ih =>
    cases hc : misses config c with
    | true =>
      cases c with
      | kick now => simp [misses] at hc
      | evaluate now loop => exact ⟨calls, now, loop, [], rfl, rfl⟩
    | false =>
      have hsame : (calls ++ [c]).countP (misses config) = calls.countP (misses config) := by simp [hc]
      rw [hsame] at h
      obtain ⟨pre, now, loop, post, rfl, hcount⟩ := ih h
      exact ⟨pre, now, loop, post ++ [c], by simp, hcount.trans hsame.symm⟩

/-- **Misses are counted and expiry by misses is sticky, up to 2^32 misses.** For every configuration, every time of
construction or reset and every sequence of kicks and evaluations after it: each report shows the number of misses so
far, and each evaluation after one that expired by that count is expired with the deadline fault, exactly when the
sequence misses the deadline fewer than 2^32 times. -/
theorem countsAndStays_iff (config : WatchdogConfig) (start : UInt64) (calls : List Call) :
    CountsMisses config start calls ∧ StaysExpired config start calls ↔ calls.countP (misses config) < 2 ^ 32 := by
  constructor
  · rintro ⟨hcounts, -⟩
    by_contra hmany
    -- the report of the last miss would have to show a number of 33 bits
    obtain ⟨pre, now, loop, post, hsplit, hcount⟩ := exists_last_miss config calls (by omega)
    have hshown := hcounts pre now loop post hsplit
    have hlt := ((cleared config start).reportAfter pre now loop).missedDeadlineCount.toNat_lt
    omega
  · intro hfew
    have hcounts : CountsMisses config start calls := by
      rintro pre now loop post rfl
      rw [toNat_reportAfter_count]
      refine Nat.mod_eq_of_lt (lt_of_le_of_lt ?_ hfew)
      simp only [List.countP_append, List.countP_cons, List.countP_nil]
      omega
    refine ⟨hcounts, ?_⟩
    rintro pre now loop mid now' loop' post rfl ⟨-, hlimit⟩
    apply reportAfter_expired
    -- without a wrap the later count is not below the earlier one
    have hfirst := hcounts pre now loop (mid ++ Call.evaluate now' loop' :: post) (by simp)
    have hlater := hcounts (pre ++ Call.evaluate now loop :: mid) now' loop' post (by simp)
    refine UInt32.le_trans hlimit (UInt32.le_iff_toNat_le.2 ?_)
    rw [hfirst, hlater]
    simp only [List.countP_append, List.countP_cons, List.countP_nil]
    omega

/-- a loop that lasts as long as the default deadline, at time 0 -/
def slowLoop : Call := .evaluate 0 250

/-- the report of the slow loop after `n` others -/
def slowReport (n : ℕ) : WatchdogReport := (cleared {} 0).reportAfter (List.replicate n slowLoop) 0 250

theorem slowReport_count (n : ℕ) : (slowReport n).missedDeadlineCount.toNat = (n + 1) % 2 ^ 32 := by
  rw [slowReport, toNat_reportAfter_count, List.countP_append, List.countP_replicate]
  rfl

/-- nothing has elapsed at time 0 -/
theorem elapsed_zero (w : Watchdog) : w.elapsed 0 = 0 := by
  unfold elapsed
  split_ifs with h
  · have hzero : w.lastKickMs = 0 := UInt64.le_antisymm h UInt64.zero_le
    rw [hzero]; rfl
  · rfl

theorem slowReport_expired_iff (n : ℕ) : (slowReport n).status = .expired ↔ 3 ≤ (n + 1) % 2 ^ 32 := by
  have hconfig : (Machine.final call (cleared {} 0) (List.replicate n slowLoop)).config = {} := final_config _ _
  have hcount : (Machine.final call (cleared {} 0) (List.replicate n slowLoop)).countAfter 250 =
      (slowReport n).missedDeadlineCount := by
    simp only [slowReport, reportAfter, evaluate]
    split_ifs <;> rfl
  have hnever : ¬ (0 : UInt64) ≥ ({} : WatchdogConfig).timeoutMs.toUInt64 := by decide
  rw [slowReport, reportAfter, evaluate_expired_iff, hconfig, elapsed_zero, or_iff_right hnever, hcount,
    ← slowReport_count]
  exact UInt32.le_iff_toNat_le

/-- 2^32 slow loops in a row: the third expires, and the last reports no miss at all and is not expired -/
theorem missed_deadlines_wrap :
    ¬ CountsMisses {} 0 (List.replicate (2 ^ 32) slowLoop) ∧ ¬ StaysExpired {} 0 (List.replicate (2 ^ 32) slowLoop) := by
  have hsplit : ∀ n : ℕ, List.replicate (2 + 1 + n + 1) slowLoop =
      List.replicate 2 slowLoop ++ slowLoop :: List.replicate n slowLoop ++ slowLoop :: [] := fun n => by
    rw [List.replicate_succ', List.replicate_add, List.replicate_succ']
    simp
  have hrest : ∀ n : ℕ, List.replicate 2 slowLoop ++ slowLoop :: List.replicate n slowLoop =
      List.replicate (2 + 1 + n) slowLoop := fun n => by
    rw [List.replicate_add, List.replicate_succ']
    simp
  rw [show (2 : ℕ) ^ 32 = 2 + 1 + (2 ^ 32 - 4) + 1 by norm_num]
  refine ⟨?_, ?_⟩
  · intro h
    have hlast := h (List.replicate (2 + 1 + (2 ^ 32 - 4)) slowLoop) 0 250 [] List.replicate_succ'
    have hshown : (slowReport (2 + 1 + (2 ^ 32 - 4))).missedDeadlineCount.toNat = 0 := by
      rw [slowReport_count]; norm_num
    rw [slowReport, hlast, List.countP_append] at hshown
    have hmiss : List.countP (misses {}) [Call.evaluate 0 250] = 1 := rfl
    omega
  · intro h
    have hlimit : ExpiredByCount {} (slowReport 2) :=
      ⟨(slowReport_expired_iff 2).2 (by decide), UInt32.le_iff_toNat_le.2 (by rw [slowReport_count]; decide)⟩
    have hlast := h (List.replicate 2 slowLoop) 0 250 (List.replicate (2 ^ 32 - 4) slowLoop) 0 250 [] (hsplit _) hlimit
    rw [show Call.evaluate 0 250 = slowLoop from rfl, hrest] at hlast
    have hcount := (slowReport_expired_iff _).1 hlast.1
    omega

end Watchdog

end AstraFsw
