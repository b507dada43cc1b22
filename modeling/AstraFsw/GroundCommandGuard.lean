/-
The ground-command guard (`fsw/src/ground_command_guard.cpp`): timestamp window and 32-bit anti-replay sequence.

The guard stores the residue of an unbounded counter. The first accepted sequence number starts the counter, and every
later accepted one moves it forward by its serial distance (`counter`, a history variable of the run).

Results, for a valid guard and every list of calls (any sequence numbers, timestamps and mission times):
- `evaluate_spec`: the status and the effect of one call, case by case;
- `run_refines`: the stored sequence number is the counter's residue;
- `evaluate_accepted_iff`: a call is accepted exactly when its timestamp is in the window and its number is newer;
- `guard_refines_counter`: the guard refines the strictly increasing counter, and a number accepted once is refused
  until the counter has moved more than 2^31 beyond it.
-/
import AstraFsw.Core.Machine
import AstraFsw.Core.SerialNumber

namespace AstraFsw

/-! ## Model -/

inductive GroundCommandGuardStatus where
  | accepted
  | rejectedDuplicateSequence
  | rejectedReplayedSequence
  | rejectedStaleTimestamp
  | rejectedFutureTimestamp
  | invalidConfiguration
deriving DecidableEq, Repr

structure GroundCommandGuardConfig where
  maximumAgeMs : UInt64 := 5000
  maximumFutureSkewMs : UInt64 := 1000
deriving DecidableEq, Repr

structure GroundCommandGuardResult where
  status : GroundCommandGuardStatus := .accepted
  sequenceConsumed : Bool := false
  sequenceInitialized : Bool := false
  highestSequence : UInt32 := 0
  ageMs : UInt64 := 0
  futureSkewMs : UInt64 := 0
deriving DecidableEq, Repr

structure GroundCommandGuard where
  configuration : GroundCommandGuardConfig := {}
  sequenceInitialized : Bool := false
  highestSequence : UInt32 := 0
deriving DecidableEq, Repr

namespace GroundCommandGuard

/-- `SERIAL_HALF_RANGE` -/
def serialHalfRange : UInt32 := 0x80000000

def sequenceIsNewer (candidate reference : UInt32) : Bool :=
  let forwardDistance := candidate - reference
  forwardDistance != 0 && decide (forwardDistance < serialHalfRange)

/-- the largest 64-bit value, `std::numeric_limits<std::uint64_t>::max()` -/
def uint64Max : UInt64 := 0xFFFFFFFFFFFFFFFF

/-- the flag and the text the constructor computes from the configuration -/
def validationError (g : GroundCommandGuard) : String :=
  if g.configuration.maximumAgeMs = uint64Max then "maximum command age must leave room for bounded comparison"
  else if g.configuration.maximumFutureSkewMs = uint64Max then
    "maximum future skew must leave room for bounded comparison"
  else ""

def valid (g : GroundCommandGuard) : Bool :=
  g.configuration.maximumAgeMs != uint64Max && g.configuration.maximumFutureSkewMs != uint64Max

/-- the sequence half of `evaluate`, for a call whose timestamp is in the window -/
def evaluateSequence (g : GroundCommandGuard) (result : GroundCommandGuardResult) (sequenceNumber : UInt32) :
    GroundCommandGuardResult × GroundCommandGuard :=
  if !g.sequenceInitialized then
    ({ result with status := .accepted, sequenceConsumed := true, sequenceInitialized := true,
                   highestSequence := sequenceNumber },
      { g with sequenceInitialized := true, highestSequence := sequenceNumber })
  else if sequenceNumber = g.highestSequence then ({ result with status := .rejectedDuplicateSequence }, g)
  else if !sequenceIsNewer sequenceNumber g.highestSequence then
    ({ result with status := .rejectedReplayedSequence }, g)
  else
    ({ result with status := .accepted, sequenceConsumed := true, sequenceInitialized := true,
                   highestSequence := sequenceNumber },
      { g with highestSequence := sequenceNumber })

def evaluate (g : GroundCommandGuard) (sequenceNumber : UInt32) (commandTimestampMs missionTimeMs : UInt64) :
    GroundCommandGuardResult × GroundCommandGuard :=
  let result : GroundCommandGuardResult :=
    { sequenceInitialized := g.sequenceInitialized, highestSequence := g.highestSequence }
  if !g.valid then ({ result with status := .invalidConfiguration }, g)
  else if commandTimestampMs > missionTimeMs then
    let result := { result with futureSkewMs := commandTimestampMs - missionTimeMs }
    if result.futureSkewMs > g.configuration.maximumFutureSkewMs then
      ({ result with status := .rejectedFutureTimestamp }, g)
    else g.evaluateSequence result sequenceNumber
  else
    let result := { result with ageMs := missionTimeMs - commandTimestampMs }
    if result.ageMs > g.configuration.maximumAgeMs then ({ result with status := .rejectedStaleTimestamp }, g)
    else g.evaluateSequence result sequenceNumber

/-! ## One call -/

/-- the timestamp window, over unbounded numbers -/
def InWindow (cfg : GroundCommandGuardConfig) (commandTimestampMs missionTimeMs : UInt64) : Prop :=
  commandTimestampMs.toNat ≤ missionTimeMs.toNat + cfg.maximumFutureSkewMs.toNat ∧
    missionTimeMs.toNat ≤ commandTimestampMs.toNat + cfg.maximumAgeMs.toNat

instance (cfg : GroundCommandGuardConfig) (ts now : UInt64) : Decidable (InWindow cfg ts now) := by
  unfold InWindow; infer_instance

/-- may the number be accepted, by the sequence rule alone? -/
def sequenceOk (g : GroundCommandGuard) (sequenceNumber : UInt32) : Bool :=
  !g.sequenceInitialized || sequenceIsNewer sequenceNumber g.highestSequence

/-- the guard after it takes a number -/
def take (g : GroundCommandGuard) (sequenceNumber : UInt32) : GroundCommandGuard :=
  { g with sequenceInitialized := true, highestSequence := sequenceNumber }

theorem not_sequenceIsNewer_self (s : UInt32) : sequenceIsNewer s s = false := by simp [sequenceIsNewer]

theorem evaluateSequence_spec (g : GroundCommandGuard) (r : GroundCommandGuardResult) (s : UInt32) :
    (g.evaluateSequence r s).1.status =
        (if g.sequenceOk s then .accepted
         else if s = g.highestSequence then .rejectedDuplicateSequence else .rejectedReplayedSequence) ∧
      (g.evaluateSequence r s).2 = if g.sequenceOk s then g.take s else g := by
  unfold evaluateSequence sequenceOk take
  cases hi : g.sequenceInitialized
  · simp
  · by_cases heq : s = g.highestSequence
    · simp [heq, not_sequenceIsNewer_self]
    · cases hn : sequenceIsNewer s g.highestSequence <;> simp [heq]

/-- the code's wrapping subtractions decide the window exactly -/
theorem inWindow_iff (cfg : GroundCommandGuardConfig) (ts now : UInt64) :
    InWindow cfg ts now ↔ if ts > now then ts - now ≤ cfg.maximumFutureSkewMs else now - ts ≤ cfg.maximumAgeMs := by
  unfold InWindow
  split_ifs with h
  · have hle : now ≤ ts := UInt64.le_of_lt h
    rw [UInt64.le_iff_toNat_le, UInt64.toNat_sub_of_le _ _ hle]
    have := UInt64.lt_iff_toNat_lt.1 h
    omega
  · have hle : ts ≤ now := UInt64.not_lt.1 h
    rw [UInt64.le_iff_toNat_le, UInt64.toNat_sub_of_le _ _ hle]
    have := UInt64.le_iff_toNat_le.1 hle
    omega

/-- **The status and the effect of one call of a valid guard.** -/
theorem evaluate_spec {g : GroundCommandGuard} (hv : g.valid = true) (s : UInt32) (ts now : UInt64) :
    (g.evaluate s ts now).1.status =
        (if InWindow g.configuration ts now then
          if g.sequenceOk s then .accepted
          else if s = g.highestSequence then .rejectedDuplicateSequence else .rejectedReplayedSequence
        else if ts > now then .rejectedFutureTimestamp else .rejectedStaleTimestamp) ∧
      (g.evaluate s ts now).2 = if InWindow g.configuration ts now ∧ g.sequenceOk s = true then g.take s else g := by
  unfold evaluate
  simp only [hv, Bool.not_true, Bool.false_eq_true, if_false, inWindow_iff]
  by_cases hf : ts > now
  · simp only [hf, if_true]
    by_cases hw : ts - now ≤ g.configuration.maximumFutureSkewMs
    · rw [if_neg (UInt64.not_lt.2 hw)]
      simpa [hw] using evaluateSequence_spec g _ s
    · rw [if_pos (UInt64.not_le.1 hw)]
      simp [hw]
  · simp only [hf, if_false]
    by_cases hw : now - ts ≤ g.configuration.maximumAgeMs
    · rw [if_neg (UInt64.not_lt.2 hw)]
      simpa [hw] using evaluateSequence_spec g _ s
    · rw [if_pos (UInt64.not_le.1 hw)]
      simp [hw]

theorem evaluate_accepted_iff {g : GroundCommandGuard} (hv : g.valid = true) (s : UInt32) (ts now : UInt64) :
    (g.evaluate s ts now).1.status = .accepted ↔ InWindow g.configuration ts now ∧ g.sequenceOk s = true := by
  rw [(evaluate_spec hv s ts now).1]
  by_cases hw : InWindow g.configuration ts now <;> cases hs : g.sequenceOk s <;> simp [hw] <;> split_ifs <;> simp

theorem evaluate_ne_invalidConfiguration {g : GroundCommandGuard} (hv : g.valid = true) (s : UInt32)
    (ts now : UInt64) : (g.evaluate s ts now).1.status ≠ .invalidConfiguration := by
  rw [(evaluate_spec hv s ts now).1]
  split_ifs <;> simp

theorem evaluate_invalid {g : GroundCommandGuard} (hv : g.valid = false) (s : UInt32) (ts now : UInt64) :
    (g.evaluate s ts now).1.status = .invalidConfiguration ∧ (g.evaluate s ts now).2 = g := by
  simp [evaluate, hv]

/-- an accepted call takes its number, any other leaves the guard as it was -/
theorem evaluate_snd (g : GroundCommandGuard) (s : UInt32) (ts now : UInt64) :
    (g.evaluate s ts now).2 = if (g.evaluate s ts now).1.status = .accepted then g.take s else g := by
  cases hv : g.valid with
  | false => simp [evaluate_invalid hv]
  | true => simp only [(evaluate_spec hv s ts now).2, evaluate_accepted_iff hv]

@[simp] theorem evaluate_configuration (g : GroundCommandGuard) (s : UInt32) (ts now : UInt64) :
    (g.evaluate s ts now).2.configuration = g.configuration := by
  rw [evaluate_snd]
  split_ifs <;> rfl

/-! ## Refinement of the unbounded counter -/

structure Call where
  sequenceNumber : UInt32
  commandTimestampMs : UInt64
  missionTimeMs : UInt64
deriving DecidableEq, Repr

def call (g : GroundCommandGuard) (c : Call) : GroundCommandGuardResult × GroundCommandGuard :=
  g.evaluate c.sequenceNumber c.commandTimestampMs c.missionTimeMs

/-- the counter the residues stand for: an accepted number starts it or moves it forward by `(s - L) mod 2^32` -/
def counter (L : Option ℕ) (g : GroundCommandGuard) (c : Call) : Option ℕ :=
  if (g.call c).1.status = .accepted then some (SerialNumber.advance (2 ^ 32) L c.sequenceNumber.toNat) else L

/-- the guard stores the counter's residue -/
structure Refines (cfg : GroundCommandGuardConfig) (g : GroundCommandGuard) (L : Option ℕ) : Prop where
  configuration : g.configuration = cfg
  initialized : g.sequenceInitialized = L.isSome
  residue : ∀ n, L = some n → g.highestSequence.toNat = n % 2 ^ 32

theorem toNat_forwardDistance (candidate reference : UInt32) :
    (candidate - reference).toNat = SerialNumber.ahead (2 ^ 32) reference.toNat candidate.toNat := by
  have h1 := candidate.toNat_lt
  have h2 := reference.toNat_lt
  rw [UInt32.toNat_sub, SerialNumber.ahead]
  omega

theorem sequenceIsNewer_iff (candidate reference : UInt32) :
    sequenceIsNewer candidate reference = true ↔
      SerialNumber.Newer (2 ^ 31) (2 ^ 32) (some reference.toNat) candidate.toNat := by
  change _ ↔ 0 < SerialNumber.ahead (2 ^ 32) reference.toNat candidate.toNat ∧
    SerialNumber.ahead (2 ^ 32) reference.toNat candidate.toNat < 2 ^ 31
  rw [← toNat_forwardDistance]
  have hhalf : serialHalfRange.toNat = 2 ^ 31 := rfl
  simp only [sequenceIsNewer, Bool.and_eq_true, bne_iff_ne, ne_eq, decide_eq_true_eq, UInt32.lt_iff_toNat_lt, hhalf,
    ← UInt32.toNat_inj, UInt32.toNat_zero]
  omega

theorem Refines.sequenceOk_iff {cfg : GroundCommandGuardConfig} {g : GroundCommandGuard} {L : Option ℕ}
    (h : Refines cfg g L) (s : UInt32) :
    g.sequenceOk s = true ↔ SerialNumber.Newer (2 ^ 31) (2 ^ 32) L s.toNat := by
  unfold sequenceOk
  rw [h.initialized]
  cases L with
  | none => simp [SerialNumber.Newer]
  | some n =>
    have hcongr : SerialNumber.ahead (2 ^ 32) g.highestSequence.toNat s.toNat =
        SerialNumber.ahead (2 ^ 32) n s.toNat :=
      SerialNumber.ahead_congr (by rw [h.residue n rfl, Nat.mod_mod]) rfl
    simp only [Option.isSome_some, Bool.not_true, Bool.false_or, sequenceIsNewer_iff]
    simp only [SerialNumber.Newer, hcongr]

theorem refines_init (cfg : GroundCommandGuardConfig) : Refines cfg { configuration := cfg } none :=
  ⟨rfl, rfl, by simp⟩

/-- one call keeps the refinement -/
theorem Refines.step {cfg : GroundCommandGuardConfig} {g : GroundCommandGuard} {L : Option ℕ} (c : Call)
    (h : Refines cfg g L) : Refines cfg (g.call c).2 (counter L g c) := by
  unfold counter
  rw [call, evaluate_snd]
  split_ifs with ha
  · refine ⟨h.configuration, rfl, fun n hn => ?_⟩
    obtain rfl := Option.some.inj hn
    rw [SerialNumber.advance_mod (by norm_num)]
    exact (Nat.mod_eq_of_lt c.sequenceNumber.toNat_lt).symm
  · exact h

/-- the counter never moves back -/
theorem counter_le {L : Option ℕ} {g : GroundCommandGuard} {c : Call} {n : ℕ} (hn : L = some n) :
    ∃ n', counter L g c = some n' ∧ n ≤ n' := by
  subst hn
  unfold counter
  split_ifs
  · exact ⟨_, rfl, Nat.le_add_right _ _⟩
  · exact ⟨n, rfl, le_rfl⟩

theorem history_counter_le {g : GroundCommandGuard} {n : ℕ} (calls : List Call) :
    ∃ n', Machine.history call counter g (some n) calls = some n' ∧ n ≤ n' := by
  induction calls using List.reverseRecOn with
  | nil => exact ⟨n, rfl, le_rfl⟩
  | append_singleton cs c ih =>
    obtain ⟨m, hm, hle⟩ := ih
    rw [Machine.history_snoc]
    obtain ⟨n', hn', hle'⟩ := counter_le (g := Machine.final call g cs) (c := c) hm
    exact ⟨n', hn', hle.trans hle'⟩

theorem run_refines (cfg : GroundCommandGuardConfig) (calls : List Call) :
    Refines cfg (Machine.final call { configuration := cfg } calls)
      (Machine.history call counter { configuration := cfg } none calls) :=
  Machine.history_inv call (fun _ _ c h => h.step c) (refines_init cfg) calls

theorem Refines.valid {cfg : GroundCommandGuardConfig} {g : GroundCommandGuard} {L : Option ℕ} (h : Refines cfg g L)
    (hv : GroundCommandGuard.valid { configuration := cfg } = true) : g.valid = true := by
  simpa [GroundCommandGuard.valid, h.configuration] using hv

/-- the next call is accepted exactly in the window, and as the first or less than 2^31 ahead of the counter -/
theorem Refines.call_accepted_iff {cfg : GroundCommandGuardConfig} {g : GroundCommandGuard} {L : Option ℕ}
    (h : Refines cfg g L) (hv : g.valid = true) (c : Call) :
    (g.call c).1.status = .accepted ↔ InWindow cfg c.commandTimestampMs c.missionTimeMs ∧
      (L = none ∨ ∃ n, L = some n ∧ 0 < ((c.sequenceNumber.toNat : ℤ) - n) % 2 ^ 32 ∧
        ((c.sequenceNumber.toNat : ℤ) - n) % 2 ^ 32 < 2 ^ 31) := by
  rw [call, evaluate_accepted_iff hv, h.configuration, h.sequenceOk_iff]
  refine and_congr_right fun _ => ?_
  cases L with
  | none => simp [SerialNumber.Newer]
  | some n =>
    rw [SerialNumber.newer_iff (by norm_num)]
    simp only [reduceCtorEq, Option.some.injEq, false_or, exists_eq_left']
    push_cast
    rfl

/-- an accepted call moves a running counter forward by 1 to 2^31 - 1 -/
theorem Refines.counter_of_accepted {cfg : GroundCommandGuardConfig} {g : GroundCommandGuard} {n : ℕ}
    (h : Refines cfg g (some n)) (hv : g.valid = true) {c : Call} (ha : (g.call c).1.status = .accepted) :
    ∃ n', counter (some n) g c = some n' ∧ n + 1 ≤ n' ∧ n' ≤ n + (2 ^ 31 - 1) := by
  have hok := ((evaluate_accepted_iff hv _ _ _).1 ha).2
  rw [h.sequenceOk_iff] at hok
  obtain ⟨hpos, hlt⟩ := hok
  refine ⟨_, by rw [counter, if_pos ha], ?_, ?_⟩
  · exact Nat.add_le_add_left hpos n
  · exact Nat.add_le_add_left (Nat.le_sub_one_of_lt hlt) n

/-- a number with the residue of an earlier counter value is refused until the counter is more than 2^31 beyond it -/
theorem Refines.replay_refused {cfg : GroundCommandGuardConfig} {g : GroundCommandGuard} {n p : ℕ} {s : UInt32}
    (h : Refines cfg g (some n)) (hv : g.valid = true) (hp : p % 2 ^ 32 = s.toNat % 2 ^ 32) (hle : p ≤ n)
    (hnp : n ≤ p + 2 ^ 31) (ts now : UInt64) : (g.evaluate s ts now).1.status ≠ .accepted := by
  intro ha
  have hok := ((evaluate_accepted_iff hv _ _ _).1 ha).2
  rw [h.sequenceOk_iff] at hok
  exact SerialNumber.not_newer_of_behind (h := 2 ^ 31) hle hnp hp.symm hok

/-- **The guard refines the unbounded counter.** After every list of calls to a valid guard, the stored number is the
counter's residue. The next call is accepted exactly when its timestamp is in the window and it is the first or lies
less than 2^31 ahead of the counter; it then moves a running counter forward by 1 to 2^31 - 1, and otherwise leaves
the guard as it was. A number accepted earlier is refused, whatever its timestamps, until the counter has moved more
than 2^31 beyond it. -/
theorem guard_refines_counter (cfg : GroundCommandGuardConfig)
    (hv : GroundCommandGuard.valid { configuration := cfg } = true) (calls : List Call) :
    let g := Machine.final call { configuration := cfg } calls
    let L := Machine.history call counter { configuration := cfg } none calls
    (g.sequenceInitialized = L.isSome ∧ ∀ n, L = some n → g.highestSequence.toNat = n % 2 ^ 32) ∧
    (∀ c : Call,
      ((g.call c).1.status = .accepted ↔ InWindow cfg c.commandTimestampMs c.missionTimeMs ∧
        (L = none ∨ ∃ n, L = some n ∧ 0 < ((c.sequenceNumber.toNat : ℤ) - n) % 2 ^ 32 ∧
          ((c.sequenceNumber.toNat : ℤ) - n) % 2 ^ 32 < 2 ^ 31)) ∧
      ((g.call c).1.status = .accepted → ∀ n, L = some n →
        ∃ n', counter L g c = some n' ∧ n + 1 ≤ n' ∧ n' ≤ n + (2 ^ 31 - 1)) ∧
      ((g.call c).1.status ≠ .accepted → (g.call c).2 = g)) ∧
    (∀ pre c post p n, calls = pre ++ c :: post →
      ((Machine.final call { configuration := cfg } pre).call c).1.status = .accepted →
      Machine.history call counter { configuration := cfg } none (pre ++ [c]) = some p → L = some n →
      n ≤ p + 2 ^ 31 → ∀ ts now, (g.evaluate c.sequenceNumber ts now).1.status ≠ .accepted) := by
  intro g L
  have hr : Refines cfg g L := run_refines cfg calls
  have hgv : g.valid = true := hr.valid hv
  refine ⟨⟨hr.initialized, hr.residue⟩, fun c => ⟨hr.call_accepted_iff hgv c, ?_, ?_⟩, ?_⟩
  · intro ha n hn
    rw [hn] at hr ⊢
    exact hr.counter_of_accepted hgv ha
  · intro hna
    exact (evaluate_snd g _ _ _).trans (if_neg hna)
  · rintro pre c post p n rfl hacc hp hL hnp
    -- the counter was a number with this residue just after `c`, and has not moved back since
    have hpmod : p % 2 ^ 32 = c.sequenceNumber.toNat % 2 ^ 32 := by
      rw [Machine.history_snoc, counter, if_pos hacc] at hp
      rw [← Option.some.inj hp]
      exact SerialNumber.advance_mod (by norm_num) _ _
    have hle : p ≤ n := by
      have hsplit : L = Machine.history call counter
          (Machine.final call { configuration := cfg } (pre ++ [c])) (some p) post := by
        rw [← hp, ← Machine.history_append]; simp [L]
      obtain ⟨n', hn', hle⟩ := history_counter_le
        (g := Machine.final call { configuration := cfg } (pre ++ [c])) (n := p) post
      rw [← hsplit, hL] at hn'
      exact (Option.some.inj hn') ▸ hle
    rw [hL] at hr
    exact hr.replay_refused hgv hpmod hle hnp

/-- a wrap from 2^32 - 1 to 0: the counter is 2^32 and the stored number its residue 0 -/
theorem guard_refines_counter_wrap :
    (Machine.final call { configuration := {} } [⟨0xFFFFFFFF, 0, 0⟩, ⟨0, 0, 0⟩]).highestSequence.toNat =
      4294967296 % 2 ^ 32 :=
  (guard_refines_counter {} (by decide) [⟨0xFFFFFFFF, 0, 0⟩, ⟨0, 0, 0⟩]).1.2 4294967296 (by decide)

end GroundCommandGuard

end AstraFsw
