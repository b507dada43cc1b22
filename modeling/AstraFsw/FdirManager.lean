/-
Fault dispositions, primary-fault selection and fault responses (`fsw/src/fdir_manager.cpp`).

`FdirManager` has no state, so its methods are functions. `applyFault` attempts the response mode and falls back to
SAFE; `faultMode` is the mode it ends in, as a function of the response and the mode before:
- `applyFault_snd`: the code computes `faultMode`;
- `faultMode_cases`, `isValidTransition_faultMode`: what a response can do to the mode;
- `priority_injective`: enumerated faults have distinct priorities.

`selectPrimaryFault` is a selection (`Core/Selection`) by `rank`, the priority and then the lesser code
(`selectPrimaryFault_eq_select`). The rank separates any two 16-bit codes (`rank_injective`), so the result is the one
entry of greatest rank (`selectPrimaryFault_priority_maximum`).
-/
import AstraFsw.Core.Selection
import AstraFsw.ModeManager

namespace AstraFsw

inductive FaultSeverity where
  | none
  | advisory
  | degraded
  | critical
deriving DecidableEq, Repr

inductive FaultResponse where
  | none
  | holdCurrentMode
  | enterDegradedSensor
  | enterDegradedPayload
  | enterSafe
deriving DecidableEq, Repr

/-- `fault_severity_to_string` -/
def FaultSeverity.toString : FaultSeverity → String
  | .none => "NONE"
  | .advisory => "ADVISORY"
  | .degraded => "DEGRADED"
  | .critical => "CRITICAL"

/-- `fault_response_to_string` -/
def FaultResponse.toString : FaultResponse → String
  | .none => "NONE"
  | .holdCurrentMode => "HOLD_CURRENT_MODE"
  | .enterDegradedSensor => "ENTER_DEGRADED_SENSOR"
  | .enterDegradedPayload => "ENTER_DEGRADED_PAYLOAD"
  | .enterSafe => "ENTER_SAFE"

structure FaultDisposition where
  fault : FaultCode := .none
  severity : FaultSeverity := .none
  response : FaultResponse := .none
  priority : UInt8 := 0
  latched : Bool := false
  operatorClearRequired : Bool := false
  detectionSource : String := "none"
  recoveryRule : String := "none"
deriving DecidableEq, Repr

structure FdirActionResult where
  disposition : FaultDisposition := {}
  modeBefore : Mode := .boot
  requestedMode : Mode := .boot
  modeAfter : Mode := .boot
  transitionAttempted : Bool := false
  transitionSucceeded : Bool := false
  safeFallbackUsed : Bool := false
deriving DecidableEq, Repr

namespace FdirManager

def responseMode (response : FaultResponse) (currentMode : Mode) : Mode :=
  match response with
  | .none => currentMode
  | .holdCurrentMode => currentMode
  | .enterDegradedSensor => .degradedSensor
  | .enterDegradedPayload => .degradedPayload
  | .enterSafe => .safe

def dispositionFor (fault : FaultCode) : FaultDisposition :=
  match fault with
  | .none => ⟨fault, .none, .none, 0, false, false, "none", "none"⟩
  | .sensorTimeout =>
    ⟨fault, .critical, .enterSafe, 90, true, true, "health monitor sensor age",
      "operator clear after valid sensor dwell"⟩
  | .sensorInvalidData =>
    ⟨fault, .critical, .enterSafe, 85, true, true, "sensor validity monitor", "operator clear after valid sensor dwell"⟩
  | .payloadHeartbeatTimeout =>
    ⟨fault, .degraded, .enterDegradedPayload, 50, true, false, "payload heartbeat monitor",
      "clear after heartbeat recovery dwell"⟩
  | .cpuOverload =>
    ⟨fault, .degraded, .enterDegradedPayload, 60, true, false, "resource monitor", "clear after CPU recovery dwell"⟩
  | .memoryOverload =>
    ⟨fault, .critical, .enterSafe, 80, true, true, "resource monitor", "operator clear after memory recovery dwell"⟩
  | .telemetrySocketFailure =>
    ⟨fault, .critical, .enterSafe, 75, true, true, "telemetry transport", "operator clear after transport recovery"⟩
  | .commandBadCrc =>
    ⟨fault, .advisory, .holdCurrentMode, 20, false, false, "command decoder", "automatic after valid packet"⟩
  | .commandUnknownId =>
    ⟨fault, .advisory, .holdCurrentMode, 15, false, false, "command decoder", "automatic after valid command"⟩
  | .commandTimeout =>
    ⟨fault, .critical, .enterSafe, 70, true, true, "command-link monitor", "operator clear after link recovery"⟩
  | .watchdogDeadlineMiss =>
    ⟨fault, .critical, .enterSafe, 100, true, true, "watchdog", "operator clear after timing investigation"⟩
  | .other _ => ⟨fault, .critical, .enterSafe, 255, true, true, "unknown", "operator review required"⟩

/-- one pass of the selection loop; the source's `selected_disposition` is always `disposition_for(selected)` -/
def selectStep (selected fault : FaultCode) : FaultCode :=
  if fault = .none then selected
  else
    let candidate := dispositionFor fault
    let selectedDisposition := dispositionFor selected
    let higherPriority := decide (candidate.priority > selectedDisposition.priority)
    let deterministicTieBreak := candidate.priority == selectedDisposition.priority &&
      decide (candidate.fault.toRaw < selectedDisposition.fault.toRaw)
    if higherPriority || deterministicTieBreak then fault else selected

def selectPrimaryFault (activeFaults : List FaultCode) : FaultCode := activeFaults.foldl selectStep .none

def applyFault (modeManager : ModeManager) (fault : FaultCode) : FdirActionResult × ModeManager :=
  let disposition := dispositionFor fault
  let modeBefore := modeManager.mode
  let requestedMode := responseMode disposition.response modeBefore
  if disposition.response = .none ∨ disposition.response = .holdCurrentMode then
    ({ disposition, modeBefore, requestedMode, modeAfter := modeBefore }, modeManager)
  else
    let first := modeManager.transitionTo requestedMode fault
    if !first.1 && requestedMode != .safe then
      let second := first.2.transitionTo .safe fault
      ({ disposition, modeBefore, requestedMode := .safe, modeAfter := second.2.mode, transitionAttempted := true,
         transitionSucceeded := second.1, safeFallbackUsed := true }, second.2)
    else
      ({ disposition, modeBefore, requestedMode, modeAfter := first.2.mode, transitionAttempted := true,
         transitionSucceeded := first.1 }, first.2)

/-! ## The response of one fault -/

/-- the mode a response ends in: the response's own mode if it can be entered, SAFE if not -/
def faultMode (response : FaultResponse) (m : Mode) : Mode :=
  if ModeManager.isValidTransition m (responseMode response m) then responseMode response m else .safe

@[simp] theorem faultMode_none (m : Mode) : faultMode .none m = m := by simp [faultMode, responseMode]

@[simp] theorem faultMode_holdCurrentMode (m : Mode) : faultMode .holdCurrentMode m = m := by
  simp [faultMode, responseMode]

@[simp] theorem faultMode_enterSafe (m : Mode) : faultMode .enterSafe m = .safe := by simp [faultMode, responseMode]

@[simp] theorem faultMode_safe (r : FaultResponse) : faultMode r .safe = .safe := by cases r <;> rfl

theorem faultMode_enterDegradedPayload (m : Mode) :
    faultMode .enterDegradedPayload m = if m = .nominal ∨ m = .degradedPayload then .degradedPayload else .safe := by
  cases m <;> decide

/-- a response keeps the mode, or enters SAFE, or enters a degraded mode the mode before has an edge to -/
theorem faultMode_cases (r : FaultResponse) (m : Mode) :
    faultMode r m = m ∨ faultMode r m = .safe ∨ (m = .nominal ∧ faultMode r m = .degradedPayload) ∨
      (m = .nominal ∧ faultMode r m = .degradedSensor) := by
  cases r <;> cases m <;> decide

/-- a response keeps the mode or moves it along an edge -/
theorem isValidTransition_faultMode (r : FaultResponse) (m : Mode) :
    ModeManager.isValidTransition m (faultMode r m) = true := by
  unfold faultMode
  split_ifs with h
  · exact h
  · exact ModeManager.isValidTransition_safe m

/-- **The code computes `faultMode`.** -/
theorem applyFault_snd (mm : ModeManager) (f : FaultCode) :
    (applyFault mm f).2 = ⟨faultMode (dispositionFor f).response mm.mode⟩ := by
  unfold applyFault
  simp only
  by_cases hhold : (dispositionFor f).response = .none ∨ (dispositionFor f).response = .holdCurrentMode
  · rw [if_pos hhold]
    rcases hhold with h | h <;> simp [h]
  · rw [if_neg hhold]
    cases hv : ModeManager.isValidTransition mm.mode (responseMode (dispositionFor f).response mm.mode) with
    | true => simp [ModeManager.transitionTo_of_valid f hv, faultMode, hv]
    | false =>
      -- the refused target cannot be SAFE, so the fallback branch runs
      have hne : responseMode (dispositionFor f).response mm.mode ≠ .safe := by
        rintro h; simp [h] at hv
      simp [ModeManager.transitionTo_of_invalid f hv, faultMode, hv, hne]

/-! ## Selection -/

/-- the faults the internal detectors can report -/
def Detectable (f : FaultCode) : Prop :=
  f = .cpuOverload ∨ f = .memoryOverload ∨ f = .sensorTimeout ∨ f = .watchdogDeadlineMiss

/-- distinct named faults have distinct priorities, so among them the tie-break never decides -/
theorem priority_injective {f g : FaultCode} (hf : f.isNamed = true) (hg : g.isNamed = true)
    (h : (dispositionFor f).priority = (dispositionFor g).priority) : f = g := by
  cases f <;> cases g <;> first | rfl | (simp [FaultCode.isNamed] at hf hg; done) | (revert h; decide)

theorem priority_pos {f : FaultCode} (h : f ≠ .none) : 0 < (dispositionFor f).priority := by
  cases f with
  | none => exact absurd rfl h
  | other raw => exact (by decide : (0 : UInt8) < 255)
  | _ => decide

@[simp] theorem dispositionFor_fault (f : FaultCode) : (dispositionFor f).fault = f := by cases f <;> rfl

/-- the selection order: the greater priority first, then the lesser code -/
def rank (f : FaultCode) : ℕ ×ₗ ℕᵒᵈ := toLex ((dispositionFor f).priority.toNat, OrderDual.toDual f.toRaw.toNat)

theorem rank_lt_iff {f g : FaultCode} : rank f < rank g ↔ (dispositionFor f).priority < (dispositionFor g).priority ∨
    (dispositionFor g).priority = (dispositionFor f).priority ∧ g.toRaw < f.toRaw := by
  rw [eq_comm (a := (dispositionFor g).priority)]
  simp only [rank, Prod.Lex.toLex_lt_toLex, OrderDual.toDual_lt_toDual, UInt8.lt_iff_toNat_lt, UInt16.lt_iff_toNat_lt,
    UInt8.toNat_inj]

theorem rank_le_iff {f g : FaultCode} : rank f ≤ rank g ↔ (dispositionFor f).priority ≤ (dispositionFor g).priority ∧
    ((dispositionFor f).priority = (dispositionFor g).priority → g.toRaw ≤ f.toRaw) := by
  simp only [rank, Prod.Lex.toLex_le_toLex', OrderDual.toDual_le_toDual, UInt8.le_iff_toNat_le,
    UInt16.le_iff_toNat_le, UInt8.toNat_inj]

/-- different codes rank differently, the codes without an enumerator included -/
theorem rank_injective : Function.Injective rank := by
  intro f g h
  have hraw : f.toRaw = g.toRaw := by
    have := congrArg (fun r => (OrderDual.ofDual (ofLex r).2)) h
    exact UInt16.toNat_inj.1 this
  rw [← FaultCode.ofRaw_toRaw f, hraw, FaultCode.ofRaw_toRaw]

/-- NONE ranks below every other code, which is why skipping it changes nothing -/
theorem rank_none_lt {f : FaultCode} (h : f ≠ .none) : rank .none < rank f :=
  rank_lt_iff.2 (Or.inl (priority_pos h))

theorem selectStep_eq_keep (selected fault : FaultCode) :
    selectStep selected fault = Selection.keep rank selected fault := by
  unfold selectStep Selection.keep
  by_cases hnone : fault = .none
  · have hle : ¬ rank selected < rank fault := by
      rw [hnone]
      by_cases hs : selected = .none
      · rw [hs]; exact lt_irrefl _
      · exact not_lt_of_gt (rank_none_lt hs)
    rw [if_pos hnone, if_neg hle]
  · rw [if_neg hnone]
    simp only [dispositionFor_fault, rank_lt_iff, Bool.or_eq_true, Bool.and_eq_true, decide_eq_true_eq, beq_iff_eq,
      gt_iff_lt]

/-- the loop is a selection by rank -/
theorem selectPrimaryFault_eq_select (xs : List FaultCode) :
    selectPrimaryFault xs = Selection.select rank .none xs := by
  rw [selectPrimaryFault, Selection.select]
  congr 1
  funext selected fault
  exact selectStep_eq_keep selected fault

/-- the selection reads the set of entries only -/
theorem selectPrimaryFault_congr {xs ys : List FaultCode} (h : ∀ f, f ∈ xs ↔ f ∈ ys) :
    selectPrimaryFault xs = selectPrimaryFault ys := by
  rw [selectPrimaryFault_eq_select, selectPrimaryFault_eq_select]
  exact Selection.select_congr rank_injective h

theorem selectPrimaryFault_eq_none_iff (xs : List FaultCode) : selectPrimaryFault xs = .none ↔ ∀ f ∈ xs, f = .none := by
  rw [selectPrimaryFault_eq_select]
  refine ⟨?_, ?_⟩
  · intro h f hf
    by_contra hne
    have hle := Selection.key_le_key_select rank .none xs f (List.mem_cons_of_mem _ hf)
    rw [h] at hle
    exact absurd (rank_none_lt hne) (not_lt_of_ge hle)
  · intro h
    rcases List.mem_cons.1 (Selection.select_mem rank .none xs) with hs | hs
    · exact hs
    · exact h _ hs

theorem selectPrimaryFault_mem {xs : List FaultCode} (h : selectPrimaryFault xs ≠ .none) :
    selectPrimaryFault xs ∈ xs := by
  rw [selectPrimaryFault_eq_select] at h ⊢
  rcases List.mem_cons.1 (Selection.select_mem rank .none xs) with hs | hs
  · exact absurd hs h
  · exact hs

theorem rank_le_rank_selectPrimaryFault {xs : List FaultCode} {f : FaultCode} (hf : f ∈ xs) :
    rank f ≤ rank (selectPrimaryFault xs) := by
  rw [selectPrimaryFault_eq_select]
  exact Selection.key_le_key_select rank .none xs f (List.mem_cons_of_mem _ hf)

/-- **Fault selection is the priority maximum.** NONE is selected exactly when nothing else is present. Otherwise the
selected code is an entry, no entry has a higher priority, and no entry of its priority has a lesser code. Neither the
order nor the repetitions of the list matter, and a concatenation can be selected part by part. -/
theorem selectPrimaryFault_priority_maximum (xs : List FaultCode) :
    (selectPrimaryFault xs = .none ↔ ∀ f ∈ xs, f = .none) ∧
    (selectPrimaryFault xs ≠ .none → selectPrimaryFault xs ∈ xs ∧
      (∀ f ∈ xs, (dispositionFor f).priority ≤ (dispositionFor (selectPrimaryFault xs)).priority) ∧
      ∀ f ∈ xs, (dispositionFor f).priority = (dispositionFor (selectPrimaryFault xs)).priority →
        (selectPrimaryFault xs).toRaw ≤ f.toRaw) ∧
    (∀ ys, xs.Perm ys → selectPrimaryFault ys = selectPrimaryFault xs) ∧
    (∀ ys, (∀ f, f ∈ ys ↔ f ∈ xs) → selectPrimaryFault ys = selectPrimaryFault xs) ∧
    ∀ ys, selectPrimaryFault (xs ++ ys) = selectPrimaryFault [selectPrimaryFault xs, selectPrimaryFault ys] := by
  refine ⟨selectPrimaryFault_eq_none_iff xs, fun hne => ⟨selectPrimaryFault_mem hne, ?_, ?_⟩, ?_, ?_, ?_⟩
  · intro f hf
    exact (rank_le_iff.1 (rank_le_rank_selectPrimaryFault hf)).1
  · intro f hf heq
    exact (rank_le_iff.1 (rank_le_rank_selectPrimaryFault hf)).2 heq
  · intro ys hperm
    exact selectPrimaryFault_congr fun f => (hperm.mem_iff).symm
  · intro ys hmem
    exact selectPrimaryFault_congr hmem
  · intro ys
    simp only [selectPrimaryFault_eq_select]
    exact Selection.select_append rank_injective .none xs ys

example : selectPrimaryFault [.none, .ofRaw 900, .sensorTimeout, .ofRaw 700, .ofRaw 900] = .ofRaw 700 := by decide

end FdirManager

end AstraFsw
