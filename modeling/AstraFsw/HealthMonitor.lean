/-
The health monitor (`fsw/src/health_monitor.cpp`).

`evaluate` runs seven threshold checks in a fixed order on one report. A critical check overwrites the report's fault,
a warning check only fills in an OK report, so of several critical conditions the last one checked is reported
(`criticalFault_evaluate`). Loads are 32-bit floats compared by `Binary32.ge`.

That textual order and the priority table of the FDIR manager are two separate policies for simultaneous faults. They
agree (`criticalFault_eq_select`, `masking_agrees_with_fdir`), and masking never hides a flag (`flagOk_evaluate`).
-/
import AstraFsw.Core.Binary32
import AstraFsw.FdirManager

namespace AstraFsw

inductive HealthStatus where
  | ok
  | warning
  | critical
deriving DecidableEq, Repr

structure HealthThresholds where
  /-- 80.0F -/
  cpuWarningPercent : Binary32 := ⟨0x42A00000⟩
  /-- 95.0F -/
  cpuCriticalPercent : Binary32 := ⟨0x42BE0000⟩
  /-- 85.0F -/
  memoryWarningPercent : Binary32 := ⟨0x42AA0000⟩
  /-- 95.0F -/
  memoryCriticalPercent : Binary32 := ⟨0x42BE0000⟩
  sensorTimeoutMs : UInt32 := 1000
  payloadTimeoutMs : UInt32 := 1500
  loopDeadlineMs : UInt32 := 250
deriving DecidableEq, Repr

structure HealthSnapshot where
  cpuLoadPercent : Binary32 := ⟨0⟩
  memoryLoadPercent : Binary32 := ⟨0⟩
  sensorAgeMs : UInt32 := 0
  payloadAgeMs : UInt32 := 0
  loopDurationMs : UInt32 := 0
deriving DecidableEq, Repr

structure HealthReport where
  status : HealthStatus := .ok
  fault : FaultCode := .none
  message : String := ""
  cpuOk : Bool := true
  memoryOk : Bool := true
  sensorOk : Bool := true
  payloadOk : Bool := true
  loopTimingOk : Bool := true
deriving DecidableEq, Repr

structure HealthMonitor where
  thresholds : HealthThresholds := {}
deriving DecidableEq, Repr

namespace HealthMonitor

def setWarningIfOk (report : HealthReport) (fault : FaultCode) (message : String) : HealthReport :=
  if report.status = .ok then { report with status := .warning, fault, message } else report

def setCritical (report : HealthReport) (fault : FaultCode) (message : String) : HealthReport :=
  { report with status := .critical, fault, message }

/-- the report's `*_ok` flags -/
inductive Flag where
  | cpu
  | memory
  | sensor
  | payload
  | loopTiming
deriving DecidableEq, Repr

def clearFlag (report : HealthReport) : Flag → HealthReport
  | .cpu => { report with cpuOk := false }
  | .memory => { report with memoryOk := false }
  | .sensor => { report with sensorOk := false }
  | .payload => { report with payloadOk := false }
  | .loopTiming => { report with loopTimingOk := false }

/-- the two shapes of check: `if (exceeded) { flag = false; set_warning_if_ok / set_critical }` -/
def warningCheck (exceeded : Bool) (flag : Flag) (fault : FaultCode) (message : String) (report : HealthReport) :
    HealthReport :=
  if exceeded then setWarningIfOk (clearFlag report flag) fault message else report

def criticalCheck (exceeded : Bool) (flag : Flag) (fault : FaultCode) (message : String) (report : HealthReport) :
    HealthReport :=
  if exceeded then setCritical (clearFlag report flag) fault message else report

def evaluate (h : HealthMonitor) (snapshot : HealthSnapshot) : HealthReport :=
  let report : HealthReport := { message := "All monitored systems nominal" }
  let report := warningCheck (snapshot.cpuLoadPercent.ge h.thresholds.cpuWarningPercent) .cpu .cpuOverload
    "CPU load warning threshold exceeded" report
  let report := criticalCheck (snapshot.cpuLoadPercent.ge h.thresholds.cpuCriticalPercent) .cpu .cpuOverload
    "CPU load critical threshold exceeded" report
  let report := warningCheck (snapshot.memoryLoadPercent.ge h.thresholds.memoryWarningPercent) .memory
    .memoryOverload "Memory load warning threshold exceeded" report
  let report := criticalCheck (snapshot.memoryLoadPercent.ge h.thresholds.memoryCriticalPercent) .memory
    .memoryOverload "Memory load critical threshold exceeded" report
  let report := warningCheck (decide (snapshot.payloadAgeMs ≥ h.thresholds.payloadTimeoutMs)) .payload
    .payloadHeartbeatTimeout "Payload heartbeat timeout threshold exceeded" report
  let report := criticalCheck (decide (snapshot.sensorAgeMs ≥ h.thresholds.sensorTimeoutMs)) .sensor
    .sensorTimeout "Sensor timeout threshold exceeded" report
  criticalCheck (decide (snapshot.loopDurationMs ≥ h.thresholds.loopDeadlineMs)) .loopTiming
    .watchdogDeadlineMiss "Flight software loop deadline missed" report

/-! ## The critical fault of a report -/

/-- the fault of a critical report -/
def criticalFault (report : HealthReport) : Option FaultCode :=
  if report.status = .critical then some report.fault else none

@[simp] theorem criticalFault_warningCheck (b : Bool) (fl : Flag) (f : FaultCode) (m : String) (r : HealthReport) :
    criticalFault (warningCheck b fl f m r) = criticalFault r := by
  unfold warningCheck setWarningIfOk criticalFault
  cases fl <;> cases hs : r.status <;> cases b <;> simp [clearFlag, hs]

@[simp] theorem criticalFault_criticalCheck (b : Bool) (fl : Flag) (f : FaultCode) (m : String) (r : HealthReport) :
    criticalFault (criticalCheck b fl f m r) = if b then some f else criticalFault r := by
  cases b <;> rfl

/-- **Masking order.** Loop timing masks the sensor, the sensor masks memory, memory masks CPU. -/
theorem criticalFault_evaluate (h : HealthMonitor) (s : HealthSnapshot) :
    criticalFault (h.evaluate s) =
      if s.loopDurationMs ≥ h.thresholds.loopDeadlineMs then some .watchdogDeadlineMiss
      else if s.sensorAgeMs ≥ h.thresholds.sensorTimeoutMs then some .sensorTimeout
      else if s.memoryLoadPercent.ge h.thresholds.memoryCriticalPercent then some .memoryOverload
      else if s.cpuLoadPercent.ge h.thresholds.cpuCriticalPercent then some .cpuOverload
      else none := by
  simp only [evaluate, criticalFault_criticalCheck, criticalFault_warningCheck, decide_eq_true_eq]
  rfl

theorem status_eq_critical_iff (report : HealthReport) :
    report.status = .critical ↔ (criticalFault report).isSome = true := by
  unfold criticalFault
  split_ifs with h <;> simp [h]

theorem fault_of_criticalFault {report : HealthReport} {f : FaultCode} (h : criticalFault report = some f) :
    report.fault = f := by
  unfold criticalFault at h
  split_ifs at h
  exact Option.some.inj h

/-! ## The flags of a report -/

/-- the flag, as `*_ok` -/
def flagOk (report : HealthReport) : Flag → Bool
  | .cpu => report.cpuOk
  | .memory => report.memoryOk
  | .sensor => report.sensorOk
  | .payload => report.payloadOk
  | .loopTiming => report.loopTimingOk

theorem flagOk_clearFlag (r : HealthReport) (fl fl' : Flag) :
    flagOk (clearFlag r fl) fl' = if fl = fl' then false else flagOk r fl' := by
  cases fl <;> cases fl' <;> rfl

/-- a check clears its own flag when it fires and leaves the others -/
theorem flagOk_warningCheck (b : Bool) (fl : Flag) (f : FaultCode) (m : String) (r : HealthReport) (fl' : Flag) :
    flagOk (warningCheck b fl f m r) fl' = false ↔ (b = true ∧ fl = fl') ∨ flagOk r fl' = false := by
  have hset : ∀ r : HealthReport, flagOk (setWarningIfOk r f m) fl' = flagOk r fl' := by
    intro r
    unfold setWarningIfOk
    split_ifs <;> cases fl' <;> rfl
  cases b with
  | false => simp [warningCheck]
  | true =>
    simp only [warningCheck, if_true, hset, flagOk_clearFlag]
    split_ifs with h <;> simp [h]

theorem flagOk_criticalCheck (b : Bool) (fl : Flag) (f : FaultCode) (m : String) (r : HealthReport) (fl' : Flag) :
    flagOk (criticalCheck b fl f m r) fl' = false ↔ (b = true ∧ fl = fl') ∨ flagOk r fl' = false := by
  have hset : ∀ r : HealthReport, flagOk (setCritical r f m) fl' = flagOk r fl' := by
    intro r
    cases fl' <;> rfl
  cases b with
  | false => simp [criticalCheck]
  | true =>
    simp only [criticalCheck, if_true, hset, flagOk_clearFlag]
    split_ifs with h <;> simp [h]

/-- the comparisons that can clear a flag -/
def checksOf (t : HealthThresholds) (s : HealthSnapshot) : Flag → List Bool
  | .cpu => [s.cpuLoadPercent.ge t.cpuWarningPercent, s.cpuLoadPercent.ge t.cpuCriticalPercent]
  | .memory => [s.memoryLoadPercent.ge t.memoryWarningPercent, s.memoryLoadPercent.ge t.memoryCriticalPercent]
  | .sensor => [decide (s.sensorAgeMs ≥ t.sensorTimeoutMs)]
  | .payload => [decide (s.payloadAgeMs ≥ t.payloadTimeoutMs)]
  | .loopTiming => [decide (s.loopDurationMs ≥ t.loopDeadlineMs)]

/-- **Flags.** A flag is cleared by its own comparisons and by nothing else. -/
theorem flagOk_evaluate (h : HealthMonitor) (s : HealthSnapshot) (fl : Flag) :
    flagOk (h.evaluate s) fl = false ↔ true ∈ checksOf h.thresholds s fl := by
  simp only [evaluate, flagOk_criticalCheck, flagOk_warningCheck]
  cases fl <;> simp [checksOf, flagOk, or_comm]

/-! ## Agreement with the FDIR manager -/

/-- the critical conditions in the order they are checked, each with its fault -/
def criticalConditions (t : HealthThresholds) (s : HealthSnapshot) : List (Bool × FaultCode) :=
  [(s.cpuLoadPercent.ge t.cpuCriticalPercent, .cpuOverload),
   (s.memoryLoadPercent.ge t.memoryCriticalPercent, .memoryOverload),
   (decide (s.sensorAgeMs ≥ t.sensorTimeoutMs), .sensorTimeout),
   (decide (s.loopDurationMs ≥ t.loopDeadlineMs), .watchdogDeadlineMiss)]

/-- the faults of all critical conditions that hold -/
def criticalFaults (t : HealthThresholds) (s : HealthSnapshot) : List FaultCode :=
  ((criticalConditions t s).filter (·.1)).map (·.2)

/-- **The two policies agree.** The last critical check that fires reports the selected fault of all that fire. -/
theorem criticalFault_eq_select (h : HealthMonitor) (s : HealthSnapshot) :
    criticalFault (h.evaluate s) =
      if criticalFaults h.thresholds s = [] then none
      else some (FdirManager.selectPrimaryFault (criticalFaults h.thresholds s)) := by
  -- both sides read only which of the four conditions hold
  have hpolicy : ∀ loop sensor memory cpu : Bool,
      (if loop then some FaultCode.watchdogDeadlineMiss else if sensor then some .sensorTimeout
        else if memory then some .memoryOverload else if cpu then some .cpuOverload else none) =
      let faults := ([(cpu, FaultCode.cpuOverload), (memory, .memoryOverload), (sensor, .sensorTimeout),
        (loop, .watchdogDeadlineMiss)].filter (·.1)).map (·.2)
      if faults = [] then none else some (FdirManager.selectPrimaryFault faults) := by
    decide
  rw [criticalFault_evaluate, criticalFaults, criticalConditions, ← hpolicy]
  simp only [decide_eq_true_eq]

theorem criticalFaults_ne_nil_iff (t : HealthThresholds) (s : HealthSnapshot) :
    criticalFaults t s ≠ [] ↔
      s.cpuLoadPercent.Reaches t.cpuCriticalPercent ∨ s.memoryLoadPercent.Reaches t.memoryCriticalPercent ∨
      s.sensorAgeMs ≥ t.sensorTimeoutMs ∨ s.loopDurationMs ≥ t.loopDeadlineMs := by
  rw [criticalFaults, Ne, List.map_eq_nil_iff, List.filter_eq_nil_iff]
  simp only [criticalConditions, List.forall_mem_cons, List.not_mem_nil, false_implies, implies_true, and_true,
    decide_eq_true_eq, Binary32.ge_iff_reaches, ← not_or, not_not]

/-- **Masking agrees with the FDIR priority.** Over the exact values of the loads, for every threshold setting. -/
theorem masking_agrees_with_fdir (h : HealthMonitor) (s : HealthSnapshot) :
    ((h.evaluate s).status = .critical ↔
      s.cpuLoadPercent.Reaches h.thresholds.cpuCriticalPercent ∨
      s.memoryLoadPercent.Reaches h.thresholds.memoryCriticalPercent ∨
      s.sensorAgeMs ≥ h.thresholds.sensorTimeoutMs ∨ s.loopDurationMs ≥ h.thresholds.loopDeadlineMs) ∧
    ((h.evaluate s).status = .critical →
      (h.evaluate s).fault = FdirManager.selectPrimaryFault (criticalFaults h.thresholds s)) ∧
    ((h.evaluate s).cpuOk = false ↔
      s.cpuLoadPercent.Reaches h.thresholds.cpuWarningPercent ∨
      s.cpuLoadPercent.Reaches h.thresholds.cpuCriticalPercent) ∧
    ((h.evaluate s).memoryOk = false ↔
      s.memoryLoadPercent.Reaches h.thresholds.memoryWarningPercent ∨
      s.memoryLoadPercent.Reaches h.thresholds.memoryCriticalPercent) ∧
    ((h.evaluate s).sensorOk = false ↔ s.sensorAgeMs ≥ h.thresholds.sensorTimeoutMs) ∧
    ((h.evaluate s).payloadOk = false ↔ s.payloadAgeMs ≥ h.thresholds.payloadTimeoutMs) ∧
    ((h.evaluate s).loopTimingOk = false ↔ s.loopDurationMs ≥ h.thresholds.loopDeadlineMs) := by
  refine ⟨?_, ?_, ?_, ?_, ?_, ?_, ?_⟩
  · rw [status_eq_critical_iff, criticalFault_eq_select, ← criticalFaults_ne_nil_iff]
    split_ifs with hnil <;> simp [hnil]
  · intro hcritical
    rw [status_eq_critical_iff, criticalFault_eq_select] at hcritical
    refine fault_of_criticalFault ?_
    rw [criticalFault_eq_select]
    split_ifs at hcritical ⊢ with hnil
    · exact absurd hcritical Bool.false_ne_true
    · rfl
  · exact (flagOk_evaluate h s .cpu).trans (by simp [checksOf, Binary32.ge_iff_reaches])
  · exact (flagOk_evaluate h s .memory).trans (by simp [checksOf, Binary32.ge_iff_reaches])
  · exact (flagOk_evaluate h s .sensor).trans (by simp [checksOf])
  · exact (flagOk_evaluate h s .payload).trans (by simp [checksOf])
  · exact (flagOk_evaluate h s .loopTiming).trans (by simp [checksOf])

end HealthMonitor

end AstraFsw
