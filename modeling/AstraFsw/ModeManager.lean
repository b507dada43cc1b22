/-
Modes, fault codes and the mode manager (`fsw/src/mode_manager.cpp`).

`Mode` is a closed enumeration: no code path builds a mode outside it. `FaultCode` is open: a C++ `FaultCode` can hold
any 16-bit value, so the codes without an enumerator are kept as `other`, which carries the proof that no enumerator has
that value. `ofRaw` and `toRaw` are the two casts and are inverse to each other.

`transitionTo` changes the mode only along an edge of `isValidTransition`:
- SAFE is entered from every mode (`isValidTransition_safe`);
- SAFE is left for RECOVERY only (`isValidTransition_from_safe`);
- BOOT has no entering edge but its own (`isValidTransition_to_boot`).
-/
import Mathlib.Tactic

namespace AstraFsw

/-! ## Modes and fault codes -/

inductive Mode where
  | boot
  | nominal
  | degradedSensor
  | degradedPayload
  | safe
  | recovery
  | standby
  | test
deriving DecidableEq, Repr

namespace Mode

def toRaw : Mode → UInt8
  | boot => 0
  | nominal => 1
  | degradedSensor => 2
  | degradedPayload => 3
  | safe => 4
  | recovery => 5
  | standby => 6
  | test => 7

/-- the mode with this value, if there is one -/
def ofRaw? (raw : UInt8) : Option Mode :=
  if raw = 0 then some boot
  else if raw = 1 then some nominal
  else if raw = 2 then some degradedSensor
  else if raw = 3 then some degradedPayload
  else if raw = 4 then some safe
  else if raw = 5 then some recovery
  else if raw = 6 then some standby
  else if raw = 7 then some test
  else none

@[simp] theorem ofRaw?_toRaw (m : Mode) : ofRaw? m.toRaw = some m := by cases m <;> rfl

theorem toRaw_of_ofRaw? {raw : UInt8} {m : Mode} (h : ofRaw? raw = some m) : m.toRaw = raw := by
  unfold ofRaw? at h
  split_ifs at h with h0 h1 h2 h3 h4 h5 h6 h7 <;> cases h <;> symm <;> assumption

/-- `mode_to_string` -/
def toString : Mode → String
  | boot => "BOOT"
  | nominal => "NOMINAL"
  | degradedSensor => "DEGRADED_SENSOR"
  | degradedPayload => "DEGRADED_PAYLOAD"
  | safe => "SAFE"
  | recovery => "RECOVERY"
  | standby => "STANDBY"
  | test => "TEST"

end Mode

/-- the values of the `FaultCode` enumerators -/
def faultCodeValues : List UInt16 := [0, 100, 101, 200, 300, 301, 400, 500, 501, 502, 600]

theorem notMem_faultCodeValues {raw : UInt16} : raw ∉ faultCodeValues ↔ raw ≠ 0 ∧ raw ≠ 100 ∧ raw ≠ 101 ∧
    raw ≠ 200 ∧ raw ≠ 300 ∧ raw ≠ 301 ∧ raw ≠ 400 ∧ raw ≠ 500 ∧ raw ≠ 501 ∧ raw ≠ 502 ∧ raw ≠ 600 := by
  simp only [faultCodeValues, List.mem_cons, List.not_mem_nil, or_false, not_or, ne_eq]

inductive FaultCode where
  | none
  | sensorTimeout
  | sensorInvalidData
  | payloadHeartbeatTimeout
  | cpuOverload
  | memoryOverload
  | telemetrySocketFailure
  | commandBadCrc
  | commandUnknownId
  | commandTimeout
  | watchdogDeadlineMiss
  /-- a 16-bit value without an enumerator -/
  | other (raw : { raw : UInt16 // raw ∉ faultCodeValues })
deriving DecidableEq, Repr

namespace FaultCode

/-- `static_cast<std::uint16_t>(fault)` -/
def toRaw : FaultCode → UInt16
  | none => 0
  | sensorTimeout => 100
  | sensorInvalidData => 101
  | payloadHeartbeatTimeout => 200
  | cpuOverload => 300
  | memoryOverload => 301
  | telemetrySocketFailure => 400
  | commandBadCrc => 500
  | commandUnknownId => 501
  | commandTimeout => 502
  | watchdogDeadlineMiss => 600
  | other raw => raw.1

/-- `static_cast<FaultCode>(raw)` -/
def ofRaw (raw : UInt16) : FaultCode :=
  if h0 : raw = 0 then none
  else if h1 : raw = 100 then sensorTimeout
  else if h2 : raw = 101 then sensorInvalidData
  else if h3 : raw = 200 then payloadHeartbeatTimeout
  else if h4 : raw = 300 then cpuOverload
  else if h5 : raw = 301 then memoryOverload
  else if h6 : raw = 400 then telemetrySocketFailure
  else if h7 : raw = 500 then commandBadCrc
  else if h8 : raw = 501 then commandUnknownId
  else if h9 : raw = 502 then commandTimeout
  else if h10 : raw = 600 then watchdogDeadlineMiss
  else other ⟨raw, notMem_faultCodeValues.2 ⟨h0, h1, h2, h3, h4, h5, h6, h7, h8, h9, h10⟩⟩

theorem ofRaw_of_notMem {raw : UInt16} (h : raw ∉ faultCodeValues) : ofRaw raw = other ⟨raw, h⟩ := by
  obtain ⟨h0, h1, h2, h3, h4, h5, h6, h7, h8, h9, h10⟩ := notMem_faultCodeValues.1 h
  rw [ofRaw, dif_neg h0, dif_neg h1, dif_neg h2, dif_neg h3, dif_neg h4, dif_neg h5, dif_neg h6, dif_neg h7,
    dif_neg h8, dif_neg h9, dif_neg h10]

theorem toRaw_ofRaw (raw : UInt16) : (ofRaw raw).toRaw = raw := by
  by_cases h : raw ∈ faultCodeValues
  · simp only [faultCodeValues, List.mem_cons, List.not_mem_nil, or_false] at h
    rcases h with rfl | rfl | rfl | rfl | rfl | rfl | rfl | rfl | rfl | rfl | rfl <;> rfl
  · rw [ofRaw_of_notMem h]; rfl

@[simp] theorem ofRaw_toRaw (f : FaultCode) : ofRaw f.toRaw = f := by
  cases f with
  | other raw => exact ofRaw_of_notMem raw.2
  | _ => rfl

/-- does the value have an enumerator? -/
def isNamed : FaultCode → Bool
  | other _ => false
  | _ => true

/-- `fault_to_string` -/
def toString : FaultCode → String
  | none => "NONE"
  | sensorTimeout => "SENSOR_TIMEOUT"
  | sensorInvalidData => "SENSOR_INVALID_DATA"
  | payloadHeartbeatTimeout => "PAYLOAD_HEARTBEAT_TIMEOUT"
  | cpuOverload => "CPU_OVERLOAD"
  | memoryOverload => "MEMORY_OVERLOAD"
  | telemetrySocketFailure => "TELEMETRY_SOCKET_FAILURE"
  | commandBadCrc => "COMMAND_BAD_CRC"
  | commandUnknownId => "COMMAND_UNKNOWN_ID"
  | commandTimeout => "COMMAND_TIMEOUT"
  | watchdogDeadlineMiss => "WATCHDOG_DEADLINE_MISS"
  | other _ => "UNKNOWN_FAULT"

end FaultCode

/-! ## The mode manager -/

structure ModeManager where
  mode : Mode := .boot
deriving DecidableEq, Repr

namespace ModeManager

def isValidTransition (source target : Mode) : Bool :=
  if source = target then true
  else match source with
    | .boot => target == .standby || target == .nominal || target == .safe
    | .standby => target == .nominal || target == .test || target == .safe
    | .nominal => target == .standby || target == .degradedSensor || target == .degradedPayload || target == .safe
    | .degradedSensor => target == .standby || target == .recovery || target == .safe
    | .degradedPayload => target == .standby || target == .nominal || target == .recovery || target == .safe
    | .test => target == .standby || target == .safe
    | .safe => target == .recovery
    | .recovery => target == .standby || target == .nominal || target == .safe

/-- the source's `reason` parameter is unnamed and unused -/
def transitionTo (m : ModeManager) (nextMode : Mode) (_reason : FaultCode) : Bool × ModeManager :=
  if !isValidTransition m.mode nextMode then (false, m) else (true, { m with mode := nextMode })

/-! ## Facts about the transition table -/

@[simp] theorem isValidTransition_safe (m : Mode) : isValidTransition m .safe = true := by cases m <;> rfl

@[simp] theorem isValidTransition_self (m : Mode) : isValidTransition m m = true := by simp [isValidTransition]

theorem isValidTransition_from_safe {m : Mode} : isValidTransition .safe m = true ↔ m = .safe ∨ m = .recovery := by
  cases m <;> decide

theorem isValidTransition_to_boot {m : Mode} (h : isValidTransition m .boot = true) : m = .boot := by
  revert h; cases m <;> decide

theorem transitionTo_of_valid {m : ModeManager} {t : Mode} (f : FaultCode)
    (h : isValidTransition m.mode t = true) : m.transitionTo t f = (true, ⟨t⟩) := by
  simp [transitionTo, h]

theorem transitionTo_of_invalid {m : ModeManager} {t : Mode} (f : FaultCode)
    (h : isValidTransition m.mode t = false) : m.transitionTo t f = (false, m) := by
  simp [transitionTo, h]

/-- SAFE is always entered -/
@[simp] theorem transitionTo_safe (m : ModeManager) (f : FaultCode) : m.transitionTo .safe f = (true, ⟨.safe⟩) :=
  transitionTo_of_valid f (isValidTransition_safe m.mode)

end ModeManager

end AstraFsw
