/-
The command path of the browser console: `site/app.js` and its tables, `site/model.json`.

The console is a second implementation of guard, policy, FDIR fallback and recovery supervision. It works on names:
modes, faults, commands and statuses are strings, looked up in the tables. Numbers that the console only compares and
subtracts are integers, without rounding. `null` as a property key is the string "null".

The page itself (charts, controls) and the clock label of an event are not part of the state. The boxes of the policy
are ticked or not for a whole session.
-/
import Mathlib.Tactic

namespace AstraFsw.Site

/-! ## The tables -/

structure Fault where
  severity : String
  response : String
  targetMode : Option String
deriving DecidableEq, Repr

/-- what the command path reads of `model.json` -/
structure WebModel where
  transitions : List (String × List String)
  faults : List (String × Fault)
  /-- `guard` -/
  maximumAgeMs : ℤ
  maximumFutureSkewMs : ℤ
  /-- `recoverySupervisor` -/
  maximumFailedExits : ℕ

def model : WebModel where
  transitions := [
    ("BOOT", ["BOOT", "STANDBY", "NOMINAL", "SAFE"]),
    ("STANDBY", ["STANDBY", "NOMINAL", "TEST", "SAFE"]),
    ("NOMINAL", ["NOMINAL", "STANDBY", "DEGRADED_SENSOR", "DEGRADED_PAYLOAD", "SAFE"]),
    ("DEGRADED_SENSOR", ["DEGRADED_SENSOR", "STANDBY", "RECOVERY", "SAFE"]),
    ("DEGRADED_PAYLOAD", ["DEGRADED_PAYLOAD", "STANDBY", "NOMINAL", "RECOVERY", "SAFE"]),
    ("TEST", ["TEST", "STANDBY", "SAFE"]),
    ("SAFE", ["SAFE", "RECOVERY"]),
    ("RECOVERY", ["RECOVERY", "STANDBY", "NOMINAL", "SAFE"])]
  faults := [
    ("NONE", ⟨"NONE", "HOLD", none⟩),
    ("SENSOR_TIMEOUT", ⟨"CRITICAL", "ENTER_SAFE", some "SAFE"⟩),
    ("SENSOR_INVALID_DATA", ⟨"CRITICAL", "ENTER_SAFE", some "SAFE"⟩),
    ("PAYLOAD_HEARTBEAT_TIMEOUT", ⟨"DEGRADED", "ENTER_DEGRADED_PAYLOAD", some "DEGRADED_PAYLOAD"⟩),
    ("CPU_OVERLOAD", ⟨"DEGRADED", "ENTER_DEGRADED_PAYLOAD", some "DEGRADED_PAYLOAD"⟩),
    ("MEMORY_OVERLOAD", ⟨"CRITICAL", "ENTER_SAFE", some "SAFE"⟩),
    ("TELEMETRY_SOCKET_FAILURE", ⟨"CRITICAL", "ENTER_SAFE", some "SAFE"⟩),
    ("COMMAND_BAD_CRC", ⟨"ADVISORY", "HOLD", none⟩),
    ("COMMAND_UNKNOWN_ID", ⟨"ADVISORY", "HOLD", none⟩),
    ("COMMAND_TIMEOUT", ⟨"CRITICAL", "ENTER_SAFE", some "SAFE"⟩),
    ("WATCHDOG_DEADLINE_MISS", ⟨"CRITICAL", "ENTER_SAFE", some "SAFE"⟩)]
  maximumAgeMs := 2000
  maximumFutureSkewMs := 500
  maximumFailedExits := 3

/-! ## State -/

/-- a telemetry sample of the chart -/
structure Sample where
  tick : ℕ
  mode : String
  fault : String
  source : String
deriving DecidableEq, Repr

structure Event where
  kind : String
  message : String
  severity : String
deriving DecidableEq, Repr

/-- `makeInitialState` gives the defaults -/
structure State where
  mode : String := "BOOT"
  fault : String := "NONE"
  heartbeat : ℕ := 0
  telemetrySequence : ℕ := 0
  highestCommandSequence : Option ℕ := none
  lastCommand : String := "NONE"
  lastStatus : String := "NO_ACK"
  lastAckSequence : ℕ := 0
  recoveryAttempts : ℕ := 0
  recoveryActive : Bool := false
  history : List Sample := []
  events : List Event := []
deriving DecidableEq, Repr

/-- the boxes of the policy panel -/
structure Policy where
  allowSetMode : Bool := true
  allowFaultInjection : Bool := true
  allowFaultClear : Bool := true
  allowTestMode : Bool := true
deriving DecidableEq, Repr

structure Request where
  command : String
  argument : Option String := none
  sequence : ℤ
  timestampOffsetMs : ℤ := 0
deriving DecidableEq, Repr

structure Result where
  status : String
  detail : String
deriving DecidableEq, Repr

/-- `UINT32_MOD` -/
def uint32Mod : ℤ := 0x100000000

/-- `UINT32_HALF` -/
def uint32Half : ℤ := 0x80000000

/-- `value >>> 0` -/
def toUint32 (value : ℤ) : ℕ := (value % uint32Mod).toNat

def sequenceIsNewer (candidate reference : ℕ) : Bool :=
  let distance := ((candidate : ℤ) - reference + uint32Mod).tmod uint32Mod
  distance != 0 && decide (distance < uint32Half)

def transitionAllowed (source target : String) : Bool :=
  match model.transitions.lookup source with
  | some targets => targets.contains target
  | none => false

def includes (text part : String) : Bool := decide (part.toList <:+: text.toList)

def policyAllows (policy : Policy) (command : String) (argument : Option String) : Option String :=
  if command = "SET_MODE" ∧ !policy.allowSetMode then some "SET_MODE disabled by policy"
  else if command = "INJECT_FAULT" ∧ !policy.allowFaultInjection then some "Fault injection disabled by policy"
  else if command = "CLEAR_FAULT" ∧ !policy.allowFaultClear then some "Fault clear disabled by policy"
  else if command = "SET_MODE" ∧ argument = some "TEST" ∧ !policy.allowTestMode then some "TEST mode disabled by policy"
  else none

namespace State

variable (s : State)

def addEvent (kind message : String) (severity : String := "info") : State :=
  { s with events := (⟨kind, message, severity⟩ :: s.events).take 120 }

def acknowledge (command status : String) (sequence : ℕ) (detail : String := "") : State :=
  let severity :=
    if status = "ACCEPTED" then "info"
    else if includes status "INVALID" || includes status "STALE" || includes status "FUTURE" then "warning"
    else "error"
  { s with lastCommand := command, lastStatus := status, lastAckSequence := sequence }.addEvent "COMMAND"
    (command ++ " seq=" ++ toString sequence ++ " → " ++ status ++ if detail = "" then "" else " · " ++ detail) severity

def recordTelemetry (source : String) : State :=
  let history := s.history ++ [⟨s.telemetrySequence + 1, s.mode, s.fault, source⟩]
  { s with
    heartbeat := s.heartbeat + 1
    telemetrySequence := s.telemetrySequence + 1
    history := history.drop (history.length - 60) }

def forceMode (nextMode reason : String) : State :=
  let moved := { s with mode := nextMode }
  if s.mode ≠ nextMode then
    moved.addEvent "MODE" (s.mode ++ " → " ++ nextMode ++ if reason = "" then "" else " · " ++ reason)
  else moved

/-- the end of `applyFault`: the move to the target mode, with the SAFE fallback -/
def enterTarget (targetMode : Option String) (faultName : String) : State :=
  match targetMode with
  | none => s
  | some targetMode =>
    if transitionAllowed s.mode targetMode then s.forceMode targetMode faultName
    else if s.mode ≠ "SAFE" then s.forceMode "SAFE" (faultName ++ " · invalid primary transition, SAFE fallback")
    else s

def applyFault (faultName origin : String) : Result × State :=
  match model.faults.lookup faultName with
  | none => (⟨"REJECTED_BAD_ARGUMENT", "Unknown fault"⟩, s)
  | some fault =>
    let previousFault := s.fault
    let s := { s with fault := faultName }
    let s :=
      if previousFault ≠ faultName then
        s.addEvent "FDIR" (previousFault ++ " → " ++ faultName ++ " · " ++ fault.response ++ " · origin=" ++ origin)
          (if fault.severity = "CRITICAL" then "error" else "warning")
      else s
    (⟨"ACCEPTED", fault.severity ++ " / " ++ fault.response⟩, s.enterTarget fault.targetMode faultName)

def processSetMode (argument : String) : Result × State :=
  if (model.transitions.lookup argument).isNone then (⟨"REJECTED_BAD_ARGUMENT", "Unknown mode"⟩, s)
  else if s.mode = "RECOVERY" ∧ argument ≠ "RECOVERY" ∧ !transitionAllowed "RECOVERY" argument then
    let s := { s with recoveryAttempts := s.recoveryAttempts + 1 }
    let count := toString s.recoveryAttempts ++ "/" ++ toString model.maximumFailedExits
    if s.recoveryAttempts ≥ model.maximumFailedExits then
      (⟨"REJECTED_RECOVERY_LIMIT", "attempt " ++ count⟩,
        { s.forceMode "SAFE" "Recovery attempt limit reached" with recoveryActive := false })
    else (⟨"REJECTED_INVALID_TRANSITION", "recovery attempt " ++ count⟩, s)
  else if !transitionAllowed s.mode argument then
    (⟨"REJECTED_INVALID_TRANSITION", s.mode ++ " → " ++ argument⟩, s)
  else
    let before := s.mode
    let s := s.forceMode argument "SET_MODE"
    let s :=
      if before = "SAFE" ∧ argument = "RECOVERY" then { s with recoveryActive := true, recoveryAttempts := 0 }
      else if before = "RECOVERY" ∧ argument ≠ "RECOVERY" then { s with recoveryActive := false, recoveryAttempts := 0 }
      else s
    (⟨"ACCEPTED", before ++ " → " ++ argument⟩, s)

def processCommand (command : String) (argument : Option String) : Result × State :=
  match command with
  | "NOOP" => (⟨"ACCEPTED", "No operation"⟩, s)
  | "REQUEST_TELEMETRY" => (⟨"ACCEPTED", "Telemetry snapshot requested"⟩, s)
  | "CLEAR_FAULT" =>
    (⟨"ACCEPTED", "Fault field cleared"⟩,
      { s with fault := "NONE" }.addEvent "FDIR" (s.fault ++ " → NONE · ground clear"))
  | "SET_MODE" => s.processSetMode (argument.getD "null")
  | "INJECT_FAULT" => s.applyFault (argument.getD "null") "GROUND"
  | _ => (⟨"REJECTED_UNKNOWN_COMMAND", "Unknown command"⟩, s)

/-- every branch of `sendCommand` acknowledges, records telemetry and returns the status -/
def reply (command : String) (sequence : ℕ) (status : String) (detail : String := "") : String × State :=
  (status, (s.acknowledge command status sequence detail).recordTelemetry "COMMAND")

/-- `sendCommand` from the assignment of the sequence number on -/
def dispatch (policy : Policy) (request : Request) (sequence : ℕ) : String × State :=
  let s := { s with highestCommandSequence := some sequence }
  match policyAllows policy request.command request.argument with
  | some policyRejection => s.reply request.command sequence "REJECTED_UNAUTHORIZED" policyRejection
  | none =>
    let result := s.processCommand request.command request.argument
    result.2.reply request.command sequence result.1.status result.1.detail

def sendCommand (policy : Policy) (request : Request) : String × State :=
  let sequence := toUint32 request.sequence
  let offset := request.timestampOffsetMs
  if offset < -model.maximumAgeMs then
    s.reply request.command sequence "REJECTED_STALE_TIMESTAMP" ("age=" ++ toString offset.natAbs ++ " ms")
  else if offset > model.maximumFutureSkewMs then
    s.reply request.command sequence "REJECTED_FUTURE_TIMESTAMP" ("skew=" ++ toString offset ++ " ms")
  else if s.highestCommandSequence = some sequence then
    s.reply request.command sequence "REJECTED_DUPLICATE_SEQUENCE"
  else if s.highestCommandSequence.any fun reference => !sequenceIsNewer sequence reference then
    s.reply request.command sequence "REJECTED_REPLAYED_SEQUENCE"
  else s.dispatch policy request sequence

end State

end AstraFsw.Site
