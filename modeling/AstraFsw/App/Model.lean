/-
The flight-software application (`fsw/src/flight_software_app.cpp`).

One step runs, in this order: watchdog and health evaluation, the ground command (guard, authorizer, processor), the
selected internal fault, the watchdog kick, event recording and telemetry. Each part is a function under the source's
words; `step` puts them together.

`has_command` and `command` of the step input are one option: the source reads `command` only when the flag is set.
-/
import AstraFsw.CommandAuthorizer
import AstraFsw.CommandProcessor
import AstraFsw.EventLogger
import AstraFsw.GroundCommandGuard
import AstraFsw.HealthMonitor
import AstraFsw.TelemetryPacket
import AstraFsw.Watchdog

namespace AstraFsw

/-! ## Data -/

structure FlightSoftwareAppConfig where
  groundCommandGuard : GroundCommandGuardConfig := {}
  commandAuthorization : CommandAuthorizationConfig := {}
  recoverySupervisor : RecoverySupervisorConfig := {}
  eventLogCapacity : ℕ := 256
deriving DecidableEq, Repr

structure FlightSoftwareStepInput where
  command : Option CommandPacket := none
  timestampMs : UInt64 := 0
  cpuLoadPercent : Binary32 := ⟨0⟩
  memoryLoadPercent : Binary32 := ⟨0⟩
  heartbeatCount : UInt32 := 0
  sensorAgeMs : UInt32 := 0
  payloadAgeMs : UInt32 := 0
  loopDurationMs : UInt32 := 0
deriving DecidableEq, Repr

structure FlightSoftwareStepOutput where
  commandProcessed : Bool := false
  commandGuardResult : GroundCommandGuardResult := {}
  commandAuthorizationResult : CommandAuthorizationResult := {}
  commandResult : CommandResult := {}
  watchdogReport : WatchdogReport := {}
  watchdogFaultProcessed : Bool := false
  watchdogFaultResult : CommandResult := {}
  healthReport : HealthReport := {}
  healthFaultProcessed : Bool := false
  healthFaultResult : CommandResult := {}
  internalFaultProcessed : Bool := false
  primaryInternalFault : FaultCode := .none
  internalFaultResult : CommandResult := {}
  telemetry : TelemetryPacket := {}
deriving DecidableEq, Repr

structure FlightSoftwareApp where
  commandProcessor : CommandProcessor := {}
  groundCommandGuard : GroundCommandGuard := {}
  commandAuthorizer : CommandAuthorizer := {}
  healthMonitor : HealthMonitor := {}
  watchdog : Watchdog := {}
  eventLogger : EventLogger := {}
  watchdogInitialized : Bool := false
  telemetrySequence : UInt32 := 0
  lastGroundCommandSequenceNumber : UInt32 := 0
  lastGroundCommandId : UInt8 := 0
  lastGroundCommandStatus : UInt8 := 0
deriving DecidableEq, Repr

/-- what the ground-command part of a step reports -/
structure GroundCommandOutcome where
  guardResult : GroundCommandGuardResult := {}
  authorizationResult : CommandAuthorizationResult := {}
  commandResult : CommandResult := {}
deriving DecidableEq, Repr

/-- what the internal-fault part of a step reports -/
structure InternalFaultOutcome where
  primaryInternalFault : FaultCode := .none
  internalFaultProcessed : Bool := false
  internalFaultResult : CommandResult := {}
  watchdogFaultProcessed : Bool := false
  watchdogFaultResult : CommandResult := {}
  healthFaultProcessed : Bool := false
  healthFaultResult : CommandResult := {}
deriving DecidableEq, Repr

namespace FlightSoftwareApp

/-! ## Construction -/

def ofConfig (configuration : FlightSoftwareAppConfig) : FlightSoftwareApp where
  commandProcessor := { recoverySupervisor := { configuration := configuration.recoverySupervisor } }
  groundCommandGuard := { configuration := configuration.groundCommandGuard }
  commandAuthorizer := { configuration := configuration.commandAuthorization }
  eventLogger := { capacity := configuration.eventLogCapacity }

/-- the flag and the text the constructor computes -/
def valid (app : FlightSoftwareApp) : Bool :=
  app.commandProcessor.valid && app.groundCommandGuard.valid && app.eventLogger.valid

def validationError (app : FlightSoftwareApp) : String :=
  if !app.commandProcessor.valid then app.commandProcessor.validationError
  else if !app.groundCommandGuard.valid then app.groundCommandGuard.validationError
  else if !app.eventLogger.valid then "event log capacity must be greater than zero"
  else ""

def currentMode (app : FlightSoftwareApp) : Mode := app.commandProcessor.modeManager.mode

def lastFault (app : FlightSoftwareApp) : FaultCode := app.commandProcessor.lastFault

/-! ## The parts of a step -/

/-- the first step resets the watchdog to its own time -/
def armedWatchdog (app : FlightSoftwareApp) (input : FlightSoftwareStepInput) : Watchdog :=
  if app.watchdogInitialized then app.watchdog else app.watchdog.reset input.timestampMs

def watchdogEvaluation (app : FlightSoftwareApp) (input : FlightSoftwareStepInput) : WatchdogReport × Watchdog :=
  (app.armedWatchdog input).evaluate input.timestampMs input.loopDurationMs

def healthEvaluation (app : FlightSoftwareApp) (input : FlightSoftwareStepInput) : HealthReport :=
  app.healthMonitor.evaluate
    { cpuLoadPercent := input.cpuLoadPercent
      memoryLoadPercent := input.memoryLoadPercent
      sensorAgeMs := input.sensorAgeMs
      payloadAgeMs := input.payloadAgeMs
      loopDurationMs := input.loopDurationMs }

def rejectGroundCommand (app : FlightSoftwareApp) (packet : CommandPacket) (status : CommandStatus)
    (message : String) : CommandResult where
  status := status
  commandId := packet.commandId
  sequenceNumber := packet.sequenceNumber
  resultingMode := app.currentMode
  resultingFault := app.lastFault
  message := message

/-- guard, authorizer and processor on one ground command -/
def groundCommand (app : FlightSoftwareApp) (packet : CommandPacket) (nowMs : UInt64) :
    GroundCommandOutcome × GroundCommandGuard × CommandProcessor :=
  let guarded := app.groundCommandGuard.evaluate packet.sequenceNumber packet.timestampMs nowMs
  let refused (status : CommandStatus) (message : String) :
      GroundCommandOutcome × GroundCommandGuard × CommandProcessor :=
    ({ guardResult := guarded.1, commandResult := app.rejectGroundCommand packet status message },
      guarded.2, app.commandProcessor)
  match guarded.1.status with
  | .accepted =>
    let authorization := app.commandAuthorizer.authorize packet
    if authorization.authorized then
      let processed := app.commandProcessor.process packet
      ({ guardResult := guarded.1, authorizationResult := authorization, commandResult := processed.1 },
        guarded.2, processed.2)
    else
      ({ guardResult := guarded.1, authorizationResult := authorization,
         commandResult := app.rejectGroundCommand packet .rejectedUnauthorized
           ("Command rejected: " ++ authorization.message) },
        guarded.2, app.commandProcessor)
  | .rejectedDuplicateSequence =>
    refused .rejectedDuplicateSequence "Command rejected: duplicate ground sequence"
  | .rejectedReplayedSequence =>
    refused .rejectedReplayedSequence "Command rejected: replayed or ambiguous ground sequence"
  | .rejectedStaleTimestamp =>
    refused .rejectedStaleTimestamp
      ("Command rejected: stale timestamp age_ms=" ++ toString guarded.1.ageMs.toNat)
  | .rejectedFutureTimestamp =>
    refused .rejectedFutureTimestamp
      ("Command rejected: future timestamp skew_ms=" ++ toString guarded.1.futureSkewMs.toNat)
  | .invalidConfiguration =>
    refused .rejectedGuardConfiguration "Command rejected: invalid ground command guard configuration"

/-- the `if (input.has_command)` block: what it reports (if there is a command), the guard and the processor after -/
def groundPhase (app : FlightSoftwareApp) (input : FlightSoftwareStepInput) :
    Option GroundCommandOutcome × GroundCommandGuard × CommandProcessor :=
  match input.command with
  | none => (none, app.groundCommandGuard, app.commandProcessor)
  | some packet =>
    let handled := app.groundCommand packet input.timestampMs
    (some handled.1, handled.2)

def watchdogFaultActive (report : WatchdogReport) : Bool :=
  report.status == .expired && report.fault != .none

def healthFaultActive (report : HealthReport) : Bool :=
  report.status == .critical && report.fault != .none

def internalFaultCandidates (watchdogReport : WatchdogReport) (healthReport : HealthReport) : List FaultCode :=
  (if watchdogFaultActive watchdogReport then [watchdogReport.fault] else []) ++
    (if healthFaultActive healthReport then [healthReport.fault] else [])

def makeInternalFaultCommand (fault : FaultCode) (timestampMs : UInt64) : CommandPacket where
  sequenceNumber := 0
  timestampMs := timestampMs
  commandId := .injectFault
  argument := fault.toRaw.toUInt32

/-- selection and processing of the primary internal fault, on the processor the ground command left -/
def internalPhase (processor : CommandProcessor) (watchdogReport : WatchdogReport) (healthReport : HealthReport)
    (timestampMs : UInt64) : InternalFaultOutcome × CommandProcessor :=
  let primary := FdirManager.selectPrimaryFault (internalFaultCandidates watchdogReport healthReport)
  if primary = .none then ({ primaryInternalFault := primary }, processor)
  else
    let processed := processor.process (makeInternalFaultCommand primary timestampMs)
    let outcome : InternalFaultOutcome :=
      { primaryInternalFault := primary, internalFaultProcessed := true, internalFaultResult := processed.1 }
    if watchdogFaultActive watchdogReport && watchdogReport.fault == primary then
      ({ outcome with watchdogFaultProcessed := true, watchdogFaultResult := processed.1 }, processed.2)
    else if healthFaultActive healthReport && healthReport.fault == primary then
      ({ outcome with healthFaultProcessed := true, healthFaultResult := processed.1 }, processed.2)
    else (outcome, processed.2)

def eventSeverityForFault (disposition : FaultDisposition) : EventSeverity :=
  match disposition.severity with
  | .none => .info
  | .advisory => .warning
  | .degraded => .error
  | .critical => .critical

/-- `record_step_events`, with the mode and the fault after the step as parameters -/
def recordStepEvents (logger : EventLogger) (timestampMs : UInt64) (modeBefore modeAfter : Mode)
    (faultBefore faultAfter : FaultCode) (output : FlightSoftwareStepOutput) : EventLogger :=
  let logger :=
    if output.commandProcessed then
      (logger.log timestampMs (if output.commandResult.status = .accepted then .info else .warning) .command
        output.commandResult.commandId.toRaw
        ("sequence=" ++ toString output.commandResult.sequenceNumber.toNat ++
          " status=" ++ output.commandResult.status.toString ++
          " message=" ++ output.commandResult.message)).2
    else logger
  let logger :=
    if modeAfter ≠ modeBefore then
      (logger.log timestampMs .info .mode modeAfter.toRaw.toUInt16
        ("mode=" ++ modeBefore.toString ++ "->" ++ modeAfter.toString)).2
    else logger
  if faultAfter ≠ faultBefore then
    let disposition := FdirManager.dispositionFor faultAfter
    let severity := if faultAfter ≠ .none then eventSeverityForFault disposition else .info
    let response := if faultAfter ≠ .none then disposition.response.toString else "CLEARED"
    (logger.log timestampMs severity .fdir faultAfter.toRaw
      ("fault=" ++ faultBefore.toString ++ "->" ++ faultAfter.toString ++ " response=" ++ response)).2
  else logger

def step (app : FlightSoftwareApp) (input : FlightSoftwareStepInput) :
    FlightSoftwareStepOutput × FlightSoftwareApp :=
  let modeBefore := app.currentMode
  let faultBefore := app.lastFault
  let watchdogEvaluation := app.watchdogEvaluation input
  let healthReport := app.healthEvaluation input
  let ground := app.groundPhase input
  let internal := internalPhase ground.2.2 watchdogEvaluation.1 healthReport input.timestampMs
  let processor := internal.2
  let outcome := ground.1.getD {}
  let output : FlightSoftwareStepOutput :=
    { commandProcessed := ground.1.isSome
      commandGuardResult := outcome.guardResult
      commandAuthorizationResult := outcome.authorizationResult
      commandResult := outcome.commandResult
      watchdogReport := watchdogEvaluation.1
      watchdogFaultProcessed := internal.1.watchdogFaultProcessed
      watchdogFaultResult := internal.1.watchdogFaultResult
      healthReport := healthReport
      healthFaultProcessed := internal.1.healthFaultProcessed
      healthFaultResult := internal.1.healthFaultResult
      internalFaultProcessed := internal.1.internalFaultProcessed
      primaryInternalFault := internal.1.primaryInternalFault
      internalFaultResult := internal.1.internalFaultResult }
  let lastSequenceNumber :=
    ground.1.elim app.lastGroundCommandSequenceNumber (·.commandResult.sequenceNumber)
  let lastId := ground.1.elim app.lastGroundCommandId (·.commandResult.commandId.toRaw.toUInt8)
  let lastStatus := ground.1.elim app.lastGroundCommandStatus (·.commandResult.status.toRaw)
  let telemetrySequence := app.telemetrySequence + 1
  ({ output with
      telemetry :=
        { sequenceNumber := telemetrySequence
          timestampMs := input.timestampMs
          mode := processor.modeManager.mode
          lastFault := processor.lastFault
          cpuLoadPercent := input.cpuLoadPercent
          memoryLoadPercent := input.memoryLoadPercent
          heartbeatCount := input.heartbeatCount
          lastCommandSequenceNumber := lastSequenceNumber
          lastCommandId := lastId
          lastCommandStatus := lastStatus } },
    { app with
      commandProcessor := processor
      groundCommandGuard := ground.2.1
      watchdog := watchdogEvaluation.2.kick input.timestampMs
      watchdogInitialized := true
      eventLogger := recordStepEvents app.eventLogger input.timestampMs modeBefore processor.modeManager.mode
        faultBefore processor.lastFault output
      telemetrySequence := telemetrySequence
      lastGroundCommandSequenceNumber := lastSequenceNumber
      lastGroundCommandId := lastId
      lastGroundCommandStatus := lastStatus })

end FlightSoftwareApp

end AstraFsw
