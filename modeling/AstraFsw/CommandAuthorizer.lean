/-
The command authorization policy (`fsw/src/command_authorizer.cpp`): one flag for each command, one for TEST mode.
-/
import AstraFsw.CommandPacket

namespace AstraFsw

inductive CommandAuthorizationStatus where
  | authorized
  | rejectedCommand
  | rejectedArgument
deriving DecidableEq, Repr

structure CommandAuthorizationConfig where
  allowNoop : Bool := true
  allowSetMode : Bool := true
  allowFaultInjection : Bool := true
  allowTelemetryRequest : Bool := true
  allowFaultClear : Bool := true
  allowTestMode : Bool := true
deriving DecidableEq, Repr

structure CommandAuthorizationResult where
  status : CommandAuthorizationStatus := .authorized
  authorized : Bool := true
  message : String := "Command authorized"
deriving DecidableEq, Repr

structure CommandAuthorizer where
  configuration : CommandAuthorizationConfig := {}
deriving DecidableEq, Repr

namespace CommandAuthorizer

def authorized : CommandAuthorizationResult := {}

def rejected (status : CommandAuthorizationStatus) (message : String) : CommandAuthorizationResult :=
  { status, authorized := false, message }

def authorize (a : CommandAuthorizer) (packet : CommandPacket) : CommandAuthorizationResult :=
  match packet.commandId with
  | .noop =>
    if a.configuration.allowNoop then authorized
    else rejected .rejectedCommand "NOOP is disabled by command authorization policy"
  | .setMode =>
    if !a.configuration.allowSetMode then
      rejected .rejectedCommand "SET_MODE is disabled by command authorization policy"
    else if commandArgumentToMode packet.argument = some .test ∧ !a.configuration.allowTestMode then
      rejected .rejectedArgument "TEST mode is disabled by command authorization policy"
    else authorized
  | .injectFault =>
    if a.configuration.allowFaultInjection then authorized
    else rejected .rejectedCommand "INJECT_FAULT is disabled by command authorization policy"
  | .requestTelemetry =>
    if a.configuration.allowTelemetryRequest then authorized
    else rejected .rejectedCommand "REQUEST_TELEMETRY is disabled by command authorization policy"
  | .clearFault =>
    if a.configuration.allowFaultClear then authorized
    else rejected .rejectedCommand "CLEAR_FAULT is disabled by command authorization policy"
  | .other _ => rejected .rejectedCommand "Unknown command is not authorized"

/-- does the policy permit the command? -/
def permits (cfg : CommandAuthorizationConfig) (packet : CommandPacket) : Bool :=
  match packet.commandId with
  | .noop => cfg.allowNoop
  | .setMode => cfg.allowSetMode && (cfg.allowTestMode || decide (commandArgumentToMode packet.argument ≠ some .test))
  | .injectFault => cfg.allowFaultInjection
  | .requestTelemetry => cfg.allowTelemetryRequest
  | .clearFault => cfg.allowFaultClear
  | .other _ => false

theorem authorize_authorized (a : CommandAuthorizer) (p : CommandPacket) :
    (a.authorize p).authorized = permits a.configuration p := by
  unfold authorize permits
  cases p.commandId with
  | setMode =>
    by_cases ht : commandArgumentToMode p.argument = some .test <;> cases a.configuration.allowSetMode <;>
      cases a.configuration.allowTestMode <;> simp [ht, authorized, rejected]
  | other raw => rfl
  | _ => simp only; split_ifs with h <;> simp [h, authorized, rejected]

end CommandAuthorizer

end AstraFsw
