/-
The telemetry packet (`fsw/include/astra/telemetry_packet.hpp`). Loads are 32-bit float bit patterns.
-/
import AstraFsw.Core.Binary32
import AstraFsw.ModeManager

namespace AstraFsw

structure TelemetryPacket where
  sequenceNumber : UInt32 := 0
  timestampMs : UInt64 := 0
  mode : Mode := .boot
  lastFault : FaultCode := .none
  cpuLoadPercent : Binary32 := ⟨0⟩
  memoryLoadPercent : Binary32 := ⟨0⟩
  heartbeatCount : UInt32 := 0
  lastCommandSequenceNumber : UInt32 := 0
  lastCommandId : UInt8 := 0
  lastCommandStatus : UInt8 := 0
deriving DecidableEq, Repr

end AstraFsw
