/-
The ground side of the two wire formats: `build_packet` of `tools/send_command.py` and `decode_packet` of
`tools/telemetry_receiver.py`, against the flight side.

The tools have their own CRC loop over Python integers, their own `struct` formats and their own tables of names.
Python integers are `ℤ` (`ℕ` in the CRC, which never goes below zero); a load is a Python float, which has no signalling
NaN of 32 bits.

- `crc16Ccitt_eq`: the loop over integers, masked to 16 bits, computes the flight code's check;
- `buildPacket_eq`: `build_packet` is `serialize_command_packet`;
- `decodePacket_serialize`: `decode_packet` on a packet the flight code accepts;
- `ground_tools_speak_protocol`: both together.
-/
import AstraFsw.CommandProcessor
import AstraFsw.Core.PackedStruct
import AstraFsw.Wire.CommandCodec
import AstraFsw.Wire.TelemetryCodec

namespace AstraFsw.Ground

open PackedStruct Wire

/-- what the tools raise: a missing key, a value that `struct` refuses, and their own `ValueError`s -/
inductive ToolError where
  | keyError (key : String)
  | structError
  | valueError (message : String)
deriving DecidableEq, Repr

theorem ok_bind {α β : Type} (a : α) (next : α → Except ToolError β) : (Except.ok a >>= next) = next a := rfl

/-! ## The check -/

/-- the inner loop body of `crc16_ccitt` -/
def crcStep (crc : ℕ) : ℕ :=
  if crc &&& 0x8000 ≠ 0 then ((crc <<< 1) ^^^ 0x1021) &&& 0xFFFF else (crc <<< 1) &&& 0xFFFF

/-- `crc16_ccitt`, the same loop in both tools -/
def crc16Ccitt (data : List UInt8) : ℕ :=
  data.foldl (fun crc byte => crcStep^[8] (crc ^^^ (byte.toNat <<< 8))) 0xFFFF

theorem crcStep_toNat (crc : UInt16) : crcStep crc.toNat = (crcBit crc).toNat := by
  have hmask : ∀ v : ℕ, v &&& 0xFFFF = v % 2 ^ 16 := fun v => Nat.and_two_pow_sub_one_eq_mod v 16
  have hbit : crc.toNat &&& 0x8000 ≠ 0 ↔ crc &&& 0x8000 ≠ 0 := by
    rw [not_iff_not, ← UInt16.toNat_inj, UInt16.toNat_and]
    rfl
  have hshift : (crc <<< 1).toNat = (crc.toNat <<< 1) % 2 ^ 16 := UInt16.toNat_shiftLeft crc 1
  unfold crcStep crcBit
  simp only [hmask, hbit]
  split_ifs
  · rw [UInt16.toNat_xor, hshift, Nat.xor_mod_two_pow]
    rfl
  · exact hshift.symm

theorem crcStep_iterate_toNat (n : ℕ) (crc : UInt16) : crcStep^[n] crc.toNat = (crcBit^[n] crc).toNat := by
  induction n generalizing crc with
  | zero => rfl
  | succ n ih => rw [Function.iterate_succ_apply, Function.iterate_succ_apply, crcStep_toNat, ih]

/-- one byte enters the register above its low byte -/
theorem xor_byte_toNat (crc : UInt16) (byte : UInt8) :
    crc.toNat ^^^ (byte.toNat <<< 8) = (crc ^^^ (byte.toUInt16 <<< 8)).toNat := by
  have hlt : byte.toNat <<< 8 < 2 ^ 16 := LittleEndian.shiftLeft_lt byte (by decide)
  have hshift : (byte.toUInt16 <<< 8).toNat = (byte.toNat <<< 8) % 2 ^ 16 := by
    rw [UInt16.toNat_shiftLeft, UInt8.toNat_toUInt16]
    rfl
  rw [UInt16.toNat_xor, hshift, Nat.mod_eq_of_lt hlt]

/-- **The two checks are one function.** -/
theorem crc16Ccitt_eq (data : List UInt8) : crc16Ccitt data = (Wire.crc16Ccitt data).toNat := by
  have hloop : ∀ (data : List UInt8) (crc : UInt16),
      data.foldl (fun crc byte => crcStep^[8] (crc ^^^ (byte.toNat <<< 8))) crc.toNat =
        (data.foldl crcByte crc).toNat := by
    intro data
    induction data with
    | nil => exact fun _ => rfl
    | cons byte data ih =>
      intro crc
      rw [List.foldl_cons, List.foldl_cons, xor_byte_toNat, crcStep_iterate_toNat]
      exact ih (crcByte crc byte)
  exact hloop data 0xFFFF

/-! ## The command tool -/

namespace SendCommand

def commandMagic : ℤ := 0x434D4453

def commandVersion : ℤ := 1

def commands : List (String × ℤ) :=
  [("NOOP", 0), ("SET_MODE", 1), ("INJECT_FAULT", 2), ("REQUEST_TELEMETRY", 3), ("CLEAR_FAULT", 4)]

def modes : List (String × ℤ) :=
  [("BOOT", 0), ("NOMINAL", 1), ("DEGRADED_SENSOR", 2), ("DEGRADED_PAYLOAD", 3), ("SAFE", 4), ("RECOVERY", 5),
   ("STANDBY", 6), ("TEST", 7)]

def faults : List (String × ℤ) :=
  [("NONE", 0), ("SENSOR_TIMEOUT", 100), ("SENSOR_INVALID_DATA", 101), ("PAYLOAD_HEARTBEAT_TIMEOUT", 200),
   ("CPU_OVERLOAD", 300), ("MEMORY_OVERLOAD", 301), ("TELEMETRY_SOCKET_FAILURE", 400), ("COMMAND_BAD_CRC", 500),
   ("COMMAND_UNKNOWN_ID", 501), ("COMMAND_TIMEOUT", 502), ("WATCHDOG_DEADLINE_MISS", 600)]

/-- `table[key]` -/
def index (table : List (String × ℤ)) (key : String) : Except ToolError ℤ :=
  match table.lookup key with
  | some value => .ok value
  | none => .error (.keyError key)

def parseArgument (command : String) (argument : Option String) : Except ToolError ℤ :=
  if command = "SET_MODE" then
    match argument with
    | none => .error (.valueError "SET_MODE requires --argument MODE")
    | some argument => index modes argument
  else if command = "INJECT_FAULT" then
    match argument with
    | none => .error (.valueError "INJECT_FAULT requires --argument FAULT")
    | some argument => index faults argument
  else .ok 0

/-- `struct.pack` of a format string -/
def structPack (fmt : String) (values : List ℤ) : Except ToolError (List UInt8) :=
  match (format fmt).bind (pack · values) with
  | some bytes => .ok bytes
  | none => .error .structError

/-- `nowMs` is the clock, `int(time.time() * 1000)`, read when no timestamp is given -/
def buildPacket (sequence : ℤ) (command : String) (argumentValue : ℤ) (timestampMs : Option ℤ) (nowMs : ℤ) :
    Except ToolError (List UInt8) := do
  let timestampMs := timestampMs.getD nowMs
  let commandId ← index commands command
  let payload ← structPack "<IHIQHI" [commandMagic, commandVersion, sequence, timestampMs, commandId, argumentValue]
  let crc := crc16Ccitt payload
  let trailer ← structPack "<H" [(crc : ℤ)]
  return payload ++ trailer

/-- the name of every enumerated command is a key, with the enumerator's value -/
theorem index_commands {id : CommandId} (h : id.toRaw ∈ commandIdValues) :
    index commands id.toString = .ok (id.toRaw.toNat : ℤ) := by
  cases id with
  | other raw => exact absurd h raw.2
  | _ => rfl

theorem exists_of_mem_commands {command : String} (h : command ∈ commands.map Prod.fst) :
    ∃ id : CommandId, id.toRaw ∈ commandIdValues ∧ id.toString = command := by
  simp only [commands, List.map_cons, List.map_nil, List.mem_cons, List.not_mem_nil, or_false] at h
  rcases h with rfl | rfl | rfl | rfl | rfl
  · exact ⟨.noop, by decide, rfl⟩
  · exact ⟨.setMode, by decide, rfl⟩
  · exact ⟨.injectFault, by decide, rfl⟩
  · exact ⟨.requestTelemetry, by decide, rfl⟩
  · exact ⟨.clearFault, by decide, rfl⟩

/-- the argument of a mode's name is the mode, for the flight code too -/
theorem parseArgument_mode (m : Mode) :
    parseArgument "SET_MODE" (some m.toString) = .ok (m.toRaw.toNat : ℤ) ∧
      commandArgumentToMode (UInt32.ofNat m.toRaw.toNat) = some m := by
  cases m <;> exact ⟨rfl, rfl⟩

/-- the argument of a fault's name is the fault -/
theorem parseArgument_fault {f : FaultCode} (h : f.isNamed = true) :
    parseArgument "INJECT_FAULT" (some f.toString) = .ok (f.toRaw.toNat : ℤ) ∧
      commandArgumentToFault (UInt32.ofNat f.toRaw.toNat) = some f := by
  cases f with
  | other raw => simp [FaultCode.isNamed] at h
  | _ => exact ⟨rfl, rfl⟩

/-- the packet that a call of `build_packet` asks for -/
structure Requests (packet : CommandPacket) (sequence : ℤ) (command : String) (argumentValue timestampMs : ℤ) :
    Prop where
  sequenceNumber : (packet.sequenceNumber.toNat : ℤ) = sequence
  commandId : packet.commandId.toRaw ∈ commandIdValues ∧ packet.commandId.toString = command
  argument : (packet.argument.toNat : ℤ) = argumentValue
  timestampMs : (packet.timestampMs.toNat : ℤ) = timestampMs

theorem structPack_payload (packet : CommandPacket) :
    structPack "<IHIQHI" [commandMagic, commandVersion, packet.sequenceNumber.toNat, packet.timestampMs.toNat,
      packet.commandId.toRaw.toNat, packet.argument.toNat] = .ok (commandFields.encode (rawCommand packet)) := by
  have hformat : format "<IHIQHI" =
      some [.unsigned 4, .unsigned 2, .unsigned 4, .unsigned 8, .unsigned 2, .unsigned 4] := rfl
  have hmagic : commandMagic = (Wire.commandMagic.toNat : ℤ) := rfl
  have hversion : commandVersion = (Wire.commandVersion.toNat : ℤ) := rfl
  rw [structPack, hformat, Option.bind_some, hmagic, hversion]
  rw [pack_cons Wire.commandMagic.toNat_lt, pack_cons Wire.commandVersion.toNat_lt,
    pack_cons packet.sequenceNumber.toNat_lt, pack_cons packet.timestampMs.toNat_lt,
    pack_cons packet.commandId.toRaw.toNat_lt, pack_cons packet.argument.toNat_lt, pack_nil]
  simp only [Option.map_some, List.append_nil, commandFields, rawCommand, FixedCodec.encode_prod]
  simp only [u16, u32, u64, FixedCodec.littleEndian]

theorem structPack_trailer (crc : UInt16) : structPack "<H" [(crc.toNat : ℤ)] = .ok (u16.encode crc) := by
  have hformat : format "<H" = some [.unsigned 2] := rfl
  rw [structPack, hformat, Option.bind_some, pack_cons crc.toNat_lt, pack_nil, Option.map_some, List.append_nil]
  rfl

/-- **`build_packet` is `serialize_command_packet`.** -/
theorem buildPacket_eq {packet : CommandPacket} {sequence argumentValue : ℤ} {timestampMs : Option ℤ} {nowMs : ℤ}
    {command : String} (h : Requests packet sequence command argumentValue (timestampMs.getD nowMs)) :
    buildPacket sequence command argumentValue timestampMs nowMs = .ok (serializeCommandPacket packet) := by
  obtain ⟨hsequence, ⟨hid, hname⟩, hargument, htimestamp⟩ := h
  have htrailer := structPack_trailer (commandCrc16Ccitt (commandFields.encode (rawCommand packet)))
  rw [commandCrc16Ccitt, ← crc16Ccitt_eq] at htrailer
  have hpayload := structPack_payload packet
  rw [hsequence, hargument, htimestamp] at hpayload
  rw [serializeCommandPacket_eq, commandFrame, FixedCodec.encode_prod, commandCrc16Ccitt]
  rw [buildPacket, ← hname, index_commands hid]
  simp only [ok_bind]
  rw [hpayload, ok_bind, htrailer, ok_bind]
  rfl

end SendCommand

/-! ## The telemetry tool -/

namespace TelemetryReceiver

def telemetryMagic : ℤ := 0x41535452

def telemetryVersion : ℤ := 1

def telemetryPacketTypeHealth : ℤ := 1

def telemetryPacketSizeBytes : ℕ := 43

def modes : List (ℤ × String) :=
  [(0, "BOOT"), (1, "NOMINAL"), (2, "DEGRADED_SENSOR"), (3, "DEGRADED_PAYLOAD"), (4, "SAFE"), (5, "RECOVERY"),
   (6, "STANDBY"), (7, "TEST")]

def faults : List (ℤ × String) :=
  [(0, "NONE"), (100, "SENSOR_TIMEOUT"), (101, "SENSOR_INVALID_DATA"), (200, "PAYLOAD_HEARTBEAT_TIMEOUT"),
   (300, "CPU_OVERLOAD"), (301, "MEMORY_OVERLOAD"), (400, "TELEMETRY_SOCKET_FAILURE"), (500, "COMMAND_BAD_CRC"),
   (501, "COMMAND_UNKNOWN_ID"), (502, "COMMAND_TIMEOUT"), (600, "WATCHDOG_DEADLINE_MISS")]

def commands : List (ℤ × String) :=
  [(0, "NOOP"), (1, "SET_MODE"), (2, "INJECT_FAULT"), (3, "REQUEST_TELEMETRY"), (4, "CLEAR_FAULT")]

def commandStatuses : List (ℤ × String) :=
  [(0, "ACCEPTED"), (1, "REJECTED_BAD_ARGUMENT"), (2, "REJECTED_INVALID_TRANSITION"), (3, "REJECTED_UNKNOWN_COMMAND"),
   (4, "REJECTED_DUPLICATE_SEQUENCE"), (5, "REJECTED_REPLAYED_SEQUENCE"), (6, "REJECTED_STALE_TIMESTAMP"),
   (7, "REJECTED_FUTURE_TIMESTAMP"), (8, "REJECTED_GUARD_CONFIGURATION"), (9, "REJECTED_UNAUTHORIZED"),
   (10, "REJECTED_RECOVERY_LIMIT")]

/-- `table.get(key, f"UNKNOWN({key})")` -/
def name (table : List (ℤ × String)) (key : ℤ) : String :=
  (table.lookup key).getD ("UNKNOWN(" ++ toString key ++ ")")

def commandName (commandId : ℤ) : String := if commandId = 0 then "NONE" else name commands commandId

/-- the dictionary that `decode_packet` returns -/
structure Telemetry where
  sequenceNumber : ℤ
  timestampMs : ℤ
  mode : String
  lastFault : String
  cpuLoadPercent : Binary32
  memoryLoadPercent : Binary32
  heartbeatCount : ℤ
  lastCommandSequenceNumber : ℤ
  lastCommandId : String
  lastCommandStatus : String
deriving DecidableEq, Repr

/-- the format `0nX`: at least `n` upper-case hexadecimal digits -/
def hex (n : ℕ) (v : ℤ) : String :=
  String.ofList (List.leftpad n '0' ((Nat.toDigits 16 v.toNat).map Char.toUpper))

/-- the checks on the unpacked fields, and the dictionary of fields that pass -/
def decodeFields : List Value → Except ToolError Telemetry
  | [.int magic, .int version, .int packetType, .int sequenceNumber, .int timestampMs, .int mode, .int lastFault,
     .float cpuLoadPercent, .float memoryLoadPercent, .int heartbeatCount, .int lastCommandSequenceNumber,
     .int lastCommandId, .int lastCommandStatus, .int _] =>
    if magic ≠ telemetryMagic then .error (.valueError ("bad magic: 0x" ++ hex 8 magic))
    else if version ≠ telemetryVersion then .error (.valueError ("unsupported version: " ++ toString version))
    else if packetType ≠ telemetryPacketTypeHealth then
      .error (.valueError ("unsupported packet type: " ++ toString packetType))
    else
      .ok {
        sequenceNumber, timestampMs, mode := name modes mode, lastFault := name faults lastFault, cpuLoadPercent,
        memoryLoadPercent, heartbeatCount, lastCommandSequenceNumber, lastCommandId := commandName lastCommandId,
        lastCommandStatus := name commandStatuses lastCommandStatus }
  | _ => .error .structError

def decodePacket (data : List UInt8) : Except ToolError Telemetry :=
  if data.length ≠ telemetryPacketSizeBytes then
    .error (.valueError ("wrong packet size: " ++ toString data.length ++ " bytes"))
  else
    let expectedCrc := crc16Ccitt (data.take (data.length - 2))
    match (format "<H").bind (unpackFrom · data (telemetryPacketSizeBytes - 2)) with
    | some [.int actualCrc] =>
      if actualCrc ≠ expectedCrc then
        .error (.valueError ("bad CRC: expected 0x" ++ hex 4 expectedCrc ++ ", got 0x" ++ hex 4 actualCrc))
      else
        match (format "<IHHIQBHffIIBBH").bind (unpack · data) with
        | some fields => decodeFields fields
        | none => .error .structError
    | _ => .error .structError

/-! ### Names -/

theorem name_modes (m : Mode) : name modes m.toRaw.toNat = m.toString := by cases m <;> rfl

theorem name_faults {f : FaultCode} (h : f.isNamed = true) : name faults f.toRaw.toNat = f.toString := by
  cases f with
  | other raw => simp [FaultCode.isNamed] at h
  | _ => rfl

theorem name_commandStatuses (status : CommandStatus) :
    name commandStatuses status.toRaw.toNat = status.toString := by
  cases status <;> rfl

/-! ### Packets -/

/-- what the dictionary says about the packet -/
structure Reports (telemetry : Telemetry) (packet : TelemetryPacket) : Prop where
  sequenceNumber : telemetry.sequenceNumber = packet.sequenceNumber.toNat
  timestampMs : telemetry.timestampMs = packet.timestampMs.toNat
  loads : telemetry.cpuLoadPercent = packet.cpuLoadPercent.widened ∧
    telemetry.memoryLoadPercent = packet.memoryLoadPercent.widened
  heartbeatCount : telemetry.heartbeatCount = packet.heartbeatCount.toNat
  lastCommandSequenceNumber : telemetry.lastCommandSequenceNumber = packet.lastCommandSequenceNumber.toNat
  mode : telemetry.mode = packet.mode.toString
  lastFault : telemetry.lastFault = packet.lastFault.toString
  lastCommandStatus : ∀ status : CommandStatus, status.toRaw = packet.lastCommandStatus →
    telemetry.lastCommandStatus = status.toString

/-- the raw fields of a frame and its check, in the order of the format -/
def fieldsOf (raw : RawTelemetry) (crc : UInt16) : List Value :=
  let (magic, version, packetType, sequenceNumber, timestampMs, mode, fault, cpuLoadPercent, memoryLoadPercent,
    heartbeatCount, lastCommandSequenceNumber, lastCommandId, lastCommandStatus) := raw
  [.int magic.toNat, .int version.toNat, .int packetType.toNat, .int sequenceNumber.toNat, .int timestampMs.toNat,
   .int mode.toNat, .int fault.toNat, .float cpuLoadPercent.widened, .float memoryLoadPercent.widened,
   .int heartbeatCount.toNat, .int lastCommandSequenceNumber.toNat, .int lastCommandId.toNat,
   .int lastCommandStatus.toNat, .int crc.toNat]

theorem unpack_telemetryFrame (raw : RawTelemetry) (crc : UInt16) :
    (format "<IHHIQBHffIIBBH").bind (unpack · (telemetryFrame.encode (raw, crc))) = some (fieldsOf raw crc) := by
  have hformat : format "<IHHIQBHffIIBBH" =
      some [.unsigned 4, .unsigned 2, .unsigned 2, .unsigned 4, .unsigned 8, .unsigned 1, .unsigned 2, .float32, .float32,
        .unsigned 4, .unsigned 4, .unsigned 1, .unsigned 1, .unsigned 2] := rfl
  obtain ⟨magic, version, packetType, sequenceNumber, timestampMs, mode, fault, cpuLoadPercent, memoryLoadPercent,
    heartbeatCount, lastCommandSequenceNumber, lastCommandId, lastCommandStatus⟩ := raw
  rw [hformat, Option.bind_some]
  -- the last field is in front of nothing
  rw [← List.append_nil (telemetryFrame.encode _)]
  simp only [telemetryFrame, telemetryFields, FixedCodec.encode_prod, List.append_assoc]
  simp only [u8, u16, u32, u64, float32, FixedCodec.littleEndian]
  rw [unpack_unsigned magic.toNat_lt, unpack_unsigned version.toNat_lt, unpack_unsigned packetType.toNat_lt,
    unpack_unsigned sequenceNumber.toNat_lt, unpack_unsigned timestampMs.toNat_lt, unpack_unsigned mode.toNat_lt,
    unpack_unsigned fault.toNat_lt, unpack_float32, unpack_float32, unpack_unsigned heartbeatCount.toNat_lt,
    unpack_unsigned lastCommandSequenceNumber.toNat_lt, unpack_unsigned lastCommandId.toNat_lt,
    unpack_unsigned lastCommandStatus.toNat_lt, unpack_unsigned crc.toNat_lt, unpack_nil]
  rfl

/-- fields with the right constants give a dictionary that reports the packet -/
theorem decodeFields_fieldsOf {packet : TelemetryPacket} (h : packet.lastFault.isNamed = true) (crc : UInt16) :
    ∃ telemetry, decodeFields (fieldsOf (rawTelemetry packet) crc) = .ok telemetry ∧ Reports telemetry packet := by
  have hmagic : (Wire.telemetryMagic.toNat : ℤ) = telemetryMagic := rfl
  have hversion : (Wire.telemetryVersion.toNat : ℤ) = telemetryVersion := rfl
  have htype : (Wire.telemetryPacketTypeHealth.toNat : ℤ) = telemetryPacketTypeHealth := rfl
  simp only [rawTelemetry, fieldsOf, decodeFields, hmagic, hversion, htype, ne_eq, not_true_eq_false, if_false]
  refine ⟨_, rfl, rfl, rfl, ⟨rfl, rfl⟩, rfl, rfl, name_modes packet.mode, name_faults h, ?_⟩
  intro status hstatus
  rw [← hstatus]
  exact name_commandStatuses status

/-- the check behind the fields -/
theorem unpackFrom_trailer {front : List UInt8} (hlen : front.length = 41) (crc : UInt16) :
    (format "<H").bind (unpackFrom · (front ++ u16.encode crc) (telemetryPacketSizeBytes - 2)) =
      some [.int crc.toNat] := by
  have hformat : format "<H" = some [.unsigned 2] := rfl
  have hsize : telemetryPacketSizeBytes - 2 = front.length := by rw [hlen]; rfl
  rw [hformat, Option.bind_some, unpackFrom, hsize, List.drop_left]
  have htake : (u16.encode crc).take (([.unsigned 2] : List Code).map Code.size).sum = u16.encode crc ++ [] := by
    rw [List.append_nil]
    exact List.take_of_length_le (u16.length_encode crc).le
  rw [htake, u16, FixedCodec.littleEndian, unpack_unsigned crc.toNat_lt, unpack_nil]
  rfl

/-- `decode_packet` on the encoding of any raw fields and any check -/
theorem decodePacket_frame (raw : RawTelemetry) (crc : UInt16) :
    decodePacket (telemetryFrame.encode (raw, crc)) =
      if (crc.toNat : ℤ) ≠ crc16Ccitt (telemetryFields.encode raw) then
        .error (.valueError ("bad CRC: expected 0x" ++ hex 4 (crc16Ccitt (telemetryFields.encode raw)) ++ ", got 0x" ++
          hex 4 crc.toNat))
      else decodeFields (fieldsOf raw crc) := by
  have hlen : (telemetryFrame.encode (raw, crc)).length = 43 := telemetryFrame.length_encode _
  have hfront : (telemetryFields.encode raw).length = 41 := telemetryFields.length_encode _
  have hfields := unpack_telemetryFrame raw crc
  rw [telemetryFrame, FixedCodec.encode_prod] at hlen hfields ⊢
  have htake : (telemetryFields.encode raw ++ u16.encode crc).take (43 - 2) = telemetryFields.encode raw :=
    List.take_left' hfront
  rw [decodePacket, if_neg (by rw [hlen]; decide), hlen]
  simp only [unpackFrom_trailer hfront, htake, hfields]

/-- **`decode_packet` on a packet that the flight code accepts.** -/
theorem decodePacket_serialize {packet : TelemetryPacket} (h : packet.lastFault.isNamed = true) :
    ∃ telemetry, decodePacket (serializeTelemetryPacket packet) = .ok telemetry ∧ Reports telemetry packet := by
  have hcrc : ((telemetryCrc16Ccitt (telemetryFields.encode (rawTelemetry packet))).toNat : ℤ) =
      crc16Ccitt (telemetryFields.encode (rawTelemetry packet)) := by
    rw [crc16Ccitt_eq]; rfl
  rw [serializeTelemetryPacket_eq, decodePacket_frame, if_neg (not_not.2 hcrc)]
  exact decodeFields_fieldsOf h _

/-- what `decode_packet` raises is a `ValueError`, on every string -/
theorem decodePacket_raises_valueError {data : List UInt8} {error : ToolError} (h : decodePacket data = .error error) :
    ∃ message, error = .valueError message := by
  by_cases hlen : data.length = telemetryPacketSizeBytes
  · obtain ⟨⟨raw, crc⟩, hat⟩ := telemetryFrame.exists_at hlen
    rw [hat.eq_encode hlen, decodePacket_frame] at h
    simp only [fieldsOf, decodeFields] at h
    split_ifs at h <;> exact ⟨_, (Except.error.inj h).symm⟩
  · rw [decodePacket, if_pos hlen] at h
    exact ⟨_, (Except.error.inj h).symm⟩

end TelemetryReceiver

/-- **The ground tools and the flight code speak the same protocol.**
- for every sequence, timestamp and argument of their widths and every command name of the tool, given or read from the
  clock, `build_packet` yields the serialization of the packet that carries them, and the flight code decodes it to that
  packet;
- every string of any length that the flight code accepts as telemetry is accepted by `decode_packet`, with the same
  numbers and the names of the mode, the fault and (when it is in range) the status; a load keeps its bit pattern exactly
  if it is no signalling NaN. -/
theorem ground_tools_speak_protocol :
    (∀ (sequence argumentValue nowMs : ℤ) (timestampMs : Option ℤ) (command : String),
      0 ≤ sequence ∧ sequence < 2 ^ 32 → 0 ≤ argumentValue ∧ argumentValue < 2 ^ 32 →
      0 ≤ timestampMs.getD nowMs ∧ timestampMs.getD nowMs < 2 ^ 64 →
      command ∈ SendCommand.commands.map Prod.fst →
        ∃ packet, SendCommand.Requests packet sequence command argumentValue (timestampMs.getD nowMs) ∧
          SendCommand.buildPacket sequence command argumentValue timestampMs nowMs =
            .ok (serializeCommandPacket packet) ∧
          ∀ packetOut, deserializeCommandPacket (serializeCommandPacket packet) packetOut = some (true, packet)) ∧
    ∀ bytes packetOut packet, deserializeTelemetryPacket bytes packetOut = some (true, packet) →
      ∃ telemetry, TelemetryReceiver.decodePacket bytes = .ok telemetry ∧
        TelemetryReceiver.Reports telemetry packet ∧
        (telemetry.cpuLoadPercent = packet.cpuLoadPercent ↔ packet.cpuLoadPercent.isSignalling = false) ∧
        (telemetry.memoryLoadPercent = packet.memoryLoadPercent ↔
          packet.memoryLoadPercent.isSignalling = false) := by
  refine ⟨?_, ?_⟩
  · rintro sequence argumentValue nowMs timestampMs command ⟨hs0, hs⟩ ⟨ha0, ha⟩ ⟨ht0, ht⟩ hcommand
    obtain ⟨id, hid, hname⟩ := SendCommand.exists_of_mem_commands hcommand
    have hword32 : ∀ v : ℤ, 0 ≤ v → v < 2 ^ 32 → ((UInt32.ofNat v.toNat).toNat : ℤ) = v := by
      intro v h0 hlt
      rw [UInt32.toNat_ofNat_of_lt' (by rw [UInt32.size]; omega)]
      omega
    have hword64 : ∀ v : ℤ, 0 ≤ v → v < 2 ^ 64 → ((UInt64.ofNat v.toNat).toNat : ℤ) = v := by
      intro v h0 hlt
      rw [UInt64.toNat_ofNat_of_lt' (by rw [UInt64.size]; omega)]
      omega
    have hrequests : SendCommand.Requests
        { sequenceNumber := UInt32.ofNat sequence.toNat, timestampMs := UInt64.ofNat (timestampMs.getD nowMs).toNat,
          commandId := id, argument := UInt32.ofNat argumentValue.toNat }
        sequence command argumentValue (timestampMs.getD nowMs) :=
      ⟨hword32 _ hs0 hs, ⟨hid, hname⟩, hword32 _ ha0 ha, hword64 _ ht0 ht⟩
    exact ⟨_, hrequests, SendCommand.buildPacket_eq hrequests, deserializeCommandPacket_serialize hid⟩
  · intro bytes packetOut packet h
    rcases deserializeTelemetryPacket_cases bytes packetOut with hfails | ⟨packet', hdecoded, hnamed, rfl⟩
    · simp [hfails] at h
    · rw [h, Option.some.injEq, Prod.mk.injEq] at hdecoded
      obtain ⟨-, rfl⟩ := hdecoded
      obtain ⟨telemetry, hok, hreports⟩ := TelemetryReceiver.decodePacket_serialize hnamed
      refine ⟨telemetry, hok, hreports, ?_, ?_⟩
      · rw [hreports.loads.1, Binary32.widened_eq_iff]
      · rw [hreports.loads.2, Binary32.widened_eq_iff]

/-- loads with fraction bits (87.3 and 61.7 percent) and a named fault -/
def loadedPacket : TelemetryPacket where
  sequenceNumber := 41
  timestampMs := 82000
  mode := .degradedSensor
  lastFault := .cpuOverload
  cpuLoadPercent := ⟨0x42AE999A⟩
  memoryLoadPercent := ⟨0x4276CCCD⟩
  heartbeatCount := 40
  lastCommandSequenceNumber := 7
  lastCommandId := 1

/-- SET_MODE to NOMINAL, and the packet with loads -/
theorem ground_tools_speak_protocol_setMode :
    (∃ packet, SendCommand.Requests packet 7 "SET_MODE" 1 1000 ∧
      SendCommand.buildPacket 7 "SET_MODE" 1 (some 1000) 0 = .ok (serializeCommandPacket packet) ∧
      ∀ packetOut, deserializeCommandPacket (serializeCommandPacket packet) packetOut = some (true, packet)) ∧
    ∃ telemetry, TelemetryReceiver.decodePacket (serializeTelemetryPacket loadedPacket) = .ok telemetry ∧
      TelemetryReceiver.Reports telemetry loadedPacket ∧
      (telemetry.cpuLoadPercent = ⟨0x42AE999A⟩ ↔ (⟨0x42AE999A⟩ : Binary32).isSignalling = false) ∧
      (telemetry.memoryLoadPercent = ⟨0x4276CCCD⟩ ↔ (⟨0x4276CCCD⟩ : Binary32).isSignalling = false) :=
  ⟨ground_tools_speak_protocol.1 7 1 0 (some 1000) "SET_MODE" (by decide) (by decide) (by decide) (by decide),
    ground_tools_speak_protocol.2 _ {} loadedPacket (deserializeTelemetryPacket_serialize rfl {})⟩

/-- a load that is a signalling NaN: the flight code accepts the packet, the tool reads another bit pattern -/
theorem signalling_load_read_quiet :
    let packet : TelemetryPacket := { loadedPacket with cpuLoadPercent := ⟨0x7F800001⟩ }
    deserializeTelemetryPacket (serializeTelemetryPacket packet) {} = some (true, packet) ∧
      ∃ telemetry, TelemetryReceiver.decodePacket (serializeTelemetryPacket packet) = .ok telemetry ∧
        telemetry.cpuLoadPercent = ⟨0x7FC00001⟩ ∧ telemetry.cpuLoadPercent ≠ packet.cpuLoadPercent := by
  intro packet
  have hnamed : packet.lastFault.isNamed = true := rfl
  obtain ⟨telemetry, hok, hreports⟩ := TelemetryReceiver.decodePacket_serialize hnamed
  have hload : telemetry.cpuLoadPercent = ⟨0x7FC00001⟩ := by
    rw [hreports.loads.1]
    decide
  refine ⟨deserializeTelemetryPacket_serialize rfl {}, telemetry, hok, hload, ?_⟩
  rw [hload]
  decide

end AstraFsw.Ground
