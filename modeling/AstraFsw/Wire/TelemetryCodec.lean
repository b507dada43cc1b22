/-
The telemetry packet on the wire: `serialize_telemetry_packet` and `deserialize_telemetry_packet`
(`fsw/src/telemetry_packet.cpp`), built like the command packet from 43 bytes.

Loads are bit patterns, so equality of packets is equality of patterns. `Mode` is a closed enumeration and `FaultCode` an
open one: a packet is `Enumerated` when its fault is one of the enumerators.

- `deserializeTelemetryPacket_of_frame`: the decoder on the encoding of any raw fields and any check;
- `telemetry_round_trip`: the codec in both directions, and the telemetry of every step of every run: the active fault
  stays an enumerator over any run (`FlightSoftwareApp.run_lastFault_isNamed`), so what a step emits is decodable.
-/
import AstraFsw.App.Latch
import AstraFsw.TelemetryPacket
import AstraFsw.Wire.Crc16

namespace AstraFsw.Wire

/-- ASCII: ASTR -/
def telemetryMagic : UInt32 := 0x41535452

def telemetryVersion : UInt16 := 1

def telemetryPacketTypeHealth : UInt16 := 1

def telemetryPacketSizeBytes : ℕ := 43

def isValidFaultCode (value : UInt16) : Bool :=
  match FaultCode.ofRaw value with
  | .other _ => false
  | _ => true

def serializeTelemetryPacket (packet : TelemetryPacket) : List UInt8 :=
  let bytes := appendU32 [] telemetryMagic
  let bytes := appendU16 bytes telemetryVersion
  let bytes := appendU16 bytes telemetryPacketTypeHealth
  let bytes := appendU32 bytes packet.sequenceNumber
  let bytes := appendU64 bytes packet.timestampMs
  let bytes := appendU8 bytes packet.mode.toRaw
  let bytes := appendU16 bytes packet.lastFault.toRaw
  let bytes := appendFloat32 bytes packet.cpuLoadPercent
  let bytes := appendFloat32 bytes packet.memoryLoadPercent
  let bytes := appendU32 bytes packet.heartbeatCount
  let bytes := appendU32 bytes packet.lastCommandSequenceNumber
  let bytes := appendU8 bytes packet.lastCommandId
  let bytes := appendU8 bytes packet.lastCommandStatus
  let crc := telemetryCrc16Ccitt bytes
  appendU16 bytes crc

def deserializeTelemetryPacket (bytes : List UInt8) (packetOut : TelemetryPacket) : Option (Bool × TelemetryPacket) :=
  if bytes.length ≠ telemetryPacketSizeBytes then some (false, packetOut)
  else do
    let withoutCrc := bytes.take (bytes.length - 2)
    let expectedCrc := telemetryCrc16Ccitt withoutCrc
    let (actualCrc, _) ← readU16 bytes (bytes.length - 2)
    if actualCrc ≠ expectedCrc then some (false, packetOut)
    else do
      let (magic, offset) ← readU32 bytes 0
      let (version, offset) ← readU16 bytes offset
      let (packetType, offset) ← readU16 bytes offset
      if magic ≠ telemetryMagic then some (false, packetOut)
      else if version ≠ telemetryVersion then some (false, packetOut)
      else if packetType ≠ telemetryPacketTypeHealth then some (false, packetOut)
      else do
        let (sequenceNumber, offset) ← readU32 bytes offset
        let (timestampMs, offset) ← readU64 bytes offset
        let (rawMode, offset) ← readU8 bytes offset
        -- `is_valid_mode` and the cast to the closed enumeration
        match Mode.ofRaw? rawMode with
        | none => some (false, packetOut)
        | some mode => do
          let (rawFault, offset) ← readU16 bytes offset
          if !isValidFaultCode rawFault then some (false, packetOut)
          else do
            let (cpuLoadPercent, offset) ← readFloat32 bytes offset
            let (memoryLoadPercent, offset) ← readFloat32 bytes offset
            let (heartbeatCount, offset) ← readU32 bytes offset
            let (lastCommandSequenceNumber, offset) ← readU32 bytes offset
            let (lastCommandId, offset) ← readU8 bytes offset
            let (lastCommandStatus, _) ← readU8 bytes offset
            some (true,
              { sequenceNumber, timestampMs, mode, lastFault := FaultCode.ofRaw rawFault, cpuLoadPercent,
                memoryLoadPercent, heartbeatCount, lastCommandSequenceNumber, lastCommandId, lastCommandStatus })

/-! ## Frames -/

/-- magic, version, type, sequence, timestamp, mode, fault, the two loads, heartbeat count, and the last command's
sequence, id and status -/
abbrev RawTelemetry : Type :=
  UInt32 × UInt16 × UInt16 × UInt32 × UInt64 × UInt8 × UInt16 × Binary32 × Binary32 × UInt32 × UInt32 × UInt8 × UInt8

def telemetryFields : FixedCodec UInt8 RawTelemetry :=
  u32.prod (u16.prod (u16.prod (u32.prod (u64.prod (u8.prod (u16.prod (float32.prod (float32.prod (u32.prod (u32.prod
    (u8.prod u8)))))))))))

/-- the fields and the check behind them -/
def telemetryFrame : FixedCodec UInt8 (RawTelemetry × UInt16) := telemetryFields.prod u16

/-- the raw fields of a packet -/
def rawTelemetry (packet : TelemetryPacket) : RawTelemetry :=
  (telemetryMagic, telemetryVersion, telemetryPacketTypeHealth, packet.sequenceNumber, packet.timestampMs,
    packet.mode.toRaw, packet.lastFault.toRaw, packet.cpuLoadPercent, packet.memoryLoadPercent, packet.heartbeatCount,
    packet.lastCommandSequenceNumber, packet.lastCommandId, packet.lastCommandStatus)

theorem serializeTelemetryPacket_eq (packet : TelemetryPacket) :
    serializeTelemetryPacket packet =
      telemetryFrame.encode
        (rawTelemetry packet, telemetryCrc16Ccitt (telemetryFields.encode (rawTelemetry packet))) := by
  simp only [serializeTelemetryPacket, appendU32_eq, appendU16_eq, appendU64_eq, appendU8_eq, appendFloat32_eq,
    telemetryFrame, telemetryFields, rawTelemetry, FixedCodec.encode_prod, List.nil_append, List.append_assoc]

/-- the packet of raw fields that pass the decoder's checks -/
def packetOfRaw (fields : RawTelemetry) (crc : UInt16) : Option TelemetryPacket :=
  let (magic, version, packetType, sequenceNumber, timestampMs, rawMode, rawFault, cpuLoadPercent, memoryLoadPercent,
    heartbeatCount, lastCommandSequenceNumber, lastCommandId, lastCommandStatus) := fields
  if crc = telemetryCrc16Ccitt (telemetryFields.encode fields) ∧ magic = telemetryMagic ∧ version = telemetryVersion ∧
      packetType = telemetryPacketTypeHealth ∧ isValidFaultCode rawFault then
    (Mode.ofRaw? rawMode).map fun mode =>
      { sequenceNumber, timestampMs, mode, lastFault := FaultCode.ofRaw rawFault, cpuLoadPercent,
        memoryLoadPercent, heartbeatCount, lastCommandSequenceNumber, lastCommandId, lastCommandStatus }
  else none

/-- a successful read in a chain of reads -/
theorem bind_of_some {α β : Type*} {r : Option α} {a : α} (h : r = some a) (next : α → Option β) :
    (r.bind next) = next a := by
  rw [h, Option.bind_some]

/-- the fields of a frame, at their offsets -/
theorem reads_of_telemetryFrame {bytes : List UInt8} {magic sequenceNumber heartbeatCount lastSequence : UInt32}
    {version packetType rawFault crc : UInt16} {timestampMs : UInt64} {rawMode lastId lastStatus : UInt8}
    {cpu memory : Binary32}
    (h : telemetryFrame.At bytes 0 ((magic, version, packetType, sequenceNumber, timestampMs, rawMode, rawFault, cpu,
      memory, heartbeatCount, lastSequence, lastId, lastStatus), crc)) :
    (bytes.take 41 = telemetryFields.encode (magic, version, packetType, sequenceNumber, timestampMs, rawMode, rawFault,
        cpu, memory, heartbeatCount, lastSequence, lastId, lastStatus) ∧
      readU16 bytes 41 = some (crc, 43)) ∧
    readU32 bytes 0 = some (magic, 4) ∧ readU16 bytes 4 = some (version, 6) ∧
    readU16 bytes 6 = some (packetType, 8) ∧ readU32 bytes 8 = some (sequenceNumber, 12) ∧
    readU64 bytes 12 = some (timestampMs, 20) ∧ readU8 bytes 20 = some (rawMode, 21) ∧
    readU16 bytes 21 = some (rawFault, 23) ∧ readFloat32 bytes 23 = some (cpu, 27) ∧
    readFloat32 bytes 27 = some (memory, 31) ∧ readU32 bytes 31 = some (heartbeatCount, 35) ∧
    readU32 bytes 35 = some (lastSequence, 39) ∧ readU8 bytes 39 = some (lastId, 40) ∧
    readU8 bytes 40 = some (lastStatus, 41) := by
  obtain ⟨hfields, hcrc⟩ := (telemetryFields.at_prod_iff u16).1 h
  have htake := hfields.take_eq
  simp only [telemetryFields, FixedCodec.at_prod_iff] at hfields
  obtain ⟨hmagic, hversion, htype, hsequence, htimestamp, hmode, hfault, hcpu, hmemory, hheartbeat, hlastSequence,
    hlastId, hlastStatus⟩ := hfields
  simp only [readU8_eq, readU16_eq, readU32_eq, readU64_eq, readFloat32_eq]
  exact ⟨⟨htake, hcrc.read⟩, hmagic.read, hversion.read, htype.read, hsequence.read, htimestamp.read, hmode.read,
    hfault.read, hcpu.read, hmemory.read, hheartbeat.read, hlastSequence.read, hlastId.read, hlastStatus.read⟩

/-- **The decoder on a frame.** -/
theorem deserializeTelemetryPacket_of_frame {bytes : List UInt8} (hlen : bytes.length = 43) {fields : RawTelemetry}
    {crc : UInt16} (h : telemetryFrame.At bytes 0 (fields, crc)) (packetOut : TelemetryPacket) :
    deserializeTelemetryPacket bytes packetOut =
      some (match packetOfRaw fields crc with
        | none => (false, packetOut)
        | some packet => (true, packet)) := by
  obtain ⟨magic, version, packetType, sequenceNumber, timestampMs, rawMode, rawFault, cpuLoadPercent,
    memoryLoadPercent, heartbeatCount, lastCommandSequenceNumber, lastCommandId, lastCommandStatus⟩ := fields
  obtain ⟨⟨htake, hcrc⟩, hmagic, hversion, htype, hsequence, htimestamp, hmode, hfault, hcpu, hmemory, hheartbeat,
    hlastSequence, hlastId, hlastStatus⟩ := reads_of_telemetryFrame h
  -- the checks in the source's order; in each failing branch the raw fields give no packet either
  unfold deserializeTelemetryPacket packetOfRaw
  refine (if_neg (by rw [hlen]; decide)).trans ?_
  rw [hlen]
  apply (bind_of_some hcrc _).trans
  rw [htake]
  by_cases hok : crc = telemetryCrc16Ccitt (telemetryFields.encode (magic, version, packetType, sequenceNumber,
    timestampMs, rawMode, rawFault, cpuLoadPercent, memoryLoadPercent, heartbeatCount, lastCommandSequenceNumber,
    lastCommandId, lastCommandStatus))
  · apply (if_neg (not_not.2 hok)).trans
    apply (bind_of_some hmagic _).trans
    apply (bind_of_some hversion _).trans
    apply (bind_of_some htype _).trans
    by_cases hm : magic = telemetryMagic
    · apply (if_neg (not_not.2 hm)).trans
      by_cases hv : version = telemetryVersion
      · apply (if_neg (not_not.2 hv)).trans
        by_cases ht : packetType = telemetryPacketTypeHealth
        · apply (if_neg (not_not.2 ht)).trans
          apply (bind_of_some hsequence _).trans
          apply (bind_of_some htimestamp _).trans
          apply (bind_of_some hmode _).trans
          cases hmode' : Mode.ofRaw? rawMode with
          | none => simp [hmode']
          | some mode =>
            simp only [hmode', Option.map_some]
            apply (bind_of_some hfault _).trans
            by_cases hf : isValidFaultCode rawFault = true
            · apply (if_neg (by simp [hf])).trans
              apply (bind_of_some hcpu _).trans
              apply (bind_of_some hmemory _).trans
              apply (bind_of_some hheartbeat _).trans
              apply (bind_of_some hlastSequence _).trans
              apply (bind_of_some hlastId _).trans
              apply (bind_of_some hlastStatus _).trans
              simp [hok, hm, hv, ht, hf]
            · apply (if_pos (by simp [hf])).trans
              simp [hf]
        · apply (if_pos ht).trans
          simp [ht]
      · apply (if_pos hv).trans
        simp [hv]
    · apply (if_pos hm).trans
      simp [hm]
  · apply (if_pos hok).trans
    simp [hok]

/-! ## The codec -/

theorem isValidFaultCode_iff (raw : UInt16) : isValidFaultCode raw = true ↔ (FaultCode.ofRaw raw).isNamed = true := by
  unfold isValidFaultCode
  cases FaultCode.ofRaw raw <;> simp [FaultCode.isNamed]

theorem length_serializeTelemetryPacket (packet : TelemetryPacket) : (serializeTelemetryPacket packet).length = 43 := by
  rw [serializeTelemetryPacket_eq, telemetryFrame.length_encode]
  rfl

/-- a serialized packet with an enumerated fault is decoded to itself -/
theorem deserializeTelemetryPacket_serialize {packet : TelemetryPacket} (h : packet.lastFault.isNamed = true)
    (packetOut : TelemetryPacket) :
    deserializeTelemetryPacket (serializeTelemetryPacket packet) packetOut = some (true, packet) := by
  have hat := telemetryFrame.at_encode
    (rawTelemetry packet, telemetryCrc16Ccitt (telemetryFields.encode (rawTelemetry packet)))
  rw [← serializeTelemetryPacket_eq] at hat
  have hfault : isValidFaultCode packet.lastFault.toRaw = true := by
    rw [isValidFaultCode_iff, FaultCode.ofRaw_toRaw, h]
  have hpacket : packetOfRaw (rawTelemetry packet)
      (telemetryCrc16Ccitt (telemetryFields.encode (rawTelemetry packet))) = some packet := by
    simp [packetOfRaw, rawTelemetry, hfault]
  rw [deserializeTelemetryPacket_of_frame (length_serializeTelemetryPacket packet) hat, hpacket]

/-- what is accepted is the serialization of what it decodes to -/
theorem deserializeTelemetryPacket_cases (bytes : List UInt8) (packetOut : TelemetryPacket) :
    deserializeTelemetryPacket bytes packetOut = some (false, packetOut) ∨
      ∃ packet, deserializeTelemetryPacket bytes packetOut = some (true, packet) ∧
        packet.lastFault.isNamed = true ∧ serializeTelemetryPacket packet = bytes := by
  by_cases hlen : bytes.length = 43
  · obtain ⟨⟨fields, crc⟩, hat⟩ := telemetryFrame.exists_at hlen
    rw [deserializeTelemetryPacket_of_frame hlen hat]
    cases hpacket : packetOfRaw fields crc with
    | none => exact Or.inl rfl
    | some packet =>
      refine Or.inr ⟨packet, rfl, ?_⟩
      rw [hat.eq_encode hlen, serializeTelemetryPacket_eq]
      obtain ⟨magic, version, packetType, sequenceNumber, timestampMs, rawMode, rawFault, cpu, memory, heartbeatCount,
        lastSequence, lastId, lastStatus⟩ := fields
      unfold packetOfRaw at hpacket
      simp only at hpacket
      split_ifs at hpacket with hok
      obtain ⟨rfl, rfl, rfl, rfl, hfault⟩ := hok
      obtain ⟨mode, hmode, rfl⟩ := Option.map_eq_some_iff.1 hpacket
      refine ⟨(isValidFaultCode_iff rawFault).1 hfault, ?_⟩
      simp only [rawTelemetry, FaultCode.toRaw_ofRaw, Mode.toRaw_of_ofRaw? hmode]
  · exact Or.inl (by simp [deserializeTelemetryPacket, telemetryPacketSizeBytes, hlen])

/-- the fault a step reports is the processor's after it -/
theorem step_telemetry_lastFault (app : FlightSoftwareApp) (input : FlightSoftwareStepInput) :
    (app.step input).1.telemetry.lastFault = (app.step input).2.lastFault := rfl

/-- **Telemetry round-trips, and what the application emits is decodable.**
- a packet with an enumerated fault (a mode is always one) is decoded from its serialization to exactly itself;
- a string of any length either fails and leaves the caller's packet, or decodes to a packet whose serialization it is;
- the telemetry of every step of every run, under any configuration and inputs, is serialized to 43 bytes that decode to
  the same packet. -/
theorem telemetry_round_trip :
    (∀ packet packetOut, packet.lastFault.isNamed = true →
      deserializeTelemetryPacket (serializeTelemetryPacket packet) packetOut = some (true, packet)) ∧
    (∀ bytes packetOut, deserializeTelemetryPacket bytes packetOut = some (false, packetOut) ∨
      ∃ packet, deserializeTelemetryPacket bytes packetOut = some (true, packet) ∧
        serializeTelemetryPacket packet = bytes) ∧
    ∀ cfg inputs, ∀ output ∈ Machine.outputs FlightSoftwareApp.step (FlightSoftwareApp.ofConfig cfg) inputs,
      (serializeTelemetryPacket output.telemetry).length = 43 ∧
        ∀ packetOut, deserializeTelemetryPacket (serializeTelemetryPacket output.telemetry) packetOut =
          some (true, output.telemetry) := by
  refine ⟨?_, ?_, ?_⟩
  · intro packet packetOut h
    exact deserializeTelemetryPacket_serialize h packetOut
  · intro bytes packetOut
    rcases deserializeTelemetryPacket_cases bytes packetOut with hfails | ⟨packet, hdecoded, -, hbytes⟩
    · exact Or.inl hfails
    · exact Or.inr ⟨packet, hdecoded, hbytes⟩
  · intro cfg inputs output houtput
    obtain ⟨pre, input, post, -, rfl⟩ := (Machine.mem_outputs _).1 houtput
    refine ⟨length_serializeTelemetryPacket _, ?_⟩
    intro packetOut
    apply deserializeTelemetryPacket_serialize
    rw [step_telemetry_lastFault]
    exact FlightSoftwareApp.step_lastFault_isNamed (FlightSoftwareApp.run_lastFault_isNamed cfg pre) input

/-- a fault, loads of 97.5 and 40.25 percent, and the acknowledgement of a refused command -/
def overloadPacket : TelemetryPacket where
  sequenceNumber := 7
  timestampMs := 5000
  mode := .safe
  lastFault := .cpuOverload
  cpuLoadPercent := ⟨0x42C30000⟩
  memoryLoadPercent := ⟨0x42210000⟩
  heartbeatCount := 6
  lastCommandSequenceNumber := 3
  lastCommandId := 1
  lastCommandStatus := 2

theorem telemetry_round_trip_overload :
    deserializeTelemetryPacket (serializeTelemetryPacket overloadPacket) {} = some (true, overloadPacket) :=
  telemetry_round_trip.1 overloadPacket {} rfl

end AstraFsw.Wire
