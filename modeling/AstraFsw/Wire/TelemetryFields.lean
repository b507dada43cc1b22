/-
What the telemetry decoder checks, and what it does not.

`deserialize_telemetry_packet` checks the mode and the fault against their enumerators, and copies the last command's id
and status without a check. So an accepted string can carry an id or a status that no enumerator has.

- `telemetryAccepted_iff`: the strings that are accepted (`TelemetryChecks`);
- `decodesInRange_iff`: the strings on which decoding keeps all four enumerated fields in range;
- `telemetry_fields_unchecked`: a consistent packet with command id 200 and status 99 is accepted.
-/
import AstraFsw.CommandProcessor
import AstraFsw.Wire.TelemetryCodec

namespace AstraFsw.Wire

/-! ## What is accepted -/

/-- the checks the decoder makes -/
structure TelemetryChecks (bytes : List UInt8) : Prop where
  length : bytes.length = 43
  crc : readU16 bytes 41 = some (telemetryCrc16Ccitt (bytes.take 41), 43)
  magic : readU32 bytes 0 = some (telemetryMagic, 4)
  version : readU16 bytes 4 = some (telemetryVersion, 6)
  packetType : readU16 bytes 6 = some (telemetryPacketTypeHealth, 8)
  mode : ∃ mode : Mode, readU8 bytes 20 = some (mode.toRaw, 21)
  fault : ∃ fault : FaultCode, fault.isNamed = true ∧ readU16 bytes 21 = some (fault.toRaw, 23)

/-- the decoder accepts the string -/
def TelemetryAccepted (bytes : List UInt8) : Prop :=
  ∃ packet, deserializeTelemetryPacket bytes {} = some (true, packet)

theorem frame_of_serialize (packet : TelemetryPacket) :
    telemetryFrame.At (serializeTelemetryPacket packet) 0
      (rawTelemetry packet, telemetryCrc16Ccitt (telemetryFields.encode (rawTelemetry packet))) := by
  rw [serializeTelemetryPacket_eq]
  exact telemetryFrame.at_encode _

theorem telemetryChecks_serialize {packet : TelemetryPacket} (h : packet.lastFault.isNamed = true) :
    TelemetryChecks (serializeTelemetryPacket packet) := by
  obtain ⟨⟨htake, hcrc⟩, hmagic, hversion, htype, -, -, hmode, hfault, -⟩ :=
    reads_of_telemetryFrame (frame_of_serialize packet)
  refine ⟨length_serializeTelemetryPacket packet, ?_, hmagic, hversion, htype, ⟨packet.mode, hmode⟩,
    ⟨packet.lastFault, h, hfault⟩⟩
  rw [hcrc, htake, rawTelemetry]

/-- the last command's id and status are the bytes 39 and 40 -/
theorem commandBytes_serialize (packet : TelemetryPacket) :
    readU8 (serializeTelemetryPacket packet) 39 = some (packet.lastCommandId, 40) ∧
      readU8 (serializeTelemetryPacket packet) 40 = some (packet.lastCommandStatus, 41) := by
  obtain ⟨-, -, -, -, -, -, -, -, -, -, -, -, hid, hstatus⟩ := reads_of_telemetryFrame (frame_of_serialize packet)
  exact ⟨hid, hstatus⟩

/-- **The accepted strings.** -/
theorem telemetryAccepted_iff (bytes : List UInt8) : TelemetryAccepted bytes ↔ TelemetryChecks bytes := by
  constructor
  · rintro ⟨packet, hpacket⟩
    rcases deserializeTelemetryPacket_cases bytes {} with hfails | ⟨packet, -, hnamed, rfl⟩
    · simp [hfails] at hpacket
    · exact telemetryChecks_serialize hnamed
  · intro h
    obtain ⟨⟨⟨magic, version, packetType, sequenceNumber, timestampMs, rawMode, rawFault, cpu, memory, heartbeatCount,
      lastSequence, lastId, lastStatus⟩, crc⟩, hat⟩ := telemetryFrame.exists_at h.length
    obtain ⟨⟨htake, hcrc⟩, hmagic, hversion, htype, -, -, hmode, hfault, -⟩ := reads_of_telemetryFrame hat
    obtain ⟨mode, hmode'⟩ := h.mode
    obtain ⟨fault, hnamed, hfault'⟩ := h.fault
    -- each field of the frame is the field that was checked
    have hcrc' := hcrc.symm.trans h.crc
    have hmagic' := hmagic.symm.trans h.magic
    have hversion' := hversion.symm.trans h.version
    have htype' := htype.symm.trans h.packetType
    have hmode' := hmode.symm.trans hmode'
    have hfault' := hfault.symm.trans hfault'
    simp only [Option.some.injEq, Prod.mk.injEq, and_true] at hcrc' hmagic' hversion' htype' hmode' hfault'
    have hvalid : isValidFaultCode rawFault = true := by
      rw [isValidFaultCode_iff, hfault', FaultCode.ofRaw_toRaw, hnamed]
    rw [TelemetryAccepted, deserializeTelemetryPacket_of_frame h.length hat]
    simp only [packetOfRaw]
    rw [if_pos ⟨hcrc'.trans (by rw [htake]), hmagic', hversion', htype', hvalid⟩, hmode', Mode.ofRaw?_toRaw]
    exact ⟨_, rfl⟩

/-! ## The enumerated fields -/

/-- the four enumerated fields have values of their enumerations; the mode always does -/
structure InRange (packet : TelemetryPacket) : Prop where
  lastFault : packet.lastFault.isNamed = true
  lastCommandId : packet.lastCommandId.toUInt16 ∈ commandIdValues
  lastCommandStatus : ∃ status : CommandStatus, status.toRaw = packet.lastCommandStatus

/-- what keeping the fields in range asks of one string: if it is accepted, the fields are in range, and it is accepted
exactly when it is the serialization of a packet whose fields are -/
def DecodesInRange (bytes : List UInt8) : Prop :=
  (∀ packetOut packet, deserializeTelemetryPacket bytes packetOut = some (true, packet) → InRange packet) ∧
    (TelemetryAccepted bytes ↔ ∃ packet, InRange packet ∧ serializeTelemetryPacket packet = bytes)

/-- byte 39 is the value of a command id and byte 40 the value of a command status -/
structure CommandBytesInRange (bytes : List UInt8) : Prop where
  id : ∃ raw, readU8 bytes 39 = some (raw, 40) ∧ raw.toUInt16 ∈ commandIdValues
  status : ∃ status : CommandStatus, readU8 bytes 40 = some (status.toRaw, 41)

theorem commandBytesInRange_serialize {packet : TelemetryPacket} (h : packet.lastFault.isNamed = true) :
    CommandBytesInRange (serializeTelemetryPacket packet) ↔ InRange packet := by
  obtain ⟨hid, hstatus⟩ := commandBytes_serialize packet
  constructor
  · rintro ⟨⟨raw, hread, hraw⟩, ⟨status, hread'⟩⟩
    rw [hid, Option.some.injEq, Prod.mk.injEq] at hread
    rw [hstatus, Option.some.injEq, Prod.mk.injEq] at hread'
    exact ⟨h, hread.1 ▸ hraw, status, hread'.1.symm⟩
  · rintro ⟨-, hcommandId, status, hcommandStatus⟩
    exact ⟨⟨_, hid, hcommandId⟩, status, by rw [hstatus, hcommandStatus]⟩

/-- **The decoder keeps the enumerated fields in range exactly where it would not have to check two of them.** On every
string of any length: what is decoded has all four fields in range, and the string is accepted as the serialization of
such a packet, if and only if the string fails one of the checks the decoder makes or its bytes 39 and 40 are the values
of a command id and of a command status. -/
theorem decodesInRange_iff (bytes : List UInt8) :
    DecodesInRange bytes ↔ (TelemetryChecks bytes → CommandBytesInRange bytes) := by
  constructor
  · rintro ⟨-, haccepted⟩ hchecks
    obtain ⟨packet, hrange, rfl⟩ := haccepted.1 ((telemetryAccepted_iff bytes).2 hchecks)
    exact (commandBytesInRange_serialize hrange.lastFault).2 hrange
  · intro h
    refine ⟨?_, ?_, ?_⟩
    · intro packetOut packet hpacket
      rcases deserializeTelemetryPacket_cases bytes packetOut with hfails | ⟨packet', hdecoded, hnamed, rfl⟩
      · simp [hfails] at hpacket
      · rw [hpacket, Option.some.injEq, Prod.mk.injEq] at hdecoded
        obtain ⟨-, rfl⟩ := hdecoded
        exact (commandBytesInRange_serialize hnamed).1 (h (telemetryChecks_serialize hnamed))
    · rintro ⟨packet, hpacket⟩
      rcases deserializeTelemetryPacket_cases bytes {} with hfails | ⟨packet', -, hnamed, rfl⟩
      · simp [hfails] at hpacket
      · exact ⟨packet', (commandBytesInRange_serialize hnamed).1 (h (telemetryChecks_serialize hnamed)), rfl⟩
    · rintro ⟨packet, hrange, rfl⟩
      exact ⟨packet, deserializeTelemetryPacket_serialize hrange.lastFault {}⟩

/-- a packet with command id 200 and command status 99 -/
def outOfRangePacket : TelemetryPacket := { sequenceNumber := 1, lastCommandId := 200, lastCommandStatus := 99 }

/-- it is accepted as it stands -/
theorem telemetry_fields_unchecked :
    deserializeTelemetryPacket (serializeTelemetryPacket outOfRangePacket) {} = some (true, outOfRangePacket) ∧
      ¬ InRange outOfRangePacket ∧ ¬ DecodesInRange (serializeTelemetryPacket outOfRangePacket) := by
  have hdecoded := @deserializeTelemetryPacket_serialize outOfRangePacket rfl {}
  have hrange : ¬ InRange outOfRangePacket := fun h => absurd h.lastCommandId (by decide)
  exact ⟨hdecoded, hrange, fun h => hrange (h.1 {} outOfRangePacket hdecoded)⟩

end AstraFsw.Wire
