/-
The command packet on the wire: `serialize_command_packet` and `deserialize_command_packet`
(`fsw/src/command_packet.cpp`).

The 24 bytes before the check are the product of the packet's fields (`commandFields`), so every string of that length
is the encoding of one tuple of raw fields. `deserialize` takes the caller's packet as `packetOut` and returns what it
holds afterwards beside the result; `none` would be an exception from `bytes.at`, and none is ever thrown.

- `deserializeCommandPacket_of_frame`: the decoder on the encoding of any raw fields and any check;
- `acceptableCommand_iff`: the strings that are accepted;
- `command_codec_bijective`: the codec is a bijection onto the accepted strings, and which strings these are.
-/
import AstraFsw.CommandPacket
import AstraFsw.Wire.Crc16

namespace AstraFsw.Wire

/-- ASCII: CMDS -/
def commandMagic : UInt32 := 0x434D4453

def commandVersion : UInt16 := 1

def commandPacketSizeBytes : ℕ := 26

def isValidCommandId (value : UInt16) : Bool :=
  match CommandId.ofRaw value with
  | .other _ => false
  | _ => true

def serializeCommandPacket (packet : CommandPacket) : List UInt8 :=
  let bytes := appendU32 [] commandMagic
  let bytes := appendU16 bytes commandVersion
  let bytes := appendU32 bytes packet.sequenceNumber
  let bytes := appendU64 bytes packet.timestampMs
  let bytes := appendU16 bytes packet.commandId.toRaw
  let bytes := appendU32 bytes packet.argument
  let crc := commandCrc16Ccitt bytes
  appendU16 bytes crc

def deserializeCommandPacket (bytes : List UInt8) (packetOut : CommandPacket) : Option (Bool × CommandPacket) :=
  if bytes.length ≠ commandPacketSizeBytes then some (false, packetOut)
  else do
    let withoutCrc := bytes.take (bytes.length - 2)
    let expectedCrc := commandCrc16Ccitt withoutCrc
    let (actualCrc, _) ← readU16 bytes (bytes.length - 2)
    if actualCrc ≠ expectedCrc then some (false, packetOut)
    else do
      let (magic, offset) ← readU32 bytes 0
      let (version, offset) ← readU16 bytes offset
      if magic ≠ commandMagic then some (false, packetOut)
      else if version ≠ commandVersion then some (false, packetOut)
      else do
        let (sequenceNumber, offset) ← readU32 bytes offset
        let (timestampMs, offset) ← readU64 bytes offset
        let (rawCommandId, offset) ← readU16 bytes offset
        if !isValidCommandId rawCommandId then some (false, packetOut)
        else do
          let (argument, _) ← readU32 bytes offset
          some (true, { sequenceNumber, timestampMs, commandId := CommandId.ofRaw rawCommandId, argument })

/-! ## Frames -/

/-- magic, version, sequence, timestamp, raw command id, argument -/
abbrev RawCommand : Type := UInt32 × UInt16 × UInt32 × UInt64 × UInt16 × UInt32

def commandFields : FixedCodec UInt8 RawCommand :=
  u32.prod (u16.prod (u32.prod (u64.prod (u16.prod u32))))

/-- the fields and the check behind them -/
def commandFrame : FixedCodec UInt8 (RawCommand × UInt16) := commandFields.prod u16

/-- the raw fields of a packet -/
def rawCommand (packet : CommandPacket) : RawCommand :=
  (commandMagic, commandVersion, packet.sequenceNumber, packet.timestampMs, packet.commandId.toRaw, packet.argument)

theorem serializeCommandPacket_eq (packet : CommandPacket) :
    serializeCommandPacket packet =
      commandFrame.encode (rawCommand packet, commandCrc16Ccitt (commandFields.encode (rawCommand packet))) := by
  simp only [serializeCommandPacket, appendU32_eq, appendU16_eq, appendU64_eq, commandFrame, commandFields, rawCommand,
    FixedCodec.encode_prod, List.nil_append, List.append_assoc]

/-- the decoder's result on the raw fields and the check -/
def decodeCommandFrame (fields : RawCommand) (crc : UInt16) (packetOut : CommandPacket) : Bool × CommandPacket :=
  let (magic, version, sequenceNumber, timestampMs, rawCommandId, argument) := fields
  if crc = commandCrc16Ccitt (commandFields.encode fields) ∧ magic = commandMagic ∧ version = commandVersion ∧
      isValidCommandId rawCommandId then
    (true, { sequenceNumber, timestampMs, commandId := CommandId.ofRaw rawCommandId, argument })
  else (false, packetOut)

/-- the fields of a frame, at their offsets -/
theorem reads_of_commandFrame {bytes : List UInt8} {magic sequenceNumber argument : UInt32} {timestampMs : UInt64}
    {version rawCommandId crc : UInt16}
    (h : commandFrame.At bytes 0 ((magic, version, sequenceNumber, timestampMs, rawCommandId, argument), crc)) :
    (bytes.take 24 = commandFields.encode (magic, version, sequenceNumber, timestampMs, rawCommandId, argument) ∧
      readU16 bytes 24 = some (crc, 26)) ∧
    readU32 bytes 0 = some (magic, 4) ∧ readU16 bytes 4 = some (version, 6) ∧
    readU32 bytes 6 = some (sequenceNumber, 10) ∧ readU64 bytes 10 = some (timestampMs, 18) ∧
    readU16 bytes 18 = some (rawCommandId, 20) ∧ readU32 bytes 20 = some (argument, 24) := by
  obtain ⟨hfields, hcrc⟩ := (commandFields.at_prod_iff u16).1 h
  have htake := hfields.take_eq
  simp only [commandFields, FixedCodec.at_prod_iff] at hfields
  obtain ⟨hmagic, hversion, hsequence, htimestamp, hid, hargument⟩ := hfields
  simp only [readU16_eq, readU32_eq, readU64_eq]
  exact ⟨⟨htake, hcrc.read⟩, hmagic.read, hversion.read, hsequence.read, htimestamp.read, hid.read, hargument.read⟩

/-- **The decoder on a frame.** -/
theorem deserializeCommandPacket_of_frame {bytes : List UInt8} (hlen : bytes.length = 26)
    {fields : RawCommand} {crc : UInt16} (h : commandFrame.At bytes 0 (fields, crc)) (packetOut : CommandPacket) :
    deserializeCommandPacket bytes packetOut = some (decodeCommandFrame fields crc packetOut) := by
  obtain ⟨magic, version, sequenceNumber, timestampMs, rawCommandId, argument⟩ := fields
  obtain ⟨⟨htake, hcrc⟩, hmagic, hversion, hsequence, htimestamp, hid, hargument⟩ := reads_of_commandFrame h
  unfold deserializeCommandPacket decodeCommandFrame
  simp only [hlen, commandPacketSizeBytes, Nat.reduceSub, htake, hcrc, hmagic, hversion, hsequence, htimestamp, hid,
    hargument, Option.bind_eq_bind, Option.bind_some]
  generalize commandCrc16Ccitt _ = expectedCrc
  by_cases hok : crc = expectedCrc
  · by_cases hm : magic = commandMagic
    · by_cases hv : version = commandVersion
      · by_cases hi : isValidCommandId rawCommandId = true <;> simp [hok, hm, hv, hi]
      · simp [hok, hm, hv]
    · simp [hok, hm]
  · simp [hok]

/-! ## The codec -/

theorem isValidCommandId_iff (raw : UInt16) : isValidCommandId raw = true ↔ raw ∈ commandIdValues := by
  unfold isValidCommandId
  by_cases h : raw ∈ commandIdValues
  · refine iff_of_true ?_ h
    simp only [commandIdValues, List.mem_cons, List.not_mem_nil, or_false] at h
    rcases h with rfl | rfl | rfl | rfl | rfl <;> rfl
  · rw [CommandId.ofRaw_of_notMem h]
    simpa using h

theorem length_serializeCommandPacket (packet : CommandPacket) : (serializeCommandPacket packet).length = 26 := by
  rw [serializeCommandPacket_eq, commandFrame.length_encode]
  rfl

/-- a serialized packet is decoded to itself -/
theorem deserializeCommandPacket_serialize {packet : CommandPacket} (h : packet.commandId.toRaw ∈ commandIdValues)
    (packetOut : CommandPacket) :
    deserializeCommandPacket (serializeCommandPacket packet) packetOut = some (true, packet) := by
  have hat := commandFrame.at_encode (rawCommand packet, commandCrc16Ccitt (commandFields.encode (rawCommand packet)))
  rw [← serializeCommandPacket_eq] at hat
  rw [deserializeCommandPacket_of_frame (length_serializeCommandPacket packet) hat]
  simp [decodeCommandFrame, rawCommand, (isValidCommandId_iff _).2 h]

/-- what is accepted is the serialization of what it decodes to -/
theorem deserializeCommandPacket_cases (bytes : List UInt8) (packetOut : CommandPacket) :
    deserializeCommandPacket bytes packetOut = some (false, packetOut) ∨
      ∃ packet, deserializeCommandPacket bytes packetOut = some (true, packet) ∧
        packet.commandId.toRaw ∈ commandIdValues ∧ serializeCommandPacket packet = bytes := by
  by_cases hlen : bytes.length = 26
  · obtain ⟨⟨⟨magic, version, sequenceNumber, timestampMs, rawCommandId, argument⟩, crc⟩, hat⟩ :=
      commandFrame.exists_at hlen
    rw [deserializeCommandPacket_of_frame hlen hat]
    unfold decodeCommandFrame
    simp only
    split_ifs with hok
    · obtain ⟨rfl, rfl, rfl, hid⟩ := hok
      refine Or.inr ⟨_, rfl, ?_, ?_⟩
      · rw [CommandId.toRaw_ofRaw]
        exact (isValidCommandId_iff rawCommandId).1 hid
      · rw [serializeCommandPacket_eq, hat.eq_encode hlen, rawCommand, CommandId.toRaw_ofRaw]
    · exact Or.inl rfl
  · exact Or.inl (by simp [deserializeCommandPacket, commandPacketSizeBytes, hlen])

/-- the strings that are accepted -/
structure AcceptableCommand (bytes : List UInt8) : Prop where
  length : bytes.length = 26
  crc : readU16 bytes 24 = some (commandCrc16Ccitt (bytes.take 24), 26)
  magic : readU32 bytes 0 = some (commandMagic, 4)
  version : readU16 bytes 4 = some (commandVersion, 6)
  commandId : ∃ raw ∈ commandIdValues, readU16 bytes 18 = some (raw, 20)

theorem acceptableCommand_iff (bytes : List UInt8) (packetOut : CommandPacket) :
    (∃ packet, deserializeCommandPacket bytes packetOut = some (true, packet)) ↔ AcceptableCommand bytes := by
  by_cases hlen : bytes.length = 26
  · obtain ⟨⟨⟨magic, version, sequenceNumber, timestampMs, rawCommandId, argument⟩, crc⟩, hat⟩ :=
      commandFrame.exists_at hlen
    obtain ⟨⟨htake, hcrc⟩, hmagic, hversion, -, -, hid, -⟩ := reads_of_commandFrame hat
    rw [deserializeCommandPacket_of_frame hlen hat]
    unfold decodeCommandFrame
    simp only
    constructor
    · intro h
      obtain ⟨packet, hpacket⟩ := h
      split_ifs at hpacket with hok
      · obtain ⟨rfl, rfl, rfl, hvalid⟩ := hok
        rw [← htake] at hcrc
        exact ⟨hlen, hcrc, hmagic, hversion, rawCommandId, (isValidCommandId_iff _).1 hvalid, hid⟩
      · simp at hpacket
    · intro h
      have hcrc' := hcrc.symm.trans h.crc
      have hmagic' := hmagic.symm.trans h.magic
      have hversion' := hversion.symm.trans h.version
      obtain ⟨raw, hraw, hread⟩ := h.commandId
      have hid' := hid.symm.trans hread
      simp only [Option.some.injEq, Prod.mk.injEq, and_true] at hcrc' hmagic' hversion' hid'
      rw [← htake, if_pos ⟨hcrc', hmagic', hversion', (isValidCommandId_iff _).2 (hid' ▸ hraw)⟩]
      exact ⟨_, rfl⟩
  · refine iff_of_false ?_ fun h => hlen h.length
    simp [deserializeCommandPacket, commandPacketSizeBytes, hlen]

/-- **The command codec is a bijection onto the accepted packets.**
- a packet with an enumerated id is encoded in 26 bytes, which decode to exactly that packet;
- a string of any length either fails and leaves the caller's packet, or decodes to a packet whose encoding it is;
- it is decoded exactly when it has 26 bytes, the check of the first 24 is its little-endian trailer, magic and version
  match and the raw command id is one of the five enumerators. -/
theorem command_codec_bijective :
    (∀ packet packetOut, packet.commandId.toRaw ∈ commandIdValues →
      (serializeCommandPacket packet).length = 26 ∧
        deserializeCommandPacket (serializeCommandPacket packet) packetOut = some (true, packet)) ∧
    (∀ bytes packetOut, deserializeCommandPacket bytes packetOut = some (false, packetOut) ∨
      ∃ packet, deserializeCommandPacket bytes packetOut = some (true, packet) ∧
        serializeCommandPacket packet = bytes) ∧
    ∀ bytes packetOut, (∃ packet, deserializeCommandPacket bytes packetOut = some (true, packet)) ↔
      AcceptableCommand bytes := by
  refine ⟨?_, ?_, acceptableCommand_iff⟩
  · intro packet packetOut h
    exact ⟨length_serializeCommandPacket packet, deserializeCommandPacket_serialize h packetOut⟩
  · intro bytes packetOut
    rcases deserializeCommandPacket_cases bytes packetOut with hfails | ⟨packet, hdecoded, -, hbytes⟩
    · exact Or.inl hfails
    · exact Or.inr ⟨packet, hdecoded, hbytes⟩

/-- SET_MODE to NOMINAL -/
def setModeNominal : CommandPacket := { sequenceNumber := 1, commandId := .setMode, argument := 1 }

theorem command_codec_bijective_setMode :
    deserializeCommandPacket (serializeCommandPacket setModeNominal) {} = some (true, setModeNominal) :=
  (command_codec_bijective.1 setModeNominal {} (by decide)).2

end AstraFsw.Wire
