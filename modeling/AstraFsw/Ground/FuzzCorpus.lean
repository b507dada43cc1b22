/-
The fuzzer of the command decoder and its seeds: `LLVMFuzzerTestOneInput` of `fsw/fuzz/fuzz_command_packet.cpp`, and
`command_packet` of `tools/generate_command_fuzz_corpus.py`, which writes packets with any magic, version and check.

The target aborts when one of its own four checks fails. The generator's `struct.pack` refuses an integer that is out of
its field's range; its check is the loop that the other tools have.

- `llvmFuzzerTestOneInput_returns`: no string makes the target abort or throw;
- `commandPacket_frame`: the seed is the frame of its fields, with a check that is right exactly when it was asked for;
- `fuzz_corpus_coverage`: on which seeds the target goes past the decoder, and what it decodes there.
-/
import AstraFsw.Ground.Protocol

namespace AstraFsw.FuzzCorpus

open Ground (ToolError ok_bind)
open Ground.SendCommand (structPack)
open PackedStruct Wire

/-! ## The target -/

/-- how a run of the target ends -/
inductive Run where
  /-- `invariant_failure` -/
  | aborted
  /-- an exception of `bytes.at` -/
  | thrown
  | returned (code : ℤ)
deriving DecidableEq, Repr

def packetsEqual (left right : CommandPacket) : Bool :=
  left.sequenceNumber == right.sequenceNumber && left.timestampMs == right.timestampMs &&
    left.commandId == right.commandId && left.argument == right.argument

def sentinel : CommandPacket :=
  { sequenceNumber := 0xA5A5A5A5, timestampMs := 0x0102030405060708, commandId := .clearFault, argument := 0x5A5A5A5A }

/-- the last switch decodes the argument of SET_MODE and INJECT_FAULT and drops the result -/
def llvmFuzzerTestOneInput (bytes : List UInt8) : Run :=
  match deserializeCommandPacket bytes sentinel with
  | none => .thrown
  | some (false, decoded) => if !packetsEqual decoded sentinel then .aborted else .returned 0
  | some (true, decoded) =>
    if bytes.length ≠ commandPacketSizeBytes then .aborted
    else
      let canonicalBytes := serializeCommandPacket decoded
      if canonicalBytes.length ≠ commandPacketSizeBytes then .aborted
      else
        match deserializeCommandPacket canonicalBytes {} with
        | none => .thrown
        | some (false, _) => .aborted
        | some (true, roundTrip) => if !packetsEqual decoded roundTrip then .aborted else .returned 0

theorem packetsEqual_iff {left right : CommandPacket} : packetsEqual left right = true ↔ left = right := by
  unfold packetsEqual
  cases left
  cases right
  simp [and_assoc]

/-- **No string makes the target abort or throw.** -/
theorem llvmFuzzerTestOneInput_returns (bytes : List UInt8) : llvmFuzzerTestOneInput bytes = .returned 0 := by
  have hrefl (packet : CommandPacket) : packetsEqual packet packet = true := packetsEqual_iff.2 rfl
  unfold llvmFuzzerTestOneInput
  rcases deserializeCommandPacket_cases bytes sentinel with hfails | ⟨packet, hdecoded, hid, hbytes⟩
  · rw [hfails]
    simp [hrefl]
  · have hlen : (serializeCommandPacket packet).length = commandPacketSizeBytes := length_serializeCommandPacket packet
    rw [hdecoded]
    simp [← hbytes, hlen, deserializeCommandPacket_serialize hid, hrefl]

/-! ## The seeds -/

def commandMagic : ℤ := 0x434D4453

def commandVersion : ℤ := 1

/-- the keyword arguments of `command_packet`, with their defaults -/
structure Seed where
  sequence : ℤ
  timestampMs : ℤ
  commandId : ℤ
  argument : ℤ
  magic : ℤ := commandMagic
  version : ℤ := commandVersion
  validCrc : Bool := true
deriving DecidableEq, Repr

def commandPacket (seed : Seed) : Except ToolError (List UInt8) := do
  let withoutCrc ← structPack "<IHIQHI"
    [seed.magic, seed.version, seed.sequence, seed.timestampMs, seed.commandId, seed.argument]
  let crc := Ground.crc16Ccitt withoutCrc
  let crc := if !seed.validCrc then crc ^^^ 0x0001 else crc
  let trailer ← structPack "<H" [(crc : ℤ)]
  return withoutCrc ++ trailer

namespace Seed

variable (seed : Seed)

/-- every integer is in its field's range -/
structure Fits : Prop where
  magic : 0 ≤ seed.magic ∧ seed.magic < 2 ^ 32
  version : 0 ≤ seed.version ∧ seed.version < 2 ^ 16
  sequence : 0 ≤ seed.sequence ∧ seed.sequence < 2 ^ 32
  timestampMs : 0 ≤ seed.timestampMs ∧ seed.timestampMs < 2 ^ 64
  commandId : 0 ≤ seed.commandId ∧ seed.commandId < 2 ^ 16
  argument : 0 ≤ seed.argument ∧ seed.argument < 2 ^ 32

/-- the decoder has nothing to object to -/
structure WellFormed : Prop where
  magic : seed.magic = commandMagic
  version : seed.version = commandVersion
  commandId : seed.commandId < 5
  crc : seed.validCrc = true

/-- the packet carries the seed's integers -/
structure Carries (packet : CommandPacket) : Prop where
  sequenceNumber : (packet.sequenceNumber.toNat : ℤ) = seed.sequence
  timestampMs : (packet.timestampMs.toNat : ℤ) = seed.timestampMs
  commandId : (packet.commandId.toRaw.toNat : ℤ) = seed.commandId
  argument : (packet.argument.toNat : ℤ) = seed.argument

/-- the seed's integers as the fields of a frame -/
def raw : RawCommand :=
  (UInt32.ofNat seed.magic.toNat, UInt16.ofNat seed.version.toNat, UInt32.ofNat seed.sequence.toNat,
    UInt64.ofNat seed.timestampMs.toNat, UInt16.ofNat seed.commandId.toNat, UInt32.ofNat seed.argument.toNat)

/-- the check that is written behind the fields -/
def trailer : UInt16 :=
  let crc := commandCrc16Ccitt (commandFields.encode seed.raw)
  if seed.validCrc then crc else crc ^^^ 1

end Seed

/-! ## Packing -/

theorem uint16_cast {v : ℤ} (h : 0 ≤ v ∧ v < 2 ^ 16) : ((UInt16.ofNat v.toNat).toNat : ℤ) = v := by
  have hlt : v.toNat < 2 ^ 16 := by omega
  rw [UInt16.toNat_ofNat_of_lt' hlt]
  exact Int.toNat_of_nonneg h.1

theorem uint32_cast {v : ℤ} (h : 0 ≤ v ∧ v < 2 ^ 32) : ((UInt32.ofNat v.toNat).toNat : ℤ) = v := by
  have hlt : v.toNat < 2 ^ 32 := by omega
  rw [UInt32.toNat_ofNat_of_lt' hlt]
  exact Int.toNat_of_nonneg h.1

theorem uint64_cast {v : ℤ} (h : 0 ≤ v ∧ v < 2 ^ 64) : ((UInt64.ofNat v.toNat).toNat : ℤ) = v := by
  have hlt : v.toNat < 2 ^ 64 := by omega
  rw [UInt64.toNat_ofNat_of_lt' hlt]
  exact Int.toNat_of_nonneg h.1

theorem format_fields :
    format "<IHIQHI" = some [.unsigned 4, .unsigned 2, .unsigned 4, .unsigned 8, .unsigned 2, .unsigned 4] := rfl

/-- `struct` writes the fields of a frame -/
theorem structPack_raw (raw : RawCommand) :
    structPack "<IHIQHI" [(raw.1.toNat : ℤ), raw.2.1.toNat, raw.2.2.1.toNat, raw.2.2.2.1.toNat, raw.2.2.2.2.1.toNat,
      raw.2.2.2.2.2.toNat] = .ok (commandFields.encode raw) := by
  obtain ⟨magic, version, sequenceNumber, timestampMs, commandId, argument⟩ := raw
  rw [structPack, format_fields, Option.bind_some]
  rw [pack_cons magic.toNat_lt, pack_cons version.toNat_lt, pack_cons sequenceNumber.toNat_lt,
    pack_cons timestampMs.toNat_lt, pack_cons commandId.toNat_lt, pack_cons argument.toNat_lt, pack_nil]
  simp only [Option.map_some, List.append_nil, commandFields, FixedCodec.encode_prod]
  simp only [u16, u32, u64, FixedCodec.littleEndian]

theorem fits_of_structPack {seed : Seed} {bytes : List UInt8}
    (h : structPack "<IHIQHI"
      [seed.magic, seed.version, seed.sequence, seed.timestampMs, seed.commandId, seed.argument] = .ok bytes) :
    seed.Fits := by
  rw [structPack, format_fields, Option.bind_some] at h
  split at h
  next packed hpacked =>
    simp only [pack_unsigned_eq_some, pack_nil] at hpacked
    obtain ⟨hmagic, _, ⟨hversion, _, ⟨hsequence, _, ⟨htimestamp, _, ⟨hid, _, ⟨hargument, -⟩, -⟩, -⟩, -⟩, -⟩, -⟩ :=
      hpacked
    exact ⟨hmagic, hversion, hsequence, htimestamp, hid, hargument⟩
  next => cases h

/-- the generator's check, with its low bit flipped on request -/
theorem crc_trailer (seed : Seed) :
    (if !seed.validCrc then Ground.crc16Ccitt (commandFields.encode seed.raw) ^^^ 0x0001
      else Ground.crc16Ccitt (commandFields.encode seed.raw)) = seed.trailer.toNat := by
  rw [Ground.crc16Ccitt_eq, Seed.trailer, commandCrc16Ccitt]
  cases seed.validCrc with
  | true => rfl
  | false => exact (UInt16.toNat_xor _ 1).symm

theorem structPack_seed {seed : Seed} (h : seed.Fits) :
    structPack "<IHIQHI" [seed.magic, seed.version, seed.sequence, seed.timestampMs, seed.commandId, seed.argument] =
      .ok (commandFields.encode seed.raw) := by
  rw [← structPack_raw seed.raw]
  simp only [Seed.raw, uint32_cast h.magic, uint16_cast h.version, uint32_cast h.sequence, uint64_cast h.timestampMs,
    uint16_cast h.commandId, uint32_cast h.argument]

/-- the two calls of `struct.pack` that succeed -/
theorem commandPacket_eq {seed : Seed} {withoutCrc trailer : List UInt8}
    (hfields : structPack "<IHIQHI"
      [seed.magic, seed.version, seed.sequence, seed.timestampMs, seed.commandId, seed.argument] = .ok withoutCrc)
    (htrailer : structPack "<H" [((if !seed.validCrc then Ground.crc16Ccitt withoutCrc ^^^ 0x0001
      else Ground.crc16Ccitt withoutCrc : ℕ) : ℤ)] = .ok trailer) :
    commandPacket seed = .ok (withoutCrc ++ trailer) := by
  rw [commandPacket, hfields, ok_bind]
  dsimp only
  rw [htrailer]
  rfl

/-- **The seed is the frame of its fields.** -/
theorem commandPacket_frame {seed : Seed} (h : seed.Fits) :
    commandPacket seed = .ok (commandFrame.encode (seed.raw, seed.trailer)) := by
  have htrailer := Ground.SendCommand.structPack_trailer seed.trailer
  rw [← crc_trailer] at htrailer
  rw [commandFrame, FixedCodec.encode_prod]
  exact commandPacket_eq (structPack_seed h) htrailer

/-! ## Decoding -/

/-- flipping the low bit makes the check wrong -/
theorem trailer_eq_iff (seed : Seed) :
    seed.trailer = commandCrc16Ccitt (commandFields.encode seed.raw) ↔ seed.validCrc = true := by
  rw [Seed.trailer]
  cases seed.validCrc with
  | true => simp
  | false =>
    have hflip (crc : UInt16) : crc ^^^ 1 ≠ crc := by
      intro h
      have hone : crc ^^^ 1 = crc ^^^ 0 := h.trans UInt16.xor_zero.symm
      exact absurd ((UInt16.xor_right_inj crc).1 hone) (by decide)
    simp [hflip]

theorem mem_commandIdValues_iff (raw : UInt16) : raw ∈ commandIdValues ↔ raw.toNat < 5 := by
  simp only [commandIdValues, List.mem_cons, List.not_mem_nil, or_false, ← UInt16.toNat_inj]
  simp only [UInt16.reduceToNat]
  omega

/-- the decoder's four tests, on the seed's integers -/
theorem wellFormed_iff {seed : Seed} (h : seed.Fits) :
    (seed.trailer = commandCrc16Ccitt (commandFields.encode seed.raw) ∧ seed.raw.1 = Wire.commandMagic ∧
      seed.raw.2.1 = Wire.commandVersion ∧ isValidCommandId seed.raw.2.2.2.2.1 = true) ↔ seed.WellFormed := by
  have hmagic : seed.raw.1 = Wire.commandMagic ↔ seed.magic = commandMagic := by
    have hcast : (seed.raw.1.toNat : ℤ) = seed.magic := uint32_cast h.magic
    have hvalue : (Wire.commandMagic.toNat : ℤ) = commandMagic := rfl
    rw [← UInt32.toNat_inj, ← hcast, ← hvalue, Nat.cast_inj]
  have hversion : seed.raw.2.1 = Wire.commandVersion ↔ seed.version = commandVersion := by
    have hcast : (seed.raw.2.1.toNat : ℤ) = seed.version := uint16_cast h.version
    have hvalue : (Wire.commandVersion.toNat : ℤ) = commandVersion := rfl
    rw [← UInt16.toNat_inj, ← hcast, ← hvalue, Nat.cast_inj]
  have hid : isValidCommandId seed.raw.2.2.2.2.1 = true ↔ seed.commandId < 5 := by
    rw [isValidCommandId_iff, mem_commandIdValues_iff, ← uint16_cast h.commandId]
    exact_mod_cast Iff.rfl
  rw [trailer_eq_iff, hmagic, hversion, hid]
  exact ⟨fun ⟨hcrc, hm, hv, hi⟩ => ⟨hm, hv, hi, hcrc⟩, fun ⟨hm, hv, hi, hcrc⟩ => ⟨hcrc, hm, hv, hi⟩⟩

/-- the decoder on a seed -/
theorem deserialize_seed {seed : Seed} (h : seed.Fits) (packetOut : CommandPacket) :
    (seed.WellFormed → ∃ packet, deserializeCommandPacket (commandFrame.encode (seed.raw, seed.trailer)) packetOut =
      some (true, packet) ∧ seed.Carries packet) ∧
    (¬ seed.WellFormed → deserializeCommandPacket (commandFrame.encode (seed.raw, seed.trailer)) packetOut =
      some (false, packetOut)) := by
  have hlen : (commandFrame.encode (seed.raw, seed.trailer)).length = 26 := commandFrame.length_encode _
  rw [deserializeCommandPacket_of_frame hlen (commandFrame.at_encode _) packetOut, ← wellFormed_iff h]
  refine ⟨?_, ?_⟩
  · intro hok
    refine ⟨_, congrArg some (if_pos hok), ?_⟩
    refine ⟨uint32_cast h.sequence, uint64_cast h.timestampMs, ?_, uint32_cast h.argument⟩
    rw [CommandId.toRaw_ofRaw]
    exact uint16_cast h.commandId
  · intro hbad
    exact congrArg some (if_neg hbad)

/-- **The seeds and the target.**
- the target returns 0 on every string, so none of its checks ever fails;
- the generator writes a seed exactly when every integer fits its field, always of 26 bytes;
- the target gets past the decoder on that seed exactly when magic and version are the protocol's, the id is one of the
  five and the check was not spoilt, and there it has decoded exactly the integers of the seed; on the other seeds the
  sentinel is left as it was. -/
theorem fuzz_corpus_coverage :
    (∀ bytes, llvmFuzzerTestOneInput bytes = .returned 0) ∧
    (∀ seed : Seed, (∃ bytes, commandPacket seed = .ok bytes) ↔ seed.Fits) ∧
    ∀ (seed : Seed) (bytes : List UInt8), commandPacket seed = .ok bytes →
      bytes.length = 26 ∧
      (seed.WellFormed → ∃ packet, deserializeCommandPacket bytes sentinel = some (true, packet) ∧
        seed.Carries packet) ∧
      (¬ seed.WellFormed → deserializeCommandPacket bytes sentinel = some (false, sentinel)) := by
  have hfits (seed : Seed) (bytes : List UInt8) (h : commandPacket seed = .ok bytes) : seed.Fits := by
    cases hpacked : structPack "<IHIQHI"
        [seed.magic, seed.version, seed.sequence, seed.timestampMs, seed.commandId, seed.argument] with
    | ok packed => exact fits_of_structPack hpacked
    | error error =>
      rw [commandPacket, hpacked] at h
      cases h
  refine ⟨llvmFuzzerTestOneInput_returns, ?_, ?_⟩
  · intro seed
    exact ⟨fun ⟨bytes, h⟩ => hfits seed bytes h, fun h => ⟨_, commandPacket_frame h⟩⟩
  · intro seed bytes h
    have hfit := hfits seed bytes h
    obtain rfl := Except.ok.inj ((commandPacket_frame hfit).symm.trans h)
    exact ⟨commandFrame.length_encode _, deserialize_seed hfit sentinel⟩

/-- the seed with an unknown command id -/
def badCommandId : Seed := { sequence := 8, timestampMs := 8000, commandId := 99, argument := 0 }

theorem fuzz_corpus_coverage_badCommandId :
    ∃ bytes, commandPacket badCommandId = .ok bytes ∧ deserializeCommandPacket bytes sentinel = some (false, sentinel) := by
  have hfits : badCommandId.Fits :=
    ⟨by decide, by decide, by decide, by decide, by decide, by decide⟩
  obtain ⟨bytes, hbytes⟩ := (fuzz_corpus_coverage.2.1 badCommandId).2 hfits
  refine ⟨bytes, hbytes, (fuzz_corpus_coverage.2.2 badCommandId bytes hbytes).2.2 ?_⟩
  intro h
  exact absurd h.commandId (by decide)

end AstraFsw.FuzzCorpus
