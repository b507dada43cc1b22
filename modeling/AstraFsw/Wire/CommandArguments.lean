/-
How exactly the 32-bit command argument is interpreted.

`command_argument_to_mode` and `command_argument_to_fault` cast the argument to the 8-bit `Mode` and the 16-bit
`FaultCode` before they compare it with the enumerators, so the bits above are never read. An argument that does not fit
and whose low part is an enumerator is taken for that enumerator: SET_MODE with 260 enters SAFE.
- `modeArgument_exact_iff`, `faultArgument_exact_iff`: on which arguments the decoders are exact;
- `interpretsExactly_iff`: the processor is exact on the same arguments, in every state.
-/
import AstraFsw.CommandProcessor
import AstraFsw.Core.Machine
import AstraFsw.Wire.CommandCodec

namespace AstraFsw.Wire

open CommandProcessor (Step)

/-! ## The decoders -/

/-- the argument fits in 8 bits, or its low byte is not a mode -/
def ModeArgumentExact (argument : UInt32) : Prop := argument.toNat < 2 ^ 8 ∨ 8 ≤ argument.toNat % 2 ^ 8

/-- the argument fits in 16 bits, or its low half word is not an enumerated fault -/
def FaultArgumentExact (argument : UInt32) : Prop :=
  argument.toNat < 2 ^ 16 ∨ argument.toUInt16 ∉ faultCodeValues

theorem toRaw_toNat_lt (m : Mode) : m.toRaw.toNat < 8 := by cases m <;> decide

/-- every value below 8 is a mode -/
theorem exists_mode_of_lt {raw : UInt8} (h : raw.toNat < 8) : ∃ m : Mode, m.toRaw = raw := by
  obtain ⟨n, hn, hraw⟩ : ∃ n, n < 8 ∧ raw = UInt8.ofNat n := ⟨raw.toNat, h, (UInt8.ofNat_toNat).symm⟩
  subst hraw
  interval_cases n
  exacts [⟨.boot, rfl⟩, ⟨.nominal, rfl⟩, ⟨.degradedSensor, rfl⟩, ⟨.degradedPayload, rfl⟩, ⟨.safe, rfl⟩,
    ⟨.recovery, rfl⟩, ⟨.standby, rfl⟩, ⟨.test, rfl⟩]

theorem commandArgumentToMode_toNat {argument : UInt32} {m : Mode} (h : commandArgumentToMode argument = some m) :
    m.toRaw.toNat = argument.toNat % 2 ^ 8 := by
  rw [commandArgumentToMode_eq_some.1 h, UInt32.toNat_toUInt8]

/-- **Modes.** The decoder reads the whole argument exactly when the argument fits or names no mode. -/
theorem modeArgument_exact_iff (argument : UInt32) :
    (∀ m, commandArgumentToMode argument = some m → argument.toNat = m.toRaw.toNat) ↔ ModeArgumentExact argument := by
  refine ⟨?_, ?_⟩
  · intro h
    by_contra hinexact
    obtain ⟨hwide, hlow⟩ := not_or.1 hinexact
    obtain ⟨m, hm⟩ := @exists_mode_of_lt argument.toUInt8 (by rw [UInt32.toNat_toUInt8]; omega)
    have hexact := h m (commandArgumentToMode_eq_some.2 hm)
    have hlt := toRaw_toNat_lt m
    omega
  · intro h m hm
    have hraw := commandArgumentToMode_toNat hm
    have hlt := toRaw_toNat_lt m
    rcases h with hfits | hlow
    · rw [hraw, Nat.mod_eq_of_lt hfits]
    · omega

theorem commandArgumentToFault_eq_some {argument : UInt32} {f : FaultCode} :
    commandArgumentToFault argument = some f ↔ f.isNamed = true ∧ f.toRaw = argument.toUInt16 := by
  rw [commandArgumentToFault_eq]
  refine ⟨?_, ?_⟩
  · intro h
    split_ifs at h with hnamed
    obtain rfl := Option.some.inj h
    exact ⟨hnamed, FaultCode.toRaw_ofRaw _⟩
  · rintro ⟨hnamed, hraw⟩
    rw [← hraw, FaultCode.ofRaw_toRaw, if_pos hnamed]

theorem isNamed_iff_mem (f : FaultCode) : f.isNamed = true ↔ f.toRaw ∈ faultCodeValues := by
  cases f with
  | other raw => exact ⟨fun h => absurd h (by simp [FaultCode.isNamed]), fun h => absurd h raw.2⟩
  | _ => decide

/-- **Faults.** The same for the 16-bit codes. -/
theorem faultArgument_exact_iff (argument : UInt32) :
    (∀ f, commandArgumentToFault argument = some f → argument.toNat = f.toRaw.toNat) ↔
      FaultArgumentExact argument := by
  refine ⟨?_, ?_⟩
  · intro h
    by_contra hinexact
    obtain ⟨hwide, hlow⟩ := not_or.1 hinexact
    have hraw := FaultCode.toRaw_ofRaw argument.toUInt16
    have hnamed : (FaultCode.ofRaw argument.toUInt16).isNamed = true := by
      rw [isNamed_iff_mem, hraw]
      exact not_not.1 hlow
    have hexact := h _ (commandArgumentToFault_eq_some.2 ⟨hnamed, hraw⟩)
    rw [hraw, UInt32.toNat_toUInt16] at hexact
    omega
  · intro h f hf
    obtain ⟨hnamed, hraw⟩ := commandArgumentToFault_eq_some.1 hf
    rcases h with hfits | hlow
    · rw [hraw, UInt32.toNat_toUInt16, Nat.mod_eq_of_lt hfits]
    · exact absurd (hraw ▸ (isNamed_iff_mem f).1 hnamed) hlow

/-! ## The processor -/

/-- the command is answered REJECTED_BAD_ARGUMENT, and mode, active fault and recovery counter stay -/
def RefusedUnchanged (c : CommandProcessor) (packet : CommandPacket) : Prop :=
  (c.process packet).1.status = .rejectedBadArgument ∧
    (c.process packet).2.modeManager.mode = c.modeManager.mode ∧ (c.process packet).2.lastFault = c.lastFault ∧
    (c.process packet).2.recoverySupervisor.failedAttempts = c.recoverySupervisor.failedAttempts

/-- the processor reads the whole argument of the command -/
structure InterpretsExactly (c : CommandProcessor) (packet : CommandPacket) : Prop where
  setMode : packet.commandId = .setMode → (c.process packet).1.status = .accepted →
    packet.argument.toNat = (c.process packet).1.resultingMode.toRaw.toNat
  injectFault : packet.commandId = .injectFault → (c.process packet).1.status = .accepted →
    packet.argument.toNat = (c.process packet).1.resultingFault.toRaw.toNat
  badMode : packet.commandId = .setMode → (∀ m : Mode, packet.argument.toNat ≠ m.toRaw.toNat) →
    RefusedUnchanged c packet
  badFault : packet.commandId = .injectFault →
    (∀ f : FaultCode, f.isNamed = true → packet.argument.toNat ≠ f.toRaw.toNat) → RefusedUnchanged c packet

section Process

variable {c : CommandProcessor} {packet : CommandPacket}

theorem refusedUnchanged_of_badMode (hid : packet.commandId = .setMode)
    (hm : commandArgumentToMode packet.argument = none) : RefusedUnchanged c packet := by
  unfold RefusedUnchanged CommandProcessor.process CommandProcessor.execute
  rw [hid]
  simp only [hm, and_self]

theorem refusedUnchanged_of_badFault (hid : packet.commandId = .injectFault)
    (hf : commandArgumentToFault packet.argument = none) : RefusedUnchanged c packet := by
  unfold RefusedUnchanged CommandProcessor.process CommandProcessor.execute
  rw [hid]
  simp only [hf, and_self]

/-- a decoded mode is not a bad argument, and is the mode an accepted command ends in -/
theorem process_of_mode (hid : packet.commandId = .setMode) {m : Mode}
    (hm : commandArgumentToMode packet.argument = some m) :
    (c.process packet).1.status ≠ .rejectedBadArgument ∧
      ((c.process packet).1.status = .accepted → (c.process packet).1.resultingMode = m) := by
  have hmode : (c.process packet).1.resultingMode = (c.process packet).2.modeManager.mode := rfl
  have hstep := CommandProcessor.process_step c packet
  rw [hmode]
  generalize (c.process packet).1.status = status at hstep ⊢
  generalize (c.process packet).2 = c' at hstep ⊢
  cases hstep with
  | move m' _ hm' _ =>
    obtain rfl := Option.some.inj (hm'.symm.trans hm)
    exact ⟨by simp, fun _ => rfl⟩
  | badMode _ hnone => exact absurd (hnone.symm.trans hm) (by simp)
  | idle hne => exact absurd hid hne
  | clear hid' => exact absurd (hid.symm.trans hid') (by simp)
  | badFault hid' _ => exact absurd (hid.symm.trans hid') (by simp)
  | inject _ hid' _ => exact absurd (hid.symm.trans hid') (by simp)
  | _ => exact ⟨by simp, fun h => absurd h (by simp)⟩

/-- a decoded fault is injected -/
theorem process_of_fault (hid : packet.commandId = .injectFault) {f : FaultCode}
    (hf : commandArgumentToFault packet.argument = some f) :
    (c.process packet).1.status = .accepted ∧ (c.process packet).1.resultingFault = f := by
  unfold CommandProcessor.process CommandProcessor.execute
  rw [hid]
  simp only [hf, true_and]
  rfl

/-- SET_MODE is interpreted as its decoder is -/
theorem setMode_exact_iff (hid : packet.commandId = .setMode) :
    InterpretsExactly c packet ↔
      ∀ m, commandArgumentToMode packet.argument = some m → packet.argument.toNat = m.toRaw.toNat := by
  refine ⟨?_, fun h => ⟨?_, ?_, ?_, ?_⟩⟩
  · intro h m hm
    by_contra hne
    -- the argument is no mode value at all, since its low byte decodes to `m` alone
    have hnone : ∀ m' : Mode, packet.argument.toNat ≠ m'.toRaw.toNat := by
      intro m' heq
      have hraw := commandArgumentToMode_toNat hm
      have hlt := toRaw_toNat_lt m'
      exact hne (by omega)
    exact (process_of_mode hid hm).1 (h.badMode hid hnone).1
  · intro _ haccepted
    cases hm : commandArgumentToMode packet.argument with
    | none => exact absurd (haccepted.symm.trans (refusedUnchanged_of_badMode (c := c) hid hm).1) (by simp)
    | some m => rw [(process_of_mode hid hm).2 haccepted, h m hm]
  · intro hid'
    exact absurd (hid.symm.trans hid') (by simp)
  · intro _ hnone
    refine refusedUnchanged_of_badMode hid ?_
    by_contra hsome
    obtain ⟨m, hm⟩ := Option.ne_none_iff_exists'.1 hsome
    exact hnone m (h m hm)
  · intro hid'
    exact absurd (hid.symm.trans hid') (by simp)

/-- INJECT_FAULT is interpreted as its decoder is -/
theorem injectFault_exact_iff (hid : packet.commandId = .injectFault) :
    InterpretsExactly c packet ↔
      ∀ f, commandArgumentToFault packet.argument = some f → packet.argument.toNat = f.toRaw.toNat := by
  refine ⟨?_, fun h => ⟨?_, ?_, ?_, ?_⟩⟩
  · intro h f hf
    have haccepted := process_of_fault (c := c) hid hf
    rw [h.injectFault hid haccepted.1, haccepted.2]
  · intro hid'
    exact absurd (hid.symm.trans hid') (by simp)
  · intro _ haccepted
    cases hf : commandArgumentToFault packet.argument with
    | none => exact absurd (haccepted.symm.trans (refusedUnchanged_of_badFault (c := c) hid hf).1) (by simp)
    | some f => rw [(process_of_fault hid hf).2, h f hf]
  · intro hid'
    exact absurd (hid.symm.trans hid') (by simp)
  · intro _ hnone
    refine refusedUnchanged_of_badFault hid ?_
    by_contra hsome
    obtain ⟨f, hf⟩ := Option.ne_none_iff_exists'.1 hsome
    exact hnone f (commandArgumentToFault_eq_some.1 hf).1 (h f hf)

end Process

/-- the argument of the command is read exactly, by the numbers alone -/
def ArgumentExact (packet : CommandPacket) : Prop :=
  (packet.commandId = .setMode → ModeArgumentExact packet.argument) ∧
    (packet.commandId = .injectFault → FaultArgumentExact packet.argument)

/-- **When the argument is interpreted exactly.** In every state of the processor: exactly when it fits the 8 bits of a
mode or the 16 bits of a fault code, or its low part is no enumerator. -/
theorem interpretsExactly_iff (c : CommandProcessor) (packet : CommandPacket) :
    InterpretsExactly c packet ↔ ArgumentExact packet := by
  unfold ArgumentExact
  rw [← modeArgument_exact_iff, ← faultArgument_exact_iff]
  cases hid : packet.commandId with
  | setMode => rw [setMode_exact_iff hid]; simp
  | injectFault => rw [injectFault_exact_iff hid]; simp
  | _ =>
    refine ⟨fun _ => ⟨fun h => absurd h (by simp), fun h => absurd h (by simp)⟩, fun _ => ?_⟩
    constructor <;> intro h <;> exact absurd (hid.symm.trans h) (by simp)

/-- SET_MODE with 260 as its argument -/
def setMode260 : CommandPacket := { sequenceNumber := 1, commandId := .setMode, argument := 260 }

/-- the decoder of the packet accepts it, and a fresh processor answers ACCEPTED and enters SAFE -/
theorem argument_narrowed :
    deserializeCommandPacket (serializeCommandPacket setMode260) {} = some (true, setMode260) ∧
      (CommandProcessor.process {} setMode260).1.status = .accepted ∧
      (CommandProcessor.process {} setMode260).1.resultingMode = .safe ∧
      ¬ ∀ bytes packet, deserializeCommandPacket bytes {} = some (true, packet) →
        ∀ packets, InterpretsExactly (Machine.final CommandProcessor.process {} packets) packet := by
  have hdecoded : deserializeCommandPacket (serializeCommandPacket setMode260) {} = some (true, setMode260) :=
    deserializeCommandPacket_serialize (by decide) {}
  refine ⟨hdecoded, by decide, by decide, fun h => ?_⟩
  have hexact := (h _ _ hdecoded []).setMode rfl (by decide)
  revert hexact
  decide

end AstraFsw.Wire
