/-
Command packets and the interpretation of their arguments (`fsw/src/command_packet.cpp`).

`CommandId` is open like `FaultCode`: the 16-bit field can hold a value without an enumerator, kept as `other`. Its two
casts are inverse to each other.
The two argument decoders cast the 32-bit argument to the 8-bit `Mode` and the 16-bit `FaultCode` before they test it,
so they read only the low byte and the low half word of the argument (`commandArgumentToMode_eq_some`,
`commandArgumentToFault_eq_some_none`).
-/
import AstraFsw.ModeManager

namespace AstraFsw

/-- the values of the `CommandId` enumerators -/
def commandIdValues : List UInt16 := [0, 1, 2, 3, 4]

inductive CommandId where
  | noop
  | setMode
  | injectFault
  | requestTelemetry
  | clearFault
  /-- a 16-bit value without an enumerator -/
  | other (raw : { raw : UInt16 // raw ∉ commandIdValues })
deriving DecidableEq, Repr

namespace CommandId

/-- `static_cast<std::uint16_t>(command_id)` -/
def toRaw : CommandId → UInt16
  | noop => 0
  | setMode => 1
  | injectFault => 2
  | requestTelemetry => 3
  | clearFault => 4
  | other raw => raw.1

/-- `static_cast<CommandId>(raw)` -/
def ofRaw (raw : UInt16) : CommandId :=
  if h0 : raw = 0 then noop
  else if h1 : raw = 1 then setMode
  else if h2 : raw = 2 then injectFault
  else if h3 : raw = 3 then requestTelemetry
  else if h4 : raw = 4 then clearFault
  else other ⟨raw, by
    simp only [commandIdValues, List.mem_cons, List.not_mem_nil, or_false, not_or]
    exact ⟨h0, h1, h2, h3, h4⟩⟩

theorem ofRaw_of_notMem {raw : UInt16} (h : raw ∉ commandIdValues) : ofRaw raw = other ⟨raw, h⟩ := by
  have hne := h
  simp only [commandIdValues, List.mem_cons, List.not_mem_nil, or_false, not_or] at hne
  obtain ⟨h0, h1, h2, h3, h4⟩ := hne
  rw [ofRaw, dif_neg h0, dif_neg h1, dif_neg h2, dif_neg h3, dif_neg h4]

theorem toRaw_ofRaw (raw : UInt16) : (ofRaw raw).toRaw = raw := by
  by_cases h : raw ∈ commandIdValues
  · simp only [commandIdValues, List.mem_cons, List.not_mem_nil, or_false] at h
    rcases h with rfl | rfl | rfl | rfl | rfl <;> rfl
  · rw [ofRaw_of_notMem h]; rfl

@[simp] theorem ofRaw_toRaw (id : CommandId) : ofRaw id.toRaw = id := by
  cases id with
  | other raw => exact ofRaw_of_notMem raw.2
  | _ => rfl

/-- `command_id_to_string` -/
def toString : CommandId → String
  | noop => "NOOP"
  | setMode => "SET_MODE"
  | injectFault => "INJECT_FAULT"
  | requestTelemetry => "REQUEST_TELEMETRY"
  | clearFault => "CLEAR_FAULT"
  | other _ => "UNKNOWN_COMMAND"

end CommandId

structure CommandPacket where
  sequenceNumber : UInt32 := 0
  timestampMs : UInt64 := 0
  commandId : CommandId := .noop
  argument : UInt32 := 0
deriving DecidableEq, Repr

/-- `command_argument_to_mode`: the argument is cast to the 8-bit `Mode` first -/
def commandArgumentToMode (argument : UInt32) : Option Mode := Mode.ofRaw? argument.toUInt8

/-- `command_argument_to_fault`: the argument is cast to the 16-bit `FaultCode` first -/
def commandArgumentToFault (argument : UInt32) : Option FaultCode :=
  match FaultCode.ofRaw argument.toUInt16 with
  | .other _ => none
  | fault => some fault

/-! ## What the decoders accept -/

theorem commandArgumentToMode_eq_some {argument : UInt32} {m : Mode} :
    commandArgumentToMode argument = some m ↔ m.toRaw = argument.toUInt8 := by
  constructor
  · exact Mode.toRaw_of_ofRaw?
  · intro h
    rw [commandArgumentToMode, ← h, Mode.ofRaw?_toRaw]

/-- the decoder accepts exactly the codes with an enumerator -/
theorem commandArgumentToFault_eq (argument : UInt32) :
    commandArgumentToFault argument =
      if (FaultCode.ofRaw argument.toUInt16).isNamed then some (FaultCode.ofRaw argument.toUInt16) else none := by
  unfold commandArgumentToFault
  cases FaultCode.ofRaw argument.toUInt16 <;> rfl

theorem commandArgumentToFault_isNamed {argument : UInt32} {f : FaultCode}
    (h : commandArgumentToFault argument = some f) : f.isNamed = true := by
  rw [commandArgumentToFault_eq] at h
  split_ifs at h with hn
  obtain rfl := Option.some.inj h
  exact hn

/-- the argument decodes to NONE exactly when its low half word is zero -/
theorem commandArgumentToFault_eq_some_none {argument : UInt32} :
    commandArgumentToFault argument = some .none ↔ argument.toNat % 2 ^ 16 = 0 := by
  rw [commandArgumentToFault_eq]
  have hraw : FaultCode.ofRaw argument.toUInt16 = .none ↔ argument.toNat % 2 ^ 16 = 0 := by
    constructor
    · intro h
      have h0 := FaultCode.toRaw_ofRaw argument.toUInt16
      rw [h] at h0
      simpa [FaultCode.toRaw] using (congrArg UInt16.toNat h0).symm
    · intro h
      have h0 : argument.toUInt16 = 0 := UInt16.toNat_inj.1 (by simpa using h)
      rw [h0]; rfl
  rw [← hraw]
  constructor
  · intro h
    split_ifs at h
    exact Option.some.inj h
  · intro h
    rw [h]; rfl

/-- an enumerated fault passed as an argument decodes to itself -/
theorem commandArgumentToFault_toRaw {f : FaultCode} (h : f.isNamed = true) :
    commandArgumentToFault f.toRaw.toUInt32 = some f := by
  cases f with
  | other raw => simp [FaultCode.isNamed] at h
  | _ => rfl

example : commandArgumentToMode 260 = some .safe := by decide

end AstraFsw
