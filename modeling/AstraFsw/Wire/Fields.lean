/-
The fields of the wire formats: the `append_*` and `read_*` helpers of `fsw/src/command_packet.cpp` and
`fsw/src/telemetry_packet.cpp`, which are the same code in both files.

A read takes the offset by reference and moves it; here it returns the new offset beside the value. `bytes.at` throws
past the end of the vector; here the read is `none`.

Each pair of helpers is a fixed-width codec: `append_*` appends the codec's encoding (`appendU16_eq`, ...) and `read_*`
is the codec's reading (`readU16_eq`, ...). All of them are little-endian.
-/
import AstraFsw.Core.Binary32
import AstraFsw.Core.FixedCodec

namespace AstraFsw.Wire

/-! ## The helpers -/

def appendU8 (bytes : List UInt8) (value : UInt8) : List UInt8 := bytes ++ [value]

def appendU16 (bytes : List UInt8) (value : UInt16) : List UInt8 :=
  bytes ++ [(value &&& 0xFF).toUInt8] ++ [((value >>> 8) &&& 0xFF).toUInt8]

def appendU32 (bytes : List UInt8) (value : UInt32) : List UInt8 :=
  bytes ++ [(value &&& 0xFF).toUInt8] ++ [((value >>> 8) &&& 0xFF).toUInt8] ++
    [((value >>> 16) &&& 0xFF).toUInt8] ++ [((value >>> 24) &&& 0xFF).toUInt8]

/-- the values of the loop counter in `for (int shift = 0; shift < 64; shift += 8)` -/
def shifts : List UInt64 := [0, 8, 16, 24, 32, 40, 48, 56]

def appendU64 (bytes : List UInt8) (value : UInt64) : List UInt8 :=
  shifts.foldl (fun bytes shift => bytes ++ [((value >>> shift) &&& 0xFF).toUInt8]) bytes

/-- `memcpy` of the bit pattern, then `append_u32` -/
def appendFloat32 (bytes : List UInt8) (value : Binary32) : List UInt8 := appendU32 bytes value.bits

def readU8 (bytes : List UInt8) (offset : ℕ) : Option (UInt8 × ℕ) := do
  let b0 ← bytes[offset]?
  some (b0, offset + 1)

def readU16 (bytes : List UInt8) (offset : ℕ) : Option (UInt16 × ℕ) := do
  let b0 ← bytes[offset]?
  let b1 ← bytes[offset + 1]?
  some (b0.toUInt16 ||| (b1.toUInt16 <<< 8), offset + 2)

def readU32 (bytes : List UInt8) (offset : ℕ) : Option (UInt32 × ℕ) := do
  let b0 ← bytes[offset]?
  let b1 ← bytes[offset + 1]?
  let b2 ← bytes[offset + 2]?
  let b3 ← bytes[offset + 3]?
  some (b0.toUInt32 ||| (b1.toUInt32 <<< 8) ||| (b2.toUInt32 <<< 16) ||| (b3.toUInt32 <<< 24), offset + 4)

def readU64 (bytes : List UInt8) (offset : ℕ) : Option (UInt64 × ℕ) :=
  shifts.foldlM (fun state shift => do
    let b ← bytes[state.2]?
    some (state.1 ||| (b.toUInt64 <<< shift), state.2 + 1)) (0, offset)

def readFloat32 (bytes : List UInt8) (offset : ℕ) : Option (Binary32 × ℕ) := do
  let (raw, offset) ← readU32 bytes offset
  some (⟨raw⟩, offset)

/-! ## The codecs -/

def u8 : FixedCodec UInt8 UInt8 :=
  .littleEndian 1 UInt8.toNat UInt8.ofNat UInt8.toNat_lt (fun _ => UInt8.ofNat_toNat)
    fun _ h => UInt8.toNat_ofNat_of_lt' h

def u16 : FixedCodec UInt8 UInt16 :=
  .littleEndian 2 UInt16.toNat UInt16.ofNat UInt16.toNat_lt (fun _ => UInt16.ofNat_toNat)
    fun _ h => UInt16.toNat_ofNat_of_lt' h

def u32 : FixedCodec UInt8 UInt32 :=
  .littleEndian 4 UInt32.toNat UInt32.ofNat UInt32.toNat_lt (fun _ => UInt32.ofNat_toNat)
    fun _ h => UInt32.toNat_ofNat_of_lt' h

def u64 : FixedCodec UInt8 UInt64 :=
  .littleEndian 8 UInt64.toNat UInt64.ofNat UInt64.toNat_lt (fun _ => UInt64.ofNat_toNat)
    fun _ h => UInt64.toNat_ofNat_of_lt' h

def float32 : FixedCodec UInt8 Binary32 :=
  .littleEndian 4 (fun x => x.bits.toNat) (fun v => ⟨UInt32.ofNat v⟩) (fun x => x.bits.toNat_lt)
    (fun _ => congrArg Binary32.mk UInt32.ofNat_toNat) fun _ h => UInt32.toNat_ofNat_of_lt' h

/-! ## Appending -/

theorem appendU8_eq (bytes : List UInt8) (value : UInt8) : appendU8 bytes value = bytes ++ u8.encode value := by
  simp [appendU8, u8, FixedCodec.littleEndian, LittleEndian.bytes]

theorem byte16 (value shift : UInt16) (h : shift.toNat < 16) :
    ((value >>> shift) &&& 0xFF).toUInt8 = UInt8.ofNat (value.toNat / 2 ^ shift.toNat) := by
  rw [← UInt8.toNat_inj]
  simp [LittleEndian.shiftRight_and, Nat.mod_eq_of_lt h]

theorem byte32 (value shift : UInt32) (h : shift.toNat < 32) :
    ((value >>> shift) &&& 0xFF).toUInt8 = UInt8.ofNat (value.toNat / 2 ^ shift.toNat) := by
  rw [← UInt8.toNat_inj]
  simp [LittleEndian.shiftRight_and, Nat.mod_eq_of_lt h]

theorem byte64 (value shift : UInt64) (h : shift.toNat < 64) :
    ((value >>> shift) &&& 0xFF).toUInt8 = UInt8.ofNat (value.toNat / 2 ^ shift.toNat) := by
  rw [← UInt8.toNat_inj]
  simp [LittleEndian.shiftRight_and, Nat.mod_eq_of_lt h]

theorem appendU16_eq (bytes : List UInt8) (value : UInt16) : appendU16 bytes value = bytes ++ u16.encode value := by
  have h0 : (value &&& 0xFF).toUInt8 = UInt8.ofNat value.toNat := by simpa using byte16 value 0 (by decide)
  have h8 : ((value >>> 8) &&& 0xFF).toUInt8 = UInt8.ofNat (value.toNat / 256) := byte16 value 8 (by decide)
  simp only [appendU16, h0, h8]
  simp [u16, FixedCodec.littleEndian, LittleEndian.bytes]

theorem appendU32_eq (bytes : List UInt8) (value : UInt32) : appendU32 bytes value = bytes ++ u32.encode value := by
  have h0 : (value &&& 0xFF).toUInt8 = UInt8.ofNat value.toNat := by simpa using byte32 value 0 (by decide)
  have h8 : ((value >>> 8) &&& 0xFF).toUInt8 = UInt8.ofNat (value.toNat / 256) := byte32 value 8 (by decide)
  have h16 : ((value >>> 16) &&& 0xFF).toUInt8 = UInt8.ofNat (value.toNat / 65536) := byte32 value 16 (by decide)
  have h24 : ((value >>> 24) &&& 0xFF).toUInt8 = UInt8.ofNat (value.toNat / 16777216) := byte32 value 24 (by decide)
  simp only [appendU32, h0, h8, h16, h24]
  simp [u32, FixedCodec.littleEndian, LittleEndian.bytes, Nat.div_div_eq_div_mul]

theorem appendU64_eq (bytes : List UInt8) (value : UInt64) : appendU64 bytes value = bytes ++ u64.encode value := by
  have hloop : ∀ shifts : List UInt64, ∀ bytes : List UInt8,
      shifts.foldl (fun bytes shift => bytes ++ [((value >>> shift) &&& 0xFF).toUInt8]) bytes =
        bytes ++ shifts.map fun shift => ((value >>> shift) &&& 0xFF).toUInt8 := by
    intro shifts
    induction shifts with
    | nil => simp
    | cons shift shifts ih =>
      intro bytes
      rw [List.foldl_cons, ih, List.map_cons, List.append_assoc, List.singleton_append]
  have hbyte : ∀ shift ∈ shifts,
      ((value >>> shift) &&& 0xFF).toUInt8 = UInt8.ofNat (value.toNat / 2 ^ shift.toNat) := by
    intro shift hshift
    apply byte64
    simp only [shifts, List.mem_cons, List.not_mem_nil, or_false] at hshift
    rcases hshift with rfl | rfl | rfl | rfl | rfl | rfl | rfl | rfl <;> decide
  rw [appendU64, hloop, List.map_congr_left hbyte]
  simp [shifts, u64, FixedCodec.littleEndian, LittleEndian.bytes, Nat.div_div_eq_div_mul]

theorem appendFloat32_eq (bytes : List UInt8) (value : Binary32) :
    appendFloat32 bytes value = bytes ++ float32.encode value := appendU32_eq bytes value.bits

/-! ## Reading -/

theorem toNat_shift16 (b : UInt8) (k : UInt16) (h : k.toNat + 8 ≤ 16) :
    (b.toUInt16 <<< k).toNat = b.toNat <<< k.toNat := by
  have hk : k.toNat < 16 := by omega
  rw [UInt16.toNat_shiftLeft, UInt8.toNat_toUInt16, Nat.mod_eq_of_lt hk, Nat.mod_eq_of_lt (LittleEndian.shiftLeft_lt b h)]

theorem toNat_shift32 (b : UInt8) (k : UInt32) (h : k.toNat + 8 ≤ 32) :
    (b.toUInt32 <<< k).toNat = b.toNat <<< k.toNat := by
  have hk : k.toNat < 32 := by omega
  rw [UInt32.toNat_shiftLeft, UInt8.toNat_toUInt32, Nat.mod_eq_of_lt hk, Nat.mod_eq_of_lt (LittleEndian.shiftLeft_lt b h)]

theorem toNat_shift64 (b : UInt8) (k : UInt64) (h : k.toNat + 8 ≤ 64) :
    (b.toUInt64 <<< k).toNat = b.toNat <<< k.toNat := by
  have hk : k.toNat < 64 := by omega
  rw [UInt64.toNat_shiftLeft, UInt8.toNat_toUInt64, Nat.mod_eq_of_lt hk, Nat.mod_eq_of_lt (LittleEndian.shiftLeft_lt b h)]

theorem getElem?_offset (bytes : List UInt8) (offset i : ℕ) : bytes[offset + i]? = (bytes.drop offset)[i]? :=
  List.getElem?_drop.symm

theorem getElem?_offset_zero (bytes : List UInt8) (offset : ℕ) : bytes[offset]? = (bytes.drop offset)[0]? :=
  getElem?_offset bytes offset 0

theorem readU8_eq (bytes : List UInt8) (offset : ℕ) : readU8 bytes offset = u8.read bytes offset := by
  rw [u8.read_eq_drop (by decide), readU8, getElem?_offset_zero]
  rcases bytes.drop offset with _ | ⟨b0, rest⟩
  · rfl
  · have hvalue : b0 = u8.decode [b0] := by
      rw [← UInt8.toNat_inj]
      simp [u8, FixedCodec.littleEndian, LittleEndian.value]
    exact congrArg (fun v => some (v, offset + 1)) hvalue

theorem readU16_eq (bytes : List UInt8) (offset : ℕ) : readU16 bytes offset = u16.read bytes offset := by
  rw [u16.read_eq_drop (by decide), readU16, getElem?_offset_zero, getElem?_offset]
  rcases bytes.drop offset with _ | ⟨b0, _ | ⟨b1, rest⟩⟩
  · rfl
  · rfl
  · have hvalue : b0.toUInt16 ||| (b1.toUInt16 <<< 8) = u16.decode [b0, b1] := by
      rw [← UInt16.toNat_inj, UInt16.toNat_or, toNat_shift16 b1 8 (by decide)]
      have hlor := LittleEndian.lorBytes_eq b0.toNat_lt [b1]
      have hlt : LittleEndian.value [b0, b1] < UInt16.size := by
        simpa [UInt16.size] using LittleEndian.value_lt [b0, b1]
      exact hlor.trans (UInt16.toNat_ofNat_of_lt' hlt).symm
    exact congrArg (fun v => some (v, offset + 2)) hvalue

theorem readU32_eq (bytes : List UInt8) (offset : ℕ) : readU32 bytes offset = u32.read bytes offset := by
  rw [u32.read_eq_drop (by decide), readU32, getElem?_offset_zero, getElem?_offset, getElem?_offset, getElem?_offset]
  rcases bytes.drop offset with _ | ⟨b0, _ | ⟨b1, _ | ⟨b2, _ | ⟨b3, rest⟩⟩⟩⟩
  · rfl
  · rfl
  · rfl
  · rfl
  · have hvalue : b0.toUInt32 ||| (b1.toUInt32 <<< 8) ||| (b2.toUInt32 <<< 16) ||| (b3.toUInt32 <<< 24) =
        u32.decode [b0, b1, b2, b3] := by
      rw [← UInt32.toNat_inj, UInt32.toNat_or, UInt32.toNat_or, UInt32.toNat_or, toNat_shift32 b1 8 (by decide),
        toNat_shift32 b2 16 (by decide), toNat_shift32 b3 24 (by decide)]
      have hlor := LittleEndian.lorBytes_eq b0.toNat_lt [b1, b2, b3]
      have hlt : LittleEndian.value [b0, b1, b2, b3] < UInt32.size := by
        simpa [UInt32.size] using LittleEndian.value_lt [b0, b1, b2, b3]
      exact hlor.trans (UInt32.toNat_ofNat_of_lt' hlt).symm
    exact congrArg (fun v => some (v, offset + 4)) hvalue

theorem readU64_eq (bytes : List UInt8) (offset : ℕ) : readU64 bytes offset = u64.read bytes offset := by
  rw [u64.read_eq_drop (by decide), readU64, shifts]
  simp only [List.foldlM_cons, List.foldlM_nil, Option.bind_eq_bind, Option.bind_assoc, Option.bind_some,
    Nat.add_assoc, Nat.reduceAdd]
  rw [getElem?_offset_zero, getElem?_offset, getElem?_offset, getElem?_offset, getElem?_offset, getElem?_offset,
    getElem?_offset, getElem?_offset]
  rcases bytes.drop offset with
    _ | ⟨b0, _ | ⟨b1, _ | ⟨b2, _ | ⟨b3, _ | ⟨b4, _ | ⟨b5, _ | ⟨b6, _ | ⟨b7, rest⟩⟩⟩⟩⟩⟩⟩⟩
  · rfl
  · rfl
  · rfl
  · rfl
  · rfl
  · rfl
  · rfl
  · rfl
  · have hvalue : (0 : UInt64) ||| (b0.toUInt64 <<< 0) ||| (b1.toUInt64 <<< 8) ||| (b2.toUInt64 <<< 16) |||
          (b3.toUInt64 <<< 24) ||| (b4.toUInt64 <<< 32) ||| (b5.toUInt64 <<< 40) ||| (b6.toUInt64 <<< 48) |||
          (b7.toUInt64 <<< 56) = u64.decode [b0, b1, b2, b3, b4, b5, b6, b7] := by
      rw [← UInt64.toNat_inj]
      simp only [UInt64.toNat_or]
      rw [toNat_shift64 b0 0 (by decide), toNat_shift64 b1 8 (by decide), toNat_shift64 b2 16 (by decide),
        toNat_shift64 b3 24 (by decide), toNat_shift64 b4 32 (by decide), toNat_shift64 b5 40 (by decide),
        toNat_shift64 b6 48 (by decide), toNat_shift64 b7 56 (by decide)]
      have hlor := @LittleEndian.lorBytes_eq 0 0 (by decide) [b0, b1, b2, b3, b4, b5, b6, b7]
      rw [pow_zero, one_mul, Nat.zero_add] at hlor
      have hlt : LittleEndian.value [b0, b1, b2, b3, b4, b5, b6, b7] < UInt64.size := by
        simpa [UInt64.size] using LittleEndian.value_lt [b0, b1, b2, b3, b4, b5, b6, b7]
      exact hlor.trans (UInt64.toNat_ofNat_of_lt' hlt).symm
    exact congrArg (fun v => some (v, offset + 8)) hvalue

theorem readFloat32_eq (bytes : List UInt8) (offset : ℕ) : readFloat32 bytes offset = float32.read bytes offset := by
  rw [readFloat32, readU32_eq, FixedCodec.read, FixedCodec.read]
  change (if offset + 4 ≤ bytes.length then _ else none).bind _ = if offset + 4 ≤ bytes.length then _ else none
  split_ifs <;> rfl

end AstraFsw.Wire
