/-
The frame check of the wire formats: `command_crc16_ccitt` and `telemetry_crc16_ccitt`, which are the same loop.

The register is a linear feedback shift register (`Core/Lfsr.lean`): its values added by exclusive or are a group
(`Register`), and the loop body for one bit is the step `Register.shift`, multiplication by `x` modulo the generator
`x ^ 16 + x ^ 12 + x ^ 5 + 1`. Of the generator the error detection needs:
- the step is injective (`shift_injective`) and keeps the parity (`parity_shift`);
- the powers of `x` below 16 are independent (`eq_empty_of_value_eq_zero`);
- no power of `x` within a frame is 1 (`power_ne_one`).
-/
import AstraFsw.Core.Lfsr
import AstraFsw.Wire.Fields
import Mathlib.Data.List.Iterate

namespace AstraFsw.Wire

/-- the inner loop body: one bit -/
def crcBit (crc : UInt16) : UInt16 :=
  if crc &&& 0x8000 ≠ 0 then (crc <<< 1) ^^^ 0x1021 else crc <<< 1

/-- the outer loop body: one byte, eight bits -/
def crcByte (crc : UInt16) (byte : UInt8) : UInt16 := crcBit^[8] (crc ^^^ (byte.toUInt16 <<< 8))

def crc16Ccitt (bytes : List UInt8) : UInt16 := bytes.foldl crcByte 0xFFFF

def commandCrc16Ccitt (bytes : List UInt8) : UInt16 := crc16Ccitt bytes

def telemetryCrc16Ccitt (bytes : List UInt8) : UInt16 := crc16Ccitt bytes

/-! ## The loop is linear -/

theorem crcBit_eq (crc : UInt16) : crcBit crc = (crc <<< 1) ^^^ (if crc.toBitVec.getLsbD 15 then 0x1021 else 0) := by
  have hand : (crc &&& 0x8000).toBitVec = if crc.toBitVec.getLsbD 15 then BitVec.twoPow 16 15 else 0#16 :=
    BitVec.and_twoPow crc.toBitVec 15
  unfold crcBit
  cases hb : crc.toBitVec.getLsbD 15 with
  | true =>
    rw [hb, if_pos rfl] at hand
    have hne : crc &&& 0x8000 ≠ 0 := by
      intro h0
      rw [h0] at hand
      revert hand
      decide
    rw [if_pos hne, if_pos rfl]
  | false =>
    rw [hb] at hand
    have heq : crc &&& 0x8000 = 0 := UInt16.toBitVec_inj.1 hand
    rw [if_neg (not_not.2 heq), if_neg (by decide), UInt16.xor_zero]

theorem crcBit_xor (a b : UInt16) : crcBit (a ^^^ b) = crcBit a ^^^ crcBit b := by
  have hmask : (if (a ^^^ b).toBitVec.getLsbD 15 then (0x1021 : UInt16) else 0) =
      (if a.toBitVec.getLsbD 15 then 0x1021 else 0) ^^^ (if b.toBitVec.getLsbD 15 then 0x1021 else 0) := by
    rw [UInt16.toBitVec_xor, BitVec.getLsbD_xor]
    cases a.toBitVec.getLsbD 15 <;> cases b.toBitVec.getLsbD 15 <;> decide
  rw [crcBit_eq, crcBit_eq, crcBit_eq, hmask, UInt16.shiftLeft_xor]
  ac_rfl

/-- only zero is shifted to zero: the bit that leaves the register comes back as bit 0 -/
theorem eq_zero_of_crcBit_eq_zero {crc : UInt16} (h : crcBit crc = 0) : crc = 0 := by
  have hbits : (crc.toBitVec <<< 1) ^^^ (if crc.toBitVec.getLsbD 15 then 0x1021#16 else 0#16) = 0#16 := by
    have hzero := congrArg UInt16.toBitVec ((crcBit_eq crc).symm.trans h)
    rw [UInt16.toBitVec_xor, apply_ite UInt16.toBitVec] at hzero
    exact hzero
  have htop : crc.toBitVec.getLsbD 15 = false := by
    have h0 := congrArg (fun v : BitVec 16 => v.getLsbD 0) hbits
    cases hb : crc.toBitVec.getLsbD 15 with
    | false => rfl
    | true => simp [hb] at h0
  rw [htop, if_neg Bool.false_ne_true, BitVec.xor_zero] at hbits
  apply UInt16.toBitVec_inj.1
  apply BitVec.eq_of_getLsbD_eq
  intro k hk
  rw [UInt16.toBitVec_zero, BitVec.getLsbD_zero]
  rcases Nat.lt_or_ge k 15 with hlt | hge
  · have hk1 : (crc.toBitVec <<< 1).getLsbD (k + 1) = false := by rw [hbits, BitVec.getLsbD_zero]
    rwa [BitVec.getLsbD_shiftLeft, decide_eq_true (by omega), decide_eq_false (by omega), Nat.add_sub_cancel] at hk1
  · have hk15 : k = 15 := by omega
    rw [hk15, htop]

/-- the values of the register, added by exclusive or -/
def Register : Type := UInt16
deriving DecidableEq

namespace Register

instance : Add Register := ⟨UInt16.xor⟩
instance : Zero Register := ⟨(0 : UInt16)⟩
instance : Neg Register := ⟨id⟩

instance : AddCommGroup Register where
  add_assoc := UInt16.xor_assoc
  zero_add _ := UInt16.zero_xor
  add_zero _ := UInt16.xor_zero
  add_comm := UInt16.xor_comm
  neg_add_cancel _ := UInt16.xor_self
  nsmul := nsmulRec
  zsmul := zsmulRec

def ofUInt16 (crc : UInt16) : Register := crc

theorem ofUInt16_inj {a b : UInt16} : ofUInt16 a = ofUInt16 b ↔ a = b := Iff.rfl

/-- the constant polynomial -/
def one : Register := ofUInt16 1

/-- multiplication by `x` modulo `x ^ 16 + x ^ 12 + x ^ 5 + 1` -/
def shift : Register →+ Register where
  toFun := crcBit
  map_zero' := rfl
  map_add' := crcBit_xor

theorem add_self (r : Register) : r + r = 0 := UInt16.xor_self

def bit (r : Register) (k : ℕ) : Bool := (UInt16.toBitVec r).getLsbD k

/-- the bits as a number -/
def toNat (r : Register) : ℕ := UInt16.toNat r

def ofNat (n : ℕ) : Register := UInt16.ofNat n

theorem ofNat_toNat (r : Register) : ofNat r.toNat = r := UInt16.ofNat_toNat

theorem testBit_toNat (r : Register) (k : ℕ) : r.toNat.testBit k = bit r k := rfl

theorem bit_of_ge (r : Register) {k : ℕ} (h : 16 ≤ k) : bit r k = false := BitVec.getLsbD_of_ge _ k h

theorem bit_add (a b : Register) (k : ℕ) : bit (a + b) k = (bit a k ^^ bit b k) := BitVec.getLsbD_xor

/-- a bit, as a functional -/
def coefficient (k : ℕ) : Register →+ ZMod 2 where
  toFun r := if bit r k then 1 else 0
  map_zero' := by
    have hzero : bit 0 k = false := BitVec.getLsbD_zero
    rw [hzero, if_neg (by decide)]
  map_add' a b := by
    rw [bit_add]
    cases bit a k <;> cases bit b k <;> decide

theorem bit_iff (r : Register) (k : ℕ) : bit r k = true ↔ coefficient k r = 1 := by
  change _ ↔ (if bit r k then (1 : ZMod 2) else 0) = 1
  cases bit r k <;> decide

theorem ext {a b : Register} (h : ∀ k < 16, bit a k = bit b k) : a = b :=
  UInt16.toBitVec_inj.1 (BitVec.eq_of_getLsbD_eq h)

/-! ## Powers of `x` -/

theorem bit_power : ∀ k < 16, ∀ j < 16, bit (shift^[k] one) j = decide (j = k) := by decide

/-- the bits of the register are the coefficients of the polynomial -/
theorem bit_value {S : Finset ℕ} (hS : ∀ k ∈ S, k < 16) {j : ℕ} (hj : j < 16) :
    bit (Lfsr.value shift one S) j = true ↔ j ∈ S := by
  have hpower : ∀ k ∈ S, coefficient j (shift^[k] one) = if j = k then 1 else 0 := by
    intro k hk
    have hbit := bit_power k (hS k hk) j hj
    change (if bit (shift^[k] one) j then (1 : ZMod 2) else 0) = _
    rw [hbit]
    by_cases h : j = k <;> simp [h]
  rw [bit_iff, Lfsr.value, map_sum, Finset.sum_congr rfl hpower, Finset.sum_ite_eq]
  by_cases h : j ∈ S <;> simp [h]

/-- every value is the polynomial of its bits -/
theorem value_bits (r : Register) : Lfsr.value shift one ((Finset.range 16).filter fun k => bit r k = true) = r := by
  apply ext
  intro j hj
  rw [Bool.eq_iff_iff, bit_value (fun k hk => Finset.mem_range.1 (Finset.mem_filter.1 hk).1) hj]
  simp [hj]

/-- the powers below 16 are independent -/
theorem eq_empty_of_value_eq_zero (S : Finset ℕ) (hS : ∀ k ∈ S, k < 16) (h : Lfsr.value shift one S = 0) : S = ∅ := by
  apply Finset.eq_empty_of_forall_notMem
  intro k hk
  have hbit := (bit_value hS (hS k hk)).2 hk
  rw [h] at hbit
  exact Bool.false_ne_true (BitVec.getLsbD_zero.symm.trans hbit)

theorem shift_injective : Function.Injective shift := by
  rw [injective_iff_map_eq_zero]
  intro r h
  exact eq_zero_of_crcBit_eq_zero h

/-- the parity of the bits -/
def parity : Register →+ ZMod 2 where
  toFun r := ∑ k ∈ Finset.range 16, coefficient k r
  map_zero' := by simp
  map_add' a b := by simp only [map_add, Finset.sum_add_distrib]

/-- the generator is divisible by `x + 1` -/
theorem parity_shift (r : Register) : parity (shift r) = parity r := by
  have hpower : ∀ k < 16, parity (shift (shift^[k] one)) = parity (shift^[k] one) := by decide +kernel
  rw [← value_bits r]
  unfold Lfsr.value
  simp only [map_sum]
  apply Finset.sum_congr rfl
  intro k hk
  exact hpower k (Finset.mem_range.1 (Finset.mem_filter.1 hk).1)

/-- the order of `x` is above every frame length in use -/
theorem powers_ne_one : one ∉ List.iterate shift (shift one) 343 := by decide +kernel

theorem power_ne_one (k : ℕ) (hpos : 0 < k) (hlt : k < 344) : shift^[k] one ≠ one := by
  intro h
  apply powers_ne_one
  apply List.mem_iterate.2
  refine ⟨k - 1, by omega, ?_⟩
  rw [← Function.iterate_succ_apply, Nat.succ_eq_add_one, Nat.sub_add_cancel hpos, h]

/-! ## Bytes -/

theorem testBit_of_ge (b : UInt8) {k : ℕ} (h : 8 ≤ k) : b.toNat.testBit k = false :=
  Nat.testBit_lt_two_pow (b.toNat_lt.trans_le (Nat.pow_le_pow_right (by decide) h))

def ofByte (b : UInt8) : Register := ofUInt16 b.toUInt16

theorem bit_ofByte (b : UInt8) {k : ℕ} (hk : k < 16) : bit (ofByte b) k = b.toNat.testBit k := by
  change (b.toUInt16.toBitVec).getLsbD k = _
  rw [UInt8.toBitVec_toUInt16, BitVec.getLsbD_setWidth, decide_eq_true hk, Bool.true_and]
  rfl

theorem ofByte_xor (a b : UInt8) : ofByte (a ^^^ b) = ofByte a + ofByte b := UInt8.toUInt16_xor a b

/-- a byte is the polynomial of its bits -/
theorem ofByte_eq_value (b : UInt8) :
    ofByte b = Lfsr.value shift one ((Finset.range 8).filter fun k => b.toNat.testBit k = true) := by
  have hlow : ∀ k ∈ (Finset.range 8).filter fun k => b.toNat.testBit k = true, k < 8 := by
    intro k hk
    exact Finset.mem_range.1 (Finset.mem_filter.1 hk).1
  apply ext
  intro j hj
  rw [Bool.eq_iff_iff, bit_value (fun k hk => (hlow k hk).trans (by decide)) hj, bit_ofByte b hj]
  refine ⟨fun h => ?_, fun h => (Finset.mem_filter.1 h).2⟩
  have hlt : j < 8 := by
    by_contra hge
    rw [testBit_of_ge b (not_lt.1 hge)] at h
    exact Bool.false_ne_true h
  exact Finset.mem_filter.2 ⟨Finset.mem_range.2 hlt, h⟩

theorem bit_shift_ofByte (b : UInt8) {j : ℕ} (hj : j < 16) :
    bit (shift^[8] (ofByte b)) j = (!decide (j < 8) && b.toNat.testBit (j - 8)) := by
  rw [ofByte_eq_value, ← Lfsr.value_map_add, Bool.eq_iff_iff, bit_value _ hj]
  · simp only [Finset.mem_map, Finset.mem_filter, Finset.mem_range, addRightEmbedding_apply]
    refine ⟨fun h => ?_, fun h => ?_⟩
    · obtain ⟨k, ⟨-, hbit⟩, rfl⟩ := h
      simpa using hbit
    · simp only [Bool.and_eq_true, Bool.not_eq_true', decide_eq_false_iff_not] at h
      exact ⟨j - 8, ⟨by omega, h.2⟩, by omega⟩
  · intro k hk
    simp only [Finset.mem_map, Finset.mem_filter, Finset.mem_range, addRightEmbedding_apply] at hk
    omega

/-- a byte in the upper half of the register -/
def ofHighByte (b : UInt8) : Register := ofUInt16 (b.toUInt16 <<< 8)

theorem bit_ofHighByte (b : UInt8) {j : ℕ} (hj : j < 16) :
    bit (ofHighByte b) j = (!decide (j < 8) && b.toNat.testBit (j - 8)) := by
  rw [← bit_ofByte b (by omega)]
  change (b.toUInt16.toBitVec <<< 8).getLsbD j = _
  rw [BitVec.getLsbD_shiftLeft, decide_eq_true hj, Bool.true_and]
  rfl

theorem ofHighByte_eq (b : UInt8) : ofHighByte b = shift^[8] (ofByte b) := by
  apply ext
  intro j hj
  rw [bit_ofHighByte b hj, bit_shift_ofByte b hj]

theorem crcByte_eq (crc : UInt16) (b : UInt8) :
    ofUInt16 (crcByte crc b) = shift^[8] (ofUInt16 crc + shift^[8] (ofByte b)) := by
  rw [← ofHighByte_eq]
  rfl

/-- a little-endian half-word -/
theorem toUInt16_or_shiftLeft (b0 b1 : UInt8) :
    ofUInt16 (b0.toUInt16 ||| (b1.toUInt16 <<< 8)) = ofByte b0 + shift^[8] (ofByte b1) := by
  rw [← ofHighByte_eq]
  apply ext
  intro j hj
  have hor : bit (ofUInt16 (b0.toUInt16 ||| (b1.toUInt16 <<< 8))) j = (bit (ofByte b0) j || bit (ofHighByte b1) j) :=
    BitVec.getLsbD_or
  rw [hor, bit_add, bit_ofByte b0 hj, bit_ofHighByte b1 hj]
  by_cases h : j < 8
  · simp [h]
  · simp [testBit_of_ge b0 (not_lt.1 h)]

end Register
end AstraFsw.Wire
