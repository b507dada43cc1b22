/-
Error detection of the wire formats: errors in an odd number of bits or in exactly two are detected, whatever the packet.

An error is a string of the same length that is added to the packet bit by bit (`corrupt`); its flipped bits are numbered
in wire order, byte by byte and most significant bit first (`flipped`), the order in which the check consumes the data.
The check of a frame holds exactly when the residue of its bytes is zero (`check_iff`), and the residue is affine
(`residue_add`): whether an error goes unnoticed does not depend on the packet (`check_corrupt_iff`). The residue of an
error is the polynomial of its flipped bits (`residue_eq_value`), where bit `w` has the exponent `exponent n w`. In the
data the exponents fall along the wire; the trailer is stored low byte first, so its two bytes are exchanged.

- `odd_and_double_errors_detected`: the result for both packet formats.
-/
import AstraFsw.Wire.CommandCodec
import AstraFsw.Wire.TelemetryCodec
import Mathlib.Data.List.GetD

namespace AstraFsw.Wire

open Register

/-! ## Errors -/

/-- the string with the bits of the error flipped -/
def corrupt (bytes error : List UInt8) : List UInt8 := List.zipWith (· ^^^ ·) bytes error

/-- a bit in wire order -/
def wireBit (bytes : List UInt8) (w : ℕ) : Bool := (bytes.getD (w / 8) 0).toNat.testBit (7 - w % 8)

def flipped (error : List UInt8) : Finset ℕ := (Finset.range (8 * error.length)).filter fun w => wireBit error w = true

theorem length_corrupt {bytes error : List UInt8} (h : error.length = bytes.length) :
    (corrupt bytes error).length = bytes.length := by
  rw [corrupt, List.length_zipWith, h, Nat.min_self]

theorem getD_corrupt {bytes error : List UInt8} (h : error.length = bytes.length) (i : ℕ) :
    (corrupt bytes error).getD i 0 = bytes.getD i 0 ^^^ error.getD i 0 := by
  rcases Nat.lt_or_ge i bytes.length with hlt | hge
  · rw [List.getD_eq_getElem _ _ (by rwa [length_corrupt h]), List.getD_eq_getElem _ _ hlt,
      List.getD_eq_getElem _ _ (by rwa [h])]
    exact List.getElem_zipWith
  · rw [List.getD_eq_default _ _ (by rwa [length_corrupt h]), List.getD_eq_default _ _ hge,
      List.getD_eq_default _ _ (by rwa [h]), UInt8.xor_self]

/-! ## The residue of a frame -/

/-- the check of a frame with `n` bytes of data -/
def Check (n : ℕ) (bytes : List UInt8) : Prop := readU16 bytes n = some (crc16Ccitt (bytes.take n), n + 2)

/-- what the loop adds to the register for each byte -/
def symbols (bytes : List UInt8) : List Register := bytes.map fun b => shift^[8] (ofByte b)

/-- the register over the data, compared with the trailer -/
def residue (crc : Register) (n : ℕ) (bytes : List UInt8) : Register :=
  Lfsr.absorb shift 8 crc (symbols (bytes.take n)) + (ofByte (bytes.getD n 0) + shift^[8] (ofByte (bytes.getD (n + 1) 0)))

theorem foldl_crcByte (crc : UInt16) (bytes : List UInt8) :
    ofUInt16 (bytes.foldl crcByte crc) = Lfsr.absorb shift 8 (ofUInt16 crc) (symbols bytes) := by
  induction bytes generalizing crc with
  | nil => rfl
  | cons b bytes ih =>
    rw [List.foldl_cons, ih, crcByte_eq]
    rfl

theorem check_iff {n : ℕ} {bytes : List UInt8} (h : bytes.length = n + 2) :
    Check n bytes ↔ residue (ofUInt16 0xFFFF) n bytes = 0 := by
  have hread : readU16 bytes n =
      some ((bytes.getD n 0).toUInt16 ||| ((bytes.getD (n + 1) 0).toUInt16 <<< 8), n + 2) := by
    rw [readU16, List.getElem?_eq_getElem (by omega), List.getElem?_eq_getElem (by omega),
      List.getD_eq_getElem _ _ (by omega), List.getD_eq_getElem _ _ (by omega)]
    rfl
  rw [Check, hread, Option.some_inj, Prod.mk.injEq, and_iff_left rfl, ← ofUInt16_inj, toUInt16_or_shiftLeft, crc16Ccitt,
    foldl_crcByte, residue, eq_comm, ← sub_eq_zero, sub_eq_add_neg]
  rfl

theorem residue_add {n : ℕ} {bytes error : List UInt8} (h : error.length = bytes.length) (a b : Register) :
    residue (a + b) n (corrupt bytes error) = residue a n bytes + residue b n error := by
  have hsymbols : symbols ((corrupt bytes error).take n) =
      List.zipWith (· + ·) (symbols (bytes.take n)) (symbols (error.take n)) := by
    unfold symbols corrupt
    rw [List.take_zipWith, List.map_zipWith, List.zipWith_map]
    simp only [ofByte_xor, iterate_map_add]
  have hlen : (symbols (bytes.take n)).length = (symbols (error.take n)).length := by simp [symbols, h]
  unfold residue
  rw [hsymbols, Lfsr.absorb_add _ _ _ _ hlen, getD_corrupt h, getD_corrupt h, ofByte_xor, ofByte_xor, iterate_map_add]
  abel

/-- **Detection does not depend on the packet.** -/
theorem check_corrupt_iff {n : ℕ} {bytes error : List UInt8} (hlen : bytes.length = n + 2)
    (herror : error.length = bytes.length) (h : Check n bytes) :
    Check n (corrupt bytes error) ↔ residue 0 n error = 0 := by
  have hsum := @residue_add n bytes error herror (ofUInt16 0xFFFF) 0
  rw [add_zero, (check_iff hlen).1 h, zero_add] at hsum
  rw [check_iff ((length_corrupt herror).trans hlen), hsum]

/-! ## The polynomial of an error -/

/-- the exponent of the last bit of a byte -/
def byteExponent (n i : ℕ) : ℕ := if i < n then 8 * (n - i) + 8 else 8 * (i - n)

/-- the exponent of a bit in wire order -/
def exponent (n w : ℕ) : ℕ := byteExponent n (w / 8) + (7 - w % 8)

theorem exponent_lt {n w : ℕ} (h : w < 8 * (n + 2)) : exponent n w < 8 * (n + 2) := by
  unfold exponent byteExponent
  split_ifs <;> omega

theorem exponent_injOn (n : ℕ) : Set.InjOn (exponent n) {w | w < 8 * (n + 2)} := by
  intro v hv w hw h
  simp only [Set.mem_ofPred_eq] at hv hw
  unfold exponent byteExponent at h
  split_ifs at h <;> omega

theorem residue_eq_sum {n : ℕ} {error : List UInt8} (h : error.length = n + 2) :
    residue 0 n error = ∑ i ∈ Finset.range (n + 2), shift^[byteExponent n i] (ofByte (error.getD i 0)) := by
  have hlen : (symbols (error.take n)).length = n := by
    rw [symbols, List.length_map, List.length_take]
    omega
  have hsymbol : ∀ i ∈ Finset.range n, shift^[8 * (n - i)] ((symbols (error.take n)).getD i 0) =
      shift^[byteExponent n i] (ofByte (error.getD i 0)) := by
    intro i hi
    rw [Finset.mem_range] at hi
    rw [List.getD_eq_getElem _ _ (by omega), List.getD_eq_getElem _ _ (by omega), byteExponent, if_pos hi,
      Function.iterate_add_apply]
    simp only [symbols, List.getElem_map, List.getElem_take]
  rw [residue, Lfsr.absorb_eq_sum, hlen, iterate_map_zero, zero_add, Finset.sum_congr rfl hsymbol,
    Finset.sum_range_succ, Finset.sum_range_succ, add_assoc]
  congr 2
  · simp [byteExponent]
  · simp [byteExponent]

/-- a sum over bits is a sum over bytes -/
theorem sum_range_bits {M : Type*} [AddCommMonoid M] (f : ℕ → M) (n : ℕ) :
    ∑ w ∈ Finset.range (8 * n), f w = ∑ i ∈ Finset.range n, ∑ j ∈ Finset.range 8, f (8 * i + j) := by
  induction n with
  | zero => rfl
  | succ n ih =>
    rw [Nat.mul_succ, Finset.sum_range_add, ih]
    exact (Finset.sum_range_succ _ n).symm

/-- a byte at its exponent, most significant bit first -/
theorem shift_ofByte (a : ℕ) (b : UInt8) :
    shift^[a] (ofByte b) =
      ∑ j ∈ Finset.range 8, if b.toNat.testBit (7 - j) = true then shift^[a + (7 - j)] one else 0 := by
  rw [ofByte_eq_value, Lfsr.value, Lfsr.iterate_sum, Finset.sum_filter,
    ← Finset.sum_range_reflect (fun j => if b.toNat.testBit j = true then shift^[a] (shift^[j] one) else 0)]
  apply Finset.sum_congr rfl
  intro j hj
  rw [← Function.iterate_add_apply]

theorem lt_of_mem_flipped {n : ℕ} {error : List UInt8} (h : error.length = n + 2) {w : ℕ} (hw : w ∈ flipped error) :
    w < 8 * (n + 2) := by
  rw [← h]
  exact Finset.mem_range.1 (Finset.mem_filter.1 hw).1

theorem exponent_injOn_flipped {n : ℕ} {error : List UInt8} (h : error.length = n + 2) :
    Set.InjOn (exponent n) (flipped error) := by
  apply (exponent_injOn n).mono
  intro w hw
  exact lt_of_mem_flipped h hw

theorem card_exponents {n : ℕ} {error : List UInt8} (h : error.length = n + 2) :
    ((flipped error).image (exponent n)).card = (flipped error).card :=
  Finset.card_image_of_injOn (exponent_injOn_flipped h)

theorem residue_eq_value {n : ℕ} {error : List UInt8} (h : error.length = n + 2) :
    residue 0 n error = Lfsr.value shift one ((flipped error).image (exponent n)) := by
  rw [residue_eq_sum h, Lfsr.value, Finset.sum_image (exponent_injOn_flipped h), flipped, Finset.sum_filter, h, sum_range_bits]
  apply Finset.sum_congr rfl
  intro i _
  rw [shift_ofByte]
  apply Finset.sum_congr rfl
  intro j hj
  rw [Finset.mem_range] at hj
  have hdiv : (8 * i + j) / 8 = i := by omega
  have hmod : (8 * i + j) % 8 = j := by omega
  rw [wireBit, exponent, hdiv, hmod]

/-! ## Detection -/

theorem not_check_corrupt {n : ℕ} (hn : n ≤ 41) {bytes error : List UInt8} (hlen : bytes.length = n + 2)
    (herror : error.length = n + 2) (h : Check n bytes)
    (hflips : Odd (flipped error).card ∨ (flipped error).card = 2) : ¬ Check n (corrupt bytes error) := by
  intro hcheck
  have hzero := (check_corrupt_iff hlen (herror.trans hlen.symm) h).1 hcheck
  rw [residue_eq_value herror] at hzero
  revert hzero
  rw [← card_exponents herror] at hflips
  rcases hflips with hodd | hpair
  · exact Lfsr.value_ne_zero_of_odd shift one parity_shift (by decide) hodd
  · apply Lfsr.value_ne_zero_of_pair shift one add_self shift_injective power_ne_one _ hpair
    intro k hk
    obtain ⟨w, hw, rfl⟩ := Finset.mem_image.1 hk
    have hlt := exponent_lt (lt_of_mem_flipped herror hw)
    omega

theorem check_of_commandAccepted {bytes : List UInt8} {packetOut packet : CommandPacket}
    (h : deserializeCommandPacket bytes packetOut = some (true, packet)) : bytes.length = 26 ∧ Check 24 bytes := by
  have hacceptable := (acceptableCommand_iff bytes packetOut).1 ⟨packet, h⟩
  exact ⟨hacceptable.length, hacceptable.crc⟩

theorem check_of_telemetryAccepted {bytes : List UInt8} {packetOut packet : TelemetryPacket}
    (h : deserializeTelemetryPacket bytes packetOut = some (true, packet)) : bytes.length = 43 ∧ Check 41 bytes := by
  rcases deserializeTelemetryPacket_cases bytes packetOut with hfails | ⟨packet', -, -, rfl⟩
  · rw [hfails] at h
    simp at h
  · refine ⟨length_serializeTelemetryPacket packet', ?_⟩
    have hat := telemetryFrame.at_encode
      (rawTelemetry packet', telemetryCrc16Ccitt (telemetryFields.encode (rawTelemetry packet')))
    rw [← serializeTelemetryPacket_eq] at hat
    obtain ⟨⟨htake, hcrc⟩, -⟩ := reads_of_telemetryFrame hat
    rw [Check, htake]
    exact hcrc

theorem deserializeCommandPacket_of_not_check {bytes : List UInt8} (h : ¬ Check 24 bytes) (packetOut : CommandPacket) :
    deserializeCommandPacket bytes packetOut = some (false, packetOut) := by
  rcases deserializeCommandPacket_cases bytes packetOut with hfails | ⟨packet, haccepted, -⟩
  · exact hfails
  · exact absurd (check_of_commandAccepted haccepted).2 h

theorem deserializeTelemetryPacket_of_not_check {bytes : List UInt8} (h : ¬ Check 41 bytes)
    (packetOut : TelemetryPacket) : deserializeTelemetryPacket bytes packetOut = some (false, packetOut) := by
  rcases deserializeTelemetryPacket_cases bytes packetOut with hfails | ⟨packet, haccepted, -⟩
  · exact hfails
  · exact absurd (check_of_telemetryAccepted haccepted).2 h

/-- **Odd and double errors are detected in both formats.** Whatever the accepted string, and wherever the flipped bits
are (data, trailer or both): with an odd number of them, or exactly two, the corrupted string is rejected and the
caller's packet is unchanged. -/
theorem odd_and_double_errors_detected :
    (∀ bytes packetOut packet, deserializeCommandPacket bytes packetOut = some (true, packet) →
      ∀ error, error.length = 26 → Odd (flipped error).card ∨ (flipped error).card = 2 →
        ∀ out, deserializeCommandPacket (corrupt bytes error) out = some (false, out)) ∧
    ∀ bytes packetOut packet, deserializeTelemetryPacket bytes packetOut = some (true, packet) →
      ∀ error, error.length = 43 → Odd (flipped error).card ∨ (flipped error).card = 2 →
        ∀ out, deserializeTelemetryPacket (corrupt bytes error) out = some (false, out) := by
  refine ⟨?_, ?_⟩
  · intro bytes packetOut packet haccepted error herror hflips out
    obtain ⟨hlen, hcheck⟩ := check_of_commandAccepted haccepted
    exact deserializeCommandPacket_of_not_check (not_check_corrupt (by decide) hlen herror hcheck hflips) out
  · intro bytes packetOut packet haccepted error herror hflips out
    obtain ⟨hlen, hcheck⟩ := check_of_telemetryAccepted haccepted
    exact deserializeTelemetryPacket_of_not_check (not_check_corrupt (by decide) hlen herror hcheck hflips) out

/-- the last bit of the data and the first of the trailer -/
theorem odd_and_double_errors_detected_boundary :
    deserializeCommandPacket (corrupt (serializeCommandPacket setModeNominal) (List.replicate 23 0 ++ [1, 0x80, 0])) {} =
      some (false, {}) :=
  odd_and_double_errors_detected.1 (serializeCommandPacket setModeNominal) {} setModeNominal
    (deserializeCommandPacket_serialize (by decide) {}) _ rfl (Or.inr (by decide)) {}

end AstraFsw.Wire
