/-
Burst detection of the command format.

The data bits are followed by the check in polynomial order except that the trailer is stored low byte first, so an error
within 16 wire bits is not always a burst of the polynomial:
- inside the data, or inside the trailer, its exponents are within 16 and it is detected;
- across the boundary its exponents are within 24 of each other, with a gap where the high byte of the trailer would be.
  It goes unnoticed exactly if its polynomial is one of the 255 multiples of the generator below `x ^ 24` (`codeword`),
  shifted, and has no coefficient in the gap. There are twelve (`undetectedBursts`).

- `exists_codeword`, `mem_undetectedBursts_of_residue`: an undetected error across the boundary is one of the twelve;
- `bursts_detected`: an error within 16 wire bits is detected unless it is one of the twelve;
- `burst_undetected`: one of the twelve, on a concrete packet.
-/
import AstraFsw.Wire.ErrorDetection

namespace AstraFsw.Wire

open Register

/-! ## The undetected bursts -/

/-- by wire bits -/
def undetectedBursts : List (Finset ℕ) :=
  [{179, 180, 183, 185, 188, 189, 190, 191, 192, 193}, {179, 183, 184, 188, 190, 192}, {180, 184, 185, 189, 191, 193},
    {182, 186, 187, 189, 191, 192, 195, 197}, {184, 188, 191, 192, 194, 199},
    {189, 190, 191, 192, 193, 194, 197, 198, 199, 201, 202, 203}, {189, 190, 192, 193, 197, 198, 201, 202},
    {189, 191, 192, 194, 197, 199, 201, 203}, {189, 192, 197, 201}, {190, 191, 193, 194, 198, 199, 202, 203},
    {190, 193, 198, 202}, {191, 194, 199, 203}]

theorem undetectedBursts_cross : ∀ burst ∈ undetectedBursts,
    (∀ w ∈ burst, 176 ≤ w) ∧ (∃ w ∈ burst, w < 192) ∧ ∃ w ∈ burst, 192 ≤ w := by decide

theorem undetectedBursts_value : ∀ burst ∈ undetectedBursts,
    Lfsr.value shift one (burst.image (exponent 24)) = 0 := by decide +kernel

/-! ## Multiples of the generator below `x ^ 24` -/

/-- the multiple with these upper eight coefficients, as a bit pattern -/
def codeword (high : ℕ) : ℕ := (high <<< 16) ||| (shift^[16] (ofNat high)).toNat

/-- the exponents in a window with `s` data bits, which have `x ^ (s - 8)` in common -/
def windowExponent (s w : ℕ) : ℕ := exponent 24 w - (s - 8)

/-- the exponents between the data and the trailer that are outside the window, as a bit pattern -/
def gap (s : ℕ) : ℕ := (2 ^ min s 8 - 1) <<< min 8 (16 - s)

/-- the wire bits of a multiple in the window -/
def burstOf (s word : ℕ) : Finset ℕ :=
  (Finset.Ico (192 - s) (208 - s)).filter fun w => word.testBit (windowExponent s w) = true

theorem codewords_checked : ∀ s < 16, ∀ high < 2 ^ min s 8, codeword high &&& gap s = 0 →
    high = 0 ∨ burstOf s (codeword high) ∈ undetectedBursts := by decide +kernel

theorem testBit_codeword (high k : ℕ) :
    (codeword high).testBit k = ((decide (16 ≤ k) && high.testBit (k - 16)) || bit (shift^[16] (ofNat high)) k) := by
  rw [codeword, Nat.testBit_or, Nat.testBit_shiftLeft, testBit_toNat]

/-- **A polynomial below `x ^ (16 + m)` with remainder zero is determined by its upper coefficients.** -/
theorem exists_codeword {m : ℕ} (hm : m ≤ 16) {S : Finset ℕ} (hS : ∀ k ∈ S, k < 16 + m)
    (hzero : Lfsr.value shift one S = 0) : ∃ high < 2 ^ m, ∀ k, (codeword high).testBit k = true ↔ k ∈ S := by
  have hlow : ∀ k ∈ Lfsr.lowPart 16 S, k < 16 := by
    intro k hk
    exact (Lfsr.mem_lowPart.1 hk).2
  have hhigh : ∀ k ∈ Lfsr.highPart 16 S, k < 16 := by
    intro k hk
    have hlt := hS _ (Lfsr.mem_highPart.1 hk)
    omega
  -- the low part is what the high part has become after 16 steps
  rw [Lfsr.value_split shift one 16 S, add_eq_zero_iff_eq_neg] at hzero
  have hlow_eq : Lfsr.value shift one (Lfsr.lowPart 16 S) = shift^[16] (Lfsr.value shift one (Lfsr.highPart 16 S)) :=
    hzero
  have hbit : ∀ k < 16, bit (Lfsr.value shift one (Lfsr.highPart 16 S)) k = true ↔ k + 16 ∈ S := by
    intro k hk
    rw [bit_value hhigh hk, Lfsr.mem_highPart]
  generalize Lfsr.value shift one (Lfsr.highPart 16 S) = upper at hlow_eq hbit
  refine ⟨upper.toNat, ?_, ?_⟩
  · apply Nat.lt_pow_two_of_testBit
    intro k hk
    rw [testBit_toNat, Bool.eq_false_iff]
    intro htrue
    rcases Nat.lt_or_ge k 16 with hlt | hge
    · have hmem := hS _ ((hbit k hlt).1 htrue)
      omega
    · exact Bool.false_ne_true ((bit_of_ge upper hge).symm.trans htrue)
  · intro k
    rw [testBit_codeword, ofNat_toNat, testBit_toNat, ← hlow_eq]
    rcases Nat.lt_or_ge k 16 with hlt | hge
    · rw [decide_eq_false (by omega), Bool.false_and, Bool.false_or, bit_value hlow hlt, Lfsr.mem_lowPart]
      exact and_iff_left hlt
    · rw [decide_eq_true hge, Bool.true_and, bit_of_ge _ hge, Bool.or_false]
      rcases Nat.lt_or_ge (k - 16) 16 with hlt | hge'
      · rw [hbit _ hlt, Nat.sub_add_cancel hge]
      · rw [bit_of_ge _ hge']
        refine iff_of_false Bool.false_ne_true ?_
        intro hmem
        have hlt := hS k hmem
        omega

/-! ## Windows -/

theorem exponent_cases {w : ℕ} (h : w < 208) :
    (w < 192 ∧ exponent 24 w = 207 - w) ∨ (192 ≤ w ∧ w < 200 ∧ exponent 24 w = 199 - w) ∨
      (200 ≤ w ∧ exponent 24 w = 215 - w) := by
  unfold exponent byteExponent
  split_ifs <;> omega

/-- a window inside the data or inside the trailer -/
theorem residue_ne_zero_of_inside {error : List UInt8} (herror : error.length = 26) (hne : (flipped error).Nonempty)
    {start : ℕ} (hwindow : ∀ w ∈ flipped error, start ≤ w ∧ w < start + 16) (hinside : start ≤ 176 ∨ 192 ≤ start) :
    residue 0 24 error ≠ 0 := by
  rw [residue_eq_value (n := 24) herror]
  have hburst : ∀ k ∈ (flipped error).image (exponent 24), 192 - start ≤ k ∧ k < 192 - start + 16 := by
    intro k hk
    obtain ⟨w, hw, rfl⟩ := Finset.mem_image.1 hk
    have hlt : w < 208 := lt_of_mem_flipped herror hw
    have hw := hwindow w hw
    have hcases := exponent_cases hlt
    omega
  exact Lfsr.value_ne_zero_of_burst shift one shift_injective eq_empty_of_value_eq_zero (hne.image _) hburst

/-! A window with `s` data bits and `16 - s` of the trailer -/

section Crossing

variable {s : ℕ} (hpos : 0 < s) (hs : s < 16)

include hpos hs

theorem exponent_window {w : ℕ} (hw : 192 - s ≤ w ∧ w < 208 - s) :
    exponent 24 w = windowExponent s w + (s - 8) ∧ windowExponent s w < 16 + min s 8 ∧
      (gap s).testBit (windowExponent s w) = false := by
  have hcases := @exponent_cases w (by omega)
  unfold windowExponent
  refine ⟨by omega, by omega, ?_⟩
  rw [gap, Nat.testBit_shiftLeft, Nat.testBit_two_pow_sub_one, Bool.and_eq_false_iff, decide_eq_false_iff_not,
    decide_eq_false_iff_not]
  omega

theorem windowExponent_inj {v w : ℕ} (hv : 192 - s ≤ v ∧ v < 208 - s) (hw : 192 - s ≤ w ∧ w < 208 - s)
    (h : windowExponent s v = windowExponent s w) : v = w := by
  apply exponent_injOn 24
  · change v < 208
    omega
  · change w < 208
    omega
  · rw [(exponent_window hpos hs hv).1, (exponent_window hpos hs hw).1, h]

variable {error : List UInt8} (herror : error.length = 26) (hwindow : ∀ w ∈ flipped error, 192 - s ≤ w ∧ w < 208 - s)
  (hzero : residue 0 24 error = 0)

include herror hwindow hzero

/-- the common power is taken out of the error -/
theorem value_window : Lfsr.value shift one ((flipped error).image (windowExponent s)) = 0 := by
  have hmap : ((flipped error).image (windowExponent s)).map (addRightEmbedding (s - 8)) =
      (flipped error).image (exponent 24) := by
    rw [Finset.map_eq_image, Finset.image_image]
    apply Finset.image_congr
    intro w hw
    exact (exponent_window hpos hs (hwindow w hw)).1.symm
  apply shift_injective.iterate (s - 8)
  rw [← Lfsr.value_map_add, hmap, ← residue_eq_value (n := 24) herror, hzero, iterate_map_zero]

theorem mem_undetectedBursts_of_residue (hne : (flipped error).Nonempty) : flipped error ∈ undetectedBursts := by
  obtain ⟨high, hhigh, hbits⟩ := exists_codeword (m := min s 8) (by omega) (by
    intro k hk
    obtain ⟨w, hw, rfl⟩ := Finset.mem_image.1 hk
    exact (exponent_window hpos hs (hwindow w hw)).2.1) (value_window hpos hs herror hwindow hzero)
  have hgap : codeword high &&& gap s = 0 := by
    apply Nat.eq_of_testBit_eq
    intro k
    rw [Nat.testBit_and, Nat.zero_testBit, Bool.and_eq_false_iff]
    by_cases hk : (codeword high).testBit k = true
    · obtain ⟨w, hw, rfl⟩ := Finset.mem_image.1 ((hbits k).1 hk)
      exact Or.inr (exponent_window hpos hs (hwindow w hw)).2.2
    · exact Or.inl (Bool.not_eq_true _ ▸ hk)
  have hburst : burstOf s (codeword high) = flipped error := by
    ext w
    rw [burstOf, Finset.mem_filter, Finset.mem_Ico, hbits, Finset.mem_image]
    refine ⟨fun h => ?_, fun hw => ⟨hwindow w hw, w, hw, rfl⟩⟩
    obtain ⟨hw, v, hv, heq⟩ := h
    rwa [← windowExponent_inj hpos hs (hwindow v hv) hw heq]
  rcases codewords_checked s hs high hhigh hgap with hhigh0 | hmem
  · -- the zero multiple is no error
    exfalso
    rw [← hburst, hhigh0] at hne
    obtain ⟨w, hw⟩ := hne
    have hbit := (Finset.mem_filter.1 hw).2
    have hcodeword : codeword 0 = 0 := by decide +kernel
    rw [hcodeword, Nat.zero_testBit] at hbit
    exact Bool.false_ne_true hbit
  · rwa [← hburst]

end Crossing

theorem residue_eq_zero_iff {error : List UInt8} (herror : error.length = 26) (hne : (flipped error).Nonempty)
    {start : ℕ} (hwindow : ∀ w ∈ flipped error, start ≤ w ∧ w < start + 16) :
    residue 0 24 error = 0 ↔ flipped error ∈ undetectedBursts := by
  refine ⟨fun hzero => ?_, fun hmem => ?_⟩
  · by_cases hinside : start ≤ 176 ∨ 192 ≤ start
    · exact absurd hzero (residue_ne_zero_of_inside herror hne hwindow hinside)
    · apply @mem_undetectedBursts_of_residue (192 - start) (by omega) (by omega) error herror _ hzero hne
      intro w hw
      have hw := hwindow w hw
      omega
  · rw [residue_eq_value (n := 24) herror]
    exact undetectedBursts_value _ hmem

/-! ## Detection -/

/-- bytes in front of the first flipped bit are unchanged -/
theorem corrupt_getElem? {bytes error : List UInt8} (hlen : error.length = bytes.length) {i : ℕ}
    (h : ∀ w ∈ flipped error, 8 * (i + 1) ≤ w) : (corrupt bytes error)[i]? = bytes[i]? := by
  rcases Nat.lt_or_ge i bytes.length with hlt | hge
  · have hzero : error.getD i 0 = 0 := by
      rw [← UInt8.toNat_inj]
      apply Nat.eq_of_testBit_eq
      intro k
      rw [UInt8.toNat_zero, Nat.zero_testBit, Bool.eq_false_iff]
      intro htrue
      rcases Nat.lt_or_ge k 8 with hk | hk
      · have hdiv : (8 * i + (7 - k)) / 8 = i := by omega
        have hmod : 7 - (8 * i + (7 - k)) % 8 = k := by omega
        have hmem : 8 * i + (7 - k) ∈ flipped error := by
          rw [flipped, Finset.mem_filter, Finset.mem_range, wireBit, hdiv, hmod]
          exact ⟨by omega, htrue⟩
        have hle := h _ hmem
        omega
      · rw [testBit_of_ge _ hk] at htrue
        exact Bool.false_ne_true htrue
    have hget := getD_corrupt hlen i
    rw [hzero, UInt8.xor_zero, List.getD_eq_getElem _ _ (by rwa [length_corrupt hlen]), List.getD_eq_getElem _ _ hlt]
      at hget
    rw [List.getElem?_eq_getElem (by rwa [length_corrupt hlen]), List.getElem?_eq_getElem hlt, hget]
  · rw [List.getElem?_eq_none (by rwa [length_corrupt hlen]), List.getElem?_eq_none hge]

/-- an error behind the command id that the check does not notice is accepted -/
theorem acceptableCommand_corrupt {bytes error : List UInt8} (h : AcceptableCommand bytes) (herror : error.length = 26)
    (hbehind : ∀ w ∈ flipped error, 160 ≤ w) (hcheck : Check 24 (corrupt bytes error)) :
    AcceptableCommand (corrupt bytes error) := by
  have hlen : error.length = bytes.length := herror.trans h.length.symm
  have hsame : ∀ i < 20, (corrupt bytes error)[i]? = bytes[i]? := by
    intro i hi
    apply corrupt_getElem? hlen
    intro w hw
    have hle := hbehind w hw
    omega
  have h32 : readU32 (corrupt bytes error) 0 = readU32 bytes 0 := by
    simp only [readU32, hsame 0 (by decide), hsame (0 + 1) (by decide), hsame (0 + 2) (by decide),
      hsame (0 + 3) (by decide)]
  have h16 : ∀ i < 19, readU16 (corrupt bytes error) i = readU16 bytes i := by
    intro i hi
    simp only [readU16, hsame i (by omega), hsame (i + 1) (by omega)]
  refine ⟨(length_corrupt hlen).trans h.length, hcheck, h32.trans h.magic, (h16 4 (by decide)).trans h.version, ?_⟩
  rw [h16 18 (by decide)]
  exact h.commandId

/-- **An error within 16 wire bits is detected unless it is one of the twelve.** -/
theorem burst_detected_iff {bytes : List UInt8} {packetOut packet : CommandPacket}
    (haccepted : deserializeCommandPacket bytes packetOut = some (true, packet)) {error : List UInt8}
    (herror : error.length = 26) (hne : (flipped error).Nonempty) {start : ℕ}
    (hwindow : ∀ w ∈ flipped error, start ≤ w ∧ w < start + 16) (out : CommandPacket) :
    deserializeCommandPacket (corrupt bytes error) out = some (false, out) ↔ flipped error ∉ undetectedBursts := by
  have hacceptable := (acceptableCommand_iff bytes packetOut).1 ⟨packet, haccepted⟩
  have hcheck : Check 24 (corrupt bytes error) ↔ flipped error ∈ undetectedBursts := by
    rw [check_corrupt_iff hacceptable.length (herror.trans hacceptable.length.symm) hacceptable.crc,
      residue_eq_zero_iff herror hne hwindow]
  refine ⟨fun hrejected hmem => ?_, fun hmem => ?_⟩
  · have hbehind : ∀ w ∈ flipped error, 160 ≤ w := by
      intro w hw
      have hle := (undetectedBursts_cross _ hmem).1 w hw
      omega
    have hcorrupt := acceptableCommand_corrupt hacceptable herror hbehind (hcheck.2 hmem)
    obtain ⟨packet', hpacket'⟩ := (acceptableCommand_iff _ out).2 hcorrupt
    rw [hrejected] at hpacket'
    simp at hpacket'
  · exact deserializeCommandPacket_of_not_check (fun h => hmem (hcheck.1 h)) out

/-- SET_MODE to NOMINAL with the last bit of the argument and three bits of the trailer flipped -/
theorem burst_undetected :
    deserializeCommandPacket (serializeCommandPacket setModeNominal) {} = some (true, setModeNominal) ∧
      flipped (List.replicate 23 0 ++ [0x01, 0x21, 0x10]) = {191, 194, 199, 203} ∧
        deserializeCommandPacket
          (corrupt (serializeCommandPacket setModeNominal) (List.replicate 23 0 ++ [0x01, 0x21, 0x10])) {} =
            some (true, { setModeNominal with argument := 0x01000001 }) := by decide +kernel

/-- **Bursts.** For every accepted packet and every error within 16 wire bits, wherever the window is, the corrupted
packet is rejected unless the flipped bits are one of the twelve undetected bursts; all of these cross the boundary, so
an error inside the data or inside the trailer is always rejected. -/
theorem bursts_detected :
    (∀ bytes packetOut packet, deserializeCommandPacket bytes packetOut = some (true, packet) →
      ∀ error, error.length = 26 → (flipped error).Nonempty →
        ∀ start, (∀ w ∈ flipped error, start ≤ w ∧ w < start + 16) →
          ∀ out, deserializeCommandPacket (corrupt bytes error) out = some (false, out) ↔
            flipped error ∉ undetectedBursts) ∧
    ∀ burst ∈ undetectedBursts, (∃ w ∈ burst, w < 192) ∧ ∃ w ∈ burst, 192 ≤ w := by
  refine ⟨?_, ?_⟩
  · intro bytes packetOut packet haccepted error herror hne start hwindow out
    exact burst_detected_iff haccepted herror hne hwindow out
  · intro burst hburst
    exact (undetectedBursts_cross burst hburst).2

/-- the first two bytes inverted -/
theorem bursts_detected_magic :
    deserializeCommandPacket (corrupt (serializeCommandPacket setModeNominal) ([0xFF, 0xFF] ++ List.replicate 24 0)) {} =
      some (false, {}) :=
  (bursts_detected.1 (serializeCommandPacket setModeNominal) {} setModeNominal
    (deserializeCommandPacket_serialize (by decide) {}) ([0xFF, 0xFF] ++ List.replicate 24 0) rfl
    ⟨0, by decide +kernel⟩ 0 (by decide +kernel) {}).2 (by decide +kernel)

end AstraFsw.Wire
