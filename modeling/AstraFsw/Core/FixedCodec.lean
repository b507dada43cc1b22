/-
Fixed-width codecs: bijections between a type of values and the strings of one length.

`FixedCodec β α` encodes each `α` in `width` symbols of type `β`, and every string of that length is the encoding of
exactly one value. Codecs compose (`prod`): a record is the product of its fields.

Reading at an offset (`read`) fails when the string ends first. What a read returns is what is written there:
- `read_eq_some_iff`: a value is read exactly where it is encoded (`At`), and the offset moves by the width;
- `at_prod_iff`: a product is encoded where its fields are, one behind the other;
- `exists_at`: a string of the codec's width is the encoding of a value.

`littleEndian n` is the codec of numbers below `256 ^ n` in `n` bytes, least significant byte first.
-/
import Mathlib.Tactic

namespace AstraFsw

structure FixedCodec (β α : Type*) where
  width : ℕ
  encode : α → List β
  decode : List β → α
  length_encode : ∀ a, (encode a).length = width
  decode_encode : ∀ a, decode (encode a) = a
  encode_decode : ∀ bs, bs.length = width → encode (decode bs) = bs

namespace FixedCodec

variable {β α γ : Type*} (c : FixedCodec β α) (d : FixedCodec β γ)

/-! ## Reading at an offset -/

def read (bs : List β) (offset : ℕ) : Option (α × ℕ) :=
  if offset + c.width ≤ bs.length then some (c.decode ((bs.drop offset).take c.width), offset + c.width) else none

/-- the value is encoded at the offset -/
def At (bs : List β) (offset : ℕ) (a : α) : Prop := offset ≤ bs.length ∧ c.encode a <+: bs.drop offset

variable {c} in
theorem At.length_le {bs : List β} {offset : ℕ} {a : α} (h : c.At bs offset a) : offset + c.width ≤ bs.length := by
  have hlen := h.2.length_le
  rw [c.length_encode, List.length_drop] at hlen
  have hle := h.1
  omega

/-- **A value is read exactly where it is encoded.** -/
theorem read_eq_some_iff {bs : List β} {offset next : ℕ} {a : α} :
    c.read bs offset = some (a, next) ↔ c.At bs offset a ∧ next = offset + c.width := by
  unfold read
  constructor
  · intro h
    split_ifs at h with hlen
    obtain ⟨rfl, rfl⟩ := Prod.mk.inj (Option.some.inj h)
    have hwidth : ((bs.drop offset).take c.width).length = c.width := by
      rw [List.length_take, List.length_drop]
      omega
    refine ⟨⟨by omega, ?_⟩, rfl⟩
    rw [c.encode_decode _ hwidth]
    exact List.take_prefix _ _
  · rintro ⟨h, rfl⟩
    have htake := List.prefix_iff_eq_take.1 h.2
    rw [c.length_encode] at htake
    rw [if_pos h.length_le, ← htake, c.decode_encode]

/-- reading, seen from the rest of the string -/
theorem read_eq_drop (hwidth : 0 < c.width) (bs : List β) (offset : ℕ) :
    c.read bs offset =
      if c.width ≤ (bs.drop offset).length then some (c.decode ((bs.drop offset).take c.width), offset + c.width)
      else none := by
  rw [read, List.length_drop]
  apply if_congr _ rfl rfl
  omega

variable {c} in
theorem At.read {bs : List β} {offset : ℕ} {a : α} (h : c.At bs offset a) :
    c.read bs offset = some (a, offset + c.width) := c.read_eq_some_iff.2 ⟨h, rfl⟩

variable {c} in
theorem At.take_eq {bs : List β} {a : α} (h : c.At bs 0 a) : bs.take c.width = c.encode a := by
  have htake := List.prefix_iff_eq_take.1 h.2
  rw [c.length_encode, List.drop_zero] at htake
  exact htake.symm

/-- **A string of the codec's width is the encoding of a value.** -/
theorem exists_at {bs : List β} (h : bs.length = c.width) : ∃ a, c.At bs 0 a := by
  refine ⟨c.decode bs, Nat.zero_le _, ?_⟩
  rw [c.encode_decode bs h, List.drop_zero]

theorem at_encode (a : α) : c.At (c.encode a) 0 a := by
  refine ⟨Nat.zero_le _, ?_⟩
  rw [List.drop_zero]

variable {c} in
/-- a string of the codec's width is what it encodes -/
theorem At.eq_encode {bs : List β} {a : α} (h : c.At bs 0 a) (hlen : bs.length = c.width) : bs = c.encode a := by
  have hfront := h.2
  rw [List.drop_zero] at hfront
  exact (hfront.eq_of_length (by rw [c.length_encode, hlen])).symm

/-! ## Products -/

def prod : FixedCodec β (α × γ) where
  width := c.width + d.width
  encode p := c.encode p.1 ++ d.encode p.2
  decode bs := (c.decode (bs.take c.width), d.decode (bs.drop c.width))
  length_encode p := by rw [List.length_append, c.length_encode, d.length_encode]
  decode_encode p := by
    have hwidth := c.length_encode p.1
    rw [List.take_append_of_le_length hwidth.ge, List.take_of_length_le hwidth.le, List.drop_append_of_le_length hwidth.ge,
      List.drop_of_length_le hwidth.le, List.nil_append, c.decode_encode, d.decode_encode]
  encode_decode bs hlen := by
    have hhead : (bs.take c.width).length = c.width := by
      rw [List.length_take]
      omega
    have htail : (bs.drop c.width).length = d.width := by
      rw [List.length_drop]
      omega
    rw [c.encode_decode _ hhead, d.encode_decode _ htail, List.take_append_drop]

@[simp] theorem width_prod : (c.prod d).width = c.width + d.width := rfl

@[simp] theorem encode_prod (a : α) (b : γ) : (c.prod d).encode (a, b) = c.encode a ++ d.encode b := rfl

/-- **A product is encoded where its fields are**, one behind the other. -/
theorem at_prod_iff {bs : List β} {offset : ℕ} {a : α} {b : γ} :
    (c.prod d).At bs offset (a, b) ↔ c.At bs offset a ∧ d.At bs (offset + c.width) b := by
  constructor
  · rintro ⟨hle, rest, hrest⟩
    have hhead : c.At bs offset a := by
      refine ⟨hle, d.encode b ++ rest, ?_⟩
      rw [← hrest, encode_prod, List.append_assoc]
    refine ⟨hhead, hhead.length_le, rest, ?_⟩
    rw [← List.drop_drop, ← hrest, encode_prod, List.append_assoc, ← c.length_encode a, List.drop_left]
  · rintro ⟨⟨hle, rest, hrest⟩, -, hb⟩
    refine ⟨hle, ?_⟩
    rw [← List.drop_drop, ← hrest, ← c.length_encode a, List.drop_left] at hb
    rw [encode_prod, ← hrest]
    exact (List.prefix_append_right_inj _).2 hb

end FixedCodec

/-! ## Little-endian numbers -/

namespace LittleEndian

def bytes : ℕ → ℕ → List UInt8
  | 0, _ => []
  | n + 1, v => UInt8.ofNat v :: bytes n (v / 256)

def value : List UInt8 → ℕ
  | [] => 0
  | b :: bs => b.toNat + 256 * value bs

@[simp] theorem length_bytes (n v : ℕ) : (bytes n v).length = n := by
  induction n generalizing v with
  | zero => rfl
  | succ n ih => simp [bytes, ih]

theorem value_lt (bs : List UInt8) : value bs < 256 ^ bs.length := by
  induction bs with
  | nil => simp [value]
  | cons b bs ih =>
    have hb := b.toNat_lt
    rw [List.length_cons, pow_succ, value]
    omega

theorem value_bytes {n v : ℕ} (h : v < 256 ^ n) : value (bytes n v) = v := by
  induction n generalizing v with
  | zero =>
    rw [pow_zero] at h
    simp only [bytes, value]
    omega
  | succ n ih =>
    have hdiv : v / 256 < 256 ^ n := by
      rw [pow_succ] at h
      omega
    simp only [bytes, value, ih hdiv, UInt8.toNat_ofNat']
    omega

theorem bytes_value (bs : List UInt8) : bytes bs.length (value bs) = bs := by
  induction bs with
  | nil => rfl
  | cons b bs ih =>
    have hb := b.toNat_lt
    have hdiv : (b.toNat + 256 * value bs) / 256 = value bs := by omega
    have hhead : UInt8.ofNat (b.toNat + 256 * value bs) = b := by
      rw [← UInt8.toNat_inj, UInt8.toNat_ofNat']
      omega
    rw [List.length_cons, value, bytes, hdiv, ih, hhead]

/-- bytes shifted into a value one behind the other, from bit `k` on -/
def lorBytes (v k : ℕ) : List UInt8 → ℕ
  | [] => v
  | b :: bs => lorBytes (v ||| b.toNat <<< k) (k + 8) bs

/-- shifting bytes past a value appends them to it -/
theorem lorBytes_eq {v k : ℕ} (h : v < 2 ^ k) (bs : List UInt8) : lorBytes v k bs = v + 2 ^ k * value bs := by
  induction bs generalizing v k with
  | nil => simp [lorBytes, value]
  | cons b bs ih =>
    have hb := b.toNat_lt
    have hor : v ||| b.toNat <<< k = v + 2 ^ k * b.toNat := by
      rw [Nat.or_comm, ← Nat.shiftLeft_add_eq_or_of_lt h, Nat.shiftLeft_eq]
      ring
    have hlt : v + 2 ^ k * b.toNat < 2 ^ (k + 8) := by
      calc v + 2 ^ k * b.toNat < 2 ^ k + 2 ^ k * b.toNat := by omega
        _ = 2 ^ k * (b.toNat + 1) := by ring
        _ ≤ 2 ^ k * 2 ^ 8 := Nat.mul_le_mul_left _ hb
        _ = 2 ^ (k + 8) := (pow_add 2 k 8).symm
    rw [lorBytes, hor, ih hlt, value]
    ring

/-- a byte shifted inside a word loses nothing -/
theorem shiftLeft_lt (b : UInt8) {k n : ℕ} (h : k + 8 ≤ n) : b.toNat <<< k < 2 ^ n := by
  have hb := b.toNat_lt
  calc b.toNat <<< k < 2 ^ 8 * 2 ^ k := by rw [Nat.shiftLeft_eq]; gcongr
    _ = 2 ^ (8 + k) := (pow_add 2 8 k).symm
    _ ≤ 2 ^ n := Nat.pow_le_pow_right (by norm_num) (by omega)

/-- the low byte of a shifted value -/
theorem shiftRight_and (v k : ℕ) : v >>> k % 256 &&& 255 = v / 2 ^ k % 256 := by
  have hmask : v / 2 ^ k % 256 &&& 255 = v / 2 ^ k % 256 % 256 := Nat.and_two_pow_sub_one_eq_mod _ 8
  rw [Nat.shiftRight_eq_div_pow, hmask, Nat.mod_mod]

end LittleEndian

/-- numbers below `256 ^ n` in `n` bytes, for a type `α` of such numbers -/
def FixedCodec.littleEndian {α : Type*} (n : ℕ) (toNat : α → ℕ) (ofNat : ℕ → α) (hlt : ∀ a, toNat a < 256 ^ n)
    (hofNat : ∀ a, ofNat (toNat a) = a) (htoNat : ∀ v < 256 ^ n, toNat (ofNat v) = v) : FixedCodec UInt8 α where
  width := n
  encode a := LittleEndian.bytes n (toNat a)
  decode bs := ofNat (LittleEndian.value bs)
  length_encode a := LittleEndian.length_bytes n (toNat a)
  decode_encode a := by rw [LittleEndian.value_bytes (hlt a), hofNat]
  encode_decode bs h := by
    have hvalue := LittleEndian.value_lt bs
    rw [h] at hvalue
    rw [htoNat _ hvalue, ← h, LittleEndian.bytes_value]

end AstraFsw
