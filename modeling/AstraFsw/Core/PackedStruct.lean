/-
Packed little-endian records: Python's `struct` with formats that start with `<`.

A format is a list of codes, one for each field, without padding between them. `pack` writes integers into unsigned
fields and fails on one that is out of range; `unpack` reads a string of exactly the format's size. A 32-bit float field
is widened to a Python float, which makes a signalling NaN quiet.

- `pack_cons`: a value in range is packed in front of the others;
- `unpack_unsigned`, `unpack_float32`: a packed value is unpacked in front of the others.
-/
import AstraFsw.Core.Binary32
import AstraFsw.Core.FixedCodec

namespace AstraFsw.PackedStruct

inductive Code where
  /-- an unsigned integer in this many bytes -/
  | unsigned (size : ℕ)
  | float32
deriving DecidableEq, Repr

inductive Value where
  | int (v : ℤ)
  /-- a float, by the 32-bit pattern it has the value of -/
  | float (x : Binary32)
deriving DecidableEq, Repr

namespace Code

def size : Code → ℕ
  | unsigned size => size
  | float32 => 4

def ofChar? : Char → Option Code
  | 'B' => some (unsigned 1)
  | 'H' => some (unsigned 2)
  | 'I' => some (unsigned 4)
  | 'Q' => some (unsigned 8)
  | 'f' => some float32
  | _ => none

/-- the value of a field's bytes -/
def read : Code → List UInt8 → Value
  | unsigned _, bytes => .int (LittleEndian.value bytes)
  | float32, bytes => .float (Binary32.widened ⟨UInt32.ofNat (LittleEndian.value bytes)⟩)

end Code

/-- the codes of a format string, `none` without the leading `<` or with a character of no code -/
def format (s : String) : Option (List Code) :=
  match s.toList with
  | '<' :: codes => codes.mapM Code.ofChar?
  | _ => none

/-- the fields' bytes; `none` when an integer is out of range or the numbers of fields differ -/
def pack : List Code → List ℤ → Option (List UInt8)
  | [], [] => some []
  | .unsigned size :: codes, v :: values =>
    if 0 ≤ v ∧ v < 256 ^ size then (pack codes values).map (LittleEndian.bytes size v.toNat ++ ·) else none
  | _, _ => none

/-- the fields' values; `none` when the string does not have the format's size -/
def unpack : List Code → List UInt8 → Option (List Value)
  | [], [] => some []
  | [], _ :: _ => none
  | code :: codes, bytes =>
    if bytes.length < code.size then none
    else (unpack codes (bytes.drop code.size)).map (code.read (bytes.take code.size) :: ·)

/-- the values of the fields that start at an offset -/
def unpackFrom (codes : List Code) (bytes : List UInt8) (offset : ℕ) : Option (List Value) :=
  unpack codes ((bytes.drop offset).take (codes.map Code.size).sum)

@[simp] theorem pack_nil : pack [] [] = some [] := rfl

@[simp] theorem unpack_nil : unpack [] [] = some [] := rfl

theorem pack_cons {size v : ℕ} (h : v < 256 ^ size) (codes : List Code) (values : List ℤ) :
    pack (.unsigned size :: codes) (v :: values) = (pack codes values).map (LittleEndian.bytes size v ++ ·) := by
  rw [pack, if_pos ⟨Int.natCast_nonneg v, by exact_mod_cast h⟩, Int.toNat_natCast]

/-- what is packed is in range, and in front of what the others are packed to -/
theorem pack_unsigned_eq_some {size : ℕ} {codes : List Code} {v : ℤ} {values : List ℤ} {bytes : List UInt8} :
    pack (.unsigned size :: codes) (v :: values) = some bytes ↔
      (0 ≤ v ∧ v < 256 ^ size) ∧
        ∃ rest, pack codes values = some rest ∧ LittleEndian.bytes size v.toNat ++ rest = bytes := by
  rw [pack]
  split_ifs with h
  · simp [h]
  · simp [h]

theorem unpack_cons {code : Code} {bytes : List UInt8} (h : bytes.length = code.size) (codes : List Code)
    (rest : List UInt8) : unpack (code :: codes) (bytes ++ rest) = (unpack codes rest).map (code.read bytes :: ·) := by
  have hlong : ¬ (bytes ++ rest).length < code.size := by
    rw [List.length_append]
    omega
  rw [unpack, if_neg hlong, ← h, List.drop_left, List.take_left]

theorem unpack_unsigned {size v : ℕ} (h : v < 256 ^ size) (codes : List Code) (rest : List UInt8) :
    unpack (.unsigned size :: codes) (LittleEndian.bytes size v ++ rest) =
      (unpack codes rest).map (.int v :: ·) := by
  rw [unpack_cons (LittleEndian.length_bytes size v), Code.read, LittleEndian.value_bytes h]

theorem unpack_float32 (x : Binary32) (codes : List Code) (rest : List UInt8) :
    unpack (.float32 :: codes) (LittleEndian.bytes 4 x.bits.toNat ++ rest) =
      (unpack codes rest).map (.float x.widened :: ·) := by
  have hvalue : UInt32.ofNat (LittleEndian.value (LittleEndian.bytes 4 x.bits.toNat)) = x.bits := by
    rw [LittleEndian.value_bytes x.bits.toNat_lt, UInt32.ofNat_toNat]
  rw [unpack_cons (LittleEndian.length_bytes 4 _), Code.read, hvalue]

end AstraFsw.PackedStruct
