/-
32-bit IEEE-754 values as bit patterns, with the ordering comparison of C++.

A pattern is sign, 8 exponent bits and 23 fraction bits. Exponent 255 with a nonzero fraction is a NaN. Every other
pattern is an integer multiple of 2^-149 (`scaled`); the infinities fit the same formula and lie beyond every finite
value. `ge` is `a >= b`: false when either side is a NaN, the comparison of the scaled integers otherwise. `ge_iff`
says this is the order of the exact real values, `ge_iff_reaches` the same for every pair of patterns. `widened_eq_iff`
says which patterns a conversion to 64 bits keeps.
-/
import Mathlib.Tactic
import Mathlib.Data.Real.Basic

namespace AstraFsw

structure Binary32 where
  bits : UInt32
deriving DecidableEq, Repr

namespace Binary32

def negative (x : Binary32) : Bool := decide (2 ^ 31 ≤ x.bits.toNat)

def exponent (x : Binary32) : ℕ := x.bits.toNat / 2 ^ 23 % 2 ^ 8

def fraction (x : Binary32) : ℕ := x.bits.toNat % 2 ^ 23

def isNaN (x : Binary32) : Bool := decide (x.exponent = 255 ∧ x.fraction ≠ 0)

/-- the absolute value in units of 2^-149; exponent 0 is the subnormal range -/
def magnitude (x : Binary32) : ℕ :=
  if x.exponent = 0 then x.fraction else (2 ^ 23 + x.fraction) * 2 ^ (x.exponent - 1)

/-- the value in units of 2^-149 (both zeros are 0) -/
def scaled (x : Binary32) : ℤ := if x.negative then -(x.magnitude : ℤ) else x.magnitude

/-- `a >= b` -/
def ge (a b : Binary32) : Bool := !a.isNaN && !b.isNaN && decide (b.scaled ≤ a.scaled)

/-- the exact value of a pattern that is not a NaN (an infinity reads as ±2^128) -/
noncomputable def toReal (x : Binary32) : ℝ := x.scaled / 2 ^ 149

/-- **The comparison is exact.** Away from NaN, `ge` is the order of the real values. -/
theorem ge_iff {a b : Binary32} (ha : a.isNaN = false) (hb : b.isNaN = false) :
    a.ge b = true ↔ b.toReal ≤ a.toReal := by
  have hpos : (0 : ℝ) < 2 ^ 149 := by positivity
  simp [ge, ha, hb, toReal, div_le_div_iff_of_pos_right hpos]

/-- `a` and `b` are numbers and the exact value of `a` reaches that of `b` -/
def Reaches (a b : Binary32) : Prop := a.isNaN = false ∧ b.isNaN = false ∧ b.toReal ≤ a.toReal

/-- the comparison for every pair of patterns: a NaN reaches nothing and is reached by nothing -/
theorem ge_iff_reaches (a b : Binary32) : a.ge b = true ↔ a.Reaches b := by
  by_cases ha : a.isNaN = false
  · by_cases hb : b.isNaN = false
    · rw [ge_iff ha hb]
      exact ⟨fun h => ⟨ha, hb, h⟩, fun h => h.2.2⟩
    · simp [ge, Reaches, hb]
  · simp [ge, Reaches, ha]

/-- a NaN with a clear quiet bit, the highest one of its fraction -/
def isSignalling (x : Binary32) : Bool := x.isNaN && !x.bits.toNat.testBit 22

/-- the conversion to a 64-bit float, which is exact and makes a signalling NaN quiet; the result is given by the 32-bit
pattern it has the value of -/
def widened (x : Binary32) : Binary32 := if x.isSignalling then ⟨x.bits ||| 0x00400000⟩ else x

/-- every pattern but those of the signalling NaNs survives the conversion -/
theorem widened_eq_iff (x : Binary32) : x.widened = x ↔ x.isSignalling = false := by
  unfold widened
  split_ifs with hsignalling
  · have hclear : x.bits.toNat.testBit 22 = false := by
      rw [isSignalling, Bool.and_eq_true, Bool.not_eq_true'] at hsignalling
      exact hsignalling.2
    have hset : (x.bits ||| 0x00400000).toNat.testBit 22 = true := by
      rw [UInt32.toNat_or, Nat.testBit_or, hclear]
      rfl
    simp only [hsignalling, reduceCtorEq, iff_false]
    intro h
    have hbits : x.bits ||| 0x00400000 = x.bits := congrArg bits h
    rw [hbits, hclear] at hset
    exact absurd hset (by decide)
  · simpa using hsignalling

end Binary32

end AstraFsw
