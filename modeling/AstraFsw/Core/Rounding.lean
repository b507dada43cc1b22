/-
Rounding to a number of significant bits, to the nearest, ties to even; and with it the sums, products and conversions of
32-bit floats that are finite and not negative.

A value in a range where no exponent limit is met is a natural number of some small unit, and rounding it keeps its
first `p` bits (`roundTo`): the arithmetic of 64-bit floats on such values is that of the naturals with `roundTo 53`
after each operation. Rounding keeps the order (`roundTo_mono`), changes no value of `p` bits (`roundTo_of_bits`) and adds
at most one part in 2^(p-1) (`roundTo_le_add`).

For 32-bit floats the exact result is a dyadic `n / 2^s` in units of 2^-149. Its pattern is found by shifting it right
until 24 bits are left: with `k` the extra shift and `q` the rounded quotient, the pattern is `k * 2^23 + q`, in the
subnormal range, in every binade and at a carry into the next one alike. Patterns grow with the values they stand for
(`magnitude_mono`), and rounding keeps the order (`roundBits_mono`), so a comparison of rounded results follows from exact
arithmetic at two neighbouring inputs.
-/
import AstraFsw.Core.Binary32

namespace AstraFsw

namespace Rounding

/-- `n / 2^k` to the nearest natural, ties to the even one -/
def divRoundEven (n k : ℕ) : ℕ :=
  let q := n / 2 ^ k
  let r := n % 2 ^ k
  if 2 * r < 2 ^ k then q else if 2 ^ k < 2 * r then q + 1 else q + q % 2

/-- the shift that leaves `p` bits of `n` -/
def excess (p n : ℕ) : ℕ := Nat.log2 n + 1 - p

/-- `n` to `p` significant bits -/
def roundTo (p n : ℕ) : ℕ := divRoundEven n (excess p n) * 2 ^ excess p n

/-! ## Quotients -/

theorem div_le_divRoundEven (n k : ℕ) : n / 2 ^ k ≤ divRoundEven n k ∧ divRoundEven n k ≤ n / 2 ^ k + 1 := by
  unfold divRoundEven
  simp only
  split_ifs <;> omega

theorem divRoundEven_mono {n m : ℕ} (h : n ≤ m) (k : ℕ) : divRoundEven n k ≤ divRoundEven m k := by
  have hq : n / 2 ^ k ≤ m / 2 ^ k := Nat.div_le_div_right h
  rcases Nat.lt_or_eq_of_le hq with hlt | heq
  · have hn := (div_le_divRoundEven n k).2
    have hm := (div_le_divRoundEven m k).1
    omega
  · -- equal quotients: the remainders are in the order of the values
    have hr : n % 2 ^ k ≤ m % 2 ^ k := by
      have hn := Nat.div_add_mod n (2 ^ k)
      have hm := Nat.div_add_mod m (2 ^ k)
      rw [heq] at hn
      omega
    unfold divRoundEven
    simp only [heq]
    split_ifs <;> omega

theorem divRoundEven_zero (n : ℕ) : divRoundEven n 0 = n := by simp [divRoundEven, Nat.mod_one]

theorem divRoundEven_of_dvd {n k : ℕ} (h : 2 ^ k ∣ n) : divRoundEven n k = n / 2 ^ k := by
  have hpos : 0 < 2 ^ k := by positivity
  simp [divRoundEven, Nat.mod_eq_zero_of_dvd h]

/-! ## The shift -/

/-- the shift leaves at most `p` bits -/
theorem div_lt_of_excess (p n s : ℕ) : n / 2 ^ (s + excess p (n / 2 ^ s)) < 2 ^ p := by
  rw [pow_add, ← Nat.div_div_eq_div_mul, Nat.div_lt_iff_lt_mul (by positivity), ← pow_add]
  refine lt_of_lt_of_le Nat.lt_log2_self (Nat.pow_le_pow_right (by decide) ?_)
  unfold excess
  omega

/-- a shift that is needed leaves `p` bits -/
theorem le_div_of_excess {p n s : ℕ} (hp : 0 < p) (h : excess p (n / 2 ^ s) ≠ 0) :
    2 ^ (p - 1) ≤ n / 2 ^ (s + excess p (n / 2 ^ s)) := by
  have hlog : Nat.log2 (n / 2 ^ s) = p - 1 + excess p (n / 2 ^ s) := by unfold excess at h ⊢; omega
  have hne : n / 2 ^ s ≠ 0 := by
    intro hzero
    rw [hzero, excess, Nat.log2_zero] at h
    omega
  rw [pow_add 2 s, ← Nat.div_div_eq_div_mul, Nat.le_div_iff_mul_le (by positivity), ← pow_add, ← hlog]
  exact Nat.log2_self_le hne

theorem excess_mono {p n m : ℕ} (h : n ≤ m) : excess p n ≤ excess p m := by
  unfold excess
  have hlog : Nat.log2 n ≤ Nat.log2 m := by
    rw [Nat.log2_eq_log_two, Nat.log2_eq_log_two]
    exact Nat.log_mono_right h
  omega

theorem excess_of_lt {p n : ℕ} (hp : 0 < p) (h : n < 2 ^ p) : excess p n = 0 := by
  rcases Nat.eq_zero_or_pos n with rfl | hpos
  · rw [excess, Nat.log2_zero]
    omega
  · have hlog := (Nat.log2_lt (Nat.ne_of_gt hpos)).2 h
    unfold excess
    omega

/-! ## Significant bits -/

section RoundTo

variable {p n m : ℕ}

/-- **Rounding keeps the order.** -/
theorem roundTo_mono (hp : 0 < p) (h : n ≤ m) : roundTo p n ≤ roundTo p m := by
  unfold roundTo
  rcases Nat.lt_or_eq_of_le (excess_mono (p := p) h) with hlt | heq
  · -- the larger value lies in a higher binade
    have hn := div_lt_of_excess p n 0
    have hm : 2 ^ (p - 1) ≤ m / 2 ^ (0 + excess p (m / 2 ^ 0)) :=
      le_div_of_excess hp (by rw [pow_zero, Nat.div_one]; omega)
    simp only [pow_zero, Nat.div_one, Nat.zero_add] at hn hm
    have htwice : 2 ^ p * 2 ^ excess p n ≤ 2 ^ (p - 1) * 2 ^ excess p m := by
      rw [← pow_add, ← pow_add]
      exact Nat.pow_le_pow_right (by decide) (by omega)
    calc divRoundEven n (excess p n) * 2 ^ excess p n
        ≤ 2 ^ p * 2 ^ excess p n := Nat.mul_le_mul_right _ ((div_le_divRoundEven n _).2.trans hn)
      _ ≤ 2 ^ (p - 1) * 2 ^ excess p m := htwice
      _ ≤ divRoundEven m (excess p m) * 2 ^ excess p m :=
        Nat.mul_le_mul_right _ (hm.trans (div_le_divRoundEven m _).1)
  · rw [heq]
    exact Nat.mul_le_mul_right _ (divRoundEven_mono h _)

theorem roundTo_of_lt (hp : 0 < p) (h : n < 2 ^ p) : roundTo p n = n := by
  rw [roundTo, excess_of_lt hp h, divRoundEven_zero, pow_zero, Nat.mul_one]

/-- a value of `p` bits is not changed -/
theorem roundTo_of_bits (hp : 0 < p) {a k : ℕ} (h : a < 2 ^ p) : roundTo p (a * 2 ^ k) = a * 2 ^ k := by
  have hle : excess p (a * 2 ^ k) ≤ k := by
    rcases Nat.eq_zero_or_pos a with rfl | hpos
    · rw [Nat.zero_mul, excess_of_lt hp h]
      exact Nat.zero_le _
    · have hlt : a * 2 ^ k < 2 ^ (p + k) := by
        rw [pow_add]
        exact Nat.mul_lt_mul_of_pos_right h (by positivity)
      have hlog := (Nat.log2_lt (Nat.ne_of_gt (Nat.mul_pos hpos (by positivity)))).2 hlt
      unfold excess
      omega
  have hdvd : 2 ^ excess p (a * 2 ^ k) ∣ a * 2 ^ k := (pow_dvd_pow 2 hle).mul_left a
  rw [roundTo, divRoundEven_of_dvd hdvd, Nat.div_mul_cancel hdvd]

/-- below a value of `p` bits, a rounded value stays below it -/
theorem roundTo_le_of_bits (hp : 0 < p) {a k : ℕ} (ha : a < 2 ^ p) (h : n ≤ a * 2 ^ k) : roundTo p n ≤ a * 2 ^ k := by
  calc roundTo p n
      ≤ roundTo p (a * 2 ^ k) := roundTo_mono hp h
    _ = a * 2 ^ k := roundTo_of_bits hp ha

theorem roundTo_le_add (hp : 0 < p) (n : ℕ) : roundTo p n ≤ n + n / 2 ^ (p - 1) := by
  by_cases hzero : excess p n = 0
  · rw [roundTo, hzero, divRoundEven_zero, pow_zero, Nat.mul_one]
    exact Nat.le_add_right _ _
  · have hn : 2 ^ (p - 1) ≤ n / 2 ^ (0 + excess p (n / 2 ^ 0)) :=
      le_div_of_excess hp (by rwa [pow_zero, Nat.div_one])
    simp only [pow_zero, Nat.div_one, Nat.zero_add] at hn
    have hulp : 2 ^ excess p n ≤ n / 2 ^ (p - 1) := by
      rw [Nat.le_div_iff_mul_le (by positivity)] at hn ⊢
      rwa [Nat.mul_comm]
    calc roundTo p n
        ≤ (n / 2 ^ excess p n + 1) * 2 ^ excess p n := Nat.mul_le_mul_right _ (div_le_divRoundEven n _).2
      _ = n / 2 ^ excess p n * 2 ^ excess p n + 2 ^ excess p n := by rw [Nat.add_mul, Nat.one_mul]
      _ ≤ n + n / 2 ^ (p - 1) := Nat.add_le_add (Nat.div_mul_le_self _ _) hulp

end RoundTo

end Rounding

namespace Binary32

open Rounding

/-- the pattern of `n / 2^s` units of 2^-149; beyond the finite range it is that of the infinity -/
def roundBits (n s : ℕ) : ℕ :=
  let k := excess 24 (n / 2 ^ s)
  min (k * 2 ^ 23 + divRoundEven n (s + k)) (255 * 2 ^ 23)

def rounded (n s : ℕ) : Binary32 := ⟨UInt32.ofNat (roundBits n s)⟩

/-- `static_cast<float>(n)` -/
def ofNat (n : ℕ) : Binary32 := rounded (n * 2 ^ 149) 0

/-- `a + b` -/
def add (a b : Binary32) : Binary32 := rounded (a.magnitude + b.magnitude) 0

/-- `a * b` -/
def mul (a b : Binary32) : Binary32 := rounded (a.magnitude * b.magnitude) 149

/-! ## Patterns -/

/-- rounding to a pattern keeps the order -/
theorem roundBits_mono {n m : ℕ} (h : n ≤ m) (s : ℕ) : roundBits n s ≤ roundBits m s := by
  have hexcess : excess 24 (n / 2 ^ s) ≤ excess 24 (m / 2 ^ s) := excess_mono (Nat.div_le_div_right h)
  refine min_le_min_right _ ?_
  rcases Nat.lt_or_eq_of_le hexcess with hlt | heq
  · -- the larger value lies in a higher binade
    have hn := div_lt_of_excess 24 n s
    have hm : 2 ^ 23 ≤ m / 2 ^ (s + excess 24 (m / 2 ^ s)) := le_div_of_excess (p := 24) (by decide) (by omega)
    have hround := (div_le_divRoundEven n (s + excess 24 (n / 2 ^ s))).2
    have hround' := (div_le_divRoundEven m (s + excess 24 (m / 2 ^ s))).1
    omega
  · rw [heq]
    exact Nat.add_le_add_left (divRoundEven_mono h _) _

theorem toNat_rounded (n s : ℕ) : (rounded n s).bits.toNat = roundBits n s := by
  have hle : roundBits n s ≤ 255 * 2 ^ 23 := min_le_right _ _
  exact UInt32.toNat_ofNat_of_lt' (lt_of_le_of_lt hle (by decide))

/-! ## Patterns in the order of their values -/

/-- neither negative nor a NaN -/
def Plain (x : Binary32) : Prop := x.bits.toNat ≤ 255 * 2 ^ 23

theorem plain_rounded (n s : ℕ) : Plain (rounded n s) := by
  rw [Plain, toNat_rounded]
  exact min_le_right _ _

theorem Plain.scaled {x : Binary32} (h : x.Plain) : x.scaled = x.magnitude := by
  have hsign : x.negative = false := decide_eq_false (by unfold Plain at h; omega)
  rw [Binary32.scaled, hsign]
  rfl

theorem Plain.isNaN {x : Binary32} (h : x.Plain) : x.isNaN = false := by
  unfold Plain at h
  rw [Binary32.isNaN, decide_eq_false_iff_not]
  unfold exponent fraction
  omega

theorem Plain.exponent_fraction {x : Binary32} (h : x.Plain) :
    x.exponent * 2 ^ 23 + x.fraction = x.bits.toNat ∧ x.fraction < 2 ^ 23 := by
  unfold Plain at h
  unfold exponent fraction
  omega

theorem magnitude_mono {a b : Binary32} (h : a.bits.toNat ≤ b.bits.toNat) (hb : b.Plain) :
    a.magnitude ≤ b.magnitude := by
  have ha : a.Plain := h.trans hb
  obtain ⟨ha, hfa⟩ := ha.exponent_fraction
  obtain ⟨hb, hfb⟩ := hb.exponent_fraction
  unfold magnitude
  rcases Nat.lt_trichotomy a.exponent b.exponent with hlt | heq | hgt
  · have hne : b.exponent ≠ 0 := by omega
    rw [if_neg hne]
    split_ifs with hzero
    · calc a.fraction
          ≤ 2 ^ 23 + b.fraction := by omega
        _ ≤ (2 ^ 23 + b.fraction) * 2 ^ (b.exponent - 1) := le_mul_of_one_le_right (Nat.zero_le _) Nat.one_le_two_pow
    · calc (2 ^ 23 + a.fraction) * 2 ^ (a.exponent - 1)
          ≤ 2 ^ 23 * 2 * 2 ^ (a.exponent - 1) := Nat.mul_le_mul_right _ (by omega)
        _ ≤ 2 ^ 23 * 2 ^ (b.exponent - 1) := by
          rw [Nat.mul_assoc, ← Nat.pow_succ']
          exact Nat.mul_le_mul_left _ (Nat.pow_le_pow_right (by decide) (by omega))
        _ ≤ (2 ^ 23 + b.fraction) * 2 ^ (b.exponent - 1) := Nat.mul_le_mul_right _ (by omega)
  · rw [heq]
    split_ifs
    · omega
    · exact Nat.mul_le_mul_right _ (by omega)
  · omega

/-- `a >= b` for plain values, read off the patterns of a smaller `a` or a larger `b` -/
theorem ge_of_bits_le {a b : Binary32} (ha : a.Plain) (hb : b.Plain) (h : b.bits.toNat ≤ a.bits.toNat) :
    a.ge b = true := by
  have hle := magnitude_mono h ha
  simp [ge, ha.isNaN, hb.isNaN, ha.scaled, hb.scaled, hle]

theorem not_ge_of_magnitude_lt {a b : Binary32} (ha : a.Plain) (hb : b.Plain) (h : a.magnitude < b.magnitude) :
    a.ge b = false := by
  simp [ge, ha.isNaN, hb.isNaN, ha.scaled, hb.scaled, h]

/-! ## The operations in the order of their arguments -/

theorem ofNat_mono {n m : ℕ} (h : n ≤ m) : (ofNat n).bits.toNat ≤ (ofNat m).bits.toNat := by
  rw [ofNat, ofNat, toNat_rounded, toNat_rounded]
  exact roundBits_mono (Nat.mul_le_mul_right _ h) 0

theorem add_mono_right (c : Binary32) {a b : Binary32} (h : a.bits.toNat ≤ b.bits.toNat) (hb : b.Plain) :
    (c.add a).bits.toNat ≤ (c.add b).bits.toNat := by
  rw [add, add, toNat_rounded, toNat_rounded]
  exact roundBits_mono (Nat.add_le_add_left (magnitude_mono h hb) _) 0

theorem mul_mono_left (c : Binary32) {a b : Binary32} (h : a.bits.toNat ≤ b.bits.toNat) (hb : b.Plain) :
    (a.mul c).bits.toNat ≤ (b.mul c).bits.toNat := by
  rw [mul, mul, toNat_rounded, toNat_rounded]
  exact roundBits_mono (Nat.mul_le_mul_right _ (magnitude_mono h hb)) 149

-- 42 + 212 * 0.25 = 95
example : add ⟨0x42280000⟩ (mul (ofNat 212) ⟨0x3E800000⟩) = ⟨0x42BE0000⟩ := by decide +kernel

end Binary32

end AstraFsw
