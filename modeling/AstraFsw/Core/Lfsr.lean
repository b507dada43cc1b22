/-
Linear feedback shift registers and their error-detecting power.

A register is an additive group `M` whose elements are their own negatives, with an additive step `T` (multiplication by
`x` modulo the generator) and a start element `u` (the constant 1). A set of exponents is a polynomial over two
elements, and `value T u S = ∑ k ∈ S, T^[k] u` its remainder: an error with exponents `S` goes unnoticed exactly when
its value is zero. Errors that are always noticed:
- `value_ne_zero_of_odd`: an odd number of exponents, if a parity functional is kept by the step;
- `value_ne_zero_of_pair`: two exponents below the order of the step at `u`;
- `value_ne_zero_of_burst`: exponents within a window in which the powers of the step are independent.

A message is absorbed symbol by symbol (`absorb`), each symbol followed by `c` steps. Absorbing is affine (`absorb_add`),
so what an error adds to the register does not depend on the message (`absorb_eq_sum`).
-/
import Mathlib.Tactic
import Mathlib.Algebra.BigOperators.Group.Finset.Basic
import Mathlib.Data.ZMod.Basic

namespace AstraFsw.Lfsr

variable {M : Type*} [AddCommGroup M] (T : M →+ M) (u : M)

/-- the remainder of the polynomial with these exponents -/
def value (S : Finset ℕ) : M := ∑ k ∈ S, T^[k] u

theorem iterate_sum {ι : Type*} (n : ℕ) (S : Finset ι) (f : ι → M) :
    T^[n] (∑ i ∈ S, f i) = ∑ i ∈ S, T^[n] (f i) := by
  classical
  induction S using Finset.induction_on with
  | empty => exact iterate_map_zero T n
  | insert i S hi ih => rw [Finset.sum_insert hi, Finset.sum_insert hi, iterate_map_add, ih]

/-- shifting the exponents is stepping the remainder -/
theorem value_map_add (a : ℕ) (S : Finset ℕ) : value T u (S.map (addRightEmbedding a)) = T^[a] (value T u S) := by
  unfold value
  rw [Finset.sum_map, iterate_sum]
  apply Finset.sum_congr rfl
  intro k _
  rw [addRightEmbedding_apply, Nat.add_comm, Function.iterate_add_apply]

/-- a common power is taken out -/
theorem iterate_value_sub {a : ℕ} {S : Finset ℕ} (hS : ∀ k ∈ S, a ≤ k) :
    T^[a] (value T u (S.image (· - a))) = value T u S := by
  have hmap : (S.image (· - a)).map (addRightEmbedding a) = S := by
    rw [Finset.map_eq_image, Finset.image_image]
    apply (Finset.image_congr _).trans Finset.image_id
    intro k hk
    exact Nat.sub_add_cancel (hS k hk)
  rw [← value_map_add, hmap]

/-- the exponents below `n` -/
def lowPart (n : ℕ) (S : Finset ℕ) : Finset ℕ := S.filter (· < n)

/-- the exponents from `n` on, less `n` -/
def highPart (n : ℕ) (S : Finset ℕ) : Finset ℕ := (S.filter (¬ · < n)).image (· - n)

theorem mem_lowPart {n k : ℕ} {S : Finset ℕ} : k ∈ lowPart n S ↔ k ∈ S ∧ k < n := Finset.mem_filter

theorem mem_highPart {n k : ℕ} {S : Finset ℕ} : k ∈ highPart n S ↔ k + n ∈ S := by
  rw [highPart, Finset.mem_image]
  refine ⟨fun h => ?_, fun hk => ?_⟩
  · obtain ⟨j, hj, rfl⟩ := h
    rw [Finset.mem_filter] at hj
    rw [Nat.sub_add_cancel (not_lt.1 hj.2)]
    exact hj.1
  · exact ⟨k + n, Finset.mem_filter.2 ⟨hk, by omega⟩, Nat.add_sub_cancel k n⟩

/-- a polynomial is its low part and a multiple of a power -/
theorem value_split (n : ℕ) (S : Finset ℕ) :
    value T u S = value T u (lowPart n S) + T^[n] (value T u (highPart n S)) := by
  rw [highPart, iterate_value_sub T u fun k hk => not_lt.1 (Finset.mem_filter.1 hk).2]
  exact (Finset.sum_filter_add_sum_filter_not S (· < n) _).symm

/-- **Odd errors.** -/
theorem value_ne_zero_of_odd {φ : M →+ ZMod 2} (hstep : ∀ m, φ (T m) = φ m) (hu : φ u = 1) {S : Finset ℕ}
    (hodd : Odd S.card) : value T u S ≠ 0 := by
  have hiter : ∀ k, φ (T^[k] u) = 1 := by
    intro k
    induction k with
    | zero => exact hu
    | succ k ih => rw [Function.iterate_succ_apply', hstep, ih]
  have hvalue : φ (value T u S) = S.card := by
    unfold value
    rw [map_sum, Finset.sum_congr rfl fun k _ => hiter k, Finset.sum_const, nsmul_one]
  intro hzero
  rw [hzero, map_zero, (ZMod.natCast_eq_one_iff_odd).2 hodd] at hvalue
  exact zero_ne_one hvalue

/-- **Double errors.** -/
theorem value_ne_zero_of_pair (hself : ∀ m : M, m + m = 0) (hinj : Function.Injective T) {n : ℕ}
    (horder : ∀ k, 0 < k → k < n → T^[k] u ≠ u) {S : Finset ℕ} (hS : ∀ k ∈ S, k < n) (hcard : S.card = 2) :
    value T u S ≠ 0 := by
  obtain ⟨a, b, hne, rfl⟩ := Finset.card_eq_two.1 hcard
  -- the smaller exponent is cancelled
  have hlt : ∀ a b, a < b → b < n → T^[a] u + T^[b] u ≠ 0 := by
    intro a b hab hb hzero
    have heq : T^[a] (T^[b - a] u) = T^[a] u := by
      rw [← Function.iterate_add_apply, Nat.add_sub_cancel' hab.le]
      calc T^[b] u = T^[a] u + T^[a] u + T^[b] u := by rw [hself, zero_add]
        _ = T^[a] u + (T^[a] u + T^[b] u) := add_assoc _ _ _
        _ = T^[a] u := by rw [hzero, add_zero]
    exact horder (b - a) (by omega) (by omega) (hinj.iterate a heq)
  unfold value
  rw [Finset.sum_pair hne]
  rcases Nat.lt_or_gt_of_ne hne with hab | hba
  · exact hlt a b hab (hS b (by simp))
  · rw [add_comm]
    exact hlt b a hba (hS a (by simp))

/-- **Bursts.** -/
theorem value_ne_zero_of_burst (hinj : Function.Injective T) {n : ℕ}
    (hindep : ∀ S : Finset ℕ, (∀ k ∈ S, k < n) → value T u S = 0 → S = ∅) {S : Finset ℕ} (hne : S.Nonempty) {a : ℕ}
    (hS : ∀ k ∈ S, a ≤ k ∧ k < a + n) : value T u S ≠ 0 := by
  intro hzero
  -- the window starts at zero
  have hlow : value T u (S.image (· - a)) = 0 := by
    apply hinj.iterate a
    rw [iterate_value_sub T u fun k hk => (hS k hk).1, hzero, iterate_map_zero]
  have hempty := hindep (S.image (· - a)) (by
    intro k hk
    obtain ⟨j, hj, rfl⟩ := Finset.mem_image.1 hk
    have hwindow := hS j hj
    omega) hlow
  rw [Finset.image_eq_empty] at hempty
  exact hne.ne_empty hempty

/-! ## Messages -/

/-- each symbol is added to the register, which then steps `c` times -/
def absorb (c : ℕ) (r : M) (symbols : List M) : M := symbols.foldl (fun r m => T^[c] (r + m)) r

theorem absorb_add (c : ℕ) (r r' : M) {ms ns : List M} (h : ms.length = ns.length) :
    absorb T c (r + r') (List.zipWith (· + ·) ms ns) = absorb T c r ms + absorb T c r' ns := by
  unfold absorb
  induction ms generalizing r r' ns with
  | nil =>
    obtain rfl := List.eq_nil_of_length_eq_zero h.symm
    rfl
  | cons m ms ih =>
    rcases ns with _ | ⟨n, ns⟩
    · simp at h
    · rw [List.zipWith_cons_cons, List.foldl_cons, List.foldl_cons, List.foldl_cons, ← ih _ _ (Nat.succ.inj h),
        ← iterate_map_add, add_add_add_comm]

/-- what each symbol has become at the end -/
theorem absorb_eq_sum (c : ℕ) (r : M) (ms : List M) :
    absorb T c r ms =
      T^[c * ms.length] r + ∑ i ∈ Finset.range ms.length, T^[c * (ms.length - i)] (ms.getD i 0) := by
  unfold absorb
  induction ms generalizing r with
  | nil => simp
  | cons m ms ih =>
    rw [List.foldl_cons, ih, List.length_cons, Finset.sum_range_succ', ← Function.iterate_add_apply, iterate_map_add,
      Nat.sub_zero, List.getD_cons_zero, ← mul_add_one]
    simp only [List.getD_cons_succ, Nat.add_sub_add_right]
    abel

end AstraFsw.Lfsr
