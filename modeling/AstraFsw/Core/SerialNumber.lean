/-
Serial-number arithmetic over a modulus M: residues that stand for an unbounded counter.

A counter `L : ℕ` is seen only through its residue mod M. A residue `s` is offered; `ahead M L s` is the forward
distance `(s - L) mod M`, and moving the counter forward by it reaches the next number with residue `s`
(`add_ahead_mod`). With M = 2h, an offer is `Newer` when the distance is nonzero and less than the half range h.

- `ahead_congr`: the distance depends on the counter only through its residue, so a device that stores the residue
  takes the same decisions as one that stores the counter;
- `not_newer_of_behind`: a residue of a number p with p ≤ L ≤ p + h is never newer. This is the anti-replay window:
  an old number is refused until the counter has moved more than h beyond it.
- `newer_iff_lt`: among numbers below h newness is the order of the naturals.
Newness is not a total order (it is not transitive), so statements over runs go through the counter, not the residues.
-/
import Mathlib.Tactic

namespace AstraFsw.SerialNumber

/-- the forward distance `(s - L) mod M` -/
def ahead (M L s : ℕ) : ℕ := (((s : ℤ) - (L : ℤ)) % (M : ℤ)).toNat

/-- is the residue offered newer than the counter (if there is one)? `h` is the half range of `M` -/
def Newer (h M : ℕ) : Option ℕ → ℕ → Prop
  | none, _ => True
  | some L, s => 0 < ahead M L s ∧ ahead M L s < h

/-- the counter after it takes the residue `s` -/
def advance (M : ℕ) : Option ℕ → ℕ → ℕ
  | none, s => s
  | some L, s => L + ahead M L s

theorem ahead_cast {M : ℕ} (hM : 0 < M) (L s : ℕ) : ((ahead M L s : ℕ) : ℤ) = ((s : ℤ) - L) % M :=
  Int.toNat_of_nonneg (Int.emod_nonneg _ (by omega))

/-- newness spelled out on the integers -/
theorem newer_iff {M : ℕ} (hM : 0 < M) (h L s : ℕ) :
    Newer h M (some L) s ↔ 0 < ((s : ℤ) - L) % M ∧ ((s : ℤ) - L) % M < h := by
  rw [← ahead_cast hM, Nat.cast_pos, Nat.cast_lt]
  rfl

theorem ahead_congr {M L L' s s' : ℕ} (hL : L % M = L' % M) (hs : s % M = s' % M) :
    ahead M L s = ahead M L' s' := by
  unfold ahead
  have hL' : (L : ℤ) % M = (L' : ℤ) % M := by exact_mod_cast hL
  have hs' : (s : ℤ) % M = (s' : ℤ) % M := by exact_mod_cast hs
  rw [Int.sub_emod, hs', hL', ← Int.sub_emod]

/-- moving forward by the distance reaches the offered residue -/
theorem add_ahead_mod {M : ℕ} (hM : 0 < M) (L s : ℕ) : (L + ahead M L s) % M = s % M := by
  have hcast : (((L + ahead M L s : ℕ) : ℤ)) % M = (s : ℤ) % M := by
    rw [Nat.cast_add, ahead_cast hM, Int.add_emod_emod]
    congr 1
    omega
  exact_mod_cast hcast

theorem advance_mod {M : ℕ} (hM : 0 < M) (c : Option ℕ) (s : ℕ) : advance M c s % M = s % M := by
  cases c with
  | none => rfl
  | some L => exact add_ahead_mod hM L s

/-- a number at most h behind the counter lies at distance 0 or at least h -/
theorem ahead_of_behind {h p L : ℕ} (hp : p ≤ L) (hL : L ≤ p + h) :
    ahead (2 * h) L p = 0 ∨ h ≤ ahead (2 * h) L p := by
  rcases Nat.eq_or_lt_of_le hp with rfl | hlt
  · left; simp [ahead]
  · right
    have hh : 0 < h := by omega
    have hmod : ((p : ℤ) - L) % ((2 * h : ℕ) : ℤ) = (p : ℤ) - L + (2 * h : ℕ) := by
      rw [← Int.add_emod_right, Int.emod_eq_of_lt] <;> push_cast <;> omega
    have hcast := ahead_cast (M := 2 * h) (by omega) L p
    rw [hmod] at hcast
    push_cast at hcast
    omega

/-- **Anti-replay window.** A residue of a number at most h behind the counter is not newer. -/
theorem not_newer_of_behind {h p L s : ℕ} (hp : p ≤ L) (hL : L ≤ p + h) (hs : s % (2 * h) = p % (2 * h)) :
    ¬ Newer h (2 * h) (some L) s := by
  rintro ⟨hpos, hlt⟩
  have hsp : ahead (2 * h) L s = ahead (2 * h) L p := ahead_congr rfl hs
  rcases ahead_of_behind hp hL with h0 | hge <;> omega

/-- below the half range, newer is greater -/
theorem newer_iff_lt {h L s : ℕ} (hL : L < h) (hs : s < h) : Newer h (2 * h) (some L) s ↔ L < s := by
  constructor
  · intro hnewer
    by_contra hle
    have hwindow : L ≤ s + h := by omega
    exact not_newer_of_behind (Nat.le_of_not_lt hle) hwindow rfl hnewer
  · intro hlt
    have hmod : ((s : ℤ) - L) % ((2 * h : ℕ) : ℤ) = (s : ℤ) - L := by
      refine Int.emod_eq_of_lt ?_ ?_
      · omega
      · push_cast
        omega
    rw [newer_iff (by omega), hmod]
    omega

end AstraFsw.SerialNumber
