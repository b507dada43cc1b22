/-
Periodic ticks: the numbers `phase`, `phase + period`, `phase + 2 * period`, and so on.

`Nat.count (Due phase period) k` is how many of them lie below `k`; it grows by one exactly at a due tick
(`Nat.count_succ`). `count_due` is its closed form, and `count_of_due` the form it takes at a due tick. Between a due
tick and the one a period later there is none (`Due.add_period`, `Due.not_due_between`), and every window of a period
holds one (`exists_due`).
-/
import Mathlib.Tactic
import Mathlib.Data.Nat.Count

namespace AstraFsw.Periodic

/-- `k` is one of the periodic ticks -/
def Due (phase period k : ℕ) : Prop := phase ≤ k ∧ (k - phase) % period = 0

instance (phase period : ℕ) : DecidablePred (Due phase period) := fun k => by unfold Due; infer_instance

variable {phase period k : ℕ}

/-- a due tick is where the closed form steps -/
theorem due_iff_dvd (h : phase < period) : Due phase period k ↔ period ∣ k + period - 1 - phase + 1 := by
  unfold Due
  by_cases hk : phase ≤ k
  · have hsum : k + period - 1 - phase + 1 = (k - phase) + period := by omega
    rw [hsum, Nat.dvd_add_left (dvd_refl period), Nat.dvd_iff_mod_eq_zero]
    exact and_iff_right hk
  · refine iff_of_false (fun h => hk h.1) fun hdvd => ?_
    have hle := Nat.le_of_dvd (by omega) hdvd
    omega

/-- **Closed form.** -/
theorem count_due (h : phase < period) (k : ℕ) :
    Nat.count (Due phase period) k = (k + period - 1 - phase) / period := by
  induction k with
  | zero =>
    rw [Nat.count_zero, Nat.div_eq_of_lt (by omega)]
  | succ k ih =>
    have hsucc : k + 1 + period - 1 - phase = k + period - 1 - phase + 1 := by omega
    rw [Nat.count_succ, ih, hsucc, Nat.succ_div]
    simp only [due_iff_dvd h]

theorem count_of_due (h : phase < period) (hdue : Due phase period k) :
    Nat.count (Due phase period) k = (k - phase) / period := by
  obtain ⟨hle, hmod⟩ := hdue
  obtain ⟨q, hq⟩ := Nat.dvd_of_mod_eq_zero hmod
  have hsum : k + period - 1 - phase = period * q + (period - 1) := by omega
  rw [count_due h, hsum, hq, Nat.mul_add_div (by omega), Nat.mul_div_cancel_left _ (by omega),
    Nat.div_eq_of_lt (by omega), Nat.add_zero]

/-- due ticks are congruent modulo the period -/
theorem Due.dvd_sub {r : ℕ} (hr : Due phase period r) (hk : Due phase period k) (hle : r ≤ k) : period ∣ k - r := by
  have hdvd := Nat.dvd_sub (Nat.dvd_of_mod_eq_zero hk.2) (Nat.dvd_of_mod_eq_zero hr.2)
  have hphase := hr.1
  rwa [show k - phase - (r - phase) = k - r by omega] at hdvd

/-- the next due tick is a period later -/
theorem Due.add_period {r : ℕ} (hr : Due phase period r) : Due phase period (r + period) := by
  obtain ⟨hle, hmod⟩ := hr
  refine ⟨by omega, ?_⟩
  rw [show r + period - phase = (r - phase) + period by omega, Nat.add_mod_right, hmod]

theorem Due.not_due_between {r : ℕ} (hr : Due phase period r) (hlt : r < k) (hnext : k < r + period) :
    ¬ Due phase period k := by
  intro hk
  have hle := Nat.le_of_dvd (by omega) (hr.dvd_sub hk (Nat.le_of_lt hlt))
  omega

theorem due_phase (phase period : ℕ) : Due phase period phase := ⟨le_rfl, by rw [Nat.sub_self, Nat.zero_mod]⟩

/-- two due ticks at most a period apart are a period apart -/
theorem Due.eq_add_period {r : ℕ} (hr : Due phase period r) (hk : Due phase period k) (hlt : r < k)
    (hnext : k ≤ r + period) : k = r + period := by
  by_contra hne
  exact hr.not_due_between hlt (by omega) hk

/-- a due tick after the phase has one a period before -/
theorem Due.sub_period (hk : Due phase period k) (hlt : phase < k) : phase + period ≤ k := by
  have hle := Nat.le_of_dvd (by omega) (Nat.dvd_of_mod_eq_zero hk.2)
  omega

/-- **Every window of a period holds a due tick.** -/
theorem exists_due (h : phase < period) {a b : ℕ} (hlen : a + period ≤ b) : ∃ k, a ≤ k ∧ k < b ∧ Due phase period k := by
  by_cases ha : a ≤ phase
  · exact ⟨phase, ha, by omega, due_phase phase period⟩
  · have hdiv := Nat.div_add_mod (a - phase) period
    have hmod := Nat.mod_lt (a - phase) (show 0 < period by omega)
    by_cases hzero : (a - phase) % period = 0
    · exact ⟨a, le_rfl, by omega, by omega, hzero⟩
    · refine ⟨a + (period - (a - phase) % period), by omega, by omega, by omega, ?_⟩
      have hnext : a + (period - (a - phase) % period) - phase = period * ((a - phase) / period) + period := by omega
      rw [hnext, Nat.add_mod_right, Nat.mul_mod_right]

end AstraFsw.Periodic
