/-
Versioned registers: the update histories of a register whose writers name the version they replace.

`Updates v us w`: the updates `us`, as (replaced version, installed version) pairs, lead from version `v` to version `w`.
Each replaces the version that is current when it is made and installs a later one. Such a history loses no update:
- `installed_sorted`: the installed versions increase strictly;
- `replaced_nodup`: no version is replaced twice;
- `replaces_preceding`: an update replaces the version its predecessor installed.
-/
import Mathlib.Tactic
import Mathlib.Order.Basic

namespace AstraFsw.VersionedRegister

inductive Updates {ν : Type*} [LT ν] (v : ν) : List (ν × ν) → ν → Prop where
  | init : Updates v [] v
  | install {us : List (ν × ν)} {w n : ν} : Updates v us w → w < n → Updates v (us ++ [(w, n)]) n

namespace Updates

variable {ν : Type*} [Preorder ν] {v w : ν} {us : List (ν × ν)}

/-- every update is over when the current version is reached: it replaced an earlier version, and installed none later -/
theorem bounds (h : Updates v us w) : ∀ u ∈ us, u.1 < w ∧ u.2 ≤ w := by
  induction h with
  | init => simp
  | install _ hlt ih =>
    intro u hu
    rcases List.mem_append.1 hu with hold | hnew
    · exact ⟨(ih u hold).1.trans hlt, (ih u hold).2.trans hlt.le⟩
    · rw [List.mem_singleton.1 hnew]
      exact ⟨hlt, le_rfl⟩

/-- **Installed versions increase strictly.** -/
theorem installed_sorted (h : Updates v us w) : (us.map Prod.snd).Pairwise (· < ·) := by
  induction h with
  | init => exact List.Pairwise.nil
  | @install us w n hus hlt ih =>
    rw [List.map_append, List.pairwise_append]
    refine ⟨ih, List.pairwise_singleton _ _, ?_⟩
    intro a ha b hb
    obtain ⟨u, hu, rfl⟩ := List.mem_map.1 ha
    rw [List.mem_singleton.1 hb]
    exact (hus.bounds u hu).2.trans_lt hlt

theorem replaced_sorted (h : Updates v us w) : (us.map Prod.fst).Pairwise (· < ·) := by
  induction h with
  | init => exact List.Pairwise.nil
  | @install us w n hus hlt ih =>
    rw [List.map_append, List.pairwise_append]
    refine ⟨ih, List.pairwise_singleton _ _, ?_⟩
    intro a ha b hb
    obtain ⟨u, hu, rfl⟩ := List.mem_map.1 ha
    rw [List.mem_singleton.1 hb]
    exact (hus.bounds u hu).1

/-- **No version is replaced twice.** -/
theorem replaced_nodup (h : Updates v us w) : (us.map Prod.fst).Nodup :=
  h.replaced_sorted.imp fun hlt => hlt.ne

/-- the current version is the last one installed -/
theorem current_eq (h : Updates v us w) : w = (us.getLast?.map Prod.snd).getD v := by
  cases h with
  | init => rfl
  | install _ _ => simp

/-- **An update replaces the version its predecessor installed**, the first one the initial version. -/
theorem replaces_preceding (h : Updates v us w) {pre post : List (ν × ν)} {u : ν × ν} (hus : us = pre ++ u :: post) :
    u.1 = (pre.getLast?.map Prod.snd).getD v := by
  induction h generalizing post with
  | init => simp at hus
  | @install us w n hupdates _ ih =>
    rcases List.eq_nil_or_concat post with rfl | ⟨front, last, rfl⟩
    · obtain ⟨rfl, heq⟩ := List.append_inj' hus rfl
      rw [← List.head_eq_of_cons_eq heq]
      exact hupdates.current_eq
    · rw [List.concat_eq_append, ← List.cons_append, ← List.append_assoc] at hus
      exact ih (List.append_inj' hus rfl).1

end Updates

end AstraFsw.VersionedRegister
