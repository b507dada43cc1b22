/-
Selection by a key: a fold that keeps the element with the greatest key.

Elements are an arbitrary type and keys a linear order. `keep` replaces the selected element when the new one has a
strictly greater key, and `select` folds it over a list from a starting element.
- `argmax_eq_select`: the fold is `List.argmax`, so the result is the start or an entry (`select_mem`) and nothing among
  them has a greater key (`key_le_key_select`);
- `select_eq_of_max`: when distinct elements have distinct keys, nothing else has that property;
- `select_congr`: so the result depends on the set of entries only, not on their order or their repetitions;
- `select_append`: the selection of a concatenation is the selection from the selections of its parts.
-/
import Mathlib.Tactic
import Mathlib.Data.List.MinMax

namespace AstraFsw.Selection

variable {α β : Type*} [LinearOrder β] (key : α → β)

def keep (selected a : α) : α := if key selected < key a then a else selected

def select (start : α) (xs : List α) : α := xs.foldl (keep key) start

theorem select_concat (start x : α) (xs : List α) :
    select key start (xs ++ [x]) = keep key (select key start xs) x := by
  simp [select]

/-- the fold computes the first element with a maximal key -/
theorem argmax_eq_select (start : α) (xs : List α) : (start :: xs).argmax key = some (select key start xs) := by
  induction xs using List.reverseRecOn with
  | nil => rfl
  | append_singleton xs x ih =>
    rw [← List.cons_append, List.argmax_concat, ih, select_concat, keep]
    exact (apply_ite some _ _ _).symm

/-- the result is the start or an entry -/
theorem select_mem (start : α) (xs : List α) : select key start xs ∈ start :: xs :=
  List.argmax_mem (argmax_eq_select key start xs)

/-- nothing has a greater key than the result -/
theorem key_le_key_select (start : α) (xs : List α) : ∀ x ∈ start :: xs, key x ≤ key (select key start xs) :=
  fun _ hx => List.le_of_mem_argmax hx (argmax_eq_select key start xs)

section Injective

variable {key} (hkey : Function.Injective key)
include hkey

/-- **Uniqueness.** A candidate that no candidate's key exceeds is the result. -/
theorem select_eq_of_max {start m : α} {xs : List α} (hm : m ∈ start :: xs)
    (hmax : ∀ x ∈ start :: xs, key x ≤ key m) : select key start xs = m :=
  hkey (le_antisymm (hmax _ (select_mem key start xs)) (key_le_key_select key start xs m hm))

/-- lists with the same entries have the same selection -/
theorem select_congr {start : α} {xs ys : List α} (h : ∀ x, x ∈ xs ↔ x ∈ ys) :
    select key start xs = select key start ys := by
  have hmem : ∀ x, x ∈ start :: xs ↔ x ∈ start :: ys := by
    intro x
    rw [List.mem_cons, List.mem_cons, h x]
  refine select_eq_of_max hkey ((hmem _).2 (select_mem key start ys)) ?_
  intro x hx
  exact key_le_key_select key start ys x ((hmem x).1 hx)

/-- **Composition.** A concatenation's selection is made between the selections of its parts. -/
theorem select_append (start : α) (xs ys : List α) :
    select key start (xs ++ ys) = select key start [select key start xs, select key start ys] := by
  have hmem : ∀ x ∈ [start, select key start xs, select key start ys], x ∈ start :: (xs ++ ys) := by
    intro x hx
    simp only [List.mem_cons, List.not_mem_nil, or_false] at hx
    rcases hx with rfl | rfl | rfl
    · exact List.mem_cons_self
    · exact List.cons_subset_cons _ (List.subset_append_left xs ys) (select_mem key start xs)
    · exact List.cons_subset_cons _ (List.subset_append_right xs ys) (select_mem key start ys)
  refine select_eq_of_max hkey (hmem _ (select_mem key start _)) ?_
  intro x hx
  have hparts := key_le_key_select key start [select key start xs, select key start ys]
  rcases List.mem_cons.1 hx with rfl | hx
  · exact hparts x List.mem_cons_self
  · rcases List.mem_append.1 hx with hx | hx
    · exact (key_le_key_select key start xs x (List.mem_cons_of_mem _ hx)).trans (hparts _ (by simp))
    · exact (key_le_key_select key start ys x (List.mem_cons_of_mem _ hx)).trans (hparts _ (by simp))

end Injective

end AstraFsw.Selection
