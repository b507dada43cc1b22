/-
Texts escaped character by character, and the search for a separator in them.

An `Escaping` keeps literal characters and replaces every other one by a string that starts with a mark, which is not
literal. Then what is literal can be looked for in the escaped text as well as in the text itself:
- `prefix_text`: a literal prefix of the escaped text is a prefix of the text;
- `text_eq_literal`: a literal string is the escaped text of itself only;
- `text_append_inj`: the escaped text determines the text;
- `after_text`: the first occurrence of a literal separator is at the same place in both.
-/
import Mathlib.Tactic

namespace AstraFsw

/-- what follows the first occurrence of the separator -/
def after {α : Type*} [DecidableEq α] (sep : List α) : List α → Option (List α)
  | [] => if sep = [] then some [] else none
  | c :: rest => if sep <+: c :: rest then some ((c :: rest).drop sep.length) else after sep rest

structure Escaping (α : Type*) where
  literal : α → Bool
  mark : α
  escape : α → List α
  mark_notLiteral : literal mark = false
  escape_literal : ∀ c, literal c = true → escape c = [c]
  escape_other : ∀ c, literal c = false → ∃ rest, escape c = mark :: rest

namespace Escaping

variable {α : Type*} (e : Escaping α)

def text (n : List α) : List α := n.flatMap e.escape

@[simp] theorem text_nil : e.text [] = [] := rfl

theorem text_cons (c : α) (n : List α) : e.text (c :: n) = e.escape c ++ e.text n := List.flatMap_cons

theorem text_append (n m : List α) : e.text (n ++ m) = e.text n ++ e.text m := List.flatMap_append

theorem text_literal {n : List α} (h : ∀ c ∈ n, e.literal c = true) : e.text n = n := by
  induction n with
  | nil => rfl
  | cons c n ih =>
    rw [text_cons, e.escape_literal c (h c List.mem_cons_self), ih fun d hd => h d (List.mem_cons_of_mem _ hd)]
    rfl

/-- an escaped character starts with itself or with the mark -/
theorem escape_head (c : α) : ∃ rest, e.escape c = c :: rest ∧ e.literal c = true ∨ e.escape c = e.mark :: rest := by
  cases h : e.literal c with
  | true => exact ⟨[], Or.inl ⟨e.escape_literal c h, rfl⟩⟩
  | false =>
    obtain ⟨rest, hrest⟩ := e.escape_other c h
    exact ⟨rest, Or.inr hrest⟩

theorem text_eq_nil {n : List α} : e.text n = [] ↔ n = [] := by
  cases n with
  | nil => simp
  | cons c n =>
    obtain ⟨rest, ⟨hrest, -⟩ | hrest⟩ := e.escape_head c <;> simp [text_cons, hrest]

/-- **A literal prefix of the escaped text is a prefix of the text.** The tail behind it must not continue the prefix. -/
theorem prefix_text {p : List α} (hp : ∀ c ∈ p, e.literal c = true) (n : List α) {tail : List α}
    (htail : ∀ c ∈ tail.head?, c ∉ p) : p <+: e.text n ++ tail ↔ p <+: n := by
  induction p generalizing n with
  | nil => simp
  | cons a p ih =>
    cases n with
    | nil =>
      refine iff_of_false ?_ (by simp)
      intro h
      cases tail with
      | nil => simp at h
      | cons b tail =>
        obtain ⟨rfl, -⟩ := List.cons_prefix_cons.1 h
        exact htail a rfl List.mem_cons_self
    | cons c n =>
      have ih' := ih (fun d hd => hp d (List.mem_cons_of_mem _ hd)) n
        fun d hd hmem => htail d hd (List.mem_cons_of_mem _ hmem)
      have ha := hp a List.mem_cons_self
      cases hc : e.literal c with
      | true =>
        rw [text_cons, e.escape_literal c hc, List.singleton_append, List.cons_append, List.cons_prefix_cons,
          List.cons_prefix_cons, ih']
      | false =>
        -- the mark is not in the prefix, and neither is the escaped character
        obtain ⟨rest, hrest⟩ := e.escape_other c hc
        refine iff_of_false ?_ ?_
        · intro h
          rw [text_cons, hrest, List.cons_append, List.cons_append] at h
          rw [(List.cons_prefix_cons.1 h).1, e.mark_notLiteral] at ha
          cases ha
        · intro h
          rw [(List.cons_prefix_cons.1 h).1, hc] at ha
          cases ha

theorem text_eq_literal {p : List α} (hp : ∀ c ∈ p, e.literal c = true) {n : List α} : e.text n = p ↔ n = p := by
  constructor
  · intro h
    have hstart : p <+: e.text n ++ [] := by rw [h, List.append_nil]
    obtain ⟨m, rfl⟩ := (e.prefix_text hp n (by simp)).1 hstart
    rw [text_append, e.text_literal hp, List.append_right_eq_self, text_eq_nil] at h
    rw [h, List.append_nil]
  · rintro rfl
    exact e.text_literal hp

/-- **An escaped text up to a closing mark determines the text**, if no escape continues another one. -/
theorem text_append_inj (hescape : ∀ c d s t, e.escape c ++ s = e.escape d ++ t → c = d ∧ s = t) {q : α}
    (hq : ∀ c, (e.escape c).head? ≠ some q) {n m s t : List α} (h : e.text n ++ q :: s = e.text m ++ q :: t) :
    n = m ∧ s = t := by
  have hclosed (c : α) (u v : List α) : q :: u ≠ e.escape c ++ v := by
    intro heq
    refine hq c ?_
    obtain ⟨rest, ⟨hrest, -⟩ | hrest⟩ := e.escape_head c <;> rw [hrest, List.cons_append] at heq <;>
      rw [hrest, (List.cons.inj heq).1, List.head?_cons]
  induction n generalizing m with
  | nil =>
    cases m with
    | nil => exact ⟨rfl, (List.cons.inj h).2⟩
    | cons d m =>
      rw [text_cons, List.append_assoc] at h
      exact absurd h (hclosed d s _)
  | cons c n ih =>
    rw [text_cons, List.append_assoc] at h
    cases m with
    | nil => exact absurd h.symm (hclosed c t _)
    | cons d m =>
      rw [text_cons, List.append_assoc] at h
      obtain ⟨rfl, hrest⟩ := hescape c d _ _ h
      obtain ⟨rfl, htail⟩ := ih hrest
      exact ⟨rfl, htail⟩

section Separator

variable [DecidableEq α] {a : α} {sep : List α}

/-- the separator does not start inside a string without its first character -/
theorem after_append {l : List α} (h : a ∉ l) (t : List α) : after (a :: sep) (l ++ t) = after (a :: sep) t := by
  induction l with
  | nil => rfl
  | cons c l ih =>
    rw [List.cons_append, after, if_neg, ih fun hmem => h (List.mem_cons_of_mem _ hmem)]
    intro hstart
    rw [(List.cons_prefix_cons.1 hstart).1] at h
    exact h List.mem_cons_self

theorem after_of_prefix (t : List α) : after (a :: sep) (a :: sep ++ t) = some t := by
  rw [List.cons_append, after, ← List.cons_append, if_pos (List.prefix_append (a :: sep) t), List.drop_left]

/-- **The first separator of the escaped text is the first separator of the text.** -/
theorem after_text (hsep : ∀ c ∈ a :: sep, e.literal c = true) (hescape : ∀ c, e.literal c = false → a ∉ e.escape c)
    (n : List α) {tail : List α} (htail : ∀ c ∈ tail.head?, c ∉ a :: sep) :
    after (a :: sep) (e.text n ++ tail) =
      match after (a :: sep) n with
      | some m => some (e.text m ++ tail)
      | none => after (a :: sep) tail := by
  induction n with
  | nil => simp [after]
  | cons c n ih =>
    by_cases hstart : a :: sep <+: c :: n
    · obtain ⟨m, hm⟩ := hstart
      rw [← hm, text_append, e.text_literal hsep, after_of_prefix, List.append_assoc, after_of_prefix]
    · have hafter : after (a :: sep) (c :: n) = after (a :: sep) n := by rw [after, if_neg hstart]
      rw [hafter, ← ih]
      cases hc : e.literal c with
      | false => rw [text_cons, List.append_assoc, after_append (hescape c hc)]
      | true =>
        have htext : e.text (c :: n) ++ tail = c :: (e.text n ++ tail) := by
          rw [text_cons, e.escape_literal c hc]; rfl
        rw [htext, after, if_neg]
        rwa [← htext, e.prefix_text hsep _ htail]

end Separator

end Escaping

end AstraFsw
