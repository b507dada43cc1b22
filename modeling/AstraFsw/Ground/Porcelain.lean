/-
What `git status --porcelain` prints.

One line for each change of the working tree: two status letters, a blank and the path, or the old path, an arrow and
the new one for a rename or copy. A path with blanks or special characters stands between double quotes, its special
characters escaped (`GitQuoting`; `gitQuoting` is Git's own). A name is a list of characters, one for each byte.

- `Change.clean_line`, `Change.body_ends`: no line boundary lies inside a line, and nothing at the ends of its body can
  be stripped;
- `GitQuoting.after_quote`: where the first arrow of a line lies.
-/
import AstraFsw.Core.Escaping
import Mathlib.Data.Char

namespace AstraFsw.Ground.SourceCleanliness

/-! ## The format -/

def space : Char := Char.ofNat 32

def newline : Char := Char.ofNat 10

def dquote : Char := Char.ofNat 34

def backslash : Char := Char.ofNat 92

def arrow : List Char := " -> ".toList

/-- ASCII, neither blank nor control character -/
def printable (c : Char) : Bool := decide (0x21 ≤ c.toNat ∧ c.toNat ≤ 0x7E)

/-- needs no quotes -/
def plain (c : Char) : Bool := printable c && c != dquote && c != backslash

/-- C-style escapes: plain characters and blanks stay, every other one becomes a backslash and printable characters -/
structure GitQuoting extends Escaping Char where
  literal_eq : ∀ c, literal c = (plain c || c == space)
  mark_eq : mark = backslash
  escape_printable : ∀ c, literal c = false → ∀ d ∈ escape c, printable d = true

def GitQuoting.quote (q : GitQuoting) (name : List Char) : List Char :=
  if name.all plain then name else dquote :: q.text name ++ [dquote]

inductive StatusCode where
  | unmodified
  | modified
  | typeChanged
  | added
  | deleted
  | renamed
  | copied
  | unmerged
  | untracked
  | ignored
deriving DecidableEq, Repr

def StatusCode.toChar : StatusCode → Char
  | unmodified => space
  | modified => 'M'
  | typeChanged => 'T'
  | added => 'A'
  | deleted => 'D'
  | renamed => 'R'
  | copied => 'C'
  | unmerged => 'U'
  | untracked => '?'
  | ignored => '!'

structure Path where
  name : List Char
  nonempty : name ≠ []
deriving DecidableEq

inductive Change where
  | entry (x y : StatusCode) (path : Path)
  /-- a rename or a copy -/
  | moved (x y : StatusCode) (old new : Path)
deriving DecidableEq

namespace Change

/-- the paths involved -/
def paths : Change → List Path
  | entry _ _ path => [path]
  | moved _ _ old new => [old, new]

/-- the line without the status letters and the blank behind them -/
def body (q : GitQuoting) : Change → List Char
  | entry _ _ path => q.quote path.name
  | moved _ _ old new => q.quote old.name ++ (arrow ++ q.quote new.name)

def letters : Change → List Char
  | entry x y _ => [x.toChar, y.toChar, space]
  | moved x y _ _ => [x.toChar, y.toChar, space]

def line (q : GitQuoting) (c : Change) : List Char := c.letters ++ c.body q

end Change

/-- the output of `git status --porcelain` -/
def porcelain (q : GitQuoting) (changes : List Change) : List Char :=
  changes.flatMap fun c => c.line q ++ [newline]

/-! ## Characters -/

theorem plain_printable {c : Char} (h : plain c = true) : printable c = true := by
  simp only [plain, Bool.and_eq_true] at h
  exact h.1.1

theorem plain_ne_dquote {c : Char} (h : plain c = true) : c ≠ dquote := by
  simp only [plain, Bool.and_eq_true, bne_iff_ne] at h
  exact h.1.2

theorem printable_ne_space {c : Char} (h : printable c = true) : c ≠ space := by
  rintro rfl
  exact absurd h (by decide)

/-- printable or a blank -/
def Clean (c : Char) : Prop := printable c = true ∨ c = space

instance (c : Char) : Decidable (Clean c) := inferInstanceAs (Decidable (_ ∨ _))

theorem clean_arrow : ∀ c ∈ arrow, Clean c := by
  have hall : arrow.all (fun c => decide (Clean c)) = true := by decide
  intro c hc
  exact of_decide_eq_true (List.all_eq_true.1 hall c hc)

theorem StatusCode.clean_toChar (code : StatusCode) : Clean code.toChar := by
  cases code <;> decide

/-- the first and the last character are printable -/
structure PrintableEnds (s : List Char) : Prop where
  head : ∃ c rest, s = c :: rest ∧ printable c = true
  last : ∃ init c, s = init ++ [c] ∧ printable c = true

namespace GitQuoting

variable (q : GitQuoting)

theorem literal_of_plain {c : Char} (h : plain c = true) : q.literal c = true := by
  rw [q.literal_eq, h, Bool.true_or]

theorem clean_text (n : List Char) : ∀ c ∈ q.text n, Clean c := by
  intro c hc
  obtain ⟨d, -, hd⟩ := List.mem_flatMap.1 hc
  cases hliteral : q.literal d with
  | true =>
    rw [q.escape_literal d hliteral, List.mem_singleton] at hd
    rw [q.literal_eq, Bool.or_eq_true, beq_iff_eq, ← hd] at hliteral
    exact hliteral.imp_left plain_printable
  | false => exact Or.inl (q.escape_printable d hliteral c hd)

theorem clean_quote (n : List Char) : ∀ c ∈ q.quote n, Clean c := by
  intro c hc
  unfold quote at hc
  split_ifs at hc with hplain
  · exact Or.inl (plain_printable (List.all_eq_true.1 hplain c hc))
  · simp only [List.mem_cons, List.mem_append, List.not_mem_nil, or_false, List.cons_append] at hc
    rcases hc with rfl | hc | rfl
    · exact Or.inl (by decide)
    · exact q.clean_text n c hc
    · exact Or.inl (by decide)

theorem quote_ends {n : List Char} (h : n ≠ []) : PrintableEnds (q.quote n) := by
  unfold quote
  split_ifs with hplain
  · obtain ⟨c, rest, hcons⟩ := List.exists_cons_of_ne_nil h
    have hsnoc := List.dropLast_append_getLast h
    refine ⟨⟨c, rest, hcons, ?_⟩, n.dropLast, n.getLast h, hsnoc.symm, ?_⟩
    · exact plain_printable (List.all_eq_true.1 hplain c (by rw [hcons]; exact List.mem_cons_self))
    · exact plain_printable (List.all_eq_true.1 hplain _ (List.getLast_mem h))
  · exact ⟨⟨dquote, _, rfl, by decide⟩, dquote :: q.text n, dquote, rfl, by decide⟩

/-- an escaped name never starts with a double quote -/
theorem text_head_ne_dquote (n : List Char) : (q.text n).head? ≠ some dquote := by
  cases n with
  | nil => simp
  | cons c n =>
    rw [Escaping.text_cons]
    obtain ⟨rest, ⟨hrest, hliteral⟩ | hrest⟩ := q.escape_head c
    · rw [hrest]
      intro h
      obtain rfl : c = dquote := by simpa using h
      rw [q.literal_eq] at hliteral
      exact absurd hliteral (by decide)
    · rw [hrest, q.mark_eq]
      intro h
      exact absurd (Option.some.inj h) (by decide)

/-- **The first arrow of a line lies in the first name that has one.** -/
theorem after_quote (n tail : List Char) :
    after arrow (q.quote n ++ tail) =
      match after arrow n with
      | some m => some (q.text m ++ dquote :: tail)
      | none => after arrow tail := by
  have harrow : arrow = space :: "-> ".toList := rfl
  have hall : (space :: "-> ".toList).all (fun c => plain c || c == space) = true := by decide
  have hliteral : ∀ c ∈ space :: "-> ".toList, q.literal c = true := by
    intro c hc
    rw [q.literal_eq]
    exact List.all_eq_true.1 hall c hc
  have hescape : ∀ c, q.literal c = false → space ∉ q.escape c := fun c hc hmem =>
    printable_ne_space (q.escape_printable c hc space hmem) rfl
  rw [harrow]
  unfold quote
  split_ifs with hplain
  · -- a plain name has no blank, so no arrow starts in it
    have hspace : space ∉ n := fun hmem =>
      printable_ne_space (plain_printable (List.all_eq_true.1 hplain space hmem)) rfl
    have hnone : after (space :: "-> ".toList) n = none := by
      rw [← List.append_nil n, Escaping.after_append hspace]
      rfl
    rw [hnone, Escaping.after_append hspace]
  · have hquote : space ∉ [dquote] := by decide
    have htail : ∀ c ∈ (dquote :: tail).head?, c ∉ space :: "-> ".toList := by
      intro c hc
      obtain rfl : dquote = c := by simpa using hc
      decide
    have hafter := q.after_text hliteral hescape n htail
    rw [← Escaping.after_append hquote, List.singleton_append] at hafter
    rw [List.cons_append, List.cons_append, List.append_assoc, List.singleton_append, hafter]
    cases after (space :: "-> ".toList) n with
    | some m => rfl
    | none => exact Escaping.after_append hquote tail

end GitQuoting

/-! ## Lines -/

namespace Change

variable (q : GitQuoting)

theorem clean_letters (c : Change) : ∀ d ∈ c.letters, Clean d := by
  have hthree : ∀ x y : StatusCode, ∀ d ∈ [x.toChar, y.toChar, space], Clean d := by
    intro x y d hd
    simp only [List.mem_cons, List.not_mem_nil, or_false] at hd
    rcases hd with rfl | rfl | rfl
    · exact x.clean_toChar
    · exact y.clean_toChar
    · exact Or.inr rfl
  cases c with
  | entry x y path => exact hthree x y
  | moved x y old new => exact hthree x y

theorem clean_body (c : Change) : ∀ d ∈ c.body q, Clean d := by
  intro d hd
  cases c with
  | entry x y path => exact q.clean_quote path.name d hd
  | moved x y old new =>
    rcases List.mem_append.1 hd with hd | hd
    · exact q.clean_quote old.name d hd
    · rcases List.mem_append.1 hd with hd | hd
      · exact clean_arrow d hd
      · exact q.clean_quote new.name d hd

/-- no line boundary in a line -/
theorem clean_line (c : Change) : ∀ d ∈ c.line q, Clean d := by
  intro d hd
  rcases List.mem_append.1 hd with hd | hd
  · exact c.clean_letters d hd
  · exact c.clean_body q d hd

theorem body_ends (c : Change) : PrintableEnds (c.body q) := by
  cases c with
  | entry x y path => exact q.quote_ends path.nonempty
  | moved x y old new =>
    obtain ⟨d, rest, hcons, hd⟩ := (q.quote_ends old.nonempty).head
    obtain ⟨init, d', hsnoc, hd'⟩ := (q.quote_ends new.nonempty).last
    refine ⟨⟨d, rest ++ (arrow ++ q.quote new.name), ?_, hd⟩, q.quote old.name ++ (arrow ++ init), d', ?_, hd'⟩
    · rw [body, hcons]; rfl
    · rw [body, hsnoc]; simp

end Change

/-! ## Git's quoting -/

/-- the escape of a special character in Git's quoted names -/
def octal (c : Char) : List Char :=
  backslash :: [c.toNat / 64 % 8, c.toNat / 8 % 8, c.toNat % 8].map fun d => Char.ofNat (48 + d)

/-- `a` stands for 7, `b` for 8 and so on -/
def escapeLetter (c : Char) : Option Char := if c.toNat < 7 then none else "abtnvfr".toList[c.toNat - 7]?

def gitEscape (c : Char) : List Char :=
  if plain c || c == space then [c]
  else if c = dquote ∨ c = backslash then [backslash, c]
  else
    match escapeLetter c with
    | some d => [backslash, d]
    | none => octal c

/-- Git's own quoting -/
def gitQuoting : GitQuoting where
  literal c := plain c || c == space
  mark := backslash
  escape := gitEscape
  mark_notLiteral := by decide
  escape_literal c h := by rw [gitEscape, if_pos h]
  escape_other c h := by
    rw [gitEscape, h, if_neg Bool.false_ne_true]
    split_ifs
    · exact ⟨_, rfl⟩
    · cases escapeLetter c <;> exact ⟨_, rfl⟩
  literal_eq _ := rfl
  mark_eq := rfl
  escape_printable c h := by
    have hdigit : ∀ d < 8, printable (Char.ofNat (48 + d)) = true := by decide
    have hoctal : ∀ d ∈ octal c, printable d = true := by
      intro d hd
      simp only [octal, List.map_cons, List.map_nil, List.mem_cons, List.not_mem_nil, or_false] at hd
      rcases hd with rfl | rfl | rfl | rfl
      · decide
      all_goals exact hdigit _ (Nat.mod_lt _ (by decide))
    have hprintable : ∀ d ∈ "abtnvfr".toList, printable d = true := List.all_eq_true.1 (by decide)
    have hletter : ∀ d, escapeLetter c = some d → printable d = true := by
      intro d hd
      have hmem : d ∈ "abtnvfr".toList := by
        unfold escapeLetter at hd
        split_ifs at hd
        exact List.mem_of_getElem? hd
      exact hprintable d hmem
    rw [gitEscape, h, if_neg Bool.false_ne_true]
    split_ifs with hquote
    · rcases hquote with rfl | rfl <;> exact List.all_eq_true.1 (by decide)
    · cases hcase : escapeLetter c with
      | none => exact hoctal
      | some d =>
        intro e he
        simp only [List.mem_cons, List.not_mem_nil, or_false] at he
        rcases he with rfl | rfl
        · decide
        · exact hletter e hcase

end AstraFsw.Ground.SourceCleanliness
