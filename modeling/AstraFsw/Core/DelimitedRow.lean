/-
Rows of delimited cells: a separator before, between and behind the cells, and blanks around each.

`cells` reads a row as table parsers do: trim the line, drop the outer separators, split at the others, trim each piece.
- `trim_of_ends`, `trim_ends`: what trimming leaves alone, and what it leaves;
- `cells_row`: a row of trimmed cells without a separator is read back;
- `cells_spec`: what is read, from any line, is trimmed and has no separator.
-/
import Mathlib.Tactic

namespace AstraFsw.DelimitedRow

section Trim

variable {α : Type*} (p : α → Bool)

/-- without the characters `p` at both ends -/
def trim (s : List α) : List α := ((s.dropWhile p).reverse.dropWhile p).reverse

variable {p}

theorem dropWhile_of_head {s : List α} (h : ∀ c ∈ s.head?, p c = false) : s.dropWhile p = s := by
  cases s with
  | nil => rfl
  | cons c s => rw [List.dropWhile_cons, h c rfl, if_neg Bool.false_ne_true]

theorem head_dropWhile (s : List α) : ∀ c ∈ (s.dropWhile p).head?, p c = false := by
  induction s with
  | nil => simp
  | cons a s ih =>
    cases ha : p a with
    | true => rwa [List.dropWhile_cons, ha, if_pos rfl]
    | false =>
      rw [List.dropWhile_cons, ha, if_neg Bool.false_ne_true]
      intro c hc
      obtain rfl := Option.some.inj hc
      exact ha

theorem trim_of_ends {s : List α} (hhead : ∀ c ∈ s.head?, p c = false) (hlast : ∀ c ∈ s.getLast?, p c = false) :
    trim p s = s := by
  rw [trim, dropWhile_of_head hhead, dropWhile_of_head (by rwa [List.head?_reverse]), List.reverse_reverse]

theorem trim_cons {a : α} (ha : p a = true) (s : List α) : trim p (a :: s) = trim p s := by
  rw [trim, List.dropWhile_cons, ha, if_pos rfl, trim]

theorem trim_snoc {a : α} (ha : p a = true) (s : List α) : trim p (s ++ [a]) = trim p s := by
  rw [trim, List.dropWhile_append]
  split_ifs with hempty
  · rw [List.isEmpty_iff] at hempty
    rw [trim, hempty, List.dropWhile_cons, ha]
    rfl
  · rw [List.reverse_append, List.reverse_singleton, List.singleton_append, List.dropWhile_cons, ha, if_pos rfl, trim]

/-- neither end of a trimmed string is trimmed again -/
theorem trim_ends (s : List α) :
    (∀ c ∈ (trim p s).head?, p c = false) ∧ ∀ c ∈ (trim p s).getLast?, p c = false := by
  refine ⟨?_, ?_⟩
  · -- the second pass leaves the head that the first one found, or nothing
    intro c hc
    refine head_dropWhile s c ?_
    rw [trim, List.head?_reverse] at hc
    obtain ⟨front, hfront⟩ := List.dropWhile_suffix p (l := (s.dropWhile p).reverse)
    have hne : (s.dropWhile p).reverse.dropWhile p ≠ [] := by
      intro hnil
      rw [hnil] at hc
      cases hc
    rw [← List.getLast?_reverse, ← hfront, List.getLast?_append_of_ne_nil _ hne]
    exact hc
  · rw [trim, List.getLast?_reverse]
    exact head_dropWhile _

theorem trim_trim (s : List α) : trim p (trim p s) = trim p s := trim_of_ends (trim_ends s).1 (trim_ends s).2

theorem mem_of_mem_trim {s : List α} {c : α} (h : c ∈ trim p s) : c ∈ s := by
  rw [trim, List.mem_reverse] at h
  have hback := (List.dropWhile_suffix p).subset h
  exact (List.dropWhile_suffix p).subset (List.mem_reverse.1 hback)

end Trim

section Row

variable {α : Type*} [DecidableEq α] (blank : α → Bool) (sep pad : α)

def cells (line : List α) : List (List α) := ((trim (· == sep) (trim blank line)).splitOn sep).map (trim blank)

/-- the row of some cells, each between two pads -/
def row (cells : List (List α)) : List α := sep :: [sep].intercalate (cells.map fun c => pad :: c ++ [pad]) ++ [sep]

variable {blank sep pad}

theorem not_mem_of_mem_splitOn {s c : List α} (h : c ∈ s.splitOn sep) : sep ∉ c := by
  induction s generalizing c with
  | nil =>
    rw [List.splitOn_nil, List.mem_singleton] at h
    simp [h]
  | cons a s ih =>
    rw [List.splitOn_cons_eq_if_modifyHead] at h
    split_ifs at h with ha
    · rcases List.mem_cons.1 h with rfl | htail
      · simp
      · exact ih htail
    · cases hsplit : s.splitOn sep with
      | nil =>
        rw [hsplit] at h
        cases h
      | cons d rest =>
        rw [hsplit, List.modifyHead_cons] at h
        have hne : a ≠ sep := by simpa using ha
        rcases List.mem_cons.1 h with rfl | hrest
        · have hd := ih (c := d) (by rw [hsplit]; exact List.mem_cons_self)
          simp [hd, hne.symm]
        · exact ih (by rw [hsplit]; exact List.mem_cons_of_mem _ hrest)

/-- **What is read** is trimmed and has no separator. -/
theorem cells_spec {line c : List α} (h : c ∈ cells blank sep line) : sep ∉ c ∧ trim blank c = c := by
  obtain ⟨piece, hpiece, rfl⟩ := List.mem_map.1 h
  exact ⟨fun hmem => not_mem_of_mem_splitOn hpiece (mem_of_mem_trim hmem), trim_trim piece⟩

omit [DecidableEq α] in
theorem mem_of_mem_intercalate {pieces : List (List α)} {d : α} (h : d ∈ [sep].intercalate pieces) :
    d = sep ∨ ∃ piece ∈ pieces, d ∈ piece := by
  induction pieces with
  | nil => simp at h
  | cons piece pieces ih =>
    cases pieces with
    | nil => exact Or.inr ⟨piece, List.mem_cons_self, by simpa using h⟩
    | cons next rest =>
      rw [List.intercalate_cons_cons, List.mem_append, List.mem_append, List.mem_singleton] at h
      rcases h with (hmem | hsep) | hrest
      · exact Or.inr ⟨piece, List.mem_cons_self, hmem⟩
      · exact Or.inl hsep
      · refine (ih hrest).imp_right fun ⟨p, hp, hd⟩ => ⟨p, List.mem_cons_of_mem _ hp, hd⟩

omit [DecidableEq α] in
theorem mem_intercalate_of_mem {pieces : List (List α)} {piece : List α} {d : α} (h : piece ∈ pieces) (hd : d ∈ piece) :
    d ∈ [sep].intercalate pieces := by
  induction pieces with
  | nil => cases h
  | cons p pieces ih =>
    cases pieces with
    | nil =>
      rw [List.mem_singleton.1 h] at hd
      simpa using hd
    | cons next rest =>
      rw [List.intercalate_cons_cons, List.mem_append]
      rcases List.mem_cons.1 h with rfl | h
      · exact Or.inl (List.mem_append_left _ hd)
      · exact Or.inr (ih h)

/-- the characters of a cell are those of the line -/
theorem mem_of_mem_cells {line c : List α} {d : α} (h : c ∈ cells blank sep line) (hd : d ∈ c) : d ∈ line := by
  obtain ⟨piece, hpiece, rfl⟩ := List.mem_map.1 h
  have hmem : d ∈ [sep].intercalate ((trim (· == sep) (trim blank line)).splitOn sep) :=
    mem_intercalate_of_mem hpiece (mem_of_mem_trim hd)
  rw [List.intercalate_splitOn] at hmem
  exact mem_of_mem_trim (mem_of_mem_trim hmem)

omit [DecidableEq α] in
theorem mem_of_mem_row {cs : List (List α)} {d : α} (h : d ∈ row sep pad cs) :
    d = sep ∨ d = pad ∨ ∃ c ∈ cs, d ∈ c := by
  rw [row, List.mem_append, List.mem_cons, List.mem_singleton] at h
  rcases h with (hsep | hinner) | hsep
  · exact Or.inl hsep
  · rcases mem_of_mem_intercalate hinner with hsep | ⟨piece, hpiece, hd⟩
    · exact Or.inl hsep
    · obtain ⟨c, hc, rfl⟩ := List.mem_map.1 hpiece
      rw [List.mem_append, List.mem_cons, List.mem_singleton] at hd
      rcases hd with (hpad | hd) | hpad
      · exact Or.inr (Or.inl hpad)
      · exact Or.inr (Or.inr ⟨c, hc, hd⟩)
      · exact Or.inr (Or.inl hpad)
  · exact Or.inl hsep

omit [DecidableEq α] in
/-- the cells between their pads start and end with a pad -/
theorem intercalate_ends {cs : List (List α)} (hne : cs ≠ []) :
    (∃ middle, [sep].intercalate (cs.map fun c => pad :: c ++ [pad]) = pad :: middle) ∧
      ([sep].intercalate (cs.map fun c => pad :: c ++ [pad])).getLast? = some pad := by
  induction cs with
  | nil => exact absurd rfl hne
  | cons c cs ih =>
    cases cs with
    | nil => exact ⟨⟨c ++ [pad], by simp⟩, by simp [List.getLast?_cons]⟩
    | cons d cs =>
      obtain ⟨⟨middle, hmiddle⟩, hlast⟩ := ih (List.cons_ne_nil d cs)
      have hne' : [sep].intercalate ((d :: cs).map fun c => pad :: c ++ [pad]) ≠ [] := by
        rw [hmiddle]
        exact List.cons_ne_nil _ _
      have hsplit : [sep].intercalate ((c :: d :: cs).map fun c => pad :: c ++ [pad]) =
          (pad :: c ++ [pad] ++ [sep]) ++ [sep].intercalate ((d :: cs).map fun c => pad :: c ++ [pad]) :=
        List.intercalate_cons_cons
      rw [hsplit, List.getLast?_append_of_ne_nil _ hne']
      exact ⟨⟨_, rfl⟩, hlast⟩

/-- **A row is read back.** -/
theorem cells_row (hsep : blank sep = false) (hpad : blank pad = true) {cs : List (List α)} (hne : cs ≠ [])
    (hcells : ∀ c ∈ cs, sep ∉ c ∧ trim blank c = c) : cells blank sep (row sep pad cs) = cs := by
  have hdiffer : pad ≠ sep := by
    intro heq
    rw [heq, hsep] at hpad
    cases hpad
  obtain ⟨⟨middle, hmiddle⟩, hlast⟩ := @intercalate_ends _ sep pad _ hne
  have hline : trim blank (row sep pad cs) = row sep pad cs := by
    refine trim_of_ends ?_ ?_
    · simp [row, hsep]
    · simp [row, List.getLast?_cons, hsep]
  have hinner : trim (· == sep) (row sep pad cs) = [sep].intercalate (cs.map fun c => pad :: c ++ [pad]) := by
    rw [row, List.cons_append, trim_cons (by simp), trim_snoc (by simp), trim_of_ends]
    · rw [hmiddle]
      simpa using hdiffer
    · rw [hlast]
      simpa using hdiffer
  have hsplit : ([sep].intercalate (cs.map fun c => pad :: c ++ [pad])).splitOn sep =
      cs.map fun c => pad :: c ++ [pad] := by
    refine List.splitOn_intercalate sep ?_ (by simpa using hne)
    intro piece hpiece
    obtain ⟨c, hc, rfl⟩ := List.mem_map.1 hpiece
    simp [(hcells c hc).1, hdiffer.symm]
  rw [cells, hline, hinner, hsplit, List.map_map]
  calc cs.map (trim blank ∘ fun c => pad :: c ++ [pad])
      = cs.map id := by
        refine List.map_congr_left fun c hc => ?_
        rw [Function.comp_apply, List.cons_append, trim_cons hpad, trim_snoc hpad, (hcells c hc).2, id_eq]
    _ = cs := List.map_id cs

end Row

end AstraFsw.DelimitedRow
