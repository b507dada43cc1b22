/-
The verdict of the source-cleanliness gate.

A change goes unseen when what the parser keeps of it is empty or in the generated area.
- `Change.kept_exposes`: the changes that show the gate a path outside the generated area (`Exposes`);
- `gate_sound_iff`: the sets of changes on which the gate is sound;
- `renamed_source_passes`: a source file moved into `reports/` passes.
-/
import AstraFsw.Ground.RepositoryState

namespace AstraFsw.Ground.SourceCleanliness

/-! ## The generated area -/

/-- under `reports/` or `dist/` -/
def Under (name : List Char) : Prop := "reports/".toList <+: name ∨ "dist/".toList <+: name

/-- one of the two directories' own names -/
def IsDirectory (name : List Char) : Prop := name = "reports".toList ∨ name = "dist".toList

/-- under one of the directories, or its own entry -/
def InArea (name : List Char) : Prop := Under name ∨ IsDirectory name

instance (name : List Char) : Decidable (Under name) := inferInstanceAs (Decidable (_ ∨ _))

instance (name : List Char) : Decidable (IsDirectory name) := inferInstanceAs (Decidable (_ ∨ _))

instance (name : List Char) : Decidable (InArea name) := inferInstanceAs (Decidable (_ ∨ _))

theorem isGenerated_iff (path : List Char) : isGenerated path = true ↔ InArea path := by
  have hreports : rstripSlash "reports/".toList = "reports".toList := by decide
  have hdist : rstripSlash "dist/".toList = "dist".toList := by decide
  simp only [isGenerated, generatedPrefixes, List.any_cons, List.any_nil, Bool.or_false, hreports, hdist,
    Bool.or_eq_true, beq_iff_eq, List.isPrefixOf_iff_prefix, InArea, Under, IsDirectory]
  tauto

theorem InArea.head {name : List Char} (h : InArea name) : name.head? = some 'r' ∨ name.head? = some 'd' := by
  rcases h with (⟨rest, rfl⟩ | ⟨rest, rfl⟩) | (rfl | rfl)
  · exact Or.inl rfl
  · exact Or.inr rfl
  · exact Or.inl rfl
  · exact Or.inr rfl

theorem not_isDirectory_of_dquote {name : List Char} (h : dquote ∈ name) : ¬ IsDirectory name := by
  intro hname
  rcases hname with rfl | rfl <;> revert h <;> decide

section

variable (q : GitQuoting)

/-- a quoted or escaped name is in the area when the name is -/
theorem under_text (m : List Char) {tail : List Char} (htail : ∀ c ∈ tail.head?, c = dquote) :
    Under (q.text m ++ tail) ↔ Under m := by
  have hstart : ∀ p : List Char, (∀ c ∈ p, plain c = true) → (p <+: q.text m ++ tail ↔ p <+: m) := by
    intro p hp
    apply q.prefix_text fun c hc => q.literal_of_plain (hp c hc)
    intro c hc hmem
    exact plain_ne_dquote (hp c hmem) (htail c hc)
  exact or_congr (hstart _ (List.all_eq_true.1 (by decide))) (hstart _ (List.all_eq_true.1 (by decide)))

theorem isDirectory_text (n : List Char) : IsDirectory (q.text n) ↔ IsDirectory n := by
  have hliteral : ∀ p : List Char, p.all plain = true → ∀ c ∈ p, q.literal c = true :=
    fun p hp c hc => q.literal_of_plain (List.all_eq_true.1 hp c hc)
  exact or_congr (q.text_eq_literal (hliteral _ (by decide))) (q.text_eq_literal (hliteral _ (by decide)))

theorem inArea_text (n : List Char) : InArea (q.text n) ↔ InArea n := by
  have hunder := @under_text q n [] (by simp)
  rw [List.append_nil] at hunder
  exact or_congr hunder (isDirectory_text q n)

theorem unquote_of_head {value : List Char} (h : value.head? ≠ some dquote) : unquote value = value :=
  if_neg fun hquotes => h hquotes.1

theorem unquote_quote {n : List Char} (h : n ≠ []) : unquote (q.quote n) = q.text n := by
  unfold GitQuoting.quote
  split_ifs with hplain
  · have htext : q.text n = n := q.text_literal fun c hc => q.literal_of_plain (List.all_eq_true.1 hplain c hc)
    rw [htext]
    apply unquote_of_head
    obtain ⟨c, rest, rfl⟩ := List.exists_cons_of_ne_nil h
    intro hhead
    exact plain_ne_dquote (List.all_eq_true.1 hplain c List.mem_cons_self) (Option.some.inj hhead)
  · rw [unquote, if_pos ⟨rfl, by rw [List.getLast?_concat]⟩, List.cons_append, List.tail_cons, List.dropLast_concat]

/-- the cut-off end of a quoted name keeps its last quote -/
theorem unquote_text {m : List Char} (h : m ≠ []) (tail : List Char) :
    unquote (q.text m ++ dquote :: tail) = q.text m ++ dquote :: tail := by
  apply unquote_of_head
  have hhead := q.text_head_ne_dquote m
  cases htext : q.text m with
  | nil => exact absurd (q.text_eq_nil.1 htext) h
  | cons c rest =>
    rw [htext] at hhead
    exact hhead

/-- nothing before a quote at the front is in the area -/
theorem unquote_dquote_notInArea (tail : List Char) :
    ¬ InArea (unquote (dquote :: (arrow ++ tail))) ∧ unquote (dquote :: (arrow ++ tail)) ≠ [] := by
  have hhead : (unquote (dquote :: (arrow ++ tail))).head? = some dquote ∨
      (unquote (dquote :: (arrow ++ tail))).head? = some space := by
    unfold unquote
    split_ifs
    · exact Or.inr rfl
    · exact Or.inl rfl
  refine ⟨?_, ?_⟩
  · intro hin
    rcases hin.head with hr | hr <;> rcases hhead with hd | hd <;> rw [hr] at hd <;>
      exact absurd (Option.some.inj hd) (by decide)
  · intro hnil
    rw [hnil] at hhead
    simp at hhead

end

namespace Change

/-- shows the gate a path outside the area -/
def Exposes : Change → Prop
  | entry _ _ path =>
    match after arrow path.name with
    | none => ¬ InArea path.name
    | some rest => rest ≠ [] ∧ ¬ Under rest
  | moved _ _ old new =>
    match after arrow old.name with
    | none => ¬ InArea new.name
    | some rest => ¬ Under rest

/-- shows the gate one of the two directories' own names -/
def ShowsDirectory : Change → Prop
  | entry _ _ path => IsDirectory path.name
  | moved _ _ old new => after arrow old.name = none ∧ IsDirectory new.name

variable (q : GitQuoting)

theorem after_body_entry (x y : StatusCode) (path : Path) :
    after arrow ((entry x y path).body q) =
      match after arrow path.name with
      | some m => some (q.text m ++ [dquote])
      | none => none := by
  have h := q.after_quote path.name []
  rw [List.append_nil] at h
  exact h

theorem after_body_moved (x y : StatusCode) (old new : Path) :
    after arrow ((moved x y old new).body q) =
      match after arrow old.name with
      | some m => some (q.text m ++ dquote :: (arrow ++ q.quote new.name))
      | none => some (q.quote new.name) := by
  have hnone : after arrow (arrow ++ q.quote new.name) = some (q.quote new.name) := Escaping.after_of_prefix _
  have h := q.after_quote old.name (arrow ++ q.quote new.name)
  rw [hnone] at h
  exact h

/-- a whole name is kept escaped -/
theorem unquote_name (path : Path) :
    unquote (q.quote path.name) = q.text path.name ∧ q.text path.name ≠ [] :=
  ⟨unquote_quote q path.nonempty, fun h => path.nonempty (q.text_eq_nil.1 h)⟩

/-- what is kept of a cut name is in the area when it is under a directory -/
theorem unquote_cut {m : List Char} (h : m ≠ []) (tail : List Char) :
    unquote (q.text m ++ dquote :: tail) ≠ [] ∧
    (InArea (unquote (q.text m ++ dquote :: tail)) ↔ Under m) ∧
    ¬ IsDirectory (unquote (q.text m ++ dquote :: tail)) := by
  have hdirectory : ¬ IsDirectory (q.text m ++ dquote :: tail) := not_isDirectory_of_dquote (by simp)
  rw [unquote_text q h]
  refine ⟨by simp, ?_, hdirectory⟩
  rw [InArea, or_iff_left hdirectory]
  exact under_text q m (by simp)

/-- **The changes that show the gate a path outside the area.** -/
theorem kept_exposes (c : Change) : c.kept q ≠ [] ∧ ¬ InArea (c.kept q) ↔ c.Exposes := by
  cases c with
  | entry x y path =>
    rw [kept, after_body_entry, Exposes]
    cases after arrow path.name with
    | none =>
      obtain ⟨hname, hnil⟩ := unquote_name q path
      simp only [Option.getD_none, body]
      rw [hname, inArea_text, and_iff_right hnil]
    | some m =>
      simp only [Option.getD_some]
      by_cases hm : m = []
      · subst hm
        -- the lone quote loses both its ends
        exact iff_of_false (fun h => h.1 rfl) fun h => h.1 rfl
      · obtain ⟨hnil, harea, -⟩ := unquote_cut q hm []
        rw [harea, and_iff_right hnil, and_iff_right hm]
  | moved x y old new =>
    rw [kept, after_body_moved, Exposes]
    cases after arrow old.name with
    | none =>
      obtain ⟨hname, hnil⟩ := unquote_name q new
      simp only [Option.getD_some]
      rw [hname, inArea_text, and_iff_right hnil]
    | some m =>
      simp only [Option.getD_some]
      by_cases hm : m = []
      · subst hm
        obtain ⟨harea, hnil⟩ := unquote_dquote_notInArea (q.quote new.name)
        exact iff_of_true ⟨hnil, harea⟩ (by decide)
      · obtain ⟨hnil, harea, -⟩ := unquote_cut q hm (arrow ++ q.quote new.name)
        rw [harea, and_iff_right hnil]

/-- no arrow in a directory's name -/
theorem after_directory {n : List Char} (h : IsDirectory n) : after arrow n = none := by
  rcases h with rfl | rfl <;> decide

theorem kept_directory (c : Change) : IsDirectory (c.kept q) ↔ c.ShowsDirectory := by
  have hnil : ¬ IsDirectory [] := by decide
  cases c with
  | entry x y path =>
    rw [kept, after_body_entry, ShowsDirectory]
    cases hafter : after arrow path.name with
    | none =>
      simp only [Option.getD_none, body]
      rw [(unquote_name q path).1, isDirectory_text]
    | some m =>
      simp only [Option.getD_some]
      refine iff_of_false ?_ ?_
      · by_cases hm : m = []
        · subst hm
          exact hnil
        · exact (unquote_cut q hm []).2.2
      · intro hdirectory
        rw [after_directory hdirectory] at hafter
        cases hafter
  | moved x y old new =>
    rw [kept, after_body_moved, ShowsDirectory]
    cases after arrow old.name with
    | none =>
      simp only [Option.getD_some, true_and]
      rw [(unquote_name q new).1, isDirectory_text]
    | some m =>
      simp only [Option.getD_some, reduceCtorEq, false_and, iff_false]
      by_cases hm : m = []
      · subst hm
        exact fun hdirectory => (unquote_dquote_notInArea _).1 (Or.inr hdirectory)
      · exact (unquote_cut q hm _).2.2

end Change

/-! ## The gate's verdict -/

/-- the output of a successful `git status` -/
def statusOf (q : GitQuoting) (changes : List Change) : Completed := { stdout := porcelain q changes }

/-- involves a path that is not inside -/
def Touches (inside : List Char → Prop) (c : Change) : Prop := ∃ path ∈ c.paths, ¬ inside path.name

/-- a change outside makes the source dirty, and only what is inside is reported as generated -/
def GateSound (inside : List Char → Prop) (q : GitQuoting) (changes : List Change) : Prop :=
  ∃ state, collectRepositoryState (statusOf q changes) = .ok state ∧
    ((∃ c ∈ changes, Touches inside c) → state.sourceDirty = true) ∧ ∀ path ∈ state.generatedDirtyPaths, inside path

/-- the paths the gate reports: the kept ones, split by area -/
theorem collect_statusOf (q : GitQuoting) (changes : List Change) :
    ∃ state, collectRepositoryState (statusOf q changes) = .ok state ∧
      (state.sourceDirty = true ↔ ∃ c ∈ changes, c.Exposes) ∧
      ∀ path, path ∈ state.generatedDirtyPaths ↔ InArea path ∧ ∃ c ∈ changes, c.kept q = path := by
  have hpath : ∀ path, path ∈ ((splitLines (porcelain q changes)).filterMap pathOfLine).dedup.insertionSort (· ≤ ·) ↔
      path ≠ [] ∧ ∃ c ∈ changes, c.kept q = path := by
    intro path
    rw [List.mem_insertionSort, List.mem_dedup, mem_paths_iff]
  have hgenerated : ∀ path, path ∈ (((splitLines (porcelain q changes)).filterMap pathOfLine).dedup.insertionSort
      (· ≤ ·)).filter isGenerated ↔ InArea path ∧ ∃ c ∈ changes, c.kept q = path := by
    intro path
    rw [List.mem_filter, hpath, isGenerated_iff]
    refine ⟨fun h => ⟨h.2, h.1.2⟩, fun h => ⟨⟨?_, h.2⟩, h.1⟩⟩
    rintro rfl
    exact absurd h.1 (by decide)
  refine ⟨_, if_neg (fun h => h rfl), ?_, hgenerated⟩
  simp only [RepositoryState.sourceDirty, statusOf, Bool.not_eq_true', List.isEmpty_eq_false_iff_exists_mem,
    List.mem_filter, List.contains_eq_mem, decide_eq_false_iff_not]
  constructor
  · intro h
    obtain ⟨path, hmem, hsource⟩ := h
    rw [← List.mem_filter, hgenerated] at hsource
    obtain ⟨hnil, c, hc, rfl⟩ := (hpath path).1 hmem
    exact ⟨c, hc, (c.kept_exposes q).1 ⟨hnil, fun harea => hsource ⟨harea, c, hc, rfl⟩⟩⟩
  · intro h
    obtain ⟨c, hc, hexposes⟩ := h
    obtain ⟨hnil, harea⟩ := (c.kept_exposes q).2 hexposes
    exact ⟨c.kept q, (hpath _).2 ⟨hnil, c, hc, rfl⟩, fun hmem => harea ((hgenerated _).1 (List.mem_filter.2 hmem)).1⟩

/-- **When the gate is sound.** A change outside goes unseen when no change exposes a path. An entry with a directory's
own name is reported as generated although it is not under the directory. -/
theorem gate_sound_iff (q : GitQuoting) (changes : List Change) :
    (GateSound InArea q changes ↔ ((∃ c ∈ changes, Touches InArea c) → ∃ c ∈ changes, c.Exposes)) ∧
    (GateSound Under q changes ↔
      ((∃ c ∈ changes, Touches Under c) → ∃ c ∈ changes, c.Exposes) ∧ ∀ c ∈ changes, ¬ c.ShowsDirectory) := by
  obtain ⟨state, hstate, hsource, hgenerated⟩ := collect_statusOf q changes
  have hsound : ∀ inside, GateSound inside q changes ↔
      ((∃ c ∈ changes, Touches inside c) → ∃ c ∈ changes, c.Exposes) ∧
      ∀ path, InArea path ∧ (∃ c ∈ changes, c.kept q = path) → inside path := by
    intro inside
    simp only [GateSound, hstate, Except.ok.injEq, exists_eq_left', hsource, hgenerated]
  refine ⟨?_, ?_⟩
  · rw [hsound, and_iff_left fun path h => h.1]
  · rw [hsound]
    refine and_congr_right fun _ => ⟨?_, ?_⟩
    · intro h c hc hdirectory
      rw [← c.kept_directory q] at hdirectory
      have hunder := h (c.kept q) ⟨Or.inr hdirectory, c, hc, rfl⟩
      rcases hdirectory with hname | hname <;> rw [hname] at hunder <;> exact absurd hunder (by decide)
    · intro h path hpath
      obtain ⟨harea, c, hc, rfl⟩ := hpath
      exact harea.resolve_right fun hdirectory => h c hc ((c.kept_directory q).1 hdirectory)

/-! ## A renamed source file -/

/-- the source file is moved into the reports -/
def renamedSource : Change :=
  .moved .renamed .unmodified ⟨"source.txt".toList, by decide⟩ ⟨"reports/source.txt".toList, by decide⟩

theorem renamed_source_passes :
    porcelain gitQuoting [renamedSource] = "R  source.txt -> reports/source.txt\n".toList ∧
    Touches InArea renamedSource ∧ checkSourceCleanliness (statusOf gitQuoting [renamedSource]) = 0 ∧
    ¬ GateSound InArea gitQuoting [renamedSource] ∧ ¬ GateSound Under gitQuoting [renamedSource] := by
  have hexit : checkSourceCleanliness (statusOf gitQuoting [renamedSource]) = 0 := by decide
  have hunsound : ∀ inside, Touches inside renamedSource → ¬ GateSound inside gitQuoting [renamedSource] := by
    intro inside htouches hsound
    obtain ⟨state, hstate, hsource, -⟩ := hsound
    have hdirty := hsource ⟨renamedSource, List.mem_singleton_self _, htouches⟩
    rw [checkSourceCleanliness, hstate] at hexit
    simp only [hdirty, if_true, one_ne_zero] at hexit
  have hold : ∀ inside, ¬ inside "source.txt".toList → Touches inside renamedSource := fun inside h =>
    ⟨_, List.mem_cons_self, h⟩
  exact ⟨by decide, hold InArea (by decide), hexit, hunsound InArea (hold InArea (by decide)),
    hunsound Under (hold Under (by decide))⟩

end AstraFsw.Ground.SourceCleanliness
