/-
The state of the working tree: `tools/repository_state.py` and the exit code of `tools/check_source_cleanliness.py`.

`collect_repository_state` strips a line of its status letters, normalises the path behind them and splits the paths by
the generated area. `_normalize_porcelain_path` keeps what follows the first arrow of the line. So of a rename it never
looks at the old path, and an arrow inside a name cuts the name.
- `Change.pathOfLine_line`: what the parser keeps of the line of a change (`Change.kept`);
- `mem_paths_iff`: the paths collected from Git's output are the ones kept.
-/
import AstraFsw.Ground.Porcelain
import Mathlib.Data.List.Lex

namespace AstraFsw.Ground.SourceCleanliness

/-! ## The gate -/

/-- `str.isspace` of one character -/
def isSpace (c : Char) : Bool :=
  [0x09, 0x0A, 0x0B, 0x0C, 0x0D, 0x1C, 0x1D, 0x1E, 0x1F, 0x20, 0x85, 0xA0, 0x1680, 0x2000, 0x2001, 0x2002, 0x2003, 0x2004,
   0x2005, 0x2006, 0x2007, 0x2008, 0x2009, 0x200A, 0x2028, 0x2029, 0x202F, 0x205F, 0x3000].contains c.toNat

/-- the line boundaries of `str.splitlines` -/
def isLineBreak (c : Char) : Bool :=
  [0x0A, 0x0B, 0x0C, 0x0D, 0x1C, 0x1D, 0x1E, 0x85, 0x2028, 0x2029].contains c.toNat

/-- `str.strip` -/
def strip (s : List Char) : List Char := ((s.dropWhile isSpace).reverse.dropWhile isSpace).reverse

/-- `str.splitlines`, behind the characters of the current line -/
def splitLinesFrom (line : List Char) : List Char → List (List Char)
  | [] => if line = [] then [] else [line]
  | [c] => if isLineBreak c then [line] else [line ++ [c]]
  | c :: d :: rest =>
    -- carriage return and line feed are one boundary
    if c.toNat = 0x0D ∧ d.toNat = 0x0A then line :: splitLinesFrom [] rest
    else if isLineBreak c then line :: splitLinesFrom [] (d :: rest)
    else splitLinesFrom (line ++ [c]) (d :: rest)

def splitLines (s : List Char) : List (List Char) := splitLinesFrom [] s

/-- `value[1:-1]` between double quotes -/
def unquote (value : List Char) : List Char :=
  if value.head? = some dquote ∧ value.getLast? = some dquote then value.tail.dropLast else value

/-- `_normalize_porcelain_path` -/
def normalizePorcelainPath (raw : List Char) : List Char :=
  let value := strip raw
  let value := (after arrow value).getD value
  unquote value

def generatedPrefixes : List (List Char) := ["reports/".toList, "dist/".toList]

/-- `prefix.rstrip("/")` -/
def rstripSlash (s : List Char) : List Char := (s.reverse.dropWhile (· == '/')).reverse

def isGenerated (path : List Char) : Bool :=
  generatedPrefixes.any fun pre => path == rstripSlash pre || pre.isPrefixOf path

structure RepositoryState where
  dirtyPaths : List (List Char)
  sourceDirtyPaths : List (List Char)
  generatedDirtyPaths : List (List Char)
deriving DecidableEq

def RepositoryState.dirty (state : RepositoryState) : Bool := !state.dirtyPaths.isEmpty

def RepositoryState.sourceDirty (state : RepositoryState) : Bool := !state.sourceDirtyPaths.isEmpty

/-- the finished `git status` process -/
structure Completed where
  returncode : ℤ := 0
  stdout : List Char := []
  stderr : List Char := []
deriving DecidableEq

/-- the path of a line, none for a line that is too short or leaves nothing -/
def pathOfLine (line : List Char) : Option (List Char) :=
  if line.length < 4 then none
  else
    let path := normalizePorcelainPath (line.drop 3)
    if path = [] then none else some path

/-- `collect_repository_state`, with the text of the `RuntimeError` -/
def collectRepositoryState (completed : Completed) : Except (List Char) RepositoryState :=
  if completed.returncode ≠ 0 then
    .error (if strip completed.stderr = [] then "git status failed".toList else strip completed.stderr)
  else
    let unique := ((splitLines completed.stdout).filterMap pathOfLine).dedup.insertionSort (· ≤ ·)
    let generated := unique.filter isGenerated
    let source := unique.filter fun path => !generated.contains path
    .ok { dirtyPaths := unique, sourceDirtyPaths := source, generatedDirtyPaths := generated }

/-- the exit code of `check_source_cleanliness.py` -/
def checkSourceCleanliness (completed : Completed) : ℕ :=
  match collectRepositoryState completed with
  | .error _ => 1
  | .ok state => if state.sourceDirty then 1 else 0

/-! ## Lines -/

theorem isSpace_of_printable {c : Char} (h : printable c = true) : isSpace c = false := by
  simp only [printable, decide_eq_true_eq] at h
  simp only [isSpace, List.contains_eq_mem, List.mem_cons, List.not_mem_nil, or_false, decide_eq_false_iff_not, not_or]
  omega

theorem Clean.notLineBreak {c : Char} (h : Clean c) : isLineBreak c = false := by
  rcases h with h | rfl
  · simp only [printable, decide_eq_true_eq] at h
    simp only [isLineBreak, List.contains_eq_mem, List.mem_cons, List.not_mem_nil, or_false, decide_eq_false_iff_not,
      not_or]
    omega
  · decide

/-- nothing is stripped between printable characters -/
theorem strip_of_ends {s : List Char} (h : PrintableEnds s) : strip s = s := by
  obtain ⟨c, rest, hcons, hc⟩ := h.head
  obtain ⟨init, d, hsnoc, hd⟩ := h.last
  have hleft : s.dropWhile isSpace = s := by
    rw [hcons, List.dropWhile_cons, isSpace_of_printable hc]
    rfl
  rw [strip, hleft, hsnoc, List.reverse_append, List.reverse_singleton, List.singleton_append, List.dropWhile_cons,
    isSpace_of_printable hd, if_neg Bool.false_ne_true, List.reverse_cons, List.reverse_reverse]

theorem splitLinesFrom_cons (line : List Char) {c : Char} (h : isLineBreak c = false) (rest : List Char) :
    splitLinesFrom line (c :: rest) = splitLinesFrom (line ++ [c]) rest := by
  cases rest with
  | nil => simp [splitLinesFrom, h]
  | cons d rest =>
    have hreturn : ¬ (c.toNat = 0x0D ∧ d.toNat = 0x0A) := by
      intro hends
      simp [isLineBreak, hends.1] at h
    rw [splitLinesFrom, if_neg hreturn, h, if_neg Bool.false_ne_true]

theorem splitLinesFrom_newline (line rest : List Char) :
    splitLinesFrom line (newline :: rest) = line :: splitLinesFrom [] rest := by
  cases rest with
  | nil => rfl
  | cons d rest => rw [splitLinesFrom, if_neg (fun h => absurd h.1 (by decide)), if_pos (by decide)]

theorem splitLinesFrom_line {text : List Char} (h : ∀ c ∈ text, Clean c) (line rest : List Char) :
    splitLinesFrom line (text ++ newline :: rest) = (line ++ text) :: splitLinesFrom [] rest := by
  induction text generalizing line with
  | nil => rw [List.nil_append, splitLinesFrom_newline, List.append_nil]
  | cons c text ih =>
    rw [List.cons_append, splitLinesFrom_cons line (h c List.mem_cons_self).notLineBreak,
      ih fun d hd => h d (List.mem_cons_of_mem _ hd), List.append_assoc, List.singleton_append]

namespace Change

variable (q : GitQuoting)

/-- what the parser keeps of the change -/
def kept (c : Change) : List Char := unquote ((after arrow (c.body q)).getD (c.body q))

theorem pathOfLine_line (c : Change) : pathOfLine (c.line q) = if c.kept q = [] then none else some (c.kept q) := by
  have hdrop : (c.line q).drop 3 = c.body q := by cases c <;> rfl
  have hlen : ¬ (c.line q).length < 4 := by
    obtain ⟨d, rest, hcons, -⟩ := (c.body_ends q).head
    have hletters : c.letters.length = 3 := by cases c <;> rfl
    rw [line, List.length_append, hletters, hcons, List.length_cons]
    omega
  have hkept : normalizePorcelainPath (c.body q) = c.kept q := by
    rw [normalizePorcelainPath, strip_of_ends (c.body_ends q)]
    rfl
  rw [pathOfLine, if_neg hlen, hdrop]
  simp only [hkept]

end Change

theorem splitLines_porcelain (q : GitQuoting) (changes : List Change) :
    splitLines (porcelain q changes) = changes.map fun c => c.line q := by
  induction changes with
  | nil => rfl
  | cons c changes ih =>
    rw [porcelain, List.flatMap_cons, List.append_assoc, List.singleton_append, splitLines,
      splitLinesFrom_line (c.clean_line q), List.nil_append, List.map_cons, ← ih]
    rfl

/-- the paths the parser collects are what it keeps of the changes -/
theorem mem_paths_iff (q : GitQuoting) (changes : List Change) (path : List Char) :
    path ∈ (splitLines (porcelain q changes)).filterMap pathOfLine ↔ path ≠ [] ∧ ∃ c ∈ changes, c.kept q = path := by
  rw [splitLines_porcelain, List.mem_filterMap]
  simp only [List.mem_map, exists_exists_and_eq_and, Change.pathOfLine_line]
  constructor
  · intro h
    obtain ⟨c, hc, hkept⟩ := h
    split_ifs at hkept with hnil
    obtain rfl := Option.some.inj hkept
    exact ⟨hnil, c, hc, rfl⟩
  · intro h
    obtain ⟨hnil, c, hc, rfl⟩ := h
    exact ⟨c, hc, if_neg hnil⟩

end AstraFsw.Ground.SourceCleanliness
