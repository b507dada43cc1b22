/-
The requirements document as `tools/check_requirements.py` reads it (`parse_requirements_doc`).

A requirement is a table row of five cells whose first is a requirement id. Every other line is passed over, also a row
with a `|` inside a cell. The texts are the decoded ones, lists of characters; the document's path is not read.

- `parseRequirementsDoc_eq_ok_iff`: which documents are accepted, and as what;
- `readRow_spec`, `readRow_line`: what a row is read as, and the row of a requirement;
- `requirements_roundTrip`: a document is read back, whatever is written between its rows.
-/
import AstraFsw.Core.DelimitedRow
import AstraFsw.Ground.RepositoryState

namespace AstraFsw.Traceability

open DelimitedRow (trim)
open Ground.SourceCleanliness (isSpace isLineBreak strip splitLines splitLinesFrom newline space)

/-! ## The parser -/

structure Requirement where
  reqId : List Char
  text : List Char
  method : List Char
  evidence : List Char
  status : List Char
deriving DecidableEq, Repr

/-- the `ValueError`s of a document, without its path -/
inductive DocumentError where
  | duplicate (lineNumber : ℕ) (reqId : List Char)
  | incomplete (lineNumber : ℕ) (reqId : List Char)
  | empty
deriving DecidableEq, Repr

/-- the code points of the digits zero; each is followed by the other nine digits of its script -/
def decimalZeros : List ℕ :=
  [0x30, 0x660, 0x6F0, 0x7C0, 0x966, 0x9E6, 0xA66, 0xAE6, 0xB66, 0xBE6, 0xC66, 0xCE6, 0xD66, 0xDE6, 0xE50, 0xED0, 0xF20,
   0x1040, 0x1090, 0x17E0, 0x1810, 0x1946, 0x19D0, 0x1A80, 0x1A90, 0x1B50, 0x1BB0, 0x1C40, 0x1C50, 0xA620, 0xA8D0, 0xA900,
   0xA9D0, 0xA9F0, 0xAA50, 0xABF0, 0xFF10, 0x104A0, 0x10D30, 0x11066, 0x110F0, 0x11136, 0x111D0, 0x112F0, 0x11450,
   0x114D0, 0x11650, 0x116C0, 0x11730, 0x118E0, 0x11950, 0x11C50, 0x11D50, 0x11DA0, 0x16A60, 0x16AC0, 0x16B50, 0x1D7CE,
   0x1D7D8, 0x1D7E2, 0x1D7EC, 0x1D7F6, 0x1E140, 0x1E2F0, 0x1E950, 0x1FBF0]

/-- `\d` of a text pattern -/
def isDecimal (c : Char) : Bool := decimalZeros.any fun first => decide (first ≤ c.toNat ∧ c.toNat ≤ first + 9)

/-- `REQUIREMENT_ID_PATTERN.match`; the end of the pattern also matches before a final newline -/
def isRequirementId (s : List Char) : Bool :=
  ("FSW-REQ-".toList.isPrefixOf s || "VER-REQ-".toList.isPrefixOf s) &&
    match s.drop 8 with
    | [a, b, c] => isDecimal a && isDecimal b && isDecimal c
    | [a, b, c, d] => isDecimal a && isDecimal b && isDecimal c && d == newline
    | _ => false

/-- `[column.strip() for column in line.strip().strip("|").split("|")]` -/
def columns (line : List Char) : List (List Char) := DelimitedRow.cells isSpace '|' line

/-- the requirement of a line, none where the loop continues with the next line -/
def readRow (line : List Char) : Option Requirement :=
  if line.head? ≠ some '|' then none
  else
    match columns line with
    | [reqId, text, method, evidence, status] =>
      if isRequirementId reqId then some { reqId, text, method, evidence, status } else none
    | _ => none

/-- the loop over the numbered lines -/
def readLines (requirements : List Requirement) : List (List Char × ℕ) → Except DocumentError (List Requirement)
  | [] => .ok requirements
  | (line, lineNumber) :: rest =>
    match readRow line with
    | none => readLines requirements rest
    | some requirement =>
      if (requirements.map (·.reqId)).contains requirement.reqId then .error (.duplicate lineNumber requirement.reqId)
      else if requirement.text = [] ∨ requirement.method = [] ∨ requirement.status = [] then
        .error (.incomplete lineNumber requirement.reqId)
      else readLines (requirements ++ [requirement]) rest

/-- the dictionary of requirements, in the order of the document -/
def parseRequirementsDoc (text : List Char) : Except DocumentError (List Requirement) :=
  match readLines [] ((splitLines text).zipIdx 1) with
  | .error error => .error error
  | .ok requirements => if requirements = [] then .error .empty else .ok requirements

/-! ## What is accepted -/

/-- no cell that must be filled is empty -/
def Requirement.Complete (r : Requirement) : Prop := r.text ≠ [] ∧ r.method ≠ [] ∧ r.status ≠ []

/-- what a document is read as: each id once, all rows complete -/
structure Table (requirements : List Requirement) : Prop where
  nodup : (requirements.map (·.reqId)).Nodup
  complete : ∀ r ∈ requirements, r.Complete

theorem readLines_eq_ok_iff {requirements out : List Requirement} {lines : List (List Char × ℕ)}
    (h : Table requirements) :
    readLines requirements lines = .ok out ↔
      out = requirements ++ (lines.map Prod.fst).filterMap readRow ∧ Table out := by
  induction lines generalizing requirements with
  | nil =>
    simp only [readLines, Except.ok.injEq, List.map_nil, List.filterMap_nil, List.append_nil]
    exact ⟨fun heq => ⟨heq.symm, heq ▸ h⟩, fun heq => heq.1.symm⟩
  | cons entry lines ih =>
    obtain ⟨line, lineNumber⟩ := entry
    rw [readLines, List.map_cons]
    cases hrow : readRow line with
    | none =>
      rw [List.filterMap_cons_none hrow]
      exact ih h
    | some r =>
      rw [List.filterMap_cons_some hrow, ← List.singleton_append, ← List.append_assoc]
      simp only
      split_ifs with hduplicate hincomplete
      · refine iff_of_false (by simp) ?_
        intro h
        obtain ⟨rfl, htable⟩ := h
        have hnodup := htable.nodup
        rw [List.map_append, List.map_append, List.map_singleton] at hnodup
        exact (List.disjoint_of_nodup_append (List.Nodup.of_append_left hnodup)) (List.contains_iff_mem.1 hduplicate)
          (by simp)
      · refine iff_of_false (by simp) ?_
        intro h
        obtain ⟨rfl, htable⟩ := h
        obtain ⟨htext, hmethod, hstatus⟩ := htable.complete r (by simp)
        rcases hincomplete with hempty | hempty | hempty
        · exact htext hempty
        · exact hmethod hempty
        · exact hstatus hempty
      · rw [not_or, not_or] at hincomplete
        refine ih ⟨?_, ?_⟩
        · rw [List.map_append, List.map_singleton]
          exact List.nodup_append'.2 ⟨h.nodup, List.nodup_singleton _, by simpa using hduplicate⟩
        · intro s hs
          rcases List.mem_append.1 hs with hs | hs
          · exact h.complete s hs
          · rw [List.mem_singleton.1 hs]
            exact hincomplete

/-- **Which documents are accepted.** The rows are kept as they are, in order, if there is one, all are complete and no
id comes twice. -/
theorem parseRequirementsDoc_eq_ok_iff {text : List Char} {requirements : List Requirement} :
    parseRequirementsDoc text = .ok requirements ↔
      requirements = (splitLines text).filterMap readRow ∧ requirements ≠ [] ∧ Table requirements := by
  have hempty : Table [] := ⟨List.nodup_nil, by simp⟩
  have hlines : ((splitLines text).zipIdx 1).map Prod.fst = splitLines text := List.zipIdx_map_fst 1 _
  have hspec (out : List Requirement) : readLines [] ((splitLines text).zipIdx 1) = .ok out ↔
      out = (splitLines text).filterMap readRow ∧ Table out := by
    rw [readLines_eq_ok_iff hempty, hlines, List.nil_append]
  unfold parseRequirementsDoc
  cases hread : readLines [] ((splitLines text).zipIdx 1) with
  | error error =>
    refine iff_of_false (by simp) ?_
    intro h
    obtain ⟨hrows, -, htable⟩ := h
    have hok := (hspec requirements).2 ⟨hrows, htable⟩
    rw [hread] at hok
    cases hok
  | ok out =>
    obtain ⟨hrows, htable⟩ := (hspec out).1 hread
    simp only
    split_ifs with hnone
    · refine iff_of_false (by simp) ?_
      intro h
      obtain ⟨hrows', hne, -⟩ := h
      exact hne (hrows'.trans (hrows.symm.trans hnone))
    · rw [Except.ok.injEq]
      exact ⟨fun heq => heq ▸ ⟨hrows, hnone, htable⟩, fun h => hrows.trans h.1.symm⟩

/-! ## Lines -/

theorem splitLinesFrom_unbroken {text : List Char} (h : ∀ c ∈ text, isLineBreak c = false) (line rest : List Char) :
    splitLinesFrom line (text ++ newline :: rest) = (line ++ text) :: splitLinesFrom [] rest := by
  induction text generalizing line with
  | nil => rw [List.nil_append, Ground.SourceCleanliness.splitLinesFrom_newline, List.append_nil]
  | cons c text ih =>
    rw [List.cons_append, Ground.SourceCleanliness.splitLinesFrom_cons line (h c List.mem_cons_self),
      ih fun d hd => h d (List.mem_cons_of_mem _ hd), List.append_assoc, List.singleton_append]

theorem splitLines_lines {lines : List (List Char)} (h : ∀ line ∈ lines, ∀ c ∈ line, isLineBreak c = false) :
    splitLines (lines.flatMap fun line => line ++ [newline]) = lines := by
  induction lines with
  | nil => rfl
  | cons line lines ih =>
    rw [List.flatMap_cons, List.append_assoc, List.singleton_append, splitLines,
      splitLinesFrom_unbroken (h line List.mem_cons_self), List.nil_append]
    exact congrArg _ (ih fun l hl => h l (List.mem_cons_of_mem _ hl))

/-- no line of a text has a line boundary in it -/
theorem unbroken_splitLinesFrom {line text : List Char} (hline : ∀ c ∈ line, isLineBreak c = false) :
    ∀ l ∈ splitLinesFrom line text, ∀ c ∈ l, isLineBreak c = false := by
  have hnil : ∀ c ∈ ([] : List Char), isLineBreak c = false := by simp
  have hsnoc {line : List Char} {c : Char} (hline : ∀ c ∈ line, isLineBreak c = false) (hc : ¬ isLineBreak c = true) :
      ∀ d ∈ line ++ [c], isLineBreak d = false := by
    intro d hd
    rcases List.mem_append.1 hd with hd | hd
    · exact hline d hd
    · rw [List.mem_singleton.1 hd]
      exact Bool.eq_false_iff.2 hc
  fun_induction splitLinesFrom line text with
  | case1 => simp
  | case2 line hne => simpa using hline
  | case3 line c hc => simpa using hline
  | case4 line c hc => simpa using hsnoc hline hc
  | case5 line c d rest hreturn ih | case6 line c d rest hreturn hc ih =>
    intro l hl
    rcases List.mem_cons.1 hl with rfl | hl
    · exact hline
    · exact ih hnil l hl
  | case7 line c d rest hreturn hc ih => exact ih (hsnoc hline hc)

/-! ## Rows -/

namespace Requirement

def cells (r : Requirement) : List (List Char) := [r.reqId, r.text, r.method, r.evidence, r.status]

/-- the requirement can stand in a row -/
structure Written (r : Requirement) : Prop where
  reqId : isRequirementId r.reqId = true
  cells : ∀ c ∈ r.cells, '|' ∉ c ∧ strip c = c
  unbroken : ∀ c ∈ r.cells, ∀ d ∈ c, isLineBreak d = false

/-- `| id | text | method | evidence | status |` -/
def line (r : Requirement) : List Char := DelimitedRow.row '|' space r.cells

end Requirement

/-- **What a row is read as.** -/
theorem readRow_spec {line : List Char} {r : Requirement} (hline : ∀ c ∈ line, isLineBreak c = false)
    (h : readRow line = some r) : r.Written := by
  unfold readRow at h
  split_ifs at h
  split at h
  next reqId text method evidence status hcolumns =>
    split_ifs at h with hid
    obtain rfl := Option.some.inj h
    refine ⟨hid, ?_, ?_⟩
    · intro c hc
      have hmem : c ∈ columns line := by
        rw [hcolumns]
        exact hc
      exact DelimitedRow.cells_spec hmem
    · intro c hc d hd
      have hmem : c ∈ columns line := by
        rw [hcolumns]
        exact hc
      exact hline d (DelimitedRow.mem_of_mem_cells hmem hd)
  next => cases h

/-- **The row of a requirement** is read as the requirement. -/
theorem readRow_line {r : Requirement} (h : r.Written) : readRow r.line = some r := by
  have hcolumns : columns r.line = r.cells :=
    DelimitedRow.cells_row (by decide) (by decide) (List.cons_ne_nil _ _) h.cells
  rw [readRow, if_neg (by simp [Requirement.line, DelimitedRow.row]), hcolumns]
  simp only [Requirement.cells, h.reqId, if_true]

theorem unbroken_line {r : Requirement} (h : r.Written) : ∀ c ∈ r.line, isLineBreak c = false := by
  intro c hc
  rcases DelimitedRow.mem_of_mem_row hc with rfl | rfl | ⟨cell, hcell, hmem⟩
  · decide
  · decide
  · exact h.unbroken cell hcell c hmem

/-! ## Documents -/

/-- a line of a document -/
inductive Entry where
  /-- anything that is not read as a requirement: prose, headers, rules -/
  | prose (line : List Char)
  | row (requirement : Requirement)

namespace Entry

def line : Entry → List Char
  | prose line => line
  | row requirement => requirement.line

def requirement? : Entry → Option Requirement
  | prose _ => none
  | row requirement => some requirement

def Written : Entry → Prop
  | prose line => readRow line = none ∧ ∀ c ∈ line, isLineBreak c = false
  | row requirement => requirement.Written

theorem Written.readRow_line {entry : Entry} (h : entry.Written) : readRow entry.line = entry.requirement? := by
  cases entry with
  | prose line => exact h.1
  | row requirement => exact Traceability.readRow_line h

theorem Written.unbroken {entry : Entry} (h : entry.Written) : ∀ c ∈ entry.line, isLineBreak c = false := by
  cases entry with
  | prose line => exact h.2
  | row requirement => exact unbroken_line h

end Entry

def document (entries : List Entry) : List Char := entries.flatMap fun entry => entry.line ++ [newline]

/-- **The requirements document is read back, and nothing else is read.**
- what is accepted is a non-empty list of requirements with different ids, none with an empty text, method or status,
  each of which can be written as a row;
- a document that holds the rows of such a list, with any other lines before, between and behind them, is read as the
  list. -/
theorem requirements_roundTrip :
    (∀ text requirements, parseRequirementsDoc text = .ok requirements →
      requirements ≠ [] ∧ Table requirements ∧ ∀ r ∈ requirements, r.Written) ∧
    ∀ entries : List Entry, (∀ entry ∈ entries, entry.Written) → entries.filterMap Entry.requirement? ≠ [] →
      Table (entries.filterMap Entry.requirement?) →
        parseRequirementsDoc (document entries) = .ok (entries.filterMap Entry.requirement?) := by
  refine ⟨?_, ?_⟩
  · intro text requirements h
    obtain ⟨hrows, hne, htable⟩ := parseRequirementsDoc_eq_ok_iff.1 h
    refine ⟨hne, htable, fun r hr => ?_⟩
    rw [hrows, List.mem_filterMap] at hr
    obtain ⟨line, hline, hread⟩ := hr
    exact readRow_spec (unbroken_splitLinesFrom (by simp) line hline) hread
  · intro entries hwritten hne htable
    rw [parseRequirementsDoc_eq_ok_iff]
    refine ⟨?_, hne, htable⟩
    have hlines : splitLines (document entries) = entries.map Entry.line := by
      have hmap : document entries = (entries.map Entry.line).flatMap fun line => line ++ [newline] := by
        rw [document, List.flatMap_map]
      rw [hmap]
      refine splitLines_lines fun line hline => ?_
      obtain ⟨entry, hentry, rfl⟩ := List.mem_map.1 hline
      exact (hwritten entry hentry).unbroken
    rw [hlines, List.filterMap_map]
    refine List.filterMap_congr fun entry hentry => ?_
    exact (hwritten entry hentry).readRow_line.symm

/-- two requirements, with a heading and the head of the table before them, a heading between them, and a line behind -/
theorem requirements_roundTrip_sample :
    let malformed : Requirement :=
      { reqId := "FSW-REQ-001".toList, text := "Reject malformed packets.".toList, method := "Test".toList,
        evidence := [], status := "Implemented".toList }
    let sources : Requirement :=
      { reqId := "VER-REQ-103".toList, text := "Retrieve only approved sources.".toList, method := "Analysis".toList,
        evidence := "reports/latest/assistant.md".toList, status := "Planned".toList }
    parseRequirementsDoc (document [.prose "# Requirements".toList,
      .prose "| ID | Requirement | Method | Evidence | Status |".toList, .row malformed, .prose [],
      .prose "## Verification".toList, .row sources, .prose "End of list".toList]) = .ok [malformed, sources] := by
  intro malformed sources
  have hunbroken {text : List Char} (h : text.all (!isLineBreak ·) = true) : ∀ c ∈ text, isLineBreak c = false :=
    fun c hc => by simpa using List.all_eq_true.1 h c hc
  have hprose {line : List Char} (hread : readRow line = none) (h : line.all (!isLineBreak ·) = true) :
      (Entry.prose line).Written := ⟨hread, hunbroken h⟩
  have hrow {r : Requirement} (hid : isRequirementId r.reqId = true)
      (hcells : r.cells.all (fun c => !c.contains '|' && strip c == c && c.all (!isLineBreak ·)) = true) :
      (Entry.row r).Written := by
    simp only [List.all_eq_true, Bool.and_eq_true, beq_iff_eq, Bool.not_eq_true'] at hcells
    refine ⟨hid, fun c hc => ⟨?_, (hcells c hc).1.2⟩, fun c hc d hd => (hcells c hc).2 d hd⟩
    simpa using (hcells c hc).1.1
  refine requirements_roundTrip.2 _ ?_ (List.cons_ne_nil _ _) ⟨by decide +kernel, ?_⟩
  · simp only [List.forall_mem_cons]
    exact ⟨hprose (by decide +kernel) (by decide +kernel), hprose (by decide +kernel) (by decide +kernel),
      hrow (by decide +kernel) (by decide +kernel), hprose (by decide +kernel) (by decide +kernel),
      hprose (by decide +kernel) (by decide +kernel), hrow (by decide +kernel) (by decide +kernel),
      hprose (by decide +kernel) (by decide +kernel), by simp⟩
  · change ∀ r ∈ [malformed, sources], _
    simp only [List.forall_mem_cons]
    exact ⟨⟨List.cons_ne_nil _ _, List.cons_ne_nil _ _, List.cons_ne_nil _ _⟩,
      ⟨List.cons_ne_nil _ _, List.cons_ne_nil _ _, List.cons_ne_nil _ _⟩, by simp⟩

end AstraFsw.Traceability
