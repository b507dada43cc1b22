/-
The traceability gate: `tools/check_requirements.py`.

It compares the requirements document with the verification matrix, the registered tests, the scenarios with their
reports, and the reviewed baseline of fingerprints, and writes a report. The repository is given as what the tool reads
of it: decoded texts, the rows of `csv.DictReader`, the roots of the scenario files and the baseline's JSON object. An
exception, reported or not, is exit code 1. `hashlib.sha256` is a parameter, a digest in hexadecimal of a byte string.

- `matrix_problems_eq_nil`, `test_problems_eq_nil`, `baseline_problems_eq_nil`, `scenario_problems_eq_nil`: no problem
  of a kind is reported exactly when the documents agree;
- `resolveRepoPath_below`: a relative `--output` is never refused as a path outside the repository;
- `traceability_gate_passes_iff`: when the tool exits with 0.
-/
import AstraFsw.Assurance.Requirements
import AstraFsw.Core.PurePath
import AstraFsw.Core.JsonString

namespace AstraFsw.Traceability

open Ground.SourceCleanliness (isSpace strip)

/-! ## Texts -/

/-- `part in text` -/
def contains (text part : List Char) : Bool := decide (part <:+: text)

/-- `re.findall`: the matches from left to right, each with its length, none inside another -/
def findAllFrom {β : Type} (pattern : List Char → Option (β × ℕ)) : ℕ → List Char → List β
  | _, [] => []
  | skip + 1, _ :: rest => findAllFrom pattern skip rest
  | 0, c :: rest =>
    match pattern (c :: rest) with
    | some (found, length) => found :: findAllFrom pattern (length - 1) rest
    | none => findAllFrom pattern 0 rest

def findAll {β : Type} (pattern : List Char → Option (β × ℕ)) (text : List Char) : List β := findAllFrom pattern 0 text

/-- `sorted(set(...))` -/
def sortedSet (s : List (List Char)) : List (List Char) := s.dedup.insertionSort (· ≤ ·)

/-- `sorted(a - b)` and `sorted(a & b)` -/
def difference (a b : List (List Char)) : List (List Char) := sortedSet (a.filter fun x => !b.contains x)

def intersection (a b : List (List Char)) : List (List Char) := sortedSet (a.filter fun x => b.contains x)

/-! ## The matrix -/

structure MatrixEntry where
  reqId : List Char
  component : List Char
  verificationCase : List Char
  evidence : List Char
  status : List Char
  notes : List Char
deriving DecidableEq, Repr

/-- what `csv.DictReader` gives: the header, and for each row one value of each column, none where the row is short -/
structure CsvTable where
  fieldnames : List (List Char)
  rows : List (List (List Char × Option (List Char)))
deriving DecidableEq, Repr

def requiredColumns : List (List Char) :=
  ["requirement_id".toList, "component".toList, "verification_case".toList, "evidence".toList, "status".toList,
   "notes".toList]

/-- the `ValueError`s of the matrix, without its path -/
inductive MatrixError where
  | missingColumns (columns : List (List Char))
  | invalidId (lineNumber : ℕ) (reqId : List Char)
  | duplicate (lineNumber : ℕ) (reqId : List Char)
  | noComponent (lineNumber : ℕ) (reqId : List Char)
  | noVerificationCase (lineNumber : ℕ) (reqId : List Char)
deriving DecidableEq, Repr

/-- `(row.get(column) or "").strip()` -/
def field (row : List (List Char × Option (List Char))) (column : String) : List Char :=
  strip (((row.lookup column.toList).getD none).getD [])

def entryOf (row : List (List Char × Option (List Char))) : MatrixEntry where
  reqId := field row "requirement_id"
  component := field row "component"
  verificationCase := field row "verification_case"
  evidence := field row "evidence"
  status := field row "status"
  notes := field row "notes"

def planned : List Char := "Planned".toList

def historical : List Char := "Historical".toList

def readRows (entries : List MatrixEntry) :
    List (List (List Char × Option (List Char)) × ℕ) → Except MatrixError (List MatrixEntry)
  | [] => .ok entries
  | (row, lineNumber) :: rest =>
    let entry := entryOf row
    if !isRequirementId entry.reqId then .error (.invalidId lineNumber entry.reqId)
    else if (entries.map (·.reqId)).contains entry.reqId then .error (.duplicate lineNumber entry.reqId)
    else if entry.component = [] then .error (.noComponent lineNumber entry.reqId)
    else if entry.status ≠ planned ∧ entry.verificationCase = [] then
      .error (.noVerificationCase lineNumber entry.reqId)
    else readRows (entries ++ [entry]) rest

def parseVerificationMatrix (table : CsvTable) : Except MatrixError (List MatrixEntry) :=
  let missingColumns := difference requiredColumns table.fieldnames
  if missingColumns ≠ [] then .error (.missingColumns missingColumns) else readRows [] (table.rows.zipIdx 2)

/-- the cases of an entry -/
def MatrixEntry.tokens (entry : MatrixEntry) : List (List Char) :=
  ((entry.verificationCase.splitOn ';').map strip).filter (· ≠ [])

/-- `matrix_verification_tokens` -/
def matrixVerificationTokens (matrix : List MatrixEntry) : List (List Char) := matrix.flatMap MatrixEntry.tokens

/-! ## Registered tests -/

/-- `[A-Za-z0-9_.+-]` -/
def isNameChar (c : Char) : Bool := c.isAlphanum || c == '_' || c == '.' || c == '+' || c == '-'

/-- `REGISTERED_TEST_PATTERN` at the start of a text: the name and the length of the match -/
def registeredTest (text : List Char) : Option (List Char × ℕ) :=
  let call := "add_test".toList
  let keyword := "NAME".toList
  if call.isPrefixOf text then
    match (text.drop call.length).dropWhile isSpace with
    | '(' :: arguments =>
      let arguments := arguments.dropWhile isSpace
      if keyword.isPrefixOf arguments then
        let rest := arguments.drop keyword.length
        let tail := rest.dropWhile isSpace
        let name := tail.takeWhile isNameChar
        if tail.length < rest.length ∧ name ≠ [] then some (name, text.length - tail.length + name.length) else none
      else none
    | _ => none
  else none

/-- `parse_registered_ctests` -/
def parseRegisteredCtests (text : List Char) : List (List Char) := (findAll registeredTest text).dedup

/-! ## Reports -/

def scenarioReportPath (scenarioName : List Char) : List Char :=
  "reports/scenario_".toList ++ scenarioName ++ "_output.txt".toList

/-- what is found under the path of a report -/
inductive ReportFile where
  | missing
  | directory
  /-- the system refuses to look it up or to read it: an OSError -/
  | refused
  | text (text : List Char)
deriving DecidableEq, Repr

abbrev Reports : Type := List Char → ReportFile

/-- `report_passed`; none is an OSError, also that of a directory -/
def reportPassed (reports : Reports) (path : List Char) : Option Bool :=
  match reports path with
  | .missing => some false
  | .directory => none
  | .refused => none
  | .text text => some (contains text "Result: PASS".toList || contains text "Scenario passed.".toList)

def backtick : Char := Char.ofNat 0x60

/-- a path of `reports/` between two backticks, at the start of a text -/
def quotedReport (text : List Char) : Option (List Char × ℕ) :=
  let opening := backtick :: "reports/".toList
  if opening.isPrefixOf text then
    let rest := text.drop opening.length
    let name := rest.takeWhile (· ≠ backtick)
    if name ≠ [] ∧ name.length < rest.length then some (opening.tail ++ name, opening.length + name.length + 1) else none
  else none

/-- the loop over the reports that an evidence names, up to the first that passed -/
def anyReportPassed (reports : Reports) : List (List Char) → Option Bool
  | [] => some false
  | path :: rest =>
    match reports path with
    | .missing => anyReportPassed reports rest
    | .directory => anyReportPassed reports rest
    | .refused => none
    | .text text =>
      if contains text "Result: PASS".toList || contains text "100% tests passed".toList ||
          contains text ("overall_status".toList ++ JsonString.dquote :: ": ".toList ++
            JsonString.dquote :: "passed".toList) then some true
      else anyReportPassed reports rest

def evidenceReportPassed (reports : Reports) (evidence : List Char) : Option Bool :=
  anyReportPassed reports (findAll quotedReport evidence)

/-! ## Scenarios -/

/-- a scenario file under its path in the repository; `root` is none if the document is no mapping, `requirements` is
none if it is no list -/
structure ScenarioFile where
  path : List Char
  stem : List Char
  root : Option (Option (List Char) × Option (List (List Char)))
deriving DecidableEq, Repr

structure ScenarioEvidence where
  name : List Char
  path : List Char
  requirements : List (List Char)
  reportPath : List Char
  passed : Bool
deriving DecidableEq, Repr

/-- `load_scenarios`, over the files in the order of their paths; none is an exception -/
def loadScenarios (reports : Reports) (files : List ScenarioFile) : Option (List ScenarioEvidence) :=
  files.mapM fun file =>
    match file.root with
    | some (name, some requirements) =>
      let name := name.getD file.stem
      let reportPath := scenarioReportPath name
      (reportPassed reports reportPath).map fun passed => { name, path := file.path, requirements, reportPath, passed }
    | _ => none

/-! ## The reviewed baseline -/

structure Baseline where
  requirements : List (List Char × List Char)
  controlledInterfaces : List (List Char × List Char)
deriving DecidableEq, Repr

/-- the baseline file; `malformed` stands for every exception of `read_traceability_payload` -/
inductive BaselineFile where
  | missing
  | malformed
  | payload (baseline : Baseline)
deriving DecidableEq, Repr

/-- `CONTROLLED_INTERFACE_PATHS` -/
def controlledInterfacePaths : List (List Char) :=
  ["config/protocol_manifest.json".toList, "fsw/include/astra/command_packet.hpp".toList,
   "fsw/include/astra/command_processor.hpp".toList, "fsw/include/astra/mode_manager.hpp".toList,
   "fsw/include/astra/telemetry_packet.hpp".toList, "tools/send_command.py".toList,
   "tools/telemetry_receiver.py".toList]

/-- the bytes of the files that exist, by path -/
abbrev Files : Type := List Char → Option ByteArray

def openBrace : Char := Char.ofNat 0x7B

def closeBrace : Char := Char.ofNat 0x7D

/-- the canonical JSON object of a requirement, its keys sorted -/
def fingerprintText (r : Requirement) : List Char :=
  let key (name : String) : List Char := JsonString.quoted name.toList ++ [':']
  openBrace :: key "id" ++ JsonString.quoted r.reqId ++ ',' :: key "method" ++ JsonString.quoted r.method ++
    ',' :: key "status" ++ JsonString.quoted r.status ++ ',' :: key "text" ++ JsonString.quoted r.text ++ [closeBrace]

def fingerprintBytes (r : Requirement) : ByteArray := (String.ofList (fingerprintText r)).toUTF8

def requirementFingerprint (sha256 : ByteArray → List Char) (r : Requirement) : List Char := sha256 (fingerprintBytes r)

/-! ## Problems -/

inductive Problem where
  | missingFromMatrix (reqId : List Char)
  | unknownRequirement (reqId : List Char)
  | statusMismatch (reqId requirements matrix : List Char)
  | unallocatedTest (testName : List Char)
  | baselineMissing
  | requirementAdded (reqId : List Char)
  | requirementRemoved (reqId : List Char)
  | requirementChanged (reqId : List Char)
  | interfaceNotInBaseline (path : List Char)
  | unexpectedInterface (path : List Char)
  | interfaceMissing (path : List Char)
  | interfaceChanged (path : List Char)
  | unknownInScenario (path reqId : List Char)
deriving DecidableEq, Repr

/-- the line of the report -/
def Problem.text : Problem → List Char
  | missingFromMatrix reqId => "Requirement missing from matrix: ".toList ++ reqId
  | unknownRequirement reqId => "Matrix references unknown requirement: ".toList ++ reqId
  | statusMismatch reqId requirements matrix =>
    "Status mismatch for ".toList ++ reqId ++ ": requirements=".toList ++ requirements ++ ", matrix=".toList ++ matrix
  | unallocatedTest testName => "Registered CTest has no requirement allocation: ".toList ++ testName
  | baselineMissing =>
    ("Traceability baseline is missing; run " ++
      "python3 tools/update_traceability_baseline.py after review").toList
  | requirementAdded reqId => "Requirement added since review baseline: ".toList ++ reqId
  | requirementRemoved reqId => "Requirement removed since review baseline: ".toList ++ reqId
  | requirementChanged reqId => "Requirement changed since review baseline: ".toList ++ reqId
  | interfaceNotInBaseline path => "Controlled interface missing from review baseline: ".toList ++ path
  | unexpectedInterface path => "Unexpected controlled interface in review baseline: ".toList ++ path
  | interfaceMissing path => "Controlled interface is missing: ".toList ++ path
  | interfaceChanged path => "Controlled interface changed since review baseline: ".toList ++ path
  | unknownInScenario path reqId =>
    "Scenario ".toList ++ path ++ " references unknown requirement ".toList ++ reqId

section

variable (sha256 : ByteArray → List Char) (requirements : List Requirement) (matrix : List MatrixEntry)

def matrixConsistencyProblems : List Problem :=
  let ids := requirements.map (·.reqId)
  let matrixIds := matrix.map (·.reqId)
  (difference ids matrixIds).map .missingFromMatrix ++
  (difference matrixIds ids).map .unknownRequirement ++
  (intersection ids matrixIds).flatMap fun reqId =>
    match requirements.find? (·.reqId = reqId), matrix.find? (·.reqId = reqId) with
    | some requirement, some entry =>
      if requirement.status ≠ entry.status then [.statusMismatch reqId requirement.status entry.status] else []
    | _, _ => []

def reverseTestAllocationProblems (registeredTests : List (List Char)) : List Problem :=
  (difference registeredTests (matrixVerificationTokens matrix)).map .unallocatedTest

/-- the part of `reviewed_baseline_problems` behind the reading of the file -/
def baselineProblems (files : Files) (baseline : Baseline) : List Problem :=
  let ids := requirements.map (·.reqId)
  let baselineIds := baseline.requirements.map Prod.fst
  let paths := baseline.controlledInterfaces.map Prod.fst
  (difference ids baselineIds).map .requirementAdded ++
  (difference baselineIds ids).map .requirementRemoved ++
  ((intersection ids baselineIds).flatMap fun reqId =>
    if (requirements.find? (·.reqId = reqId)).map (requirementFingerprint sha256) ≠
        baseline.requirements.lookup reqId then [.requirementChanged reqId] else []) ++
  (difference controlledInterfacePaths paths).map .interfaceNotInBaseline ++
  (difference paths controlledInterfacePaths).map .unexpectedInterface ++
  (intersection controlledInterfacePaths paths).flatMap fun path =>
    match files path with
    | none => [.interfaceMissing path]
    | some bytes =>
      if some (sha256 bytes) ≠ baseline.controlledInterfaces.lookup path then [.interfaceChanged path] else []

/-- `reviewed_baseline_problems`; none is the `ValueError` of a malformed file -/
def reviewedBaselineProblems (files : Files) : BaselineFile → Option (List Problem)
  | .missing => some [.baselineMissing]
  | .malformed => none
  | .payload baseline => some (baselineProblems sha256 requirements files baseline)

def scenarioProblems (scenarios : List ScenarioEvidence) : List Problem :=
  scenarios.flatMap fun scenario =>
    (scenario.requirements.filter fun reqId => !(requirements.map (·.reqId)).contains reqId).map
      (.unknownInScenario scenario.path)

end

/-! ## The gate -/

inductive Disposition where
  | pass
  | manual
  | planned
  | historical
  | fail
deriving DecidableEq, Repr

/-- the result of a requirement in `write_report`; none is the OSError of a report -/
def disposition (reports : Reports) (scenarios : List ScenarioEvidence) (r : Requirement) : Option Disposition :=
  let linked := scenarios.filter fun scenario => scenario.requirements.contains r.reqId
  let linkedFailed := linked.filter fun scenario => !scenario.passed
  let linkedPassed := linked.filter fun scenario => scenario.passed
  if r.status = planned then some .planned
  else if r.status = historical then some .historical
  else if !linkedFailed.isEmpty then some .fail
  else if !linkedPassed.isEmpty then some .pass
  else (evidenceReportPassed reports r.evidence).map fun passed => if passed then .pass else .manual

/-- what the tool reads; none for a file or directory that does not exist or cannot be read -/
structure Repository where
  requirementsDoc : Option (List Char)
  verificationMatrix : Option CsvTable
  scenarios : Option (List ScenarioFile)
  cmake : Option (List Char)
  reports : Reports
  baseline : BaselineFile
  files : Files

/-- where the tool runs: the path of the repository, the interfaces that the system refuses to look up or to read, and
the paths that the report can be written to -/
structure Host where
  repoRoot : List (List Char)
  refuses : List Char → Bool
  writes : FileTree.TextPath → Bool

/-- `reviewed_baseline_problems` meets an OSError at an interface of the baseline -/
def interfaceRefused (host : Host) : BaselineFile → Bool
  | .payload baseline =>
    (intersection controlledInterfacePaths (baseline.controlledInterfaces.map Prod.fst)).any host.refuses
  | _ => false

/-- the problems with the baseline, where the system lets the interfaces be read -/
def reviewedProblems (sha256 : ByteArray → List Char) (host : Host) (repository : Repository)
    (requirements : List Requirement) : Option (List Problem) :=
  if interfaceRefused host repository.baseline then none
  else reviewedBaselineProblems sha256 requirements repository.files repository.baseline

/-- the counts and the problems of `write_report`, before it writes; none is an exception -/
def evaluate (sha256 : ByteArray → List Char) (host : Host) (repository : Repository) :
    Option (List Disposition × List Problem) := do
  let text ← repository.requirementsDoc
  let requirements ← (parseRequirementsDoc text).toOption
  let table ← repository.verificationMatrix
  let matrix ← (parseVerificationMatrix table).toOption
  let files ← repository.scenarios
  let scenarios ← loadScenarios repository.reports files
  let cmake ← repository.cmake
  let registeredTests := parseRegisteredCtests cmake
  let baseline ← reviewedProblems sha256 host repository requirements
  let dispositions ← requirements.mapM (disposition repository.reports scenarios)
  return (dispositions,
    matrixConsistencyProblems requirements matrix ++ reverseTestAllocationProblems matrix registeredTests ++ baseline ++
      scenarioProblems requirements scenarios)

def Host.root (host : Host) : FileTree.TextPath := ⟨1, host.repoRoot.map .name⟩

/-- `resolve_repo_path(Path(text))` -/
def resolveRepoPath (host : Host) (text : List Char) : FileTree.TextPath :=
  host.root.join (FileTree.PurePath.ofText text)

/-- the exit code of `main`, for the value of `--output`. The report is written before the path is printed: one outside
of the repository ends the program there, by the ValueError of `relative_to`. -/
def main (sha256 : ByteArray → List Char) (host : Host) (repository : Repository) (output : List Char) : ℕ :=
  let outputPath := resolveRepoPath host output
  match evaluate sha256 host repository with
  | none => 1
  | some (dispositions, problems) =>
    if !host.writes outputPath then 1
    else if ¬ outputPath.Below host.root then 1
    else if dispositions.count .fail = 0 ∧ problems = [] then 0 else 1

/-! ## Sets of names -/

@[simp] theorem mem_sortedSet {s : List (List Char)} {x : List Char} : x ∈ sortedSet s ↔ x ∈ s := by
  simp [sortedSet]

@[simp] theorem mem_difference {a b : List (List Char)} {x : List Char} : x ∈ difference a b ↔ x ∈ a ∧ x ∉ b := by
  simp [difference]

@[simp] theorem mem_intersection {a b : List (List Char)} {x : List Char} : x ∈ intersection a b ↔ x ∈ a ∧ x ∈ b := by
  simp [intersection]

theorem difference_eq_nil {a b : List (List Char)} : difference a b = [] ↔ ∀ x ∈ a, x ∈ b := by
  rw [List.eq_nil_iff_forall_not_mem]
  simp only [mem_difference, not_and, not_not]

/-- a record is found under its own key -/
theorem find?_key {α κ : Type} [DecidableEq κ] (key : α → κ) {l : List α} (h : (l.map key).Nodup) {a : α} (ha : a ∈ l) :
    l.find? (fun x => decide (key x = key a)) = some a := by
  induction l with
  | nil => cases ha
  | cons b l ih =>
    rw [List.map_cons, List.nodup_cons] at h
    rcases List.mem_cons.1 ha with rfl | ha
    · simp
    · have hne : key b ≠ key a := fun heq => h.1 (heq ▸ List.mem_map_of_mem ha)
      rw [List.find?_cons_of_neg (by simpa using hne)]
      exact ih h.2 ha

/-- what is looked up has an entry -/
theorem mem_of_lookup {l : List (List Char × List Char)} {k v : List Char} (h : l.lookup k = some v) :
    ∃ entry ∈ l, entry.1 = k := by
  obtain ⟨entry, hentry, hk⟩ := List.lookup_isSome_iff.1 (Option.isSome_of_eq_some h)
  exact ⟨entry, hentry, (beq_iff_eq.1 hk).symm⟩

/-! ## No problem of a kind -/

theorem readRows_nodup {entries out : List MatrixEntry} {rows : List (List (List Char × Option (List Char)) × ℕ)}
    (h : (entries.map (·.reqId)).Nodup) (hread : readRows entries rows = .ok out) : (out.map (·.reqId)).Nodup := by
  induction rows generalizing entries with
  | nil =>
    obtain rfl := Except.ok.inj hread
    exact h
  | cons row rows ih =>
    rw [readRows] at hread
    split_ifs at hread with hid hduplicate hcomponent hcase
    refine ih ?_ hread
    rw [List.map_append, List.map_singleton]
    exact List.nodup_append'.2 ⟨h, List.nodup_singleton _, by simpa using hduplicate⟩

theorem parseVerificationMatrix_nodup {table : CsvTable} {matrix : List MatrixEntry}
    (h : parseVerificationMatrix table = .ok matrix) : (matrix.map (·.reqId)).Nodup := by
  unfold parseVerificationMatrix at h
  simp only at h
  split_ifs at h
  exact @readRows_nodup [] _ _ List.nodup_nil h

section

variable {sha256 : ByteArray → List Char} {requirements : List Requirement} {matrix : List MatrixEntry}

theorem matrix_problems_eq_nil (hids : (requirements.map (·.reqId)).Nodup) (hmatrix : (matrix.map (·.reqId)).Nodup) :
    matrixConsistencyProblems requirements matrix = [] ↔
      (∀ r ∈ requirements, ∃ entry ∈ matrix, entry.reqId = r.reqId ∧ entry.status = r.status) ∧
        ∀ entry ∈ matrix, ∃ r ∈ requirements, r.reqId = entry.reqId := by
  unfold matrixConsistencyProblems
  simp only [List.append_eq_nil_iff, List.map_eq_nil_iff, difference_eq_nil, List.flatMap_eq_nil_iff, mem_intersection,
    List.mem_map, forall_exists_index, and_imp, forall_apply_eq_imp_iff₂]
  constructor
  · intro h
    obtain ⟨⟨hin, hknown⟩, hstatus⟩ := h
    refine ⟨fun r hr => ?_, hknown⟩
    obtain ⟨entry, hentry, heq⟩ := hin r hr
    refine ⟨entry, hentry, heq, ?_⟩
    have hsame := hstatus r hr entry hentry heq
    rw [find?_key (·.reqId) hids hr, ← heq, find?_key (·.reqId) hmatrix hentry] at hsame
    by_contra hne
    simp [Ne.symm hne] at hsame
  · intro h
    obtain ⟨hin, hknown⟩ := h
    refine ⟨⟨fun r hr => ?_, hknown⟩, fun r hr entry hentry heq => ?_⟩
    · obtain ⟨entry, hentry, heq, -⟩ := hin r hr
      exact ⟨entry, hentry, heq⟩
    · obtain ⟨other, hother, heq', hstatus⟩ := hin r hr
      have hfound := find?_key (·.reqId) hmatrix hother
      rw [heq'] at hfound
      rw [find?_key (·.reqId) hids hr, hfound]
      simp [hstatus]

theorem test_problems_eq_nil {registeredTests : List (List Char)} :
    reverseTestAllocationProblems matrix registeredTests = [] ↔
      ∀ test ∈ registeredTests, ∃ entry ∈ matrix, test ∈ entry.tokens := by
  unfold reverseTestAllocationProblems
  simp only [List.map_eq_nil_iff, difference_eq_nil, matrixVerificationTokens, List.mem_flatMap]

theorem scenario_problems_eq_nil {scenarios : List ScenarioEvidence} :
    scenarioProblems requirements scenarios = [] ↔
      ∀ scenario ∈ scenarios, ∀ reqId ∈ scenario.requirements, ∃ r ∈ requirements, r.reqId = reqId := by
  unfold scenarioProblems
  simp only [List.flatMap_eq_nil_iff, List.map_eq_nil_iff, List.filter_eq_nil_iff, Bool.not_eq_true',
    Bool.not_eq_false, List.contains_iff_mem, List.mem_map]

theorem baseline_problems_eq_nil (hids : (requirements.map (·.reqId)).Nodup) {files : Files} {baseline : Baseline} :
    baselineProblems sha256 requirements files baseline = [] ↔
      (∀ r ∈ requirements, baseline.requirements.lookup r.reqId = some (requirementFingerprint sha256 r)) ∧
      (∀ entry ∈ baseline.requirements, ∃ r ∈ requirements, r.reqId = entry.1) ∧
      (∀ path ∈ controlledInterfacePaths, ∃ bytes, files path = some bytes ∧
        baseline.controlledInterfaces.lookup path = some (sha256 bytes)) ∧
      ∀ entry ∈ baseline.controlledInterfaces, entry.1 ∈ controlledInterfacePaths := by
  unfold baselineProblems
  simp only [List.append_eq_nil_iff, List.map_eq_nil_iff, difference_eq_nil, List.flatMap_eq_nil_iff, mem_intersection,
    List.mem_map, forall_exists_index, and_imp, forall_apply_eq_imp_iff₂]
  constructor
  · intro h
    obtain ⟨⟨⟨⟨⟨hadded, hremoved⟩, hchanged⟩, hnot⟩, hunexpected⟩, hinterfaces⟩ := h
    refine ⟨fun r hr => ?_, hremoved, fun path hpath => ?_, hunexpected⟩
    · obtain ⟨entry, hentry, heq⟩ := hadded r hr
      have hsame := hchanged r hr entry hentry heq
      rw [find?_key (·.reqId) hids hr, Option.map_some] at hsame
      by_contra hne
      simp [Ne.symm hne] at hsame
    · obtain ⟨entry, hentry, heq⟩ := hnot path hpath
      have hsame := hinterfaces path hpath entry hentry heq
      cases hfile : files path with
      | none => simp [hfile] at hsame
      | some bytes =>
        refine ⟨bytes, rfl, ?_⟩
        by_contra hne
        simp [hfile, Ne.symm hne] at hsame
  · intro h
    obtain ⟨hreviewed, honly, hinterfaces, hinterfacesOnly⟩ := h
    refine ⟨⟨⟨⟨⟨fun r hr => ?_, honly⟩, fun r hr _ _ _ => ?_⟩, fun path hpath => ?_⟩, hinterfacesOnly⟩,
      fun path hpath _ _ _ => ?_⟩
    · exact mem_of_lookup (hreviewed r hr)
    · rw [find?_key (·.reqId) hids hr, Option.map_some, hreviewed r hr]
      simp
    · obtain ⟨bytes, -, hlookup⟩ := hinterfaces path hpath
      exact mem_of_lookup hlookup
    · obtain ⟨bytes, hfile, hlookup⟩ := hinterfaces path hpath
      simp [hfile, hlookup]

end

/-- no problem is reported only about a baseline that is there -/
theorem reviewedBaselineProblems_eq_nil_iff {sha256 : ByteArray → List Char} {requirements : List Requirement}
    {files : Files} {baselineFile : BaselineFile} :
    reviewedBaselineProblems sha256 requirements files baselineFile = some [] ↔
      ∃ baseline, baselineFile = .payload baseline ∧ baselineProblems sha256 requirements files baseline = [] := by
  cases baselineFile with
  | missing => simp [reviewedBaselineProblems]
  | malformed => simp [reviewedBaselineProblems]
  | payload baseline => simp [reviewedBaselineProblems]

/-! ## When the gate passes -/

section

variable {reports : Reports} {scenarios : List ScenarioEvidence} {r : Requirement}

/-- every result a requirement can get -/
theorem disposition_cases (reports : Reports) (scenarios : List ScenarioEvidence) (r : Requirement) :
    ((r.status = planned ∨ r.status = historical) ∧
      ∃ d, disposition reports scenarios r = some d ∧ d ≠ .fail) ∨
    (r.status ≠ planned ∧ r.status ≠ historical ∧
      (∃ scenario ∈ scenarios, r.reqId ∈ scenario.requirements ∧ scenario.passed = false) ∧
      disposition reports scenarios r = some .fail) ∨
    (r.status ≠ planned ∧ r.status ≠ historical ∧
      (∀ scenario ∈ scenarios, r.reqId ∈ scenario.requirements → scenario.passed = true) ∧
      (∃ scenario ∈ scenarios, r.reqId ∈ scenario.requirements) ∧ disposition reports scenarios r = some .pass) ∨
    (r.status ≠ planned ∧ r.status ≠ historical ∧ (∀ scenario ∈ scenarios, r.reqId ∉ scenario.requirements) ∧
      disposition reports scenarios r =
        (evidenceReportPassed reports r.evidence).map fun passed => if passed then .pass else .manual) := by
  have hlinked (test : ScenarioEvidence → Bool) : (!((scenarios.filter fun scenario =>
      scenario.requirements.contains r.reqId).filter test).isEmpty) = true ↔
      ∃ scenario ∈ scenarios, r.reqId ∈ scenario.requirements ∧ test scenario = true := by
    rw [Bool.not_eq_true', List.isEmpty_eq_false_iff_exists_mem]
    simp only [List.mem_filter, List.contains_iff_mem, and_assoc]
  have hfailed := hlinked fun scenario => !scenario.passed
  have hpassed := hlinked fun scenario => scenario.passed
  unfold disposition
  simp only [hfailed, hpassed, Bool.not_eq_true']
  split_ifs with hplanned hhistorical hfail hpass
  · exact .inl ⟨.inl hplanned, .planned, rfl, by simp⟩
  · exact .inl ⟨.inr hhistorical, .historical, rfl, by simp⟩
  · exact .inr (.inl ⟨hplanned, hhistorical, hfail, rfl⟩)
  · obtain ⟨scenario, hscenario, hmem, -⟩ := hpass
    refine .inr (.inr (.inl ⟨hplanned, hhistorical, ?_, ⟨scenario, hscenario, hmem⟩, rfl⟩))
    intro other hother hlink
    by_contra hnot
    exact hfail ⟨other, hother, hlink, Bool.eq_false_iff.2 hnot⟩
  · refine .inr (.inr (.inr ⟨hplanned, hhistorical, ?_, rfl⟩))
    intro scenario hscenario hlink
    cases hresult : scenario.passed with
    | false => exact hfail ⟨scenario, hscenario, hlink, hresult⟩
    | true => exact hpass ⟨scenario, hscenario, hlink, hresult⟩

theorem disposition_eq_fail_iff :
    disposition reports scenarios r = some .fail ↔
      r.status ≠ planned ∧ r.status ≠ historical ∧
        ∃ scenario ∈ scenarios, r.reqId ∈ scenario.requirements ∧ scenario.passed = false := by
  rcases disposition_cases reports scenarios r with ⟨hinactive, d, hd, hne⟩ | ⟨hplanned, hhistorical, hfail, hd⟩ |
    ⟨hplanned, hhistorical, hall, -, hd⟩ | ⟨hplanned, hhistorical, hnone, hd⟩
  · refine iff_of_false (by simpa [hd] using hne) ?_
    intro h
    rcases hinactive with hplanned | hhistorical
    · exact h.1 hplanned
    · exact h.2.1 hhistorical
  · exact iff_of_true hd ⟨hplanned, hhistorical, hfail⟩
  · refine iff_of_false (by simp [hd]) ?_
    intro h
    obtain ⟨-, -, scenario, hscenario, hlink, hresult⟩ := h
    rw [hall scenario hscenario hlink] at hresult
    cases hresult
  · refine iff_of_false ?_ fun ⟨_, _, scenario, hscenario, hlink, _⟩ => hnone scenario hscenario hlink
    rw [hd]
    cases evidenceReportPassed reports r.evidence with
    | none => simp
    | some passed => cases passed <;> simp

/-- a requirement gets no result only over a report that the system refuses to read -/
theorem disposition_eq_none_iff :
    disposition reports scenarios r = none ↔
      r.status ≠ planned ∧ r.status ≠ historical ∧ (∀ scenario ∈ scenarios, r.reqId ∉ scenario.requirements) ∧
        evidenceReportPassed reports r.evidence = none := by
  rcases disposition_cases reports scenarios r with ⟨hinactive, d, hd, hne⟩ | ⟨hplanned, hhistorical, hfail, hd⟩ |
    ⟨hplanned, hhistorical, hall, hsome, hd⟩ | ⟨hplanned, hhistorical, hnone, hd⟩
  · refine iff_of_false (by simp [hd]) ?_
    intro h
    rcases hinactive with hplanned | hhistorical
    · exact h.1 hplanned
    · exact h.2.1 hhistorical
  · obtain ⟨scenario, hscenario, hlink, -⟩ := hfail
    exact iff_of_false (by simp [hd]) fun h => h.2.2.1 scenario hscenario hlink
  · obtain ⟨scenario, hscenario, hlink⟩ := hsome
    exact iff_of_false (by simp [hd]) fun h => h.2.2.1 scenario hscenario hlink
  · rw [hd, Option.map_eq_none_iff]
    exact ⟨fun h => ⟨hplanned, hhistorical, hnone, h⟩, fun h => h.2.2.2⟩

end

/-- everything the tool reads is there, is accepted, and can be read -/
structure Reads (host : Host) (repository : Repository) (requirements : List Requirement) (matrix : List MatrixEntry)
    (scenarios : List ScenarioEvidence) (registeredTests : List (List Char)) (baseline : Baseline) : Prop where
  /-- the reports that the evidence of an active requirement names are read if no scenario verifies it -/
  evidence : ∀ r ∈ requirements, r.status ≠ planned → r.status ≠ historical →
    (∀ scenario ∈ scenarios, r.reqId ∉ scenario.requirements) → evidenceReportPassed repository.reports r.evidence ≠ none
  requirements : ∃ text, repository.requirementsDoc = some text ∧ parseRequirementsDoc text = .ok requirements
  matrix : ∃ table, repository.verificationMatrix = some table ∧ parseVerificationMatrix table = .ok matrix
  scenarios : ∃ files, repository.scenarios = some files ∧ loadScenarios repository.reports files = some scenarios
  registeredTests : ∃ text, repository.cmake = some text ∧ parseRegisteredCtests text = registeredTests
  baseline : repository.baseline = .payload baseline
  interfaces : ∀ path ∈ controlledInterfacePaths, host.refuses path = false

/-- the documents agree with each other, with the tests and the reports, and with what was reviewed -/
structure Traced (sha256 : ByteArray → List Char) (files : Files) (requirements : List Requirement)
    (matrix : List MatrixEntry) (scenarios : List ScenarioEvidence) (registeredTests : List (List Char))
    (baseline : Baseline) : Prop where
  allocated : ∀ r ∈ requirements, ∃ entry ∈ matrix, entry.reqId = r.reqId ∧ entry.status = r.status
  matrixKnown : ∀ entry ∈ matrix, ∃ r ∈ requirements, r.reqId = entry.reqId
  testsAllocated : ∀ test ∈ registeredTests, ∃ entry ∈ matrix, test ∈ entry.tokens
  scenariosKnown : ∀ scenario ∈ scenarios, ∀ reqId ∈ scenario.requirements, ∃ r ∈ requirements, r.reqId = reqId
  passing : ∀ r ∈ requirements, r.status ≠ planned → r.status ≠ historical → ∀ scenario ∈ scenarios,
    r.reqId ∈ scenario.requirements → scenario.passed = true
  reviewed : ∀ r ∈ requirements, baseline.requirements.lookup r.reqId = some (requirementFingerprint sha256 r)
  reviewedKnown : ∀ entry ∈ baseline.requirements, ∃ r ∈ requirements, r.reqId = entry.1
  interfaces : ∀ path ∈ controlledInterfacePaths, ∃ bytes, files path = some bytes ∧
    baseline.controlledInterfaces.lookup path = some (sha256 bytes)
  interfacesKnown : ∀ entry ∈ baseline.controlledInterfaces, entry.1 ∈ controlledInterfacePaths

/-- the results of a list, none of them a given one -/
theorem exists_mapM_iff {α β : Type} (f : α → Option β) (bad : β) (l : List α) :
    (∃ out, l.mapM f = some out ∧ bad ∉ out) ↔ ∀ a ∈ l, ∃ b, f a = some b ∧ b ≠ bad := by
  induction l with
  | nil => simp
  | cons a l ih =>
    rw [List.forall_mem_cons, ← ih]
    simp only [List.mapM_cons, Option.pure_def, Option.bind_eq_bind, Option.bind_eq_some_iff, Option.some.injEq]
    constructor
    · intro h
      obtain ⟨_, ⟨b, hb, out, hout, rfl⟩, hbad⟩ := h
      rw [List.mem_cons, not_or] at hbad
      exact ⟨⟨b, hb, Ne.symm hbad.1⟩, out, hout, hbad.2⟩
    · intro h
      obtain ⟨⟨b, hb, hne⟩, out, hout, hbad⟩ := h
      refine ⟨b :: out, ⟨b, hb, out, hout, rfl⟩, ?_⟩
      rw [List.mem_cons, not_or]
      exact ⟨Ne.symm hne, hbad⟩

/-- **No requirement fails**: the reports that decide an active requirement can be read, and its scenarios passed. -/
theorem no_failure_iff {reports : Reports} {scenarios : List ScenarioEvidence} {requirements : List Requirement} :
    (∃ dispositions, requirements.mapM (disposition reports scenarios) = some dispositions ∧ .fail ∉ dispositions) ↔
      (∀ r ∈ requirements, r.status ≠ planned → r.status ≠ historical →
        (∀ scenario ∈ scenarios, r.reqId ∉ scenario.requirements) → evidenceReportPassed reports r.evidence ≠ none) ∧
      ∀ r ∈ requirements, r.status ≠ planned → r.status ≠ historical → ∀ scenario ∈ scenarios,
        r.reqId ∈ scenario.requirements → scenario.passed = true := by
  rw [exists_mapM_iff]
  constructor
  · intro hresults
    refine ⟨?_, ?_⟩
    · intro r hr hplanned hhistorical hunlinked hunread
      obtain ⟨result, hresult, -⟩ := hresults r hr
      rw [disposition_eq_none_iff.2 ⟨hplanned, hhistorical, hunlinked, hunread⟩] at hresult
      cases hresult
    · intro r hr hplanned hhistorical scenario hscenario hlinked
      by_contra hfailed
      obtain ⟨result, hresult, hne⟩ := hresults r hr
      rw [disposition_eq_fail_iff.2 ⟨hplanned, hhistorical, scenario, hscenario, hlinked, Bool.eq_false_iff.2 hfailed⟩,
        Option.some.injEq] at hresult
      exact hne hresult.symm
  · intro h r hr
    obtain ⟨hread, hpassing⟩ := h
    cases hresult : disposition reports scenarios r with
    | none =>
      obtain ⟨hplanned, hhistorical, hunlinked, hunread⟩ := disposition_eq_none_iff.1 hresult
      exact absurd hunread (hread r hr hplanned hhistorical hunlinked)
    | some result =>
      refine ⟨result, rfl, ?_⟩
      intro hfail
      rw [hfail] at hresult
      obtain ⟨hplanned, hhistorical, scenario, hscenario, hlinked, hfailed⟩ := disposition_eq_fail_iff.1 hresult
      rw [hpassing r hr hplanned hhistorical scenario hscenario hlinked] at hfailed
      cases hfailed

theorem evaluate_eq_some_iff {sha256 : ByteArray → List Char} {host : Host} {repository : Repository}
    {result : List Disposition × List Problem} :
    evaluate sha256 host repository = some result ↔
      ∃ text requirements table matrix files scenarios cmake baseline dispositions,
        repository.requirementsDoc = some text ∧ parseRequirementsDoc text = .ok requirements ∧
        repository.verificationMatrix = some table ∧ parseVerificationMatrix table = .ok matrix ∧
        repository.scenarios = some files ∧ loadScenarios repository.reports files = some scenarios ∧
        repository.cmake = some cmake ∧ reviewedProblems sha256 host repository requirements = some baseline ∧
        requirements.mapM (disposition repository.reports scenarios) = some dispositions ∧
        (dispositions, matrixConsistencyProblems requirements matrix ++
          reverseTestAllocationProblems matrix (parseRegisteredCtests cmake) ++ baseline ++
          scenarioProblems requirements scenarios) = result := by
  have htoOption {ε α : Type} {x : Except ε α} {a : α} : x.toOption = some a ↔ x = .ok a := by
    cases x <;> simp [Except.toOption]
  simp only [evaluate, Option.bind_eq_bind, Option.bind_eq_some_iff, htoOption, Option.pure_def, Option.some.injEq,
    exists_and_left]

/-- no problem with the baseline: it is there, agrees with what is reviewed, and every interface can be read -/
theorem reviewedProblems_eq_nil_iff {sha256 : ByteArray → List Char} {host : Host} {repository : Repository}
    {requirements : List Requirement} (hids : (requirements.map (·.reqId)).Nodup) :
    reviewedProblems sha256 host repository requirements = some [] ↔
      ∃ baseline, repository.baseline = .payload baseline ∧
        baselineProblems sha256 requirements repository.files baseline = [] ∧
        ∀ path ∈ controlledInterfacePaths, host.refuses path = false := by
  have hrefused {baseline : Baseline} (hnone : baselineProblems sha256 requirements repository.files baseline = []) :
      interfaceRefused host (.payload baseline) = false ↔
        ∀ path ∈ controlledInterfacePaths, host.refuses path = false := by
    simp only [interfaceRefused, List.any_eq_false, mem_intersection, and_imp, Bool.not_eq_true]
    refine ⟨fun h path hpath => h path hpath ?_, fun h path hpath _ => h path hpath⟩
    obtain ⟨bytes, -, hlookup⟩ := ((baseline_problems_eq_nil hids).1 hnone).2.2.1 path hpath
    obtain ⟨entry, hentry, rfl⟩ := mem_of_lookup hlookup
    exact List.mem_map_of_mem hentry
  rw [reviewedProblems, Option.ite_none_left_eq_some, reviewedBaselineProblems_eq_nil_iff, Bool.not_eq_true]
  constructor
  · intro h
    obtain ⟨hread, baseline, hfile, hnone⟩ := h
    rw [hfile, hrefused hnone] at hread
    exact ⟨baseline, hfile, hnone, hread⟩
  · intro h
    obtain ⟨baseline, hfile, hnone, hread⟩ := h
    refine ⟨?_, baseline, hfile, hnone⟩
    rw [hfile]
    exact (hrefused hnone).2 hread

/-- a relative `--output` lies in the repository as far as `relative_to` can tell, also where it climbs out with `..` -/
theorem resolveRepoPath_below {host : Host} {output : List Char}
    (h : (FileTree.PurePath.ofText output).isAbsolute = false) : (resolveRepoPath host output).Below host.root :=
  FileTree.PurePath.below_join h

/-- exit code 0: the report is written to a path inside the repository, with no problem and no failure in it -/
theorem main_eq_zero_iff {sha256 : ByteArray → List Char} {host : Host} {repository : Repository} {output : List Char} :
    main sha256 host repository output = 0 ↔
      host.writes (resolveRepoPath host output) = true ∧ (resolveRepoPath host output).Below host.root ∧
        ∃ dispositions, evaluate sha256 host repository = some (dispositions, []) ∧ .fail ∉ dispositions := by
  unfold main
  cases evaluate sha256 host repository with
  | none => simp
  | some result =>
    obtain ⟨dispositions, problems⟩ := result
    cases hwrites : host.writes (resolveRepoPath host output) with
    | false => simp [hwrites]
    | true =>
      by_cases hbelow : (resolveRepoPath host output).Below host.root
      · simp [hwrites, hbelow, List.count_eq_zero, and_comm]
      · simp [hwrites, hbelow]

/-- **When the traceability gate passes.** The tool exits with 0 exactly when its report can be written to a path inside
the repository, all its inputs are there, can be read and are accepted, each requirement stands in the matrix with its
own status and the matrix has no other, every registered test is a case of the matrix, the scenarios name known
requirements only and those of an active requirement all passed, and the fingerprints of requirements and controlled
interfaces are those of the reviewed baseline, no more and no fewer. -/
theorem traceability_gate_passes_iff (sha256 : ByteArray → List Char) (host : Host) (repository : Repository)
    (output : List Char) :
    main sha256 host repository output = 0 ↔
      host.writes (resolveRepoPath host output) = true ∧ (resolveRepoPath host output).Below host.root ∧
      ∃ requirements matrix scenarios registeredTests baseline,
        Reads host repository requirements matrix scenarios registeredTests baseline ∧
        Traced sha256 repository.files requirements matrix scenarios registeredTests baseline := by
  rw [main_eq_zero_iff]
  refine and_congr_right fun _ => and_congr_right fun _ => ?_
  constructor
  · intro h
    obtain ⟨results, hevaluate, hfail⟩ := h
    obtain ⟨text, requirements, table, matrix, files, scenarios, cmake, problems, dispositions, htext, hparse, htable,
      hmatrix, hfiles, hscenarios, hcmake, hbaseline, hdispositions, hresult⟩ := evaluate_eq_some_iff.1 hevaluate
    obtain ⟨rfl, hnone⟩ := Prod.mk.inj hresult
    rw [List.append_eq_nil_iff, List.append_eq_nil_iff, List.append_eq_nil_iff] at hnone
    obtain ⟨⟨⟨hconsistent, htests⟩, rfl⟩, hknown⟩ := hnone
    have hids := (parseRequirementsDoc_eq_ok_iff.1 hparse).2.2.nodup
    obtain ⟨baseline, hfile, hreviewed, hread⟩ := (reviewedProblems_eq_nil_iff hids).1 hbaseline
    obtain ⟨hallocated, hmatrixKnown⟩ :=
      (matrix_problems_eq_nil hids (parseVerificationMatrix_nodup hmatrix)).1 hconsistent
    obtain ⟨hrequirements, honly, hinterfaces, hinterfacesOnly⟩ := (baseline_problems_eq_nil hids).1 hreviewed
    obtain ⟨hevidence, hpassing⟩ := no_failure_iff.1 ⟨dispositions, hdispositions, hfail⟩
    exact ⟨requirements, matrix, scenarios, parseRegisteredCtests cmake, baseline,
      ⟨hevidence, ⟨text, htext, hparse⟩, ⟨table, htable, hmatrix⟩, ⟨files, hfiles, hscenarios⟩, ⟨cmake, hcmake, rfl⟩,
        hfile, hread⟩,
      ⟨hallocated, hmatrixKnown, test_problems_eq_nil.1 htests, scenario_problems_eq_nil.1 hknown, hpassing,
        hrequirements, honly, hinterfaces, hinterfacesOnly⟩⟩
  · intro h
    obtain ⟨requirements, matrix, scenarios, registeredTests, baseline, hreads, htraced⟩ := h
    obtain ⟨text, htext, hparse⟩ := hreads.requirements
    obtain ⟨table, htable, hmatrix⟩ := hreads.matrix
    obtain ⟨files, hfiles, hscenarios⟩ := hreads.scenarios
    obtain ⟨cmake, hcmake, rfl⟩ := hreads.registeredTests
    have hids := (parseRequirementsDoc_eq_ok_iff.1 hparse).2.2.nodup
    have hconsistent := (matrix_problems_eq_nil hids (parseVerificationMatrix_nodup hmatrix)).2
      ⟨htraced.allocated, htraced.matrixKnown⟩
    have htests := test_problems_eq_nil.2 htraced.testsAllocated
    have hknown := scenario_problems_eq_nil.2 htraced.scenariosKnown
    have hreviewed := (baseline_problems_eq_nil hids).2
      ⟨htraced.reviewed, htraced.reviewedKnown, htraced.interfaces, htraced.interfacesKnown⟩
    have hbaseline := (reviewedProblems_eq_nil_iff hids).2 ⟨baseline, hreads.baseline, hreviewed, hreads.interfaces⟩
    obtain ⟨dispositions, hdispositions, hfail⟩ := no_failure_iff.2 ⟨hreads.evidence, htraced.passing⟩
    exact ⟨dispositions, evaluate_eq_some_iff.2 ⟨text, requirements, table, matrix, files, scenarios, cmake, [],
      dispositions, htext, hparse, htable, hmatrix, hfiles, hscenarios, hcmake, hbaseline, hdispositions,
      by rw [hconsistent, htests, hknown]; rfl⟩, hfail⟩

end AstraFsw.Traceability
