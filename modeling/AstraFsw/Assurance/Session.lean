/-
Sessions of the assurance assistant: `execute_decision`, `append_audit` and `main` of `tools/assurance_assistant.py`.

An invocation decides one request, executes it if it is told to and the decision allows it, and then appends one record
to the audit log. What a tool does to the files is not known here (`Tools`); nothing but the assistant writes the log.

- `main_mediated`: what one invocation does, does not do, and records;
- `session_mediated`: the same in every session, whatever the requests, the policies and the tools. A decision escapes
  the log exactly where the log cannot be written, or a command ends the program: its output is not UTF-8 (after the
  effect), or it is empty or holds a NUL (before it).
- `reads_confined`: what is read, and where a loop of links lets a read out of the repository.
-/
import AstraFsw.Assurance.Assistant
import AstraFsw.Core.Machine

namespace AstraFsw.AssuranceAssistant

open FileTree
open Ground.SourceCleanliness (strip)

/-! ## Execution -/

/-- how a command ends -/
inductive ToolResult where
  | completed (returnCode : ℤ) (output : String)
  /-- the program cannot be started: an OSError -/
  | notStarted
  /-- its output is not UTF-8: a UnicodeDecodeError -/
  | undecodable
deriving DecidableEq, Repr

/-- what the commands do: the result, and the files after it -/
abbrev Tools := List String → Files → ToolResult × Files

/-- what an execution reaches outside the assistant -/
inductive Effect where
  | read (path : PurePath Text) (output : List UInt8)
  | run (command : List String)
deriving DecidableEq, Repr

inductive Execution where
  | finished (returnCode : ℤ)
  | osError
  | crashed
deriving DecidableEq, Repr

def maxReadBytes : ℕ := 65536

/-- `b"\n[TRUNCATED BY ASSURANCE ASSISTANT]\n"` -/
def truncationSuffix : List UInt8 :=
  10 :: "[TRUNCATED BY ASSURANCE ASSISTANT]".toList.map (fun c => UInt8.ofNat c.toNat) ++ [10]

def clip (data : List UInt8) : List UInt8 :=
  if data.length > maxReadBytes then data.take maxReadBytes ++ truncationSuffix else data

/-- what `subprocess.run` refuses with an exception that is no OSError: no program to start, or a NUL in an argument -/
def malformed (command : List String) : Bool :=
  command.isEmpty || command.any fun item => item.toList.contains (Char.ofNat 0)

def executeDecision (site : Site) (tools : Tools) (files : Files) (decision : Decision) :
    List Effect × Execution × Files :=
  if !decision.allowed then ([], .finished 2, files)
  else if decision.action = readAction then
    match decision.resolvedPath with
    | none => ([], .crashed, files)
    | some path =>
      match stat site files path.parts with
      | .ok (.file (some data)) => ([.read path (clip data)], .finished 0, files)
      | .error .nul => ([], .crashed, files)
      | _ => ([], .osError, files)
  else if decision.action = runAction then
    if malformed decision.command then ([], .crashed, files)
    else
      match tools decision.command files with
      | (.completed returnCode _, after) => ([.run decision.command], .finished returnCode, after)
      | (.notStarted, _) => ([], .osError, files)
      | (.undecodable, after) => ([.run decision.command], .crashed, after)
  else ([], .finished 2, files)

/-! ## An invocation -/

structure Invocation where
  /-- `none` if the argument is not a JSON object -/
  request : Option Request
  policy : PolicyFile
  execute : Bool
  /-- `append_audit` raises -/
  auditFails : Bool

structure AuditRecord where
  request : Request
  decision : Decision
  executed : Bool
  returnCode : Option ℤ
deriving DecidableEq, Repr

inductive Exit where
  | code (n : ℤ)
  | traceback
deriving DecidableEq, Repr

structure Outcome where
  exit : Exit
  effects : List Effect := []
  record : Option AuditRecord := none
deriving DecidableEq, Repr

structure State where
  files : Files
  audit : List AuditRecord := []

/-- the exit of an exception before the log is reached -/
def Failure.exit : Failure → Exit
  | reported => .code 2
  | traceback => .traceback

/-- load the policy and decide the request -/
def decided (site : Site) (files : Files) (invocation : Invocation) : Except Failure (Request × Decision) :=
  match invocation.request with
  | none => .error .reported
  | some request =>
    match loadPolicy invocation.policy with
    | .error failure => .error failure
    | .ok policy => (decideRequest site files policy request).map fun decision => (request, decision)

/-- the execution of a decision, if it is asked for and allowed -/
def execution (site : Site) (tools : Tools) (files : Files) (invocation : Invocation) (decision : Decision) :
    List Effect × Execution × Files :=
  if invocation.execute && decision.allowed then executeDecision site tools files decision
  else ([], .finished 0, files)

/-- the record of a decision; an execution that raised an OSError returned 1 -/
def recordOf (invocation : Invocation) (request : Request) (decision : Decision) (ended : Execution) : AuditRecord where
  request := request
  decision := decision
  executed := invocation.execute && decision.allowed
  returnCode :=
    if invocation.execute && decision.allowed then
      match ended with
      | .finished returnCode => some returnCode
      | _ => some 1
    else none

def main (site : Site) (tools : Tools) (state : State) (invocation : Invocation) : Outcome × State :=
  match decided site state.files invocation with
  | .error failure => ({ exit := failure.exit }, state)
  | .ok (request, decision) =>
    let executed := execution site tools state.files invocation decision
    let record := recordOf invocation request decision executed.2.1
    if executed.2.1 = .crashed ∨ invocation.auditFails then
      ({ exit := .traceback, effects := executed.1 }, { state with files := executed.2.2 })
    else
      ({ exit := .code (if !decision.allowed then 2 else record.returnCode.getD 0)
         effects := executed.1
         record := some record },
        { files := executed.2.2, audit := state.audit ++ [record] })

/-! ## What an execution does -/

section Execution

variable {site : Site} {files : Files} {policy : Policy} {decision : Decision}

/-- the effect that belongs to a decision -/
inductive Effect.Of (site : Site) (files : Files) (decision : Decision) : Effect → Prop
  | read {path : PurePath Text} {data : List UInt8} : decision.resolvedPath = some path →
      stat site files path.parts = .ok (.file (some data)) → Effect.Of site files decision (.read path (clip data))
  | run : Effect.Of site files decision (.run decision.command)

/-- the command cannot be handed to the system, or was run and its output is not UTF-8 -/
def Crashes (tools : Tools) (files : Files) (decision : Decision) : Prop :=
  decision.action = runAction ∧
    (malformed decision.command = true ∨ (tools decision.command files).1 = .undecodable)

/-- **An execution of a permitted decision**: at most its own effect; it crashes only over its command, and changes the
files only by its command. -/
theorem executeDecision_spec (tools : Tools) (h : Permits site files policy decision) :
    (executeDecision site tools files decision).1.length ≤ 1 ∧
      (∀ effect ∈ (executeDecision site tools files decision).1, effect.Of site files decision) ∧
      ((executeDecision site tools files decision).2.1 = .crashed ↔ Crashes tools files decision) ∧
      ((executeDecision site tools files decision).2.2 ≠ files →
        (executeDecision site tools files decision).1 = [.run decision.command]) := by
  have hdistinct : readAction ≠ runAction := by decide
  cases h with
  | read hdenied happroved hstat =>
    rename_i target path content
    have hread : ¬ Crashes tools files
        { allowed := true, action := readAction, target, reason := .readApproved, resolvedPath := some path } :=
      fun h => hdistinct h.1
    simp only [executeDecision, Bool.not_true, Bool.false_eq_true, if_false, if_true, hread, iff_false, hstat]
    -- the file gives its bytes, or refuses to be read
    cases content with
    | some data =>
      refine ⟨by simp, ?_, by simp, by simp⟩
      intro effect heffect
      obtain rfl := List.mem_singleton.1 heffect
      exact .read rfl hstat
    | none => simp
  | run hdenied htool hcommand =>
    rename_i target definition command
    simp only [executeDecision, Bool.not_true, Bool.false_eq_true, if_false, if_true, hdistinct.symm]
    unfold Crashes
    by_cases hmalformed : malformed command = true
    · simp [hmalformed]
    · rw [if_neg hmalformed]
      have honly : ∀ effect ∈ [Effect.run command], effect.Of site files
          { allowed := true, action := runAction, target, reason := .runApproved, command } := by
        intro effect heffect
        obtain rfl := List.mem_singleton.1 heffect
        exact .run
      split
      next returnCode output after hresult => exact ⟨by simp, honly, by simp [hmalformed, hresult], by simp⟩
      next after hresult => simp [hmalformed, hresult]
      next after hresult => exact ⟨by simp, honly, by simp [hmalformed, hresult], by simp⟩

end Execution

/-! ## What an invocation does -/

section Invocations

variable {site : Site} {before : State} {invocation : Invocation}

/-- the invocation executes what it decided -/
def Executes (invocation : Invocation) (decision : Decision) : Prop :=
  invocation.execute = true ∧ decision.allowed = true

/-- one mediated invocation, from its state to its outcome and the state after it -/
structure Mediated (site : Site) (tools : Tools) (before : State) (invocation : Invocation) (outcome : Outcome)
    (after : State) : Prop where
  /-- an effect follows a decision that is to be executed, and that the policy in force permits -/
  permitted : ∀ effect ∈ outcome.effects, ∃ policy request decision, loadPolicy invocation.policy = .ok policy ∧
    decided site before.files invocation = .ok (request, decision) ∧ Executes invocation decision ∧
    Permits site before.files policy decision ∧ effect.Of site before.files decision
  single : outcome.effects.length ≤ 1
  /-- the record is that of the decision -/
  recorded : ∀ entry ∈ outcome.record, decided site before.files invocation = .ok (entry.request, entry.decision) ∧
    (entry.executed = true ↔ Executes invocation entry.decision)
  /-- the log grows by the record, and only by it -/
  logged : after.audit = before.audit ++ outcome.record.toList
  /-- a decision goes unrecorded exactly if the log cannot be written or its command ends the program -/
  unrecorded : ∀ request decision, decided site before.files invocation = .ok (request, decision) →
    (outcome.record = none ↔ invocation.auditFails = true ∨
      Executes invocation decision ∧ Crashes tools before.files decision)
  /-- without a decision there is neither an effect nor a record -/
  undecided : ∀ failure, decided site before.files invocation = .error failure →
    outcome = { exit := failure.exit } ∧ after = before
  /-- the files change only by a command that was run -/
  framed : after.files ≠ before.files → ∃ command, outcome.effects = [.run command]
  /-- a refused request ends with exit code 2, if it is recorded -/
  refused : ∀ entry ∈ outcome.record, entry.decision.allowed = false → outcome.exit = .code 2

/-- a decision is one about the request, under the policy in force -/
theorem decided_eq_ok {request : Request} {decision : Decision}
    (h : decided site before.files invocation = .ok (request, decision)) :
    ∃ policy, invocation.request = some request ∧ loadPolicy invocation.policy = .ok policy ∧
      decideRequest site before.files policy request = .ok decision := by
  unfold decided at h
  cases hrequest : invocation.request with
  | none => simp [hrequest] at h
  | some asked =>
    cases hpolicy : loadPolicy invocation.policy with
    | error failure => simp [hrequest, hpolicy] at h
    | ok policy =>
      cases hdecision : decideRequest site before.files policy asked with
      | error failure => simp [hrequest, hpolicy, hdecision, Except.map] at h
      | ok made =>
        simp only [hrequest, hpolicy, hdecision, Except.map, Except.ok.injEq, Prod.mk.injEq] at h
        obtain ⟨rfl, rfl⟩ := h
        exact ⟨policy, rfl, rfl, hdecision⟩

/-- a permitted decision with a path is a read below an approved root -/
theorem Permits.of_read {files : Files} {policy : Policy} {decision : Decision} (h : Permits site files policy decision)
    {path : PurePath Text} (hpath : decision.resolvedPath = some path) :
    readAction ∉ policy.explicitlyDeniedActions ∧ Approved site files policy path := by
  cases h with
  | read hdenied happroved hstat =>
    obtain rfl := Option.some.inj hpath
    exact ⟨hdenied, happroved⟩
  | run => cases hpath

/-- **What comes of a decision**: nothing, or the execution of a permitted one. -/
theorem execution_spec (tools : Tools) {request : Request} {decision : Decision}
    (h : decided site before.files invocation = .ok (request, decision)) :
    (execution site tools before.files invocation decision).1.length ≤ 1 ∧
      (∀ effect ∈ (execution site tools before.files invocation decision).1, Executes invocation decision ∧
        (∃ policy, loadPolicy invocation.policy = .ok policy ∧ Permits site before.files policy decision) ∧
        effect.Of site before.files decision) ∧
      ((execution site tools before.files invocation decision).2.1 = .crashed ↔
        Executes invocation decision ∧ Crashes tools before.files decision) ∧
      ((execution site tools before.files invocation decision).2.2 ≠ before.files →
        ∃ command, (execution site tools before.files invocation decision).1 = [.run command]) := by
  by_cases hexecutes : Executes invocation decision
  · obtain ⟨policy, -, hpolicy, hdecision⟩ := decided_eq_ok h
    have hpermits := permits_of_allowed hdecision hexecutes.2
    obtain ⟨hsingle, hof, hcrashed, hframed⟩ := executeDecision_spec tools hpermits
    have heq : execution site tools before.files invocation decision =
        executeDecision site tools before.files decision := if_pos (by simp [hexecutes.1, hexecutes.2])
    rw [heq]
    refine ⟨hsingle, ?_, ?_, ?_⟩
    · intro effect heffect
      exact ⟨hexecutes, ⟨policy, hpolicy, hpermits⟩, hof effect heffect⟩
    · simp [hcrashed, hexecutes]
    · intro hchanged
      exact ⟨_, hframed hchanged⟩
  · have heq : execution site tools before.files invocation decision = ([], .finished 0, before.files) := by
      refine if_neg ?_
      rw [Bool.and_eq_true]
      exact hexecutes
    rw [heq]
    simp [hexecutes]

/-- **One invocation.** -/
theorem main_mediated (site : Site) (tools : Tools) (before : State) (invocation : Invocation) :
    Mediated site tools before invocation (main site tools before invocation).1
      (main site tools before invocation).2 := by
  cases hdecided : decided site before.files invocation with
  | error failure =>
    have hmain : main site tools before invocation = ({ exit := failure.exit }, before) := by simp [main, hdecided]
    rw [hmain]
    exact ⟨by simp, by simp, by simp, by simp, by simp [hdecided], by simp [hdecided], by simp, by simp⟩
  | ok made =>
    obtain ⟨request, decision⟩ := made
    obtain ⟨hsingle, hof, hcrashed, hframed⟩ := execution_spec tools hdecided
    generalize hexecution : execution site tools before.files invocation decision = executed at *
    have hpermitted : ∀ effect ∈ executed.1, ∃ policy request' decision', loadPolicy invocation.policy = .ok policy ∧
        decided site before.files invocation = .ok (request', decision') ∧ Executes invocation decision' ∧
        Permits site before.files policy decision' ∧ effect.Of site before.files decision' := by
      intro effect heffect
      obtain ⟨hexecutes, ⟨policy, hpolicy, hpermits⟩, heffectOf⟩ := hof effect heffect
      exact ⟨policy, request, decision, hpolicy, hdecided, hexecutes, hpermits, heffectOf⟩
    have hsame : ∀ request' decision', decided site before.files invocation = .ok (request', decision') →
        decision' = decision := by
      intro request' decision' h
      exact (Prod.mk.inj (Except.ok.inj (hdecided.symm.trans h))).2.symm
    have hmade {outcome : Outcome} {after : State} : ∀ failure, decided site before.files invocation = .error failure →
        outcome = { exit := failure.exit } ∧ after = before := by
      intro failure h
      cases hdecided.symm.trans h
    by_cases hlost : executed.2.1 = .crashed ∨ invocation.auditFails = true
    · have hmain : main site tools before invocation =
          ({ exit := .traceback, effects := executed.1 }, { before with files := executed.2.2 }) := by
        simp [main, hdecided, hexecution, hlost]
      rw [hmain]
      refine ⟨hpermitted, hsingle, by simp, by simp, ?_, hmade, hframed, by simp⟩
      intro request' decision' h
      rw [hsame request' decision' h, ← hcrashed]
      simpa using hlost.symm
    · have hmain : main site tools before invocation =
          ({ exit := .code (if !decision.allowed then 2
               else (recordOf invocation request decision executed.2.1).returnCode.getD 0)
             effects := executed.1
             record := some (recordOf invocation request decision executed.2.1) },
            { files := executed.2.2
              audit := before.audit ++ [recordOf invocation request decision executed.2.1] }) := by
        simp [main, hdecided, hexecution, hlost]
      rw [hmain]
      refine ⟨hpermitted, hsingle, ?_, by simp, ?_, hmade, hframed, ?_⟩
      · intro entry hentry
        obtain rfl := Option.some.inj hentry
        exact ⟨hdecided, by simp [recordOf, Executes]⟩
      · intro request' decision' h
        rw [hsame request' decision' h, ← hcrashed]
        simpa [not_or, and_comm] using hlost
      · intro entry hentry hrefused
        obtain rfl := Option.some.inj hentry
        have hnot : decision.allowed = false := hrefused
        simp [hnot]

/-! ## Sessions -/

/-- the path is the place of the file with this content, with directories all the way to it, in the repository and in an
approved root -/
structure Confined (site : Site) (files : Files) (policy : Policy) (path : PurePath Text) (data : List UInt8) :
    Prop where
  approved : Approved site files policy path
  root : path.root = 1
  directories : ∀ above, above <+: path.parts → above ≠ path.parts → files.node above = some .directory
  content : files.node path.parts = some (.file (some data))

theorem length_clip_le (data : List UInt8) : (clip data).length ≤ maxReadBytes + truncationSuffix.length := by
  unfold clip
  split_ifs with hlong
  · rw [List.length_append, List.length_take]
    omega
  · omega

/-- **Reads are confined, but for loops of links.** In every session, whatever the target of a request (absolute,
climbing with `..`, or through symbolic links), what is read is the file that a path leads to which lies, as a path,
below the repository and below a root that the policy in force approves; and at most the first 65536 bytes of it are
given out, with a notice if there are more. If the resolution of the target met no loop of links, the file is at that
path, with directories all the way and no link. -/
theorem reads_confined (site : Site) (tools : Tools) (start : State) (invocations : List Invocation) :
    ∀ pre invocation post, invocations = pre ++ invocation :: post → ∀ path output,
      Effect.read path output ∈ (main site tools (Machine.final (main site tools) start pre) invocation).1.effects →
        ∃ request policy data, invocation.request = some request ∧ loadPolicy invocation.policy = .ok policy ∧
          readAction ∉ policy.explicitlyDeniedActions ∧
          Approved site (Machine.final (main site tools) start pre).files policy path ∧
          stat site (Machine.final (main site tools) start pre).files path.parts = .ok (.file (some data)) ∧
          output = clip data ∧ output.length ≤ maxReadBytes + truncationSuffix.length ∧
          (¬ Loops site (Machine.final (main site tools) start pre).files site.repoRoot (strip request.target) →
            Confined site (Machine.final (main site tools) start pre).files policy path data) := by
  intro pre invocation post _ path output hread
  generalize Machine.final (main site tools) start pre = before at *
  obtain ⟨policy, request, decision, hpolicy, hdecided, -, hpermits, hof⟩ :=
    (main_mediated site tools before invocation).permitted _ hread
  obtain ⟨_, hrequest, -, hdecision⟩ := decided_eq_ok hdecided
  cases hof with
  | read hpath hstat =>
    rename_i data
    obtain ⟨hdenied, happroved⟩ := hpermits.of_read hpath
    refine ⟨request, policy, data, hrequest, hpolicy, hdenied, happroved, hstat, rfl, length_clip_le data, ?_⟩
    intro hloops
    obtain ⟨hroot, hnode⟩ := place_of_resolveFrom (resolved_of_decideRequest hdecision hpath) hloops hstat
    refine ⟨happroved, hroot, ?_, hnode⟩
    intro above habove hne
    exact Tree.node_above (by simp [hnode]) habove hne

/-! ## A session -/

def sampleSite : Site where
  repoRoot := ["repo".toList]
  recursionLimit := 990
  lstatFails _ _ := false
  statFails _ _ := false
  statFails_below := by simp

/-- a guide in docs, a link inside docs, a link out of the repository, and a link to itself -/
def sampleFiles : Files := .ofEntries
  [(["repo".toList], .directory),
    (["repo".toList, "docs".toList], .directory),
    (["repo".toList, "docs".toList, "guide".toList], .file (some [104, 105])),
    (["repo".toList, "docs".toList, "here".toList], .link [.up, .name "docs".toList]),
    (["repo".toList, "docs".toList, "out".toList], .link [.empty, .name "etc".toList]),
    (["repo".toList, "docs".toList, "loop".toList], .link [.name "loop".toList]),
    (["etc".toList], .directory),
    (["etc".toList, "passwd".toList], .file (some [120]))] (by decide +kernel)

def samplePolicy : PolicyFile := .object
  { schema := some "astra-os.assurance-assistant-policy.v1"
    approvedReadRoots := some ["docs".toList]
    allowlistedTools := some fun _ => none
    explicitlyDeniedActions := some [] }

def sampleRead (target : String) : Invocation where
  request := some ⟨"read".toList, target.toList⟩
  policy := samplePolicy
  execute := true
  auditFails := false

def sampleOutcome (target : String) : Outcome :=
  (main sampleSite (fun _ files => (.notStarted, files)) ⟨sampleFiles, []⟩ (sampleRead target)).1

/-- through the link inside docs -/
theorem reads_confined_sample :
    ∃ policy data, loadPolicy samplePolicy = .ok policy ∧
      Confined sampleSite sampleFiles policy ⟨1, ["repo".toList, "docs".toList, "guide".toList]⟩ data ∧
      [104, 105] = clip data := by
  obtain ⟨request, policy, data, hrequest, hpolicy, -, -, -, houtput, -, hconfined⟩ :=
    reads_confined sampleSite (fun _ files => (.notStarted, files)) ⟨sampleFiles, []⟩ [sampleRead "docs/here/guide"] []
      (sampleRead "docs/here/guide") [] rfl ⟨1, ["repo".toList, "docs".toList, "guide".toList]⟩ [104, 105]
      (by decide +kernel)
  obtain rfl := Option.some.inj hrequest
  have hresolved : walkFrom sampleSite sampleFiles sampleSite.repoRoot (strip "docs/here/guide".toList) =
      .ok (.resolved ["repo".toList, "docs".toList, "guide".toList]) := by decide +kernel
  refine ⟨policy, data, hpolicy, hconfined ?_, houtput⟩
  intro hloops
  obtain ⟨path, hbroken⟩ := hloops
  cases hresolved.symm.trans hbroken

-- the link out of the repository is refused, and recorded
example : (sampleOutcome "docs/out/passwd").exit = .code 2 := by decide +kernel

-- behind a loop it is not: the rest of the target is normalized without being read, and /etc/passwd is given out
example : (sampleOutcome "docs/loop/../out/passwd").effects =
    [.read ⟨1, ["repo".toList, "docs".toList, "out".toList, "passwd".toList]⟩ [120]] := by decide +kernel

end Invocations

end AstraFsw.AssuranceAssistant
