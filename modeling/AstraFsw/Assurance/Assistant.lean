/-
The permission decisions of the assurance assistant (`tools/assurance_assistant.py`): `load_policy`,
`resolve_approved_read_path` and `decide_request`.

Requests are untrusted: a read target may be absolute, climb with `..` or pass through symbolic links. Files are a tree
with links; the JSON of a policy or request is taken as the values it stands for, with `str()` already applied.

- `approvedReadPath_eq_some`: what `resolve_approved_read_path` returns lies, as a path, below the repository and below
  an approved root;
- `place_of_resolveFrom`: it leads to the node at its own place, unless its resolution met a loop of links;
- `permits_of_allowed`: an allowed request is permitted (`Permits`): a read of a file that such a path leads to, or a
  run of an allow-listed command, with an action that is not denied.
-/
import AstraFsw.Core.FileTree
import AstraFsw.Ground.RepositoryState

namespace AstraFsw.AssuranceAssistant

open FileTree
open Ground.SourceCleanliness (strip)

abbrev Text := List Char

/-- a file has its bytes, or refuses to be read -/
abbrev Files := Tree Text (Option (List UInt8))

abbrev Place := List Text

/-! ## Policies -/

/-- an entry of `allowlisted_tools` -/
inductive ToolDefinition where
  /-- a list; an item that is not a string is `none` -/
  | list (items : List (Option String))
  | other
deriving DecidableEq, Repr

structure Policy where
  approvedReadRoots : List Text
  allowlistedTools : Text → Option ToolDefinition
  explicitlyDeniedActions : List Text

/-- a policy object as loaded; `none` for a value of another type -/
structure RawPolicy where
  schema : Option String
  approvedReadRoots : Option (List Text)
  allowlistedTools : Option (Text → Option ToolDefinition)
  explicitlyDeniedActions : Option (List Text)

/-- an exception: a ValueError (or OSError) is reported, any other one ends the program -/
inductive Failure where
  | reported
  | traceback
deriving DecidableEq, Repr

/-- `load_policy` on a file that is not readable JSON, not an object, or an object -/
inductive PolicyFile where
  | unreadable
  | notAnObject
  | object (payload : RawPolicy)

def loadPolicy : PolicyFile → Except Failure Policy
  | .unreadable => .error .reported
  | .notAnObject => .error .traceback
  | .object payload =>
    if payload.schema ≠ some "astra-os.assurance-assistant-policy.v1" then .error .reported
    else match payload.approvedReadRoots, payload.allowlistedTools, payload.explicitlyDeniedActions with
      | some roots, some tools, some denied => .ok ⟨roots, tools, denied⟩
      | _, _, _ => .error .reported

/-! ## Paths -/

abbrev FileNode := Node Text (Option (List UInt8))

/-- where the assistant works: the repository's own path, the calls of a resolution that may be inside one another, and
the look-ups that the system refuses (a name that is too long, a directory that may not be searched) -/
structure Site where
  repoRoot : Place
  recursionLimit : ℕ
  lstatFails : Files → Place → Bool
  statFails : Files → Place → Bool
  /-- what cannot be looked up cannot be looked up further down either -/
  statFails_below : ∀ files above place, lstatFails files above = true → above <+: place → statFails files place = true

/-- an embedded NUL, which no system call takes -/
def hasNul (place : Place) : Bool := place.any fun name => name.contains (Char.ofNat 0)

/-- `os.lstat`, and `os.readlink` of a link; what cannot be looked up is taken for no link -/
def readLink (site : Site) (files : Files) (place : Place) : Except Failure (Option (Route Text)) :=
  if hasNul place then .error .reported
  else if site.lstatFails files place then .ok none
  else
    match files.node place with
    | some (.link target) => .ok (some target)
    | _ => .ok none

inductive StatError where
  | nul
  | refused
  | missing
  | loop
deriving DecidableEq, Repr

/-- the links that the system follows in one path -/
def maxLinks : ℕ := 40

/-- `path.stat()`, and the file that `open` finds -/
def stat (site : Site) (files : Files) (place : Place) : Except StatError FileNode :=
  if hasNul place then .error .nul
  else if site.statFails files place then .error .refused
  else
    match files.follow maxLinks [] (place.map .name) with
    | .node node => .ok node
    | .missing => .error .missing
    | .loop => .error .loop

/-- the resolution of `base / text` -/
def walkFrom (site : Site) (files : Files) (base : Place) (text : Text) : Except Failure (Walked Text) :=
  realPath (readLink site files) .traceback site.recursionLimit
    (PurePath.join ⟨1, base.map .name⟩ (PurePath.ofText text)).parts

/-- `(base / text).resolve(strict=False)`. A NUL is a ValueError; a loop that the result still leads into is a
RuntimeError, as is a resolution that is too deep. -/
def resolveFrom (site : Site) (files : Files) (base : Place) (text : Text) : Except Failure (PurePath Text) :=
  match walkFrom site files base text with
  | .error failure => .error failure
  | .ok walked =>
    match stat site files walked.path.parts with
    | .error .nul => .error .reported
    | .error .loop => .error .traceback
    | _ => .ok walked.path

/-- `repo_root.resolve()` -/
def repository (site : Site) (files : Files) : Except Failure (PurePath Text) :=
  resolveFrom site files site.repoRoot []

/-- the loop over the approved roots: is a path at or below one of them? -/
def belowRoot (site : Site) (files : Files) (base : Place) (resolved : PurePath Text) : List Text → Except Failure Bool
  | [] => .ok false
  | root :: roots =>
    match resolveFrom site files base root with
    | .error failure => .error failure
    | .ok approved => if resolved.Below approved then .ok true else belowRoot site files base resolved roots

/-- `resolve_approved_read_path` -/
def resolveApprovedReadPath (site : Site) (files : Files) (policy : Policy) (target : Text) :
    Except Failure (Option (PurePath Text)) :=
  (resolveFrom site files site.repoRoot target).bind fun resolved =>
  (repository site files).bind fun base =>
  if ¬ resolved.Below base then .ok none
  else (belowRoot site files base.parts resolved policy.approvedReadRoots).bind fun below =>
    .ok (if below then some resolved else none)

/-- `path.is_file()`: false where nothing is found, an OSError where the system refuses to look -/
def isFile (site : Site) (files : Files) (place : Place) : Except Failure Bool :=
  match stat site files place with
  | .ok (.file _) => .ok true
  | .error .refused => .error .reported
  | _ => .ok false

/-! ## Decisions -/

/-- action and target, as `str(request.get(...))` gives them -/
structure Request where
  action : Text
  target : Text
deriving DecidableEq, Repr

inductive Reason where
  | actionRequired
  | explicitlyDenied (action : Text)
  | targetRequired
  | outsideApproved
  | notAFile
  | readApproved
  | notAllowListed
  | invalidDefinition
  | runApproved
  | unsupported
deriving DecidableEq, Repr

/-- the text of a reason; the argument is Python's `repr` -/
def Reason.text (repr : Text → String) : Reason → String
  | actionRequired => "Request action is required"
  | explicitlyDenied action => "Action " ++ repr action ++ " is explicitly denied"
  | targetRequired => "Read target is required"
  | outsideApproved => "Path is outside approved project sources"
  | notAFile => "Approved read target is not a file"
  | readApproved => "Read target is within an approved project source root"
  | notAllowListed => "Verification tool is not allow-listed"
  | invalidDefinition => "Allow-listed tool definition is invalid"
  | runApproved => "Verification tool exactly matches the allow-list"
  | unsupported => "Only read and allow-listed run actions are supported"

structure Decision where
  allowed : Bool
  action : Text
  target : Text
  reason : Reason
  command : List String := []
  resolvedPath : Option (PurePath Text) := none
deriving DecidableEq, Repr

/-- the items of a definition, if all are strings that are not empty -/
def validCommand : ToolDefinition → Option (List String)
  | .other => none
  | .list items => if items.all fun item => item.any (· ≠ "") then some (items.map (·.getD "")) else none

def readAction : Text := "read".toList

def runAction : Text := "run".toList

def decideRequest (site : Site) (files : Files) (policy : Policy) (request : Request) : Except Failure Decision :=
  let action := strip request.action
  let target := strip request.target
  let refuse (reason : Reason) : Except Failure Decision := .ok { allowed := false, action, target, reason }
  if action = [] then refuse .actionRequired
  else if action ∈ policy.explicitlyDeniedActions then refuse (.explicitlyDenied action)
  else if action = readAction then
    if target = [] then refuse .targetRequired
    else match resolveApprovedReadPath site files policy target with
      | .error failure => .error failure
      | .ok none => refuse .outsideApproved
      | .ok (some resolved) =>
        match isFile site files resolved.parts with
        | .error failure => .error failure
        | .ok false => refuse .notAFile
        | .ok true => .ok { allowed := true, action, target, reason := .readApproved, resolvedPath := some resolved }
  else if action = runAction then
    match policy.allowlistedTools target with
    | none => refuse .notAllowListed
    | some definition =>
      match validCommand definition with
      | none => refuse .invalidDefinition
      | some command => .ok { allowed := true, action, target, reason := .runApproved, command }
  else refuse .unsupported

/-! ## What a resolution finds -/

section Resolution

variable {site : Site} {files : Files} {base place : Place} {resolved : PurePath Text} {text : Text}

/-- the resolution of `base / text` meets a loop of links -/
def Loops (site : Site) (files : Files) (base : Place) (text : Text) : Prop :=
  ∃ path, walkFrom site files base text = .ok (.broken path)

theorem resolveFrom_eq_ok (h : resolveFrom site files base text = .ok resolved) :
    ∃ walked, walkFrom site files base text = .ok walked ∧ walked.path = resolved := by
  unfold resolveFrom at h
  split at h
  next => cases h
  next walked hwalked =>
    refine ⟨walked, hwalked, ?_⟩
    split at h
    next => cases h
    next => cases h
    next => exact Except.ok.inj h

theorem stat_eq_ok {node : FileNode} (h : stat site files place = .ok node) :
    site.statFails files place = false ∧ files.follow maxLinks [] (place.map .name) = .node node := by
  unfold stat at h
  split_ifs at h with hnul hfails
  refine ⟨by simpa using hfails, ?_⟩
  split at h
  next found hfound => rw [hfound, Except.ok.inj h]
  next => cases h
  next => cases h

/-- where nothing on the way is read as a link and the system looks, there is none -/
theorem not_link_of_unlinked (h : Unlinked (readLink site files) place) (hlooks : site.statFails files place = false)
    {above : Place} {n : Text} (habove : above ++ [n] <+: place) (target : Route Text) :
    files.node (above ++ [n]) ≠ some (.link target) := by
  intro hlink
  have hread := h above n habove
  unfold readLink at hread
  split_ifs at hread with hnul hfails
  · rw [site.statFails_below files _ _ hfails habove] at hlooks
    cases hlooks
  · simp [hlink] at hread

/-- **What a resolved path leads to**: without a loop of links, the node at its own place. -/
theorem place_of_resolveFrom (h : resolveFrom site files base text = .ok resolved) (hloops : ¬ Loops site files base text)
    {node : FileNode} (hstat : stat site files resolved.parts = .ok node) :
    resolved.root = 1 ∧ files.node resolved.parts = some node := by
  obtain ⟨walked, hwalked, rfl⟩ := resolveFrom_eq_ok h
  cases walked with
  | broken path => exact absurd ⟨path, hwalked⟩ hloops
  | resolved place =>
    obtain ⟨hlooks, hfollow⟩ := stat_eq_ok hstat
    refine ⟨rfl, Tree.follow_unlinked ?_ hfollow⟩
    intro above n habove target
    exact not_link_of_unlinked (realPath_unlinked hwalked) hlooks habove target

/-- at or below an approved root, as a path -/
def Approved (site : Site) (files : Files) (policy : Policy) (path : PurePath Text) : Prop :=
  ∃ base, repository site files = .ok base ∧ path.Below base ∧
    ∃ root ∈ policy.approvedReadRoots, ∃ approved, resolveFrom site files base.parts root = .ok approved ∧
      path.Below approved

theorem exists_root_of_belowRoot {roots : List Text} (h : belowRoot site files base resolved roots = .ok true) :
    ∃ root ∈ roots, ∃ approved, resolveFrom site files base root = .ok approved ∧ resolved.Below approved := by
  induction roots with
  | nil => simp [belowRoot] at h
  | cons root roots ih =>
    rw [belowRoot] at h
    cases happroved : resolveFrom site files base root with
    | error failure => simp [happroved] at h
    | ok approved =>
      simp only [happroved] at h
      split_ifs at h with hbelow
      · exact ⟨root, List.mem_cons_self, approved, happroved, hbelow⟩
      · obtain ⟨other, hmem, hfound⟩ := ih h
        exact ⟨other, List.mem_cons_of_mem _ hmem, hfound⟩

/-- **An approved read path** is what the target resolves to, below the repository and below an approved root. -/
theorem approvedReadPath_eq_some {policy : Policy} {target : Text}
    (h : resolveApprovedReadPath site files policy target = .ok (some resolved)) :
    resolveFrom site files site.repoRoot target = .ok resolved ∧ Approved site files policy resolved := by
  unfold resolveApprovedReadPath at h
  cases hresolved : resolveFrom site files site.repoRoot target with
  | error failure => simp [hresolved, Except.bind] at h
  | ok path =>
    cases hbase : repository site files with
    | error failure => simp [hresolved, hbase, Except.bind] at h
    | ok base =>
      simp only [hresolved, hbase, Except.bind] at h
      split_ifs at h with hinside
      · cases hbelow : belowRoot site files base.parts path policy.approvedReadRoots with
        | error failure => simp [hbelow] at h
        | ok below =>
          simp only [hbelow, Except.ok.injEq] at h
          split_ifs at h with hyes
          obtain rfl := Option.some.inj h
          rw [hyes] at hbelow
          exact ⟨rfl, base, hbase, hinside, exists_root_of_belowRoot hbelow⟩
      · simp at h

end Resolution

/-! ## What is allowed -/

section Allowed

variable {site : Site} {files : Files} {policy : Policy} {request : Request} {decision : Decision}

theorem isFile_eq_true {place : Place} (h : isFile site files place = .ok true) :
    ∃ content, stat site files place = .ok (.file content) := by
  unfold isFile at h
  split at h
  next content hstat => exact ⟨content, hstat⟩
  next => cases h
  next => simp at h

/-- everything a decision can be -/
theorem decideRequest_cases (h : decideRequest site files policy request = .ok decision) :
    (decision.allowed = false ∧ decision.resolvedPath = none) ∨
      (∃ path content, readAction ∉ policy.explicitlyDeniedActions ∧
        resolveApprovedReadPath site files policy (strip request.target) = .ok (some path) ∧
        stat site files path.parts = .ok (.file content) ∧
        decision = { allowed := true, action := readAction, target := strip request.target, reason := .readApproved,
                     resolvedPath := some path }) ∨
      ∃ definition command, runAction ∉ policy.explicitlyDeniedActions ∧
        policy.allowlistedTools (strip request.target) = some definition ∧ validCommand definition = some command ∧
        decision = { allowed := true, action := runAction, target := strip request.target, reason := .runApproved,
                     command := command } := by
  have hrefused {refusal : Decision} (h : (.ok refusal : Except Failure Decision) = .ok decision)
      (hnot : refusal.allowed = false ∧ refusal.resolvedPath = none) :
      decision.allowed = false ∧ decision.resolvedPath = none := by
    rwa [← Except.ok.inj h]
  unfold decideRequest at h
  dsimp only at h
  split_ifs at h with hempty hdenied hread hnone hrun
  · exact .inl (hrefused h ⟨rfl, rfl⟩)
  · exact .inl (hrefused h ⟨rfl, rfl⟩)
  · exact .inl (hrefused h ⟨rfl, rfl⟩)
  · -- a read with a target
    split at h
    next => cases h
    next => exact .inl (hrefused h ⟨rfl, rfl⟩)
    next path hpath =>
      split at h
      next => cases h
      next => exact .inl (hrefused h ⟨rfl, rfl⟩)
      next hfile =>
        obtain ⟨content, hstat⟩ := isFile_eq_true hfile
        obtain rfl := Except.ok.inj h
        exact .inr (.inl ⟨path, content, hread ▸ hdenied, hpath, hstat, by rw [hread]⟩)
  · -- a run
    split at h
    next => exact .inl (hrefused h ⟨rfl, rfl⟩)
    next definition htool =>
      split at h
      next => exact .inl (hrefused h ⟨rfl, rfl⟩)
      next command hcommand =>
        obtain rfl := Except.ok.inj h
        exact .inr (.inr ⟨definition, command, hrun ▸ hdenied, htool, hcommand, by rw [hrun]⟩)
  · exact .inl (hrefused h ⟨rfl, rfl⟩)

/-- what a policy permits: a read of a file that a path below an approved root leads to, or an allow-listed command -/
inductive Permits (site : Site) (files : Files) (policy : Policy) : Decision → Prop
  | read {target : Text} {path : PurePath Text} {content : Option (List UInt8)} :
      readAction ∉ policy.explicitlyDeniedActions → Approved site files policy path →
      stat site files path.parts = .ok (.file content) →
      Permits site files policy
        { allowed := true, action := readAction, target, reason := .readApproved, resolvedPath := some path }
  | run {target : Text} {definition : ToolDefinition} {command : List String} :
      runAction ∉ policy.explicitlyDeniedActions →
      policy.allowlistedTools target = some definition → validCommand definition = some command →
      Permits site files policy
        { allowed := true, action := runAction, target, reason := .runApproved, command }

/-- **Allowed means permitted**, whatever the request says. -/
theorem permits_of_allowed (h : decideRequest site files policy request = .ok decision)
    (hallowed : decision.allowed = true) : Permits site files policy decision := by
  rcases decideRequest_cases h with ⟨hrefused, -⟩ | ⟨path, content, hdenied, hpath, hstat, rfl⟩ |
    ⟨definition, command, hdenied, htool, hcommand, rfl⟩
  · rw [hrefused] at hallowed
    cases hallowed
  · exact .read hdenied (approvedReadPath_eq_some hpath).2 hstat
  · exact .run hdenied htool hcommand

/-- the path of a decision is what its target resolves to -/
theorem resolved_of_decideRequest (h : decideRequest site files policy request = .ok decision) {path : PurePath Text}
    (hpath : decision.resolvedPath = some path) :
    resolveFrom site files site.repoRoot (strip request.target) = .ok path := by
  rcases decideRequest_cases h with ⟨-, hnone⟩ | ⟨found, content, -, hfound, -, rfl⟩ |
    ⟨definition, command, -, -, -, rfl⟩
  · rw [hnone] at hpath
    cases hpath
  · obtain rfl := Option.some.inj hpath
    exact (approvedReadPath_eq_some hfound).1
  · cases hpath

end Allowed

end AstraFsw.AssuranceAssistant
