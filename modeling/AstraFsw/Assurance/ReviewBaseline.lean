/-
The review of requirements and controlled interfaces: `tools/traceability_baseline.py`,
`tools/update_traceability_baseline.py`, and the check of the baseline over a history of the repository.

The baseline holds digests only. What a later check reports about them depends on what they were taken of, so the
results are about runs: arbitrary edits of the repository between the updates, which may fail.

- `fingerprintBytes_inj`: what a fingerprint covers;
- `last_review`: the baseline after a run is the one of its last successful update;
- `baseline_review_exact`: what the check reports after a run.

Not covered: the evidence column of a requirement, which no fingerprint reads.
-/
import AstraFsw.Assurance.Traceability

namespace AstraFsw.Traceability

/-! ## The update -/

/-- `build_traceability_payload`; none is the `ValueError` of an interface that does not exist -/
def buildTraceabilityPayload (sha256 : ByteArray → List Char) (requirements : List Requirement) (files : Files) :
    Option Baseline := do
  let interfaces ← controlledInterfacePaths.mapM fun path => (files path).map fun bytes => (path, sha256 bytes)
  return {
    requirements := (sortedSet (requirements.map (·.reqId))).filterMap fun reqId =>
      (requirements.find? (·.reqId = reqId)).map fun requirement => (reqId, requirementFingerprint sha256 requirement)
    controlledInterfaces := interfaces }

/-- the requirements the document is read as -/
def Repository.requirements? (repository : Repository) : Option (List Requirement) :=
  repository.requirementsDoc.bind fun text => (parseRequirementsDoc text).toOption

/-- `main` of the update: the exit code and the repository with the file it writes -/
def updateMain (sha256 : ByteArray → List Char) (repository : Repository) : ℕ × Repository :=
  match repository.requirements?.bind fun requirements =>
      buildTraceabilityPayload sha256 requirements repository.files with
  | none => (1, repository)
  | some baseline => (0, { repository with baseline := .payload baseline })

/-! ## Histories -/

inductive Op where
  /-- everything but the baseline is replaced -/
  | edit (documents : Repository)
  | update

def step (sha256 : ByteArray → List Char) (repository : Repository) : Op → Repository
  | .edit documents => { documents with baseline := repository.baseline }
  | .update => (updateMain sha256 repository).2

def run (sha256 : ByteArray → List Char) (repository : Repository) (ops : List Op) : Repository :=
  ops.foldl (step sha256) repository

/-- no update of a run succeeds -/
def Unreviewed (sha256 : ByteArray → List Char) : Repository → List Op → Prop
  | _, [] => True
  | repository, op :: ops =>
    (op = .update → (updateMain sha256 repository).1 = 1) ∧ Unreviewed sha256 (step sha256 repository op) ops

/-- the columns a reviewer has seen -/
def Requirement.covered (r : Requirement) : List Char × List Char × List Char := (r.text, r.method, r.status)

/-- a difference between what was reviewed and what is there, with its line of the report -/
inductive Drift (reviewed current : List Requirement) (before after : Files) : Problem → Prop where
  | added {s : Requirement} : s ∈ current → s.reqId ∉ reviewed.map (·.reqId) →
      Drift reviewed current before after (.requirementAdded s.reqId)
  | removed {r : Requirement} : r ∈ reviewed → r.reqId ∉ current.map (·.reqId) →
      Drift reviewed current before after (.requirementRemoved r.reqId)
  | changed {r s : Requirement} : r ∈ reviewed → s ∈ current → r.reqId = s.reqId → r.covered ≠ s.covered →
      Drift reviewed current before after (.requirementChanged s.reqId)
  | interfaceMissing {path : List Char} : path ∈ controlledInterfacePaths → after path = none →
      Drift reviewed current before after (.interfaceMissing path)
  | interfaceChanged {path : List Char} {a b : ByteArray} : path ∈ controlledInterfacePaths → before path = some a →
      after path = some b → a ≠ b → Drift reviewed current before after (.interfaceChanged path)

/-- two different byte strings with one digest -/
structure Collision (sha256 : ByteArray → List Char) (a b : ByteArray) : Prop where
  ne : a ≠ b
  digest : sha256 a = sha256 b

/-- a difference the digests do not show -/
inductive Masked (sha256 : ByteArray → List Char) (reviewed current : List Requirement) (before after : Files) :
    Problem → Prop where
  | requirement {r s : Requirement} : r ∈ reviewed → s ∈ current → r.reqId = s.reqId →
      Collision sha256 (fingerprintBytes r) (fingerprintBytes s) →
      Masked sha256 reviewed current before after (.requirementChanged s.reqId)
  | interface {path : List Char} {a b : ByteArray} : path ∈ controlledInterfacePaths → before path = some a →
      after path = some b → Collision sha256 a b → Masked sha256 reviewed current before after (.interfaceChanged path)

/-! ## What a fingerprint covers -/

theorem fingerprintText_inj {r s : Requirement} (h : fingerprintText r = fingerprintText s) :
    r.reqId = s.reqId ∧ r.covered = s.covered := by
  simp only [fingerprintText, List.append_assoc, List.cons_append, List.cons.injEq, List.append_cancel_left_eq,
    true_and] at h
  obtain ⟨hid, h⟩ := JsonString.quoted_append_inj h
  simp only [List.cons.injEq, true_and, List.append_cancel_left_eq] at h
  obtain ⟨hmethod, h⟩ := JsonString.quoted_append_inj h
  simp only [List.cons.injEq, true_and, List.append_cancel_left_eq] at h
  obtain ⟨hstatus, h⟩ := JsonString.quoted_append_inj h
  simp only [List.cons.injEq, true_and, List.append_cancel_left_eq] at h
  obtain ⟨htext, -⟩ := JsonString.quoted_append_inj h
  exact ⟨hid, by rw [Requirement.covered, Requirement.covered, htext, hmethod, hstatus]⟩

/-- **What a fingerprint covers**: the bytes that are hashed determine the id, text, method and status. -/
theorem fingerprintBytes_inj {r s : Requirement} :
    fingerprintBytes r = fingerprintBytes s ↔ r.reqId = s.reqId ∧ r.covered = s.covered := by
  constructor
  · intro h
    exact fingerprintText_inj (String.ofList_inj.1 (String.toByteArray_inj.1 h))
  · intro h
    obtain ⟨hid, hcovered⟩ := h
    obtain ⟨htext, hmethod, hstatus⟩ : r.text = s.text ∧ r.method = s.method ∧ r.status = s.status := by
      simpa [Requirement.covered] using hcovered
    rw [fingerprintBytes, fingerprintBytes, fingerprintText, fingerprintText, hid, htext, hmethod, hstatus]

/-! ## What the update writes -/

/-- the entry of a key in a dictionary that is built key by key -/
theorem lookup_filterMap {κ β : Type} [BEq κ] [LawfulBEq κ] (f : κ → Option β) (keys : List κ) (k : κ) :
    (keys.filterMap fun j => (f j).map fun v => (j, v)).lookup k = if k ∈ keys then f k else none := by
  induction keys with
  | nil => simp
  | cons j keys ih =>
    cases hj : f j with
    | none =>
      rw [List.filterMap_cons_none (by simp [hj]), ih]
      by_cases hk : k = j
      · simp [hk, hj]
      · simp [hk]
    | some v =>
      rw [List.filterMap_cons_some (b := (j, v)) (by simp [hj]), List.lookup_cons, ih]
      by_cases hk : k = j
      · simp [hk, hj]
      · simp [hk, beq_eq_false_iff_ne.2 hk]

/-- the dictionary of all keys, if each has a value -/
theorem mapM_eq_some_iff {κ β : Type} (f : κ → Option β) (keys : List κ) (entries : List (κ × β)) :
    (keys.mapM fun j => (f j).map fun v => (j, v)) = some entries ↔
      entries = (keys.filterMap fun j => (f j).map fun v => (j, v)) ∧ ∀ j ∈ keys, (f j).isSome := by
  induction keys generalizing entries with
  | nil =>
    rw [List.mapM_nil, List.filterMap_nil]
    exact ⟨fun h => ⟨(Option.some.inj h).symm, by simp⟩, fun h => congrArg some h.1.symm⟩
  | cons j keys ih =>
    cases hj : f j with
    | none => simp [hj]
    | some v =>
      rw [List.mapM_cons, List.filterMap_cons_some (b := (j, v)) (by simp [hj])]
      simp only [hj, Option.map_some, Option.pure_def, Option.bind_eq_bind, Option.bind_some, Option.bind_eq_some_iff,
        Option.some.injEq, ih, List.forall_mem_cons, Option.isSome_some, true_and]
      constructor
      · intro h
        obtain ⟨rest, ⟨rfl, hall⟩, rfl⟩ := h
        exact ⟨rfl, hall⟩
      · intro h
        exact ⟨_, ⟨rfl, h.2⟩, h.1.symm⟩

/-- the dictionaries of a payload -/
structure Payload (sha256 : ByteArray → List Char) (requirements : List Requirement) (files : Files)
    (baseline : Baseline) : Prop where
  requirements : ∀ reqId, baseline.requirements.lookup reqId =
    (requirements.find? (·.reqId = reqId)).map (requirementFingerprint sha256)
  interfaces : ∀ path, baseline.controlledInterfaces.lookup path =
    if path ∈ controlledInterfacePaths then (files path).map sha256 else none
  present : ∀ path ∈ controlledInterfacePaths, (files path).isSome

theorem buildTraceabilityPayload_spec {sha256 : ByteArray → List Char} {requirements : List Requirement} {files : Files}
    {baseline : Baseline} (h : buildTraceabilityPayload sha256 requirements files = some baseline) :
    Payload sha256 requirements files baseline := by
  simp only [buildTraceabilityPayload, Option.bind_eq_bind, Option.bind_eq_some_iff, Option.pure_def,
    Option.some.injEq] at h
  obtain ⟨interfaces, hinterfaces, rfl⟩ := h
  have hentry (path : List Char) : ((files path).map fun bytes => (path, sha256 bytes)) =
      ((files path).map sha256).map fun digest => (path, digest) := by
    rw [Option.map_map]
    rfl
  simp only [hentry] at hinterfaces
  obtain ⟨rfl, hpresent⟩ := (mapM_eq_some_iff (fun path => (files path).map sha256) _ _).1 hinterfaces
  refine ⟨fun reqId => ?_, fun path => ?_, ?_⟩
  · have hkeys := lookup_filterMap
      (fun reqId => (requirements.find? (·.reqId = reqId)).map (requirementFingerprint sha256))
      (sortedSet (requirements.map (·.reqId))) reqId
    simp only [Option.map_map, mem_sortedSet] at hkeys
    refine hkeys.trans ?_
    split_ifs with hmem
    · rfl
    · rw [List.find?_eq_none.2, Option.map_none]
      intro r hr heq
      exact hmem (List.mem_map.2 ⟨r, hr, by simpa using heq⟩)
  · exact lookup_filterMap (fun path => (files path).map sha256) _ path
  · intro path hpath
    simpa using hpresent path hpath

/-! ## What the check reports -/

/-- a record found under a key has that key -/
theorem find?_reqId {requirements : List Requirement} {reqId : List Char} {r : Requirement}
    (h : requirements.find? (·.reqId = reqId) = some r) : r ∈ requirements ∧ r.reqId = reqId :=
  ⟨List.mem_of_find?_eq_some h, by simpa using List.find?_some h⟩

/-- an entry has a value -/
theorem lookup_of_mem {l : List (List Char × List Char)} {k : List Char} (h : k ∈ l.map Prod.fst) :
    ∃ v, l.lookup k = some v := by
  obtain ⟨entry, hentry, rfl⟩ := List.mem_map.1 h
  exact Option.isSome_iff_exists.1 (List.lookup_isSome_iff.2 ⟨entry, hentry, beq_self_eq_true _⟩)

section

variable {sha256 : ByteArray → List Char} {reviewed current : List Requirement} {before after : Files}
  {baseline : Baseline}

theorem Payload.mem_requirements (h : Payload sha256 reviewed before baseline) {reqId : List Char} :
    reqId ∈ baseline.requirements.map Prod.fst ↔ reqId ∈ reviewed.map (·.reqId) := by
  constructor
  · intro hmem
    obtain ⟨digest, hlookup⟩ := lookup_of_mem hmem
    rw [h.requirements, Option.map_eq_some_iff] at hlookup
    obtain ⟨r, hfind, -⟩ := hlookup
    obtain ⟨hr, rfl⟩ := find?_reqId hfind
    exact List.mem_map_of_mem hr
  · intro hmem
    obtain ⟨r, hr, heq⟩ := List.mem_map.1 hmem
    have hfound : (reviewed.find? (·.reqId = reqId)).isSome := List.find?_isSome.2 ⟨r, hr, by simpa using heq⟩
    obtain ⟨s, hs⟩ := Option.isSome_iff_exists.1 hfound
    have hlookup := h.requirements reqId
    rw [hs, Option.map_some] at hlookup
    obtain ⟨entry, hentry, rfl⟩ := mem_of_lookup hlookup
    exact List.mem_map_of_mem hentry

theorem Payload.mem_interfaces (h : Payload sha256 reviewed before baseline) {path : List Char} :
    path ∈ baseline.controlledInterfaces.map Prod.fst ↔ path ∈ controlledInterfacePaths := by
  constructor
  · intro hmem
    obtain ⟨digest, hlookup⟩ := lookup_of_mem hmem
    rw [h.interfaces] at hlookup
    split_ifs at hlookup with hpath
    exact hpath
  · intro hpath
    obtain ⟨bytes, hbytes⟩ := Option.isSome_iff_exists.1 (h.present path hpath)
    have hlookup := h.interfaces path
    rw [if_pos hpath, hbytes, Option.map_some] at hlookup
    obtain ⟨entry, hentry, rfl⟩ := mem_of_lookup hlookup
    exact List.mem_map_of_mem hentry

/-- everything the check can report about a baseline -/
theorem mem_baselineProblems_iff {files : Files} {p : Problem} :
    p ∈ baselineProblems sha256 current files baseline ↔
      (∃ reqId ∈ current.map (·.reqId), reqId ∉ baseline.requirements.map Prod.fst ∧ p = .requirementAdded reqId) ∨
      (∃ reqId ∈ baseline.requirements.map Prod.fst, reqId ∉ current.map (·.reqId) ∧ p = .requirementRemoved reqId) ∨
      (∃ reqId ∈ current.map (·.reqId), reqId ∈ baseline.requirements.map Prod.fst ∧
        (current.find? (·.reqId = reqId)).map (requirementFingerprint sha256) ≠ baseline.requirements.lookup reqId ∧
          p = .requirementChanged reqId) ∨
      (∃ path ∈ controlledInterfacePaths, path ∉ baseline.controlledInterfaces.map Prod.fst ∧
        p = .interfaceNotInBaseline path) ∨
      (∃ path ∈ baseline.controlledInterfaces.map Prod.fst, path ∉ controlledInterfacePaths ∧
        p = .unexpectedInterface path) ∨
      ∃ path ∈ controlledInterfacePaths, path ∈ baseline.controlledInterfaces.map Prod.fst ∧
        (files path = none ∧ p = .interfaceMissing path ∨
          ∃ bytes, files path = some bytes ∧ some (sha256 bytes) ≠ baseline.controlledInterfaces.lookup path ∧
            p = .interfaceChanged path) := by
  have hmap (a b : List (List Char)) (kind : List Char → Problem) :
      p ∈ (difference a b).map kind ↔ ∃ x ∈ a, x ∉ b ∧ p = kind x := by
    simp only [List.mem_map, mem_difference, and_assoc, @eq_comm _ p]
  have hflat (a b : List (List Char)) (kind : List Char → List Problem) :
      p ∈ (intersection a b).flatMap kind ↔ ∃ x ∈ a, x ∈ b ∧ p ∈ kind x := by
    simp only [List.mem_flatMap, mem_intersection, and_assoc]
  have hite (c : Prop) [Decidable c] (q : Problem) : p ∈ (if c then [q] else []) ↔ c ∧ p = q := by
    split_ifs with hc
    · simp [hc]
    · simp [hc]
  unfold baselineProblems
  simp only [List.mem_append, hmap, hflat, hite, or_assoc]
  -- the kinds agree; what is left is the file of an interface
  refine or_congr_right (or_congr_right (or_congr_right (or_congr_right (or_congr_right
    (exists_congr fun path => and_congr_right fun _ => and_congr_right fun _ => ?_)))))
  cases files path with
  | none => simp
  | some bytes => simp only [hite, reduceCtorEq, false_and, Option.some.injEq, exists_eq_left', false_or]

theorem masked_requirement_iff (hreviewed : (reviewed.map (·.reqId)).Nodup) (hcurrent : (current.map (·.reqId)).Nodup)
    {r s : Requirement} (hr : r ∈ reviewed) (hs : s ∈ current) (hrs : r.reqId = s.reqId) :
    Masked sha256 reviewed current before after (.requirementChanged s.reqId) ↔
      Collision sha256 (fingerprintBytes r) (fingerprintBytes s) := by
  constructor
  · intro hmasked
    obtain ⟨r', hr', s', hs', hrs', heq, hcollision⟩ : ∃ r' ∈ reviewed, ∃ s' ∈ current, r'.reqId = s'.reqId ∧
        s'.reqId = s.reqId ∧ Collision sha256 (fingerprintBytes r') (fingerprintBytes s') := by
      generalize hp : Problem.requirementChanged s.reqId = p at hmasked
      cases hmasked with
      | @requirement r' s' hr' hs' hrs' hcollision =>
        exact ⟨r', hr', s', hs', hrs', (Problem.requirementChanged.inj hp).symm, hcollision⟩
      | interface => cases hp
    obtain rfl := List.inj_on_of_nodup_map hcurrent hs' hs heq
    obtain rfl := List.inj_on_of_nodup_map hreviewed hr' hr (hrs'.trans hrs.symm)
    exact hcollision
  · exact .requirement hr hs hrs

theorem masked_interface_iff {path : List Char} {a b : ByteArray} (hpath : path ∈ controlledInterfacePaths)
    (ha : before path = some a) (hb : after path = some b) :
    Masked sha256 reviewed current before after (.interfaceChanged path) ↔ Collision sha256 a b := by
  constructor
  · intro hmasked
    cases hmasked with
    | interface _ ha' hb' hcollision =>
      obtain rfl := Option.some.inj (ha.symm.trans ha')
      obtain rfl := Option.some.inj (hb.symm.trans hb')
      exact hcollision
  · exact .interface hpath ha hb

/-- **What a check reports about a reviewed baseline**: the differences that the digests show, and nothing else. -/
theorem Payload.mem_problems_iff (h : Payload sha256 reviewed before baseline)
    (hreviewed : (reviewed.map (·.reqId)).Nodup) (hcurrent : (current.map (·.reqId)).Nodup) {p : Problem} :
    p ∈ baselineProblems sha256 current after baseline ↔
      Drift reviewed current before after p ∧ ¬ Masked sha256 reviewed current before after p := by
  rw [mem_baselineProblems_iff]
  simp only [h.mem_requirements, h.mem_interfaces]
  constructor
  · intro hp
    rcases hp with ⟨reqId, hin, hout, rfl⟩ | ⟨reqId, hin, hout, rfl⟩ | ⟨reqId, hin, hknown, hne, rfl⟩ |
      ⟨path, hin, hout, rfl⟩ | ⟨path, hin, hout, rfl⟩ | ⟨path, hin, -, hfile⟩
    · obtain ⟨s, hs, rfl⟩ := List.mem_map.1 hin
      exact ⟨.added hs hout, fun hmasked => nomatch hmasked⟩
    · obtain ⟨r, hr, rfl⟩ := List.mem_map.1 hin
      exact ⟨.removed hr hout, fun hmasked => nomatch hmasked⟩
    · obtain ⟨s, hs, rfl⟩ := List.mem_map.1 hin
      obtain ⟨r, hr, hrs⟩ := List.mem_map.1 hknown
      have hlookup := h.requirements s.reqId
      rw [← hrs, find?_key (·.reqId) hreviewed hr, hrs] at hlookup
      rw [hlookup, find?_key (·.reqId) hcurrent hs, Option.map_some, Option.map_some, ne_eq, Option.some.injEq] at hne
      refine ⟨.changed hr hs hrs ?_, ?_⟩
      · intro hcovered
        exact hne (congrArg sha256 (fingerprintBytes_inj.2 ⟨hrs.symm, hcovered.symm⟩))
      · intro hmasked
        exact hne ((masked_requirement_iff hreviewed hcurrent hr hs hrs).1 hmasked).digest.symm
    · exact absurd hin hout
    · exact absurd hin hout
    · rcases hfile with ⟨hnone, rfl⟩ | ⟨bytes, hbytes, hne, rfl⟩
      · exact ⟨.interfaceMissing hin hnone, fun hmasked => nomatch hmasked⟩
      · obtain ⟨a, ha⟩ := Option.isSome_iff_exists.1 (h.present path hin)
        rw [h.interfaces, if_pos hin, ha, Option.map_some, ne_eq, Option.some.injEq] at hne
        refine ⟨.interfaceChanged hin ha hbytes fun heq => hne (congrArg sha256 heq.symm), ?_⟩
        intro hmasked
        exact hne ((masked_interface_iff hin ha hbytes).1 hmasked).digest.symm
  · intro hp
    obtain ⟨hdrift, hshown⟩ := hp
    cases hdrift with
    | @added s hs hout => exact .inl ⟨s.reqId, List.mem_map_of_mem hs, hout, rfl⟩
    | @removed r hr hout => exact .inr (.inl ⟨r.reqId, List.mem_map_of_mem hr, hout, rfl⟩)
    | @changed r s hr hs hrs hcovered =>
      have hknown : s.reqId ∈ reviewed.map (·.reqId) := List.mem_map.2 ⟨r, hr, hrs⟩
      refine .inr (.inr (.inl ⟨s.reqId, List.mem_map_of_mem hs, hknown, ?_, rfl⟩))
      have hlookup := h.requirements s.reqId
      rw [← hrs, find?_key (·.reqId) hreviewed hr, hrs] at hlookup
      rw [hlookup, find?_key (·.reqId) hcurrent hs, Option.map_some, Option.map_some, ne_eq, Option.some.injEq]
      intro hdigest
      refine hshown ((masked_requirement_iff hreviewed hcurrent hr hs hrs).2 ⟨?_, hdigest.symm⟩)
      intro hbytes
      exact hcovered (fingerprintBytes_inj.1 hbytes).2
    | @interfaceMissing path hpath hnone =>
      exact .inr (.inr (.inr (.inr (.inr ⟨path, hpath, hpath, .inl ⟨hnone, rfl⟩⟩))))
    | @interfaceChanged path a b hpath ha hb hne =>
      refine .inr (.inr (.inr (.inr (.inr ⟨path, hpath, hpath, .inr ⟨b, hb, ?_, rfl⟩⟩))))
      rw [h.interfaces, if_pos hpath, ha, Option.map_some, ne_eq, Option.some.injEq]
      intro hdigest
      exact hshown ((masked_interface_iff hpath ha hb).2 ⟨hne, hdigest.symm⟩)

end

/-! ## Runs -/

section

variable {sha256 : ByteArray → List Char} {repository : Repository}

/-- everything an update can do -/
theorem updateMain_cases (sha256 : ByteArray → List Char) (repository : Repository) :
    updateMain sha256 repository = (1, repository) ∨
      ∃ reviewed baseline, repository.requirements? = some reviewed ∧
        buildTraceabilityPayload sha256 reviewed repository.files = some baseline ∧
        updateMain sha256 repository = (0, { repository with baseline := .payload baseline }) := by
  unfold updateMain
  cases hpayload : repository.requirements?.bind fun requirements =>
      buildTraceabilityPayload sha256 requirements repository.files with
  | none => exact .inl rfl
  | some baseline =>
    obtain ⟨reviewed, hreviewed, hbuild⟩ := Option.bind_eq_some_iff.1 hpayload
    exact .inr ⟨reviewed, baseline, hreviewed, hbuild, rfl⟩

/-- the requirements of a document have different ids -/
theorem requirements?_nodup {requirements : List Requirement} (h : repository.requirements? = some requirements) :
    (requirements.map (·.reqId)).Nodup := by
  obtain ⟨text, -, hparse⟩ := Option.bind_eq_some_iff.1 h
  cases hresult : parseRequirementsDoc text with
  | error error =>
    rw [hresult] at hparse
    cases hparse
  | ok out =>
    rw [hresult] at hparse
    obtain rfl := Option.some.inj hparse
    exact (parseRequirementsDoc_eq_ok_iff.1 hresult).2.2.nodup

/-- **The last review of a run**: the baseline is still the one of the start, or the one of the last update that
succeeded. -/
theorem last_review (sha256 : ByteArray → List Char) (repository : Repository) (ops : List Op) :
    (Unreviewed sha256 repository ops ∧ (run sha256 repository ops).baseline = repository.baseline) ∨
      ∃ earlier later, ops = earlier ++ .update :: later ∧
        (updateMain sha256 (run sha256 repository earlier)).1 = 0 ∧
        Unreviewed sha256 (run sha256 repository (earlier ++ [.update])) later ∧
        (run sha256 repository ops).baseline = (updateMain sha256 (run sha256 repository earlier)).2.baseline := by
  induction ops generalizing repository with
  | nil => exact .inl ⟨trivial, rfl⟩
  | cons op ops ih =>
    rcases ih (step sha256 repository op) with ⟨hun, hbaseline⟩ | ⟨earlier, later, rfl, hexit, hun, hbaseline⟩
    · cases op with
      | edit documents => exact .inl ⟨⟨(nomatch ·), hun⟩, hbaseline⟩
      | update =>
        rcases updateMain_cases sha256 repository with hfail | ⟨reviewed, baseline, -, -, hok⟩
        · refine .inl ⟨⟨fun _ => by rw [hfail], hun⟩, hbaseline.trans ?_⟩
          rw [step, hfail]
        · exact .inr ⟨[], ops, rfl, by rw [run, List.foldl_nil, hok], hun, hbaseline⟩
    · exact .inr ⟨op :: earlier, later, rfl, hexit, hun, hbaseline⟩

/-- **What the review of the baseline reports in every history.** From a repository without a baseline, after any edits
and updates, the check says that the baseline is missing if no update has succeeded. Else it reports exactly the
differences since the last successful update that the digests show: requirements added, removed, or with another text,
method or status, and controlled interfaces missing or with other bytes. Only two different byte strings with one digest
hide a difference, and nothing else is reported. -/
theorem baseline_review_exact (sha256 : ByteArray → List Char) (start : Repository) (hstart : start.baseline = .missing)
    (ops : List Op) {current : List Requirement} (hcurrent : (run sha256 start ops).requirements? = some current) :
    (Unreviewed sha256 start ops ∧
      reviewedBaselineProblems sha256 current (run sha256 start ops).files (run sha256 start ops).baseline =
        some [.baselineMissing]) ∨
      ∃ earlier later reviewed problems, ops = earlier ++ .update :: later ∧
        (updateMain sha256 (run sha256 start earlier)).1 = 0 ∧
        Unreviewed sha256 (run sha256 start (earlier ++ [.update])) later ∧
        (run sha256 start earlier).requirements? = some reviewed ∧
        reviewedBaselineProblems sha256 current (run sha256 start ops).files (run sha256 start ops).baseline =
          some problems ∧
        ∀ p, p ∈ problems ↔
          Drift reviewed current (run sha256 start earlier).files (run sha256 start ops).files p ∧
            ¬ Masked sha256 reviewed current (run sha256 start earlier).files (run sha256 start ops).files p := by
  rcases last_review sha256 start ops with ⟨hun, hbaseline⟩ | ⟨earlier, later, hops, hexit, hun, hbaseline⟩
  · refine .inl ⟨hun, ?_⟩
    rw [hbaseline, hstart, reviewedBaselineProblems]
  · rcases updateMain_cases sha256 (run sha256 start earlier) with hfail | ⟨reviewed, baseline, hreviewed, hbuild, hok⟩
    · rw [hfail] at hexit
      cases hexit
    · refine .inr ⟨earlier, later, reviewed, _, hops, hexit, hun, hreviewed, ?_, fun p =>
        (buildTraceabilityPayload_spec hbuild).mem_problems_iff (requirements?_nodup hreviewed)
          (requirements?_nodup hcurrent)⟩
      rw [hbaseline, hok, reviewedBaselineProblems]

theorem baseline_review_exact_changed :
    let before : Requirement :=
      { reqId := "FSW-REQ-001".toList, text := "Reject malformed packets.".toList, method := "Test".toList,
        evidence := [], status := "Implemented".toList }
    let after := { before with text := "Reject short packets.".toList }
    let digest (bytes : ByteArray) : List Char := bytes.toList.map fun b => Char.ofNat b.toNat
    let repository (r : Requirement) : Repository :=
      { requirementsDoc := some (document [.row r]), verificationMatrix := none, scenarios := none, cmake := none,
        reports := fun _ => .missing, baseline := .missing, files := fun _ => some ByteArray.empty }
    let now := run digest (repository before) [.update, .edit (repository after)]
    ∃ problems, reviewedBaselineProblems digest [after] now.files now.baseline = some problems ∧
      .requirementChanged after.reqId ∈ problems := by
  intro before after digest repository now
  have hbefore : (repository before).requirements? = some [before] := by decide +kernel
  have hafter : now.requirements? = some [after] := by decide +kernel
  rcases baseline_review_exact digest (repository before) rfl [.update, .edit (repository after)] hafter with
    ⟨hun, -⟩ | ⟨earlier, later, reviewed, problems, hops, -, -, hreviewed, hproblems, hexact⟩
  · have hexit : (updateMain digest (repository before)).1 = 0 := by decide +kernel
    rw [hun.1 rfl] at hexit
    cases hexit
  · obtain rfl : earlier = [] := by
      rcases earlier with _ | ⟨first, _ | ⟨second, earlier⟩⟩
      · rfl
      · simp at hops
      · simp at hops
    obtain rfl : [before] = reviewed := Option.some.inj (hbefore.symm.trans hreviewed)
    have hb : before ∈ [before] := List.mem_singleton_self before
    have ha : after ∈ [after] := List.mem_singleton_self after
    refine ⟨problems, hproblems, (hexact _).2 ⟨.changed hb ha rfl (by decide +kernel), ?_⟩⟩
    intro hmasked
    have hcollision := (masked_requirement_iff (requirements?_nodup hbefore) (requirements?_nodup hafter) hb ha rfl).1
      hmasked
    exact absurd hcollision.digest (by decide +kernel)

end

end AstraFsw.Traceability
