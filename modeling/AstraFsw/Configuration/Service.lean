/-
The configuration service (`fsw/src/configuration_service.cpp`): validation of a system configuration, and the service
that replaces the active one.

The service is a register versioned by the configuration's revision (`VersionedRegister.Updates`). `apply` names the
revision it replaces; calls of any number of clients, in any order, are one list of calls.

Results:
- `validateConfiguration_valid_iff`: what a validated configuration satisfies;
- `apply_accepted_iff`, `apply_of_acceptable`, `apply_of_not_acceptable`: when an apply is accepted, and what it does;
- `service_versioned`: validity, locking and the history of accepted applies over every list of calls.
-/
import AstraFsw.Core.VersionedRegister
import AstraFsw.Executive.Model

namespace AstraFsw

/-! ## Data -/

/-- `ASTRA_CONFIGURATION_SCHEMA_VERSION` -/
def configurationSchemaVersion : UInt32 := 1

inductive ConfigurationApplyStatus where
  | accepted
  | rejectedInvalidSchema
  | rejectedInvalidValue
  | rejectedRevisionConflict
  | rejectedNonMonotonicRevision
  | rejectedLocked
deriving DecidableEq, Repr

structure SystemConfiguration where
  schemaVersion : UInt32 := configurationSchemaVersion
  revision : UInt64 := 1
  executive : FlightSoftwareExecutiveConfig := {}
deriving DecidableEq, Repr

structure ConfigurationValidationResult where
  valid : Bool := false
  field : String := ""
  message : String := ""
deriving DecidableEq, Repr

structure ConfigurationApplyResult where
  status : ConfigurationApplyStatus := .rejectedInvalidValue
  previousRevision : UInt64 := 0
  activeRevision : UInt64 := 0
  validation : ConfigurationValidationResult := {}
deriving DecidableEq, Repr

/-! ## Validation -/

/-- `invalid` -/
def invalidConfiguration (field message : String) : ConfigurationValidationResult := { valid := false, field, message }

def validConfiguration : ConfigurationValidationResult := { valid := true, field := "", message := "" }

def validateRateGroup (field : String) (periodTicks phaseTicks deadlineTicks : UInt32) :
    ConfigurationValidationResult :=
  if periodTicks = 0 then invalidConfiguration field "period must be greater than zero"
  else if phaseTicks ≥ periodTicks then invalidConfiguration field "phase must be less than period"
  else if deadlineTicks = 0 then invalidConfiguration field "deadline must be greater than zero"
  else if deadlineTicks > periodTicks then invalidConfiguration field "deadline must not exceed period"
  else validConfiguration

/-- `validate_rate_group` on the flight rate group -/
def validateFlight (executive : FlightSoftwareExecutiveConfig) : ConfigurationValidationResult :=
  validateRateGroup "executive.flight_rate_group" executive.flightPeriodTicks executive.flightPhaseTicks
    executive.flightDeadlineTicks

/-- `validate_rate_group` on the housekeeping rate group -/
def validateHousekeeping (executive : FlightSoftwareExecutiveConfig) : ConfigurationValidationResult :=
  validateRateGroup "executive.housekeeping_rate_group" executive.housekeepingPeriodTicks
    executive.housekeepingPhaseTicks executive.housekeepingDeadlineTicks

def validateConfiguration (configuration : SystemConfiguration) : ConfigurationValidationResult :=
  if configuration.schemaVersion ≠ configurationSchemaVersion then
    invalidConfiguration "schema_version" "unsupported configuration schema version"
  else if configuration.revision = 0 then
    invalidConfiguration "revision" "revision must be greater than zero"
  else if configuration.executive.app.eventLogCapacity < 16 ∨ configuration.executive.app.eventLogCapacity > 4096 then
    invalidConfiguration "executive.app.event_log_capacity" "event capacity must be within [16, 4096]"
  else if configuration.executive.app.groundCommandGuard.maximumAgeMs = GroundCommandGuard.uint64Max then
    invalidConfiguration "executive.app.ground_command_guard.maximum_age_ms" "maximum age must be bounded"
  else if configuration.executive.app.groundCommandGuard.maximumFutureSkewMs = GroundCommandGuard.uint64Max then
    invalidConfiguration "executive.app.ground_command_guard.maximum_future_skew_ms" "future skew must be bounded"
  else if configuration.executive.app.recoverySupervisor.maximumFailedAttempts = 0 then
    invalidConfiguration "executive.app.recovery_supervisor.maximum_failed_attempts"
      "maximum failed recovery attempts must be greater than zero"
  else if !(validateFlight configuration.executive).valid then validateFlight configuration.executive
  else if !(validateHousekeeping configuration.executive).valid then validateHousekeeping configuration.executive
  else validConfiguration

/-! ## The service -/

structure ConfigurationService where
  initialValidation : ConfigurationValidationResult := {}
  active : SystemConfiguration := {}
  valid : Bool := false
  locked : Bool := false
deriving DecidableEq, Repr

namespace ConfigurationService

def ofConfig (initialConfiguration : SystemConfiguration) : ConfigurationService where
  initialValidation := validateConfiguration initialConfiguration
  active := initialConfiguration
  valid := (validateConfiguration initialConfiguration).valid

def apply (service : ConfigurationService) (candidate : SystemConfiguration) (expectedActiveRevision : UInt64) :
    ConfigurationApplyResult × ConfigurationService :=
  let result : ConfigurationApplyResult :=
    { previousRevision := service.active.revision, activeRevision := service.active.revision }
  if service.locked then ({ result with status := .rejectedLocked }, service)
  else if expectedActiveRevision ≠ service.active.revision then
    ({ result with status := .rejectedRevisionConflict }, service)
  else if candidate.revision ≤ service.active.revision then
    ({ result with status := .rejectedNonMonotonicRevision }, service)
  else
    let result := { result with validation := validateConfiguration candidate }
    if !result.validation.valid then
      ({ result with
          status := if candidate.schemaVersion ≠ configurationSchemaVersion then .rejectedInvalidSchema
            else .rejectedInvalidValue }, service)
    else
      ({ result with status := .accepted, activeRevision := candidate.revision },
        { service with active := candidate, valid := true })

def lock (service : ConfigurationService) : Bool × ConfigurationService :=
  if !service.valid || service.locked then (false, service) else (true, { service with locked := true })

/-- the two calls that can change the service -/
inductive Call where
  | apply (candidate : SystemConfiguration) (expectedActiveRevision : UInt64)
  | lock
deriving DecidableEq, Repr

inductive Result where
  | apply (result : ConfigurationApplyResult)
  | lock (locked : Bool)
deriving DecidableEq, Repr

def call (service : ConfigurationService) : Call → Result × ConfigurationService
  | .apply candidate expected => (.apply (service.apply candidate expected).1, (service.apply candidate expected).2)
  | .lock => (.lock service.lock.1, service.lock.2)

/-- the service after a list of calls -/
def run (initial : SystemConfiguration) (calls : List Call) : ConfigurationService :=
  Machine.final call (ofConfig initial) calls

end ConfigurationService

/-! ## What is validated -/

/-- one check of a validation chain -/
theorem valid_check_iff {c : Prop} [Decidable c] {field message : String} {rest : ConfigurationValidationResult} :
    (if c then invalidConfiguration field message else rest).valid = true ↔ ¬ c ∧ rest.valid = true := by
  by_cases h : c <;> simp [h, invalidConfiguration]

/-- a nested validation of a chain -/
theorem valid_nested_iff {result rest : ConfigurationValidationResult} :
    (if !result.valid then result else rest).valid = true ↔ result.valid = true ∧ rest.valid = true := by
  by_cases h : result.valid = true <;> simp [h]

theorem validateRateGroup_valid_iff (field : String) (periodTicks phaseTicks deadlineTicks : UInt32) :
    (validateRateGroup field periodTicks phaseTicks deadlineTicks).valid = true ↔
      periodTicks ≠ 0 ∧ phaseTicks < periodTicks ∧ deadlineTicks ≠ 0 ∧ deadlineTicks ≤ periodTicks := by
  unfold validateRateGroup
  simp only [valid_check_iff, ge_iff_le, gt_iff_lt, UInt32.not_le, UInt32.not_lt]
  simp [validConfiguration]

/-- the conditions of `validate_configuration` -/
structure Validated (configuration : SystemConfiguration) : Prop where
  schema : configuration.schemaVersion = configurationSchemaVersion
  revision : configuration.revision ≠ 0
  capacity : 16 ≤ configuration.executive.app.eventLogCapacity ∧ configuration.executive.app.eventLogCapacity ≤ 4096
  age : configuration.executive.app.groundCommandGuard.maximumAgeMs ≠ GroundCommandGuard.uint64Max
  skew : configuration.executive.app.groundCommandGuard.maximumFutureSkewMs ≠ GroundCommandGuard.uint64Max
  recovery : configuration.executive.app.recoverySupervisor.maximumFailedAttempts ≠ 0
  flight : (validateFlight configuration.executive).valid = true
  housekeeping : (validateHousekeeping configuration.executive).valid = true

theorem validateConfiguration_valid_iff (configuration : SystemConfiguration) :
    (validateConfiguration configuration).valid = true ↔ Validated configuration := by
  unfold validateConfiguration
  simp only [valid_check_iff, valid_nested_iff, not_or, not_lt, gt_iff_lt, not_not, ne_eq]
  constructor
  · intro h
    obtain ⟨hschema, hrevision, hcapacity, hage, hskew, hrecovery, hflight, hhousekeeping, -⟩ := h
    exact ⟨hschema, hrevision, hcapacity, hage, hskew, hrecovery, hflight, hhousekeeping⟩
  · intro h
    exact ⟨h.schema, h.revision, h.capacity, h.age, h.skew, h.recovery, h.flight, h.housekeeping, rfl⟩

namespace ConfigurationService

variable {service : ConfigurationService} {candidate : SystemConfiguration} {expected : UInt64}

/-! ## One call -/

/-- an apply that names the active revision, on an unlocked service, with a later and valid candidate -/
structure Acceptable (service : ConfigurationService) (candidate : SystemConfiguration) (expected : UInt64) :
    Prop where
  unlocked : service.locked = false
  expected : expected = service.active.revision
  later : service.active.revision < candidate.revision
  validated : (validateConfiguration candidate).valid = true

theorem apply_of_acceptable (h : Acceptable service candidate expected) :
    service.apply candidate expected =
      ({ status := .accepted
         previousRevision := service.active.revision
         activeRevision := candidate.revision
         validation := validateConfiguration candidate },
        { service with active := candidate, valid := true }) := by
  have hlater : ¬ candidate.revision ≤ service.active.revision := UInt64.not_le.2 h.later
  simp [apply, h.unlocked, h.expected, hlater, h.validated]

/-- **A rejected apply leaves every field.** -/
theorem apply_of_not_acceptable (h : ¬ Acceptable service candidate expected) :
    (service.apply candidate expected).1.status ≠ .accepted ∧ (service.apply candidate expected).2 = service := by
  by_cases hlocked : service.locked = true
  · simp [apply, hlocked]
  by_cases hexpected : expected = service.active.revision
  · by_cases hlater : candidate.revision ≤ service.active.revision
    · simp [apply, hlocked, hexpected, hlater]
    · have hinvalid : (validateConfiguration candidate).valid = false := by
        rw [Bool.eq_false_iff]
        intro hvalid
        exact h ⟨by simpa using hlocked, hexpected, UInt64.not_le.1 hlater, hvalid⟩
      simp only [apply, hlocked, hexpected, hlater, hinvalid]
      by_cases hschema : candidate.schemaVersion ≠ configurationSchemaVersion <;> simp [hschema]
  · simp [apply, hlocked, hexpected]

theorem apply_accepted_iff :
    (service.apply candidate expected).1.status = .accepted ↔ Acceptable service candidate expected := by
  constructor
  · intro haccepted
    by_contra h
    exact (apply_of_not_acceptable h).1 haccepted
  · intro h
    rw [apply_of_acceptable h]

/-! ## Every list of calls -/

/-- the update an accepted apply makes: the revision it names and the one it installs -/
def acceptedUpdate (service : ConfigurationService) : Call → Option (ℕ × ℕ)
  | .apply candidate expected =>
    if (service.apply candidate expected).1.status = .accepted then some (expected.toNat, candidate.revision.toNat)
    else none
  | .lock => none

/-- the accepted updates of a run, in order -/
def acceptedUpdates (initial : SystemConfiguration) (calls : List Call) : List (ℕ × ℕ) :=
  (Machine.trace call (ofConfig initial) calls).filterMap fun e => acceptedUpdate e.1 e.2

theorem acceptedUpdates_snoc (initial : SystemConfiguration) (calls : List Call) (c : Call) :
    acceptedUpdates initial (calls ++ [c]) =
      acceptedUpdates initial calls ++ (acceptedUpdate (run initial calls) c).toList := by
  rw [acceptedUpdates, Machine.trace_append, List.filterMap_append]
  congr 1

/-- what holds between any two calls -/
structure Consistent (service : ConfigurationService) : Prop where
  valid : service.valid = (validateConfiguration service.active).valid
  locked : service.locked = true → service.valid = true

theorem Consistent.call (h : Consistent service) (c : Call) : Consistent (service.call c).2 := by
  cases c with
  | apply candidate expected =>
    change Consistent (service.apply candidate expected).2
    by_cases hacceptable : Acceptable service candidate expected
    · rw [apply_of_acceptable hacceptable]
      exact ⟨hacceptable.validated.symm, fun _ => rfl⟩
    · rw [(apply_of_not_acceptable hacceptable).2]
      exact h
  | lock =>
    change Consistent service.lock.2
    unfold lock
    split_ifs with hrefused
    · exact h
    · refine ⟨h.valid, fun _ => ?_⟩
      simp only [Bool.or_eq_true, Bool.not_eq_true', not_or, Bool.not_eq_false] at hrefused
      exact hrefused.1

theorem run_consistent (initial : SystemConfiguration) (calls : List Call) : Consistent (run initial calls) :=
  Machine.final_inv call (fun _ c h => h.call c) ⟨rfl, by simp [ofConfig]⟩ calls

/-- validity is never lost -/
theorem valid_call (h : service.valid = true) (c : Call) : (service.call c).2.valid = true := by
  cases c with
  | apply candidate expected =>
    change (service.apply candidate expected).2.valid = true
    by_cases hacceptable : Acceptable service candidate expected
    · rw [apply_of_acceptable hacceptable]
    · rw [(apply_of_not_acceptable hacceptable).2, h]
  | lock =>
    change service.lock.2.valid = true
    unfold lock
    split_ifs
    · exact h
    · exact h

/-- a locked service never changes -/
theorem call_of_locked (h : service.locked = true) (c : Call) : (service.call c).2 = service := by
  cases c with
  | apply candidate expected =>
    have hacceptable : ¬ Acceptable service candidate expected := fun ha => by simp [ha.unlocked] at h
    exact (apply_of_not_acceptable hacceptable).2
  | lock =>
    change service.lock.2 = service
    simp [lock, h]

theorem final_of_locked (h : service.locked = true) (calls : List Call) :
    Machine.final call service calls = service := by
  induction calls with
  | nil => rfl
  | cons c calls ih => rw [Machine.final_cons, call_of_locked h, ih]

/-- a successful lock -/
theorem lock_of_success (h : service.lock.1 = true) : service.lock.2 = { service with locked := true } := by
  unfold lock at h ⊢
  split_ifs at h ⊢
  rfl

/-- **The accepted applies are the updates of a versioned register.** -/
theorem run_updates (initial : SystemConfiguration) (calls : List Call) :
    VersionedRegister.Updates initial.revision.toNat (acceptedUpdates initial calls)
      (run initial calls).active.revision.toNat := by
  induction calls using List.reverseRecOn with
  | nil => exact .init
  | append_singleton calls c ih =>
    have hrun : run initial (calls ++ [c]) = ((run initial calls).call c).2 := Machine.final_snoc _ _ _ _
    rw [acceptedUpdates_snoc, hrun]
    cases c with
    | apply candidate expected =>
      change VersionedRegister.Updates _ _ ((run initial calls).apply candidate expected).2.active.revision.toNat
      by_cases hacceptable : Acceptable (run initial calls) candidate expected
      · rw [apply_of_acceptable hacceptable, acceptedUpdate, if_pos (apply_accepted_iff.2 hacceptable),
          hacceptable.expected]
        exact ih.install (UInt64.lt_iff_toNat_lt.1 hacceptable.later)
      · rw [(apply_of_not_acceptable hacceptable).2, acceptedUpdate, if_neg (apply_of_not_acceptable hacceptable).1]
        simpa using ih
    | lock =>
      change VersionedRegister.Updates _ _ (run initial calls).lock.2.active.revision.toNat
      have hactive : (run initial calls).lock.2.active = (run initial calls).active := by
        unfold lock
        split_ifs <;> rfl
      rw [hactive]
      simpa [acceptedUpdate] using ih

/-- **A lost-update-free versioned register.** For every initial configuration and every list of calls:
- the service is valid exactly when its active configuration validates, validity is never lost, and a locked service is
  valid;
- an apply is accepted exactly when the service is not locked, the expected revision is the active one, the candidate's
  revision is later and the candidate validates; it makes the candidate active, and any other result changes nothing;
- accepted revisions increase strictly, each accepted apply names the revision installed by the accepted one before it,
  or the initial one, and no revision is named by two;
- after a successful lock nothing changes. -/
theorem service_versioned (initial : SystemConfiguration) (calls : List Call) :
    ((run initial calls).valid = true ↔ (validateConfiguration (run initial calls).active).valid = true) ∧
    (∀ pre post, calls = pre ++ post → (run initial pre).valid = true → (run initial calls).valid = true) ∧
    ((run initial calls).locked = true → (run initial calls).valid = true) ∧
    (∀ candidate expected,
      (((run initial calls).apply candidate expected).1.status = .accepted ↔
        (run initial calls).locked = false ∧ expected = (run initial calls).active.revision ∧
          (run initial calls).active.revision < candidate.revision ∧
          (validateConfiguration candidate).valid = true) ∧
      (((run initial calls).apply candidate expected).1.status = .accepted →
        ((run initial calls).apply candidate expected).2.active = candidate) ∧
      (((run initial calls).apply candidate expected).1.status ≠ .accepted →
        ((run initial calls).apply candidate expected).2 = run initial calls)) ∧
    ((acceptedUpdates initial calls).map Prod.snd).Pairwise (· < ·) ∧
    (∀ pre u post, acceptedUpdates initial calls = pre ++ u :: post →
      u.1 = (pre.getLast?.map Prod.snd).getD initial.revision.toNat) ∧
    ((acceptedUpdates initial calls).map Prod.fst).Nodup ∧
    ∀ pre post, calls = pre ++ Call.lock :: post → (run initial pre).lock.1 = true →
      run initial calls = { run initial pre with locked := true } := by
  have hconsistent := run_consistent initial calls
  have hupdates := run_updates initial calls
  refine ⟨by rw [hconsistent.valid], ?_, hconsistent.locked, ?_, hupdates.installed_sorted, ?_,
    hupdates.replaced_nodup, ?_⟩
  · intro pre post hsplit hvalid
    rw [hsplit, run, Machine.final_append]
    exact Machine.final_inv (P := fun service => service.valid = true) call (fun _ c h => valid_call h c) hvalid post
  · intro candidate expected
    refine ⟨?_, ?_, ?_⟩
    · rw [apply_accepted_iff]
      exact ⟨fun h => ⟨h.unlocked, h.expected, h.later, h.validated⟩, fun ⟨h₁, h₂, h₃, h₄⟩ => ⟨h₁, h₂, h₃, h₄⟩⟩
    · intro haccepted
      rw [apply_of_acceptable (apply_accepted_iff.1 haccepted)]
    · intro hrejected
      exact (apply_of_not_acceptable (mt apply_accepted_iff.2 hrejected)).2
  · intro pre u post hsplit
    exact hupdates.replaces_preceding hsplit
  · intro pre post hsplit hlock
    have hlocked : (run initial pre).lock.2 = { run initial pre with locked := true } := lock_of_success hlock
    rw [hsplit, run, Machine.final_append, Machine.final_cons]
    change Machine.final call (run initial pre).lock.2 post = _
    rw [hlocked]
    exact final_of_locked rfl post

end ConfigurationService

end AstraFsw
