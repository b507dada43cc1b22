/-
Event-log evidence of mode and fault changes.

A step writes the mode and the active fault in two places, the ground command and the response to the internal fault
(`stepChanges`), and logs once at its end, from the values before and after the whole step (`stepEntries`). So
- one change of a kind is recorded exactly, and two changes of one kind in one step are not (`evidenced_iff`);
- the MODE event stands before the FDIR event, and a fault response writes the fault before the mode
  (`evidencedInOrder_iff`);
- `changes_evidenced_iff`: both characterisations over every run in which nothing is dropped.
`change_masked` is a step from BOOT whose command enters NOMINAL and whose sensor timeout enters SAFE: the log holds
BOOT->SAFE alone.
-/
import AstraFsw.App.Step

namespace AstraFsw.FlightSoftwareApp

open FdirManager (dispositionFor faultMode)

/-! ## The changes inside a step -/

inductive Change where
  | mode (before after : Mode)
  | fault (before after : FaultCode)
deriving DecidableEq, Repr

namespace Change

/-- the source of the events that record changes of this kind -/
def source : Change → EventSource
  | mode _ _ => .mode
  | fault _ _ => .fdir

/-- the event records exactly the old and the new value -/
def RecordedBy : Change → EventRecord → Prop
  | mode before after, record => record.source = .mode ∧ record.code = after.toRaw.toUInt16 ∧
      record.message = "mode=" ++ before.toString ++ "->" ++ after.toString
  | fault before after, record => record.source = .fdir ∧ record.code = after.toRaw ∧
      ∃ response, record.message =
        "fault=" ++ before.toString ++ "->" ++ after.toString ++ " response=" ++ response

theorem RecordedBy.source_eq {change : Change} {record : EventRecord} (h : change.RecordedBy record) :
    record.source = change.source := by
  cases change <;> exact h.1

theorem RecordedBy.with_sequence {change : Change} {record : EventRecord} (h : change.RecordedBy record) (n : UInt64) :
    change.RecordedBy { record with sequence := n } := by
  cases change <;> exact h

end Change

/-- the changes one part of a step makes, in the order of its assignments: INJECT_FAULT sets the fault before its
response moves the mode, and no part sets either one twice -/
def changesBetween (c c' : CommandProcessor) : List Change :=
  (if c'.lastFault ≠ c.lastFault then [.fault c.lastFault c'.lastFault] else []) ++
    (if c'.modeManager.mode ≠ c.modeManager.mode then [.mode c.modeManager.mode c'.modeManager.mode] else [])

variable (app : FlightSoftwareApp) (input : FlightSoftwareStepInput)

/-- the changes of a whole step -/
def stepChanges : List Change :=
  changesBetween app.commandProcessor (app.afterGround input) ++
    changesBetween (app.afterGround input) (app.step input).2.commandProcessor

/-- every change of mode and every change of fault is recorded by an event of the step, in order for each kind -/
def Evidenced : Prop :=
  ∃ events, (app.step input).2.eventLogger.snapshot = app.eventLogger.snapshot ++ events ∧
    (∀ record ∈ events, record.timestampMs = input.timestampMs) ∧
    List.SublistForall₂ Change.RecordedBy ((app.stepChanges input).filter (·.source = .mode)) events ∧
    List.SublistForall₂ Change.RecordedBy ((app.stepChanges input).filter (·.source = .fdir)) events

/-- the same, in one order for both kinds -/
def EvidencedInOrder : Prop :=
  ∃ events, (app.step input).2.eventLogger.snapshot = app.eventLogger.snapshot ++ events ∧
    (∀ record ∈ events, record.timestampMs = input.timestampMs) ∧
    List.SublistForall₂ Change.RecordedBy (app.stepChanges input) events

/-! ## The mode and the fault the command asks for -/

/-- mode and active fault after the step's command, from the state before the step -/
def commanded : Mode × FaultCode :=
  match input.command with
  | none => (app.currentMode, app.lastFault)
  | some packet =>
    if app.Admitted packet input.timestampMs then
      match packet.commandId with
      | .clearFault => (app.currentMode, .none)
      | .setMode =>
        match commandArgumentToMode packet.argument with
        | none => (app.currentMode, app.lastFault)
        | some m =>
          if ModeManager.isValidTransition app.currentMode m then (m, app.lastFault)
          else if app.currentMode = .recovery ∧ app.commandProcessor.recoverySupervisor.atLimit then
            (.safe, app.lastFault)
          else (app.currentMode, app.lastFault)
      | .injectFault =>
        match commandArgumentToFault packet.argument with
        | none => (app.currentMode, app.lastFault)
        | some f => (faultMode (dispositionFor f).response app.currentMode, f)
      | _ => (app.currentMode, app.lastFault)
    else (app.currentMode, app.lastFault)

variable {app input} in
theorem GroundStep.commanded {packet : CommandPacket} {status : CommandStatus} {guard : GroundCommandGuard}
    {processor : CommandProcessor} (h : app.GroundStep packet input.timestampMs status guard processor)
    (hc : input.command = some packet) :
    app.commanded input = (processor.modeManager.mode, processor.lastFault) := by
  unfold FlightSoftwareApp.commanded
  rw [hc]
  cases h with
  | guardRefused hg => exact if_neg fun h => hg h.1
  | unauthorized _ hp => exact if_neg fun h => absurd (h.2.symm.trans hp) (by simp)
  | processed _ _ hg hp hstep =>
    have hadmitted : app.Admitted packet input.timestampMs := ⟨hg, hp⟩
    simp only [hadmitted, if_true]
    cases hstep with
    | idle h1 h2 h3 => cases hid : packet.commandId <;> first | rfl | exact absurd hid ‹_›
    | clear hid => simp [hid, currentMode]
    | badMode hid hm => simp [hid, hm, currentMode, lastFault]
    | badFault hid hf => simp [hid, hf, currentMode, lastFault]
    | move m hid hm hv =>
      have hv' : ModeManager.isValidTransition app.currentMode m = true := hv
      simp [hid, hm, hv', lastFault]
    | refuse m hid hm hv hr =>
      have hv' : ModeManager.isValidTransition app.currentMode m = false := hv
      have hr' : app.currentMode ≠ .recovery := hr
      simp only [hid, hm, hv', hr', false_and, Bool.false_eq_true, if_false]
      rfl
    | failedExit m hid hm hv _ hl =>
      have hv' : ModeManager.isValidTransition app.currentMode m = false := hv
      simp only [hid, hm, hv', hl, and_false, Bool.false_eq_true, if_false]
      rfl
    | recoveryLimit m hid hm hv hr hl =>
      have hv' : ModeManager.isValidTransition app.currentMode m = false := hv
      have hr' : app.currentMode = .recovery := hr
      rw [hr'] at hv'
      simp only [hid, hm, hr', hv', hl, and_self, Bool.false_eq_true, if_false, if_true]
      rfl
    | inject f hid hf => simp [hid, hf, currentMode]

theorem commanded_eq :
    app.commanded input = ((app.afterGround input).modeManager.mode, (app.afterGround input).lastFault) := by
  cases hc : input.command with
  | none =>
    rw [afterGround_of_none app input hc, commanded, hc]
    rfl
  | some packet => exact (step_ground app input hc).commanded hc

/-- the command changes the mode -/
def CommandMoves : Prop := (app.commanded input).1 ≠ app.currentMode

/-- the command changes the active fault -/
def CommandWrites : Prop := (app.commanded input).2 ≠ app.lastFault

/-- the response to the selected internal fault changes the mode the command left -/
def ResponseMoves : Prop :=
  faultMode (dispositionFor (app.primaryFault input)).response (app.commanded input).1 ≠ (app.commanded input).1

/-- the selected internal fault replaces the active fault the command left -/
def ResponseWrites : Prop := app.primaryFault input ≠ .none ∧ app.primaryFault input ≠ (app.commanded input).2

instance : Decidable (app.CommandMoves input) := by unfold CommandMoves; infer_instance
instance : Decidable (app.CommandWrites input) := by unfold CommandWrites; infer_instance
instance : Decidable (app.ResponseMoves input) := by unfold ResponseMoves; infer_instance
instance : Decidable (app.ResponseWrites input) := by unfold ResponseWrites; infer_instance

/-- two changes of one kind in one step -/
def Masks : Prop :=
  (app.CommandMoves input ∧ app.ResponseMoves input) ∨ (app.CommandWrites input ∧ app.ResponseWrites input)

/-- the fault changes before the mode does -/
def FaultFirst : Prop :=
  (app.CommandWrites input ∧ (app.CommandMoves input ∨ app.ResponseMoves input)) ∨
    (app.ResponseWrites input ∧ app.ResponseMoves input)

instance : Decidable (app.Masks input) := by unfold Masks; infer_instance
instance : Decidable (app.FaultFirst input) := by unfold FaultFirst; infer_instance

theorem afterGround_mode_ne_iff :
    (app.afterGround input).modeManager.mode ≠ app.currentMode ↔ app.CommandMoves input := by
  rw [CommandMoves, commanded_eq]

theorem afterGround_lastFault_ne_iff :
    (app.afterGround input).lastFault ≠ app.lastFault ↔ app.CommandWrites input := by
  rw [CommandWrites, commanded_eq]

theorem step_currentMode_ne_iff :
    (app.step input).2.currentMode ≠ (app.afterGround input).modeManager.mode ↔ app.ResponseMoves input := by
  rw [ResponseMoves, commanded_eq, step_currentMode]

theorem step_lastFault_ne_iff :
    (app.step input).2.lastFault ≠ (app.afterGround input).lastFault ↔ app.ResponseWrites input := by
  rw [ResponseWrites, commanded_eq, step_lastFault]
  split_ifs with h <;> simp [h]

/-! ## The entries of a step -/

/-- what `record_step_events` logs, in order -/
def stepEntries (timestampMs : UInt64) (modeBefore modeAfter : Mode) (faultBefore faultAfter : FaultCode)
    (output : FlightSoftwareStepOutput) : List EventRecord :=
  (if output.commandProcessed then
    [{ timestampMs, severity := if output.commandResult.status = .accepted then .info else .warning, source := .command
       code := output.commandResult.commandId.toRaw
       message := "sequence=" ++ toString output.commandResult.sequenceNumber.toNat ++
          " status=" ++ output.commandResult.status.toString ++
          " message=" ++ output.commandResult.message }] else []) ++
  (if modeAfter ≠ modeBefore then
    [{ timestampMs, severity := .info, source := .mode, code := modeAfter.toRaw.toUInt16
       message := "mode=" ++ modeBefore.toString ++ "->" ++ modeAfter.toString }] else []) ++
  (if faultAfter ≠ faultBefore then
    [{ timestampMs
       severity := if faultAfter ≠ .none then eventSeverityForFault (dispositionFor faultAfter) else .info
       source := .fdir, code := faultAfter.toRaw
       message := "fault=" ++ faultBefore.toString ++ "->" ++ faultAfter.toString ++ " response=" ++
          if faultAfter ≠ .none then (dispositionFor faultAfter).response.toString else "CLEARED" }] else [])

theorem recordStepEvents_eq (logger : EventLogger) (timestampMs : UInt64) (modeBefore modeAfter : Mode)
    (faultBefore faultAfter : FaultCode) (output : FlightSoftwareStepOutput) :
    recordStepEvents logger timestampMs modeBefore modeAfter faultBefore faultAfter output =
      logger.logAll (stepEntries timestampMs modeBefore modeAfter faultBefore faultAfter output) := by
  unfold recordStepEvents stepEntries
  rw [EventLogger.logAll_append, EventLogger.logAll_append]
  cases output.commandProcessed <;> by_cases hm : modeAfter = modeBefore <;> by_cases hf : faultAfter = faultBefore <;>
    simp [hm, hf]

variable (timestampMs : UInt64) (modeBefore modeAfter : Mode) (faultBefore faultAfter : FaultCode)
  (output : FlightSoftwareStepOutput)

theorem stepEntries_source :
    ((stepEntries timestampMs modeBefore modeAfter faultBefore faultAfter output).map (·.source)).Sublist
      [.command, .mode, .fdir] := by
  unfold stepEntries
  cases output.commandProcessed <;> by_cases hm : modeAfter = modeBefore <;> by_cases hf : faultAfter = faultBefore <;>
    simp [hm, hf]

theorem stepEntries_timestampMs :
    ∀ record ∈ stepEntries timestampMs modeBefore modeAfter faultBefore faultAfter output,
      record.timestampMs = timestampMs := by
  unfold stepEntries
  intro record h
  simp only [List.mem_append] at h
  rcases h with (h | h) | h <;> split_ifs at h <;> simp_all

theorem length_stepEntries :
    (stepEntries timestampMs modeBefore modeAfter faultBefore faultAfter output).length ≤ 3 := by
  simpa using (stepEntries_source timestampMs modeBefore modeAfter faultBefore faultAfter output).length_le

/-- the changes the entries stand for: those between the values before and after the step -/
def netChanges (modeBefore modeAfter : Mode) (faultBefore faultAfter : FaultCode) : List Change :=
  (if modeAfter ≠ modeBefore then [.mode modeBefore modeAfter] else []) ++
    (if faultAfter ≠ faultBefore then [.fault faultBefore faultAfter] else [])

theorem sublistForall₂_append {α β : Type*} {R : α → β → Prop} {a c : List α} {b d : List β}
    (h : List.SublistForall₂ R a b) (h' : List.SublistForall₂ R c d) : List.SublistForall₂ R (a ++ c) (b ++ d) := by
  induction h with
  | @nil l =>
    induction l with
    | nil => exact h'
    | cons x l ih => exact ih.cons_right
  | cons hr _ ih => exact ih.cons hr
  | cons_right _ ih => exact ih.cons_right

theorem netChanges_recorded :
    List.SublistForall₂ Change.RecordedBy (netChanges modeBefore modeAfter faultBefore faultAfter)
      (stepEntries timestampMs modeBefore modeAfter faultBefore faultAfter output) := by
  unfold netChanges stepEntries
  rw [List.append_assoc]
  refine sublistForall₂_append (a := []) List.SublistForall₂.nil (sublistForall₂_append ?_ ?_)
  · by_cases h : modeAfter ≠ modeBefore
    · rw [if_pos h, if_pos h]
      exact .cons ⟨rfl, rfl, rfl⟩ .nil
    · rw [if_neg h, if_neg h]
      exact .nil
  · by_cases h : faultAfter ≠ faultBefore
    · rw [if_pos h, if_pos h]
      exact .cons ⟨rfl, rfl, _, rfl⟩ .nil
    · rw [if_neg h, if_neg h]
      exact .nil

/-! ## Which changes the entries can record -/

theorem sublistForall₂_of_sublist {α β : Type*} {R : α → β → Prop} {a a' : List α} {b : List β}
    (h : List.SublistForall₂ R a b) (hs : a'.Sublist a) : List.SublistForall₂ R a' b := by
  induction h generalizing a' with
  | nil =>
    rw [List.eq_nil_of_sublist_nil hs]
    exact .nil
  | cons hr _ ih =>
    cases hs with
    | cons _ hs => exact (ih hs).cons_right
    | cons_cons _ hs => exact (ih hs).cons hr
  | cons_right _ ih => exact (ih hs).cons_right

/-- numbering the entries does not matter -/
theorem recorded_numbered {changes : List Change} {entries : List EventRecord}
    (h : List.SublistForall₂ Change.RecordedBy changes entries) (n : UInt64) :
    List.SublistForall₂ Change.RecordedBy changes (EventLogger.numbered n entries) := by
  induction h generalizing n with
  | nil => exact .nil
  | cons hr _ ih => exact .cons (hr.with_sequence n) (ih _)
  | cons_right _ ih => exact .cons_right (ih _)

theorem recorded_source {changes : List Change} {events : List EventRecord}
    (h : List.SublistForall₂ Change.RecordedBy changes events) :
    (changes.map Change.source).Sublist (events.map (·.source)) := by
  induction h with
  | nil => simp
  | cons hr _ ih =>
    rw [List.map_cons, List.map_cons, hr.source_eq]
    exact ih.cons_cons _
  | cons_right _ ih => exact ih.cons _

theorem changesBetween_filter_mode (c c' : CommandProcessor) :
    (changesBetween c c').filter (·.source = .mode) =
      if c'.modeManager.mode ≠ c.modeManager.mode then [.mode c.modeManager.mode c'.modeManager.mode] else [] := by
  unfold changesBetween
  split_ifs <;> rfl

theorem changesBetween_filter_fault (c c' : CommandProcessor) :
    (changesBetween c c').filter (·.source = .fdir) =
      if c'.lastFault ≠ c.lastFault then [.fault c.lastFault c'.lastFault] else [] := by
  unfold changesBetween
  split_ifs <;> rfl

/-- two changes of which one is none make one net change -/
theorem change_trans {α β : Type*} [DecidableEq α] (k : α → α → β) {a b c : α} (h : ¬ (b ≠ a ∧ c ≠ b)) :
    (if b ≠ a then [k a b] else []) ++ (if c ≠ b then [k b c] else []) = if c ≠ a then [k a c] else [] := by
  by_cases hba : b = a
  · subst hba
    simp
  · obtain rfl : c = b := not_not.1 fun hcb => h ⟨hba, hcb⟩
    simp [hba]

/-- without a second change of a kind, and without a fault change before a mode change, the changes are the net ones -/
theorem changes_eq_netChanges {m₀ m₁ m₂ : Mode} {f₀ f₁ f₂ : FaultCode} (hmode : ¬ (m₁ ≠ m₀ ∧ m₂ ≠ m₁))
    (hfault : ¬ (f₁ ≠ f₀ ∧ f₂ ≠ f₁))
    (horder : ¬ ((f₁ ≠ f₀ ∧ (m₁ ≠ m₀ ∨ m₂ ≠ m₁)) ∨ (f₂ ≠ f₁ ∧ m₂ ≠ m₁))) :
    ((if f₁ ≠ f₀ then [Change.fault f₀ f₁] else []) ++ (if m₁ ≠ m₀ then [Change.mode m₀ m₁] else [])) ++
      ((if f₂ ≠ f₁ then [Change.fault f₁ f₂] else []) ++ (if m₂ ≠ m₁ then [Change.mode m₁ m₂] else [])) =
    netChanges m₀ m₂ f₀ f₂ := by
  unfold netChanges
  by_cases hf : f₁ = f₀
  · subst hf
    by_cases hm : m₂ = m₁
    · subst hm
      simp
    · obtain rfl : m₁ = m₀ := not_not.1 fun h => hmode ⟨h, hm⟩
      obtain rfl : f₂ = f₁ := not_not.1 fun h => horder (Or.inr ⟨h, hm⟩)
      simp
  · obtain rfl : f₂ = f₁ := not_not.1 fun h => hfault ⟨hf, h⟩
    obtain rfl : m₁ = m₀ := not_not.1 fun h => horder (Or.inl ⟨hf, Or.inl h⟩)
    obtain rfl : m₂ = m₁ := not_not.1 fun h => horder (Or.inl ⟨hf, Or.inr h⟩)
    simp

/-! ## One step -/

/-- the log can record, and has dropped nothing yet -/
structure LogIntact (logger : EventLogger) : Prop where
  valid : logger.valid = true
  startIndex : logger.startIndex = 0
  droppedCount : logger.droppedCount = 0

/-- the entries of a step of the application -/
def entriesOf : List EventRecord :=
  stepEntries input.timestampMs app.currentMode (app.step input).2.currentMode app.lastFault
    (app.step input).2.lastFault (app.step input).1

theorem step_eventLogger : (app.step input).2.eventLogger = app.eventLogger.logAll (app.entriesOf input) := by
  rw [entriesOf, step]
  dsimp only
  -- the events are recorded before the telemetry is filled in, which the entries do not read
  rw [recordStepEvents_eq, stepEntries, stepEntries]
  rfl

variable {app input} in
/-- a step that drops nothing appends its entries -/
theorem LogIntact.step (h : LogIntact app.eventLogger) (hdrop : (app.step input).2.eventLogger.droppedCount = 0) :
    LogIntact (app.step input).2.eventLogger ∧
      (app.step input).2.eventLogger.snapshot =
        app.eventLogger.snapshot ++ EventLogger.numbered app.eventLogger.nextSequence (app.entriesOf input) := by
  have hlength : (app.entriesOf input).length ≤ 3 := length_stepEntries _ _ _ _ _ _
  have hcount := EventLogger.logAll_droppedCount h.valid (app.entriesOf input)
  rw [← step_eventLogger, hdrop, h.droppedCount, UInt64.toNat_zero, Nat.zero_add] at hcount
  have hroom : (app.entriesOf input).length ≤ app.eventLogger.capacity - app.eventLogger.records.length := by
    omega
  obtain ⟨hrecords, hstart⟩ := EventLogger.logAll_of_room hroom
  rw [← step_eventLogger] at hrecords hstart
  have hstart' := hstart.trans h.startIndex
  refine ⟨⟨?_, hstart', hdrop⟩, ?_⟩
  · rw [step_eventLogger, EventLogger.valid, EventLogger.logAll_capacity]
    exact h.valid
  · rw [EventLogger.snapshot_of_startIndex hstart', hrecords, EventLogger.snapshot_of_startIndex h.startIndex]

/-- a step records at most one event of each source, COMMAND before MODE before FDIR -/
theorem events_source {events : List EventRecord} (h : LogIntact app.eventLogger)
    (hdrop : (app.step input).2.eventLogger.droppedCount = 0)
    (hevents : (app.step input).2.eventLogger.snapshot = app.eventLogger.snapshot ++ events) :
    (events.map (·.source)).Sublist [.command, .mode, .fdir] := by
  rw [(h.step hdrop).2] at hevents
  rw [← List.append_cancel_left hevents, EventLogger.numbered_source]
  exact stepEntries_source _ _ _ _ _ _

theorem numbered_timestampMs {ts : UInt64} {entries : List EventRecord} (h : ∀ e ∈ entries, e.timestampMs = ts)
    (n : UInt64) : ∀ e ∈ EventLogger.numbered n entries, e.timestampMs = ts := by
  induction entries generalizing n with
  | nil => simp [EventLogger.numbered]
  | cons e entries ih =>
    intro record hrecord
    rcases List.mem_cons.1 hrecord with rfl | hrecord
    · exact h e List.mem_cons_self
    · exact ih (fun e he => h e (List.mem_cons_of_mem _ he)) _ record hrecord

/-- the mode changes of a step -/
theorem stepChanges_filter_mode :
    (app.stepChanges input).filter (·.source = .mode) =
      (if (app.afterGround input).modeManager.mode ≠ app.currentMode then
        [Change.mode app.currentMode (app.afterGround input).modeManager.mode] else []) ++
      (if (app.step input).2.currentMode ≠ (app.afterGround input).modeManager.mode then
        [Change.mode (app.afterGround input).modeManager.mode (app.step input).2.currentMode] else []) := by
  rw [stepChanges, List.filter_append, changesBetween_filter_mode, changesBetween_filter_mode]
  rfl

/-- the fault changes of a step -/
theorem stepChanges_filter_fault :
    (app.stepChanges input).filter (·.source = .fdir) =
      (if (app.afterGround input).lastFault ≠ app.lastFault then
        [Change.fault app.lastFault (app.afterGround input).lastFault] else []) ++
      (if (app.step input).2.lastFault ≠ (app.afterGround input).lastFault then
        [Change.fault (app.afterGround input).lastFault (app.step input).2.lastFault] else []) := by
  rw [stepChanges, List.filter_append, changesBetween_filter_fault, changesBetween_filter_fault]
  rfl

/-- **One step, each kind in order.** The changes are evidenced exactly when neither kind changes twice. -/
theorem evidenced_iff (h : LogIntact app.eventLogger) (hdrop : (app.step input).2.eventLogger.droppedCount = 0) :
    app.Evidenced input ↔ ¬ app.Masks input := by
  constructor
  · rintro ⟨events, hevents, -, hmode, hfault⟩ hmasks
    have hsource := app.events_source input h hdrop hevents
    rw [Masks, ← afterGround_mode_ne_iff, ← step_currentMode_ne_iff, ← afterGround_lastFault_ne_iff,
      ← step_lastFault_ne_iff] at hmasks
    -- two events of one source are needed, and a step logs one
    rcases hmasks with ⟨h₁, h₂⟩ | ⟨h₁, h₂⟩
    · have htwo := (recorded_source hmode).trans hsource
      rw [stepChanges_filter_mode, if_pos h₁, if_pos h₂] at htwo
      change [EventSource.mode, EventSource.mode].Sublist _ at htwo
      revert htwo
      decide
    · have htwo := (recorded_source hfault).trans hsource
      rw [stepChanges_filter_fault, if_pos h₁, if_pos h₂] at htwo
      change [EventSource.fdir, EventSource.fdir].Sublist _ at htwo
      revert htwo
      decide
  · intro hmasks
    rw [Masks, ← afterGround_mode_ne_iff, ← step_currentMode_ne_iff, ← afterGround_lastFault_ne_iff,
      ← step_lastFault_ne_iff] at hmasks
    obtain ⟨hmode, hfault⟩ := not_or.1 hmasks
    have hnet := recorded_numbered (netChanges_recorded input.timestampMs app.currentMode (app.step input).2.currentMode
      app.lastFault (app.step input).2.lastFault (app.step input).1) app.eventLogger.nextSequence
    refine ⟨_, (h.step hdrop).2, numbered_timestampMs (stepEntries_timestampMs _ _ _ _ _ _) _, ?_, ?_⟩
    · rw [stepChanges_filter_mode, change_trans Change.mode hmode]
      exact sublistForall₂_of_sublist hnet (List.sublist_append_left _ _)
    · rw [stepChanges_filter_fault, change_trans Change.fault hfault]
      exact sublistForall₂_of_sublist hnet (List.sublist_append_right _ _)

theorem stepChanges_source :
    (app.stepChanges input).map Change.source =
      ((if app.CommandWrites input then [EventSource.fdir] else []) ++
          (if app.CommandMoves input then [EventSource.mode] else [])) ++
        ((if app.ResponseWrites input then [EventSource.fdir] else []) ++
          (if app.ResponseMoves input then [EventSource.mode] else [])) := by
  have hpart : ∀ c c' : CommandProcessor, (changesBetween c c').map Change.source =
      (if c'.lastFault ≠ c.lastFault then [EventSource.fdir] else []) ++
        (if c'.modeManager.mode ≠ c.modeManager.mode then [EventSource.mode] else []) := by
    intro c c'
    unfold changesBetween
    split_ifs <;> rfl
  rw [stepChanges, List.map_append, hpart, hpart]
  exact congrArg₂ _
    (congrArg₂ _ (if_congr (app.afterGround_lastFault_ne_iff input) rfl rfl)
      (if_congr (app.afterGround_mode_ne_iff input) rfl rfl))
    (congrArg₂ _ (if_congr (app.step_lastFault_ne_iff input) rfl rfl)
      (if_congr (app.step_currentMode_ne_iff input) rfl rfl))

/-- **One step, both kinds in one order.** The MODE event stands before the FDIR event, so a fault change must not come
before a mode change either. -/
theorem evidencedInOrder_iff (h : LogIntact app.eventLogger)
    (hdrop : (app.step input).2.eventLogger.droppedCount = 0) :
    app.EvidencedInOrder input ↔ ¬ app.Masks input ∧ ¬ app.FaultFirst input := by
  constructor
  · rintro ⟨events, hevents, -, hchanges⟩
    have hsource := (recorded_source hchanges).trans (app.events_source input h hdrop hevents)
    rw [stepChanges_source] at hsource
    unfold Masks FaultFirst
    by_cases hcw : app.CommandWrites input <;> by_cases hcm : app.CommandMoves input <;>
      by_cases hrw : app.ResponseWrites input <;> by_cases hrm : app.ResponseMoves input <;>
      simp only [hcw, hcm, hrw, hrm, if_true, if_false] at hsource ⊢ <;> revert hsource <;> decide
  · rintro ⟨hmasks, hfirst⟩
    have hnet := recorded_numbered (netChanges_recorded input.timestampMs app.currentMode (app.step input).2.currentMode
      app.lastFault (app.step input).2.lastFault (app.step input).1) app.eventLogger.nextSequence
    refine ⟨_, (h.step hdrop).2, numbered_timestampMs (stepEntries_timestampMs _ _ _ _ _ _) _, ?_⟩
    obtain ⟨hmode, hfault⟩ := not_or.1 hmasks
    rw [← afterGround_mode_ne_iff, ← step_currentMode_ne_iff] at hmode
    rw [← afterGround_lastFault_ne_iff, ← step_lastFault_ne_iff] at hfault
    rw [FaultFirst, ← afterGround_mode_ne_iff, ← step_currentMode_ne_iff, ← afterGround_lastFault_ne_iff,
      ← step_lastFault_ne_iff] at hfirst
    have heq : app.stepChanges input = netChanges app.currentMode (app.step input).2.currentMode app.lastFault
        (app.step input).2.lastFault := changes_eq_netChanges hmode hfault hfirst
    rw [heq]
    exact hnet

/-! ## Whole runs -/

/-- the event log of a run is large enough: in every state reached the dropped count is 0 -/
def NothingDropped (cfg : FlightSoftwareAppConfig) (inputs : List FlightSoftwareStepInput) : Prop :=
  ∀ pre post, inputs = pre ++ post → (run cfg pre).eventLogger.droppedCount = 0

theorem run_logIntact {cfg : FlightSoftwareAppConfig} (hv : (ofConfig cfg).valid = true)
    (pre : List FlightSoftwareStepInput) (hdrop : NothingDropped cfg pre) : LogIntact (run cfg pre).eventLogger := by
  induction pre using List.reverseRecOn with
  | nil =>
    simp only [FlightSoftwareApp.valid, Bool.and_eq_true] at hv
    exact ⟨hv.2, rfl, rfl⟩
  | append_singleton pre input ih =>
    have hpre : NothingDropped cfg pre := fun p q hsplit => hdrop p (q ++ [input]) (by rw [hsplit, List.append_assoc])
    have hlast := hdrop (pre ++ [input]) [] (List.append_nil _).symm
    rw [run_snoc] at hlast ⊢
    exact ((ih hpre).step hlast).1

/-- every step of a run that drops nothing starts and ends with an intact log -/
theorem NothingDropped.of_mem_trace {cfg : FlightSoftwareAppConfig} {inputs : List FlightSoftwareStepInput}
    (hv : (ofConfig cfg).valid = true) (hdrop : NothingDropped cfg inputs)
    {e : FlightSoftwareApp × FlightSoftwareStepInput} (he : e ∈ Machine.trace step (ofConfig cfg) inputs) :
    LogIntact e.1.eventLogger ∧ (e.1.step e.2).2.eventLogger.droppedCount = 0 := by
  obtain ⟨pre, post, hsplit, hpre⟩ := (Machine.mem_trace step).1 he
  have hstate : run cfg pre = e.1 := hpre
  rw [← hstate]
  constructor
  · refine run_logIntact hv pre fun p q h => hdrop p (q ++ e.2 :: post) ?_
    rw [hsplit, h, List.append_assoc]
  · have hlast := hdrop (pre ++ [e.2]) post (by rw [hsplit, List.append_assoc]; rfl)
    rwa [run_snoc] at hlast

/-- **When the changes are evidenced.** In a run of a valid configuration that drops no event, every mode change and
every fault change is recorded, in order for each kind, exactly when no step changes the mode twice or the active fault
twice; and in one order for both kinds exactly when, besides, no step changes the fault before the mode. -/
theorem changes_evidenced_iff (cfg : FlightSoftwareAppConfig) (hv : (ofConfig cfg).valid = true)
    (inputs : List FlightSoftwareStepInput) (hdrop : NothingDropped cfg inputs) :
    ((∀ e ∈ Machine.trace step (ofConfig cfg) inputs, Evidenced e.1 e.2) ↔
      ∀ e ∈ Machine.trace step (ofConfig cfg) inputs, ¬ Masks e.1 e.2) ∧
    ((∀ e ∈ Machine.trace step (ofConfig cfg) inputs, EvidencedInOrder e.1 e.2) ↔
      ∀ e ∈ Machine.trace step (ofConfig cfg) inputs, ¬ Masks e.1 e.2 ∧ ¬ FaultFirst e.1 e.2) := by
  constructor
  · refine forall_congr' fun e => forall_congr' fun he => ?_
    obtain ⟨hintact, hlast⟩ := hdrop.of_mem_trace hv he
    exact evidenced_iff e.1 e.2 hintact hlast
  · refine forall_congr' fun e => forall_congr' fun he => ?_
    obtain ⟨hintact, hlast⟩ := hdrop.of_mem_trace hv he
    exact evidencedInOrder_iff e.1 e.2 hintact hlast

/-- from BOOT, SET_MODE to NOMINAL -/
def nominalCommand : FlightSoftwareStepInput := { command := some ⟨1, 0, .setMode, 1⟩ }

theorem nothingDropped_singleton {cfg : FlightSoftwareAppConfig} {input : FlightSoftwareStepInput}
    (h : ((ofConfig cfg).step input).2.eventLogger.droppedCount = 0) : NothingDropped cfg [input] := by
  intro pre post hsplit
  cases pre with
  | nil => rfl
  | cons i pre =>
    obtain ⟨rfl, hnil⟩ := List.cons.inj hsplit
    obtain ⟨rfl, -⟩ := List.append_eq_nil_iff.1 hnil.symm
    exact h

theorem changes_evidenced_nominal : Evidenced (ofConfig {}) nominalCommand :=
  (changes_evidenced_iff {} (by decide) [nominalCommand] (nothingDropped_singleton (by decide))).1.2 (by
    intro e he
    rw [Machine.trace_cons, Machine.trace_nil, List.mem_singleton] at he
    subst he
    decide) (ofConfig {}, nominalCommand) List.mem_cons_self

/-- the same command beside a sensor timeout: BOOT to NOMINAL to SAFE, and the log holds one MODE event -/
theorem change_masked :
    NothingDropped {} [{ nominalCommand with sensorAgeMs := 1000 }] ∧
      ¬ ∀ e ∈ Machine.trace step (ofConfig {}) [{ nominalCommand with sensorAgeMs := 1000 }], Evidenced e.1 e.2 := by
  refine ⟨nothingDropped_singleton (by decide), fun h => ?_⟩
  have hstep := h _ List.mem_cons_self
  exact (evidenced_iff _ _ ⟨by decide, rfl, rfl⟩ (by decide)).1 hstep (by decide)

end AstraFsw.FlightSoftwareApp
