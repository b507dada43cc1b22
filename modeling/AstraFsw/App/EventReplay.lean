/-
Telemetry and the event log, two reports of the same state.

Telemetry copies mode and active fault from the parts that hold them; the log records the differences between two copies
taken before and after the step. Since nothing writes mode or fault between steps, the copy taken before a step is what
the previous telemetry reported (`telemetered_eq`), so
- the events of a step are those its own and the previous telemetry call for (`expectedEvents`, `entriesOf_agrees`), and
  they are pushed on the ring buffer of the log (`step_snapshot`);
- replaying them leads from the previous telemetry to the step's own (`Agrees.replay_eq`), and replaying a snapshot from
  which nothing was dropped leads from BOOT and NONE to the mode and the active fault (`replay_snapshot`).
-/
import AstraFsw.App.Acknowledgement
import AstraFsw.App.Evidence

namespace AstraFsw.FlightSoftwareApp

variable (app : FlightSoftwareApp) (input : FlightSoftwareStepInput)

/-! ## The events of a step, from telemetry -/

/-- mode and active fault in the last telemetry of a run, BOOT and NONE before the first step -/
def telemetered (cfg : FlightSoftwareAppConfig) (inputs : List FlightSoftwareStepInput) : Mode × FaultCode :=
  (Machine.outputs step (ofConfig cfg) inputs).getLast?.elim (.boot, .none) fun output =>
    (output.telemetry.mode, output.telemetry.lastFault)

/-- nothing writes mode or fault between the telemetry of a step and the next step -/
theorem telemetered_eq (cfg : FlightSoftwareAppConfig) (inputs : List FlightSoftwareStepInput) :
    telemetered cfg inputs = ((run cfg inputs).currentMode, (run cfg inputs).lastFault) := by
  induction inputs using List.reverseRecOn with
  | nil => rfl
  | append_singleton inputs input _ =>
    rw [telemetered, Machine.outputs_snoc, List.getLast?_concat, run_snoc]
    rfl

/-- source and code of the events a step's telemetry calls for, after the telemetry before it -/
def expectedEvents (before : Mode × FaultCode) (input : FlightSoftwareStepInput) (telemetry : TelemetryPacket) :
    List (EventSource × UInt16) :=
  (input.command.map fun packet => (EventSource.command, packet.commandId.toRaw)).toList ++
    ((if telemetry.mode ≠ before.1 then [(EventSource.mode, telemetry.mode.toRaw.toUInt16)] else []) ++
      if telemetry.lastFault ≠ before.2 then [(EventSource.fdir, telemetry.lastFault.toRaw)] else [])

/-- the events agree with the telemetry of the step and the telemetry before it -/
structure Agrees (before : Mode × FaultCode) (input : FlightSoftwareStepInput) (telemetry : TelemetryPacket)
    (events : List EventRecord) : Prop where
  expected : events.map (fun record => (record.source, record.code)) = expectedEvents before input telemetry
  timestamps : ∀ record ∈ events, record.timestampMs = input.timestampMs
  severity : ∀ record ∈ events, record.source = .command →
    record.severity = if telemetry.lastCommandStatus = CommandStatus.toRaw .accepted then .info else .warning

theorem commandProcessed_eq : (app.step input).1.commandProcessed = input.command.isSome := by
  change (app.groundPhase input).1.isSome = _
  cases hc : input.command with
  | none => rw [groundPhase_of_none app input hc]; rfl
  | some packet => rw [groundPhase_of_some app input hc]; rfl

/-- the acknowledged status of a step with a command is that of its result -/
theorem step_acknowledged_iff (h : input.command.isSome = true) :
    (app.step input).1.telemetry.lastCommandStatus = CommandStatus.toRaw .accepted ↔
      (app.step input).1.commandResult.status = .accepted := by
  obtain ⟨packet, hc⟩ := Option.isSome_iff_exists.1 h
  have hstatus : (app.step input).1.telemetry.lastCommandStatus =
      (app.step input).1.commandResult.status.toRaw := by
    rw [step_commandResult_of_some app input hc, ((app.groundCommand_result packet input.timestampMs).2.2)]
    have hack := app.step_acknowledgement input
    rw [hc] at hack
    exact congrArg (fun fields => fields.2.2) hack
  rw [hstatus]
  cases (app.step input).1.commandResult.status <;> decide

/-- **One step.** What `record_step_events` logs is what telemetry calls for. -/
theorem entriesOf_agrees :
    Agrees (app.currentMode, app.lastFault) input (app.step input).1.telemetry (app.entriesOf input) := by
  have hmode : (app.step input).1.telemetry.mode = (app.step input).2.currentMode := rfl
  have hfault : (app.step input).1.telemetry.lastFault = (app.step input).2.lastFault := rfl
  refine ⟨?_, stepEntries_timestampMs _ _ _ _ _ _, ?_⟩
  · unfold entriesOf stepEntries expectedEvents
    rw [hmode, hfault, commandProcessed_eq]
    cases hc : input.command with
    | none =>
      simp only [Option.isSome_none, Bool.false_eq_true, if_false, List.nil_append, List.map_append,
        apply_ite (List.map _), List.map_cons, List.map_nil, Option.map_none, Option.toList_none]
    | some packet =>
      have hid : (app.step input).1.commandResult.commandId = packet.commandId := by
        rw [step_commandResult_of_some app input hc]
        exact (app.groundCommand_result packet input.timestampMs).2.1
      simp only [Option.isSome_some, if_true, List.map_append, apply_ite (List.map _), List.map_cons, List.map_nil, hid,
        Option.map_some, Option.toList_some, List.append_assoc]
  · intro record hrecord hsource
    unfold entriesOf stepEntries at hrecord
    simp only [List.mem_append, List.mem_ite_nil_right, List.mem_singleton] at hrecord
    rcases hrecord with (⟨hprocessed, rfl⟩ | ⟨-, rfl⟩) | ⟨-, rfl⟩
    · rw [commandProcessed_eq] at hprocessed
      change (if _ then EventSeverity.info else .warning) = _
      exact if_congr (app.step_acknowledged_iff input hprocessed).symm rfl rfl
    · cases hsource
    · cases hsource

/-! ## The log of a run -/

/-- the log of a valid application stores a ring buffer of the configured capacity -/
theorem run_stores {cfg : FlightSoftwareAppConfig} (hv : (ofConfig cfg).valid = true)
    (inputs : List FlightSoftwareStepInput) :
    ∃ r : RingBuffer EventRecord cfg.eventLogCapacity, (run cfg inputs).eventLogger.Stores r := by
  have hpos : 0 < cfg.eventLogCapacity := by
    simp only [FlightSoftwareApp.valid, EventLogger.valid, Bool.and_eq_true, decide_eq_true_eq] at hv
    exact hv.2
  refine run_inv (P := fun app => ∃ r : RingBuffer EventRecord cfg.eventLogCapacity, app.eventLogger.Stores r) ?_
    ⟨RingBuffer.empty hpos, rfl, rfl, rfl⟩ inputs
  rintro app input ⟨r, hr⟩
  rw [step_eventLogger]
  exact ⟨_, hr.logAll _⟩

/-- a step pushes its entries, numbered, on the log -/
theorem step_snapshot {cfg : FlightSoftwareAppConfig} (hv : (ofConfig cfg).valid = true)
    (inputs : List FlightSoftwareStepInput) :
    ((run cfg inputs).step input).2.eventLogger.snapshot =
      ((run cfg inputs).eventLogger.snapshot ++
        EventLogger.numbered (run cfg inputs).eventLogger.nextSequence ((run cfg inputs).entriesOf input)).rtake
          cfg.eventLogCapacity := by
  obtain ⟨r, hr⟩ := run_stores hv inputs
  rw [step_eventLogger, (hr.logAll _).snapshot_eq, RingBuffer.contents_pushAll, hr.snapshot_eq]

/-! ## Replay -/

/-- mode and active fault after an event with this source and code -/
def replayEvent (state : Mode × FaultCode) (event : EventSource × UInt16) : Mode × FaultCode :=
  match event.1 with
  | .mode => ((Mode.ofRaw? event.2.toUInt8).getD state.1, state.2)
  | .fdir => (state.1, .ofRaw event.2)
  | _ => state

def replay (state : Mode × FaultCode) (events : List EventRecord) : Mode × FaultCode :=
  (events.map fun record => (record.source, record.code)).foldl replayEvent state

theorem replay_append (state : Mode × FaultCode) (a b : List EventRecord) :
    replay state (a ++ b) = replay (replay state a) b := by
  rw [replay, List.map_append, List.foldl_append]
  rfl

/-- the numbers of the events do not matter -/
theorem replay_numbered (state : Mode × FaultCode) (n : UInt64) (events : List EventRecord) :
    replay state (EventLogger.numbered n events) = replay state events := by
  induction events generalizing state n with
  | nil => rfl
  | cons e events ih => exact ih (replayEvent state (e.source, e.code)) (n + 1)

/-- **One step.** Events that agree with the telemetry lead from the telemetry before to the telemetry after. -/
theorem Agrees.replay_eq {before : Mode × FaultCode} {input : FlightSoftwareStepInput} {telemetry : TelemetryPacket}
    {events : List EventRecord} (h : Agrees before input telemetry events) :
    replay before events = (telemetry.mode, telemetry.lastFault) := by
  have hcommand : (input.command.map fun packet => (EventSource.command, packet.commandId.toRaw)).toList.foldl
      replayEvent before = before := by
    cases input.command <;> rfl
  rw [replay, h.expected, expectedEvents, List.foldl_append, hcommand, List.foldl_append]
  by_cases hmode : telemetry.mode = before.1 <;> by_cases hfault : telemetry.lastFault = before.2 <;>
    simp [hmode, hfault, replayEvent]

/-- **Replay.** While nothing is dropped, the MODE and FDIR events of the log lead from BOOT and NONE to the mode and
the active fault. -/
theorem replay_snapshot {cfg : FlightSoftwareAppConfig} (hv : (ofConfig cfg).valid = true)
    (inputs : List FlightSoftwareStepInput) (hdrop : NothingDropped cfg inputs) :
    replay (.boot, .none) (run cfg inputs).eventLogger.snapshot =
      ((run cfg inputs).currentMode, (run cfg inputs).lastFault) := by
  induction inputs using List.reverseRecOn with
  | nil => rfl
  | append_singleton inputs input ih =>
    have hearlier : NothingDropped cfg inputs :=
      fun pre post hsplit => hdrop pre (post ++ [input]) (by rw [hsplit, List.append_assoc])
    have hlast := hdrop (inputs ++ [input]) [] (List.append_nil _).symm
    rw [run_snoc] at hlast ⊢
    rw [((run_logIntact hv inputs hearlier).step hlast).2, replay_append, replay_numbered, ih hearlier,
      (entriesOf_agrees _ _).replay_eq]
    rfl

/-- **Events agree with telemetry.** Each step logs the events that its telemetry calls for after the telemetry before
it, in order and nothing else; and while nothing was dropped the log replays to the current mode and active fault. -/
theorem events_agree_with_telemetry (cfg : FlightSoftwareAppConfig) (hv : (ofConfig cfg).valid = true)
    (inputs : List FlightSoftwareStepInput) :
    (∀ earlier input later, inputs = earlier ++ input :: later →
      ∃ events, Agrees (telemetered cfg earlier) input ((run cfg earlier).step input).1.telemetry events ∧
        ((run cfg earlier).step input).2.eventLogger = (run cfg earlier).eventLogger.logAll events ∧
        ((run cfg earlier).step input).2.eventLogger.snapshot =
          ((run cfg earlier).eventLogger.snapshot ++
            EventLogger.numbered (run cfg earlier).eventLogger.nextSequence events).rtake cfg.eventLogCapacity) ∧
    ∀ earlier later, inputs = earlier ++ later → NothingDropped cfg earlier →
      replay (.boot, .none) (run cfg earlier).eventLogger.snapshot =
        ((run cfg earlier).currentMode, (run cfg earlier).lastFault) := by
  refine ⟨?_, fun earlier _ _ hdrop => replay_snapshot hv earlier hdrop⟩
  intro earlier input _ _
  refine ⟨(run cfg earlier).entriesOf input, ?_, step_eventLogger _ _, step_snapshot input hv earlier⟩
  rw [telemetered_eq]
  exact entriesOf_agrees _ _

theorem events_agree_with_telemetry_nominal :
    replay (.boot, .none) (run {} [nominalCommand]).eventLogger.snapshot =
      ((run {} [nominalCommand]).currentMode, (run {} [nominalCommand]).lastFault) :=
  (events_agree_with_telemetry {} (by decide) [nominalCommand]).2 [nominalCommand] [] rfl
    (nothingDropped_singleton (by decide))

end AstraFsw.FlightSoftwareApp
