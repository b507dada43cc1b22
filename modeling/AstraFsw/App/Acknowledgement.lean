/-
The acknowledgement of ground commands in telemetry.

Guard, authorizer and processor each build their own answer to a command. All of them repeat its sequence number and its
id, and the status is that of the layer that answered (`finalStatus`, `groundCommand_result`). A step copies the answer
into the three acknowledgement fields and keeps them when it carries no command (`step_acknowledgement`); the internal
fault command, processed with sequence number 0, never reaches them. So the telemetry of every step acknowledges the
last ground command carried so far (`telemetry_acknowledges`).

The telemetry field of the id has 8 bits and the id 16, which loses nothing for an id with an enumerator.
-/
import AstraFsw.App.Step

namespace AstraFsw.FlightSoftwareApp

variable (app : FlightSoftwareApp) (input : FlightSoftwareStepInput)

/-! ## The answer to one command -/

/-- the status of the layer that answers a ground command -/
def finalStatus (packet : CommandPacket) (nowMs : UInt64) : CommandStatus :=
  if app.guardStatus packet nowMs ≠ .accepted then refusalStatus (app.guardStatus packet nowMs)
  else if app.permits packet then (app.commandProcessor.process packet).1.status
  else .rejectedUnauthorized

theorem groundCommand_result (packet : CommandPacket) (nowMs : UInt64) :
    (app.groundCommand packet nowMs).1.commandResult.sequenceNumber = packet.sequenceNumber ∧
      (app.groundCommand packet nowMs).1.commandResult.commandId = packet.commandId ∧
      (app.groundCommand packet nowMs).1.commandResult.status = app.finalStatus packet nowMs := by
  have hauth := CommandAuthorizer.authorize_authorized app.commandAuthorizer packet
  unfold finalStatus permits
  rw [← hauth]
  cases hs : app.guardStatus packet nowMs with
  | accepted =>
    rw [guardStatus] at hs
    cases hp : (app.commandAuthorizer.authorize packet).authorized <;>
      simp [groundCommand, hs, hp, rejectGroundCommand, CommandProcessor.process]
  | _ =>
    rw [guardStatus] at hs
    simp [groundCommand, hs, rejectGroundCommand, refusalStatus]

/-! ## The acknowledgement fields -/

/-- the three acknowledgement fields of the application -/
def acknowledgement (app : FlightSoftwareApp) : UInt32 × UInt8 × UInt8 :=
  (app.lastGroundCommandSequenceNumber, app.lastGroundCommandId, app.lastGroundCommandStatus)

/-- a step downlinks the fields it leaves -/
theorem step_telemetry_acknowledgement :
    ((app.step input).1.telemetry.lastCommandSequenceNumber, (app.step input).1.telemetry.lastCommandId,
      (app.step input).1.telemetry.lastCommandStatus) = (app.step input).2.acknowledgement := rfl

/-- **One step.** A command is acknowledged by its own number and id and by the status of the layer that answers it;
without a command the fields stay. -/
theorem step_acknowledgement :
    (app.step input).2.acknowledgement = input.command.elim app.acknowledgement fun packet =>
      (packet.sequenceNumber, packet.commandId.toRaw.toUInt8, (app.finalStatus packet input.timestampMs).toRaw) := by
  change ((app.groundPhase input).1.elim _ _, (app.groundPhase input).1.elim _ _,
    (app.groundPhase input).1.elim _ _) = _
  cases hc : input.command with
  | none => rw [groundPhase_of_none app input hc]; rfl
  | some packet =>
    obtain ⟨hsequence, hid, hstatus⟩ := app.groundCommand_result packet input.timestampMs
    rw [groundPhase_of_some app input hc]
    simp only [Option.elim_some, hsequence, hid, hstatus]

/-- steps without a command keep the fields, whatever internal faults they process -/
theorem acknowledgement_of_uncommanded {inputs : List FlightSoftwareStepInput} (h : ∀ i ∈ inputs, i.command = none) :
    (Machine.final step app inputs).acknowledgement = app.acknowledgement := by
  refine Machine.final_view step ?_ app
  intro i hi app
  rw [step_acknowledgement, h i hi]
  rfl

/-- an enumerated id fits the 8-bit telemetry field -/
theorem toUInt16_toUInt8_of_mem {raw : UInt16} (h : raw ∈ commandIdValues) : raw.toUInt8.toUInt16 = raw := by
  simp only [commandIdValues, List.mem_cons, List.not_mem_nil, or_false] at h
  rcases h with rfl | rfl | rfl | rfl | rfl <;> rfl

/-! ## Every step of a run -/

/-- the telemetry packet acknowledges this command with this status -/
structure Acknowledges (telemetry : TelemetryPacket) (packet : CommandPacket) (status : CommandStatus) : Prop where
  sequenceNumber : telemetry.lastCommandSequenceNumber = packet.sequenceNumber
  commandId : telemetry.lastCommandId.toUInt16 = packet.commandId.toRaw
  status : telemetry.lastCommandStatus = status.toRaw

/-- **Telemetry acknowledges the last ground command.** At every step of a run, the fields are those of the command
carried by the last step that carried one, with the status it got in that step, and zero while there was none. -/
theorem telemetry_acknowledges (cfg : FlightSoftwareAppConfig) (inputs : List FlightSoftwareStepInput)
    (hids : ∀ i ∈ inputs, ∀ packet, i.command = some packet → packet.commandId.toRaw ∈ commandIdValues) :
    ∀ earlier input later, inputs = earlier ++ input :: later →
      let output := ((run cfg earlier).step input).1
      (∀ before i between packet, earlier ++ [input] = before ++ i :: between → i.command = some packet →
        (∀ j ∈ between, j.command = none) →
        Acknowledges output.telemetry packet ((run cfg before).finalStatus packet i.timestampMs) ∧
        ((run cfg before).step i).1.commandResult.status = (run cfg before).finalStatus packet i.timestampMs) ∧
      ((∀ j ∈ earlier ++ [input], j.command = none) →
        output.telemetry.lastCommandSequenceNumber = 0 ∧ output.telemetry.lastCommandId = 0 ∧
          output.telemetry.lastCommandStatus = 0) := by
  rintro earlier input later rfl output
  have htelemetry : (output.telemetry.lastCommandSequenceNumber, output.telemetry.lastCommandId,
      output.telemetry.lastCommandStatus) = (run cfg (earlier ++ [input])).acknowledgement := by
    rw [run_snoc]
    exact step_telemetry_acknowledgement _ _
  refine ⟨?_, ?_⟩
  · intro before i between packet hsplit hi hbetween
    have hid : packet.commandId.toRaw ∈ commandIdValues := by
      refine hids i ?_ packet hi
      have hmem : i ∈ (earlier ++ [input]) ++ later := List.mem_append_left _ (by simp [hsplit])
      rwa [List.append_assoc, List.singleton_append] at hmem
    have hrun : (run cfg (earlier ++ [input])).acknowledgement = (packet.sequenceNumber,
        packet.commandId.toRaw.toUInt8, ((run cfg before).finalStatus packet i.timestampMs).toRaw) := by
      rw [hsplit, run_append, Machine.final_cons, acknowledgement_of_uncommanded _ hbetween, step_acknowledgement, hi]
      rfl
    rw [hrun] at htelemetry
    obtain ⟨hsequence, hrest⟩ := Prod.mk.inj htelemetry
    obtain ⟨hcommandId, hstatus⟩ := Prod.mk.inj hrest
    refine ⟨⟨hsequence, ?_, hstatus⟩, ?_⟩
    · rw [hcommandId, toUInt16_toUInt8_of_mem hid]
    · rw [step_commandResult_of_some _ i hi]
      exact ((run cfg before).groundCommand_result packet i.timestampMs).2.2
  · intro hnone
    rw [run, acknowledgement_of_uncommanded _ hnone] at htelemetry
    obtain ⟨hsequence, hrest⟩ := Prod.mk.inj htelemetry
    exact ⟨hsequence, (Prod.mk.inj hrest).1, (Prod.mk.inj hrest).2⟩

/-- a replayed command stays acknowledged as such while a sensor failure is handled -/
theorem telemetry_acknowledges_replay :
    let inputs : List FlightSoftwareStepInput :=
      [{ command := some ⟨9, 0, .setMode, 1⟩ }, { command := some ⟨5, 0, .noop, 0⟩ }, { sensorAgeMs := 5000 }]
    Acknowledges ((run {} (inputs.take 2)).step { sensorAgeMs := 5000 }).1.telemetry ⟨5, 0, .noop, 0⟩
      .rejectedReplayedSequence := by
  intro inputs
  have hids : ∀ i ∈ inputs, ∀ packet, i.command = some packet → packet.commandId.toRaw ∈ commandIdValues := by
    intro i hi packet hpacket
    simp only [inputs, List.mem_cons, List.not_mem_nil, or_false] at hi
    rcases hi with rfl | rfl | rfl
    · obtain rfl := Option.some.inj hpacket
      decide
    · obtain rfl := Option.some.inj hpacket
      decide
    · exact absurd hpacket (by simp)
  have hlast := ((telemetry_acknowledges {} inputs hids (inputs.take 2) { sensorAgeMs := 5000 } [] rfl).1
    (inputs.take 1) _ [{ sensorAgeMs := 5000 }] ⟨5, 0, .noop, 0⟩ rfl rfl (by simp)).1
  exact hlast

end AstraFsw.FlightSoftwareApp
