/-
The ground command guard inside the application sees its own inputs only.

Of a step the guard reads the command's sequence number and timestamp and the mission time (`guardCall`). Its result and
its next state are those of one call on them (`step_guard`), whatever the command asks for, whoever refuses it later and
whatever the detectors report. By the unwinding rule of `Core/Machine` two runs that agree on the guard's configuration
and on these inputs agree on every guard result and every guard state (`guard_noninterference`).
-/
import AstraFsw.App.Step

namespace AstraFsw.FlightSoftwareApp

variable (app : FlightSoftwareApp) (input : FlightSoftwareStepInput)

/-- what the guard reads of a step -/
def guardCall (input : FlightSoftwareStepInput) : Option GroundCommandGuard.Call :=
  input.command.map fun packet => ⟨packet.sequenceNumber, packet.timestampMs, input.timestampMs⟩

/-- the guard's part of a ground command, whichever layer answers it -/
theorem groundCommand_guard (packet : CommandPacket) (nowMs : UInt64) :
    ((app.groundCommand packet nowMs).1.guardResult, (app.groundCommand packet nowMs).2.1) =
      app.groundCommandGuard.call ⟨packet.sequenceNumber, packet.timestampMs, nowMs⟩ := by
  unfold GroundCommandGuard.call
  cases hs : (app.groundCommandGuard.evaluate packet.sequenceNumber packet.timestampMs nowMs).1.status with
  | accepted =>
    simp only [groundCommand, hs]
    split_ifs <;> rfl
  | _ => simp only [groundCommand, hs]

/-- the guard's part of a step: its result, and its next state -/
theorem step_guard :
    ((app.step input).1.commandGuardResult, (app.step input).2.groundCommandGuard) =
      (guardCall input).elim ({}, app.groundCommandGuard) app.groundCommandGuard.call := by
  change (((app.groundPhase input).1.getD {}).guardResult, (app.groundPhase input).2.1) = _
  cases hc : input.command with
  | none => simp [groundPhase_of_none app input hc, guardCall, hc]
  | some packet =>
    rw [groundPhase_of_some app input hc, guardCall, hc]
    exact app.groundCommand_guard packet input.timestampMs

/-- the guard's state and the guard's inputs determine the guard's outputs -/
theorem unwinds_guard :
    Machine.Unwinds step (·.groundCommandGuard) guardCall (·.commandGuardResult) := by
  intro app app' input input' hguard hcall
  change app.groundCommandGuard = app'.groundCommandGuard at hguard
  have hstep := app.step_guard input
  have hstep' := app'.step_guard input'
  rw [← hcall, ← hguard, ← hstep] at hstep'
  exact ⟨(congrArg Prod.fst hstep').symm, (congrArg Prod.snd hstep').symm⟩

/-- the guard takes the number of a command it accepts, and nothing else moves it -/
theorem step_guard_state :
    (input.command = none → (app.step input).2.groundCommandGuard = app.groundCommandGuard) ∧
    ∀ packet, input.command = some packet → (app.step input).2.groundCommandGuard =
      if (app.step input).1.commandGuardResult.status = .accepted then
        app.groundCommandGuard.take packet.sequenceNumber
      else app.groundCommandGuard := by
  have hstep := app.step_guard input
  refine ⟨?_, ?_⟩
  · intro hc
    rw [guardCall, hc] at hstep
    exact congrArg Prod.snd hstep
  · intro packet hc
    rw [guardCall, hc] at hstep
    have hresult : (app.step input).1.commandGuardResult = _ := congrArg Prod.fst hstep
    have hguard : (app.step input).2.groundCommandGuard = _ := congrArg Prod.snd hstep
    rw [hresult, hguard]
    exact GroundCommandGuard.evaluate_snd ..

/-- **Guard noninterference.** Two runs with the same guard configuration and the same guard inputs agree on the guard
result of every step and on the guard after every step, whatever else differs. In either run a step without a command
leaves the guard alone, and a step with one moves it exactly when the guard accepts: neither an internal fault nor a
later rejection of the command consumes a number, skips one or gives one back. -/
theorem guard_noninterference (cfg₁ cfg₂ : FlightSoftwareAppConfig)
    (hguard : cfg₁.groundCommandGuard = cfg₂.groundCommandGuard) (inputs₁ inputs₂ : List FlightSoftwareStepInput)
    (hcalls : inputs₁.map guardCall = inputs₂.map guardCall) :
    (Machine.outputs step (ofConfig cfg₁) inputs₁).map (·.commandGuardResult) =
      (Machine.outputs step (ofConfig cfg₂) inputs₂).map (·.commandGuardResult) ∧
    (∀ n, (run cfg₁ (inputs₁.take n)).groundCommandGuard = (run cfg₂ (inputs₂.take n)).groundCommandGuard) ∧
    ∀ e ∈ Machine.trace step (ofConfig cfg₁) inputs₁,
      (e.2.command = none → (e.1.step e.2).2.groundCommandGuard = e.1.groundCommandGuard) ∧
      ∀ packet, e.2.command = some packet → (e.1.step e.2).2.groundCommandGuard =
        if (e.1.step e.2).1.commandGuardResult.status = .accepted then e.1.groundCommandGuard.take packet.sequenceNumber
        else e.1.groundCommandGuard := by
  have hinit : (ofConfig cfg₁).groundCommandGuard = (ofConfig cfg₂).groundCommandGuard :=
    congrArg (fun configuration => ({ configuration } : GroundCommandGuard)) hguard
  refine ⟨(unwinds_guard.run hinit hcalls).1, ?_, fun e _ => e.1.step_guard_state e.2⟩
  intro n
  refine (unwinds_guard.run hinit ?_).2
  rw [List.map_take, List.map_take, hcalls]

/-- a permitted transition against the same numbers on a forbidden fault injection with a failed sensor -/
theorem guard_noninterference_rejected :
    (Machine.outputs step (ofConfig {}) [{ command := some ⟨1, 0, .setMode, 1⟩ },
        { command := some ⟨1, 0, .setMode, 1⟩ }]).map (·.commandGuardResult) =
      (Machine.outputs step (ofConfig { eventLogCapacity := 16 })
        [{ command := some ⟨1, 0, .injectFault, 100⟩, sensorAgeMs := 5000 },
         { command := some ⟨1, 0, .noop, 9⟩, loopDurationMs := 400 }]).map (·.commandGuardResult) :=
  (guard_noninterference {} { eventLogCapacity := 16 } rfl
    [{ command := some ⟨1, 0, .setMode, 1⟩ }, { command := some ⟨1, 0, .setMode, 1⟩ }]
    [{ command := some ⟨1, 0, .injectFault, 100⟩, sensorAgeMs := 5000 },
     { command := some ⟨1, 0, .noop, 9⟩, loopDurationMs := 400 }] rfl).1

end AstraFsw.FlightSoftwareApp
