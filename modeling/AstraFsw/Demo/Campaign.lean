/-
The demo under a script of commands, and the fault campaign (`tools/run_fdir_campaign.py`) that drives it.

A script is a run in which the clock never stalls, the made-up readings stay below their thresholds, and the commands
that arrive are numbered 1, 2, 3, ... and stamped within the guard's window, with any number of silent or garbled passes
around them. Then guard, policy, watchdog and health monitor let everything through:
- `script_refines_processor`: the demo is the bare command processor run on the commands received, and its telemetry
  says so;
- `campaign_expectations_met`: each of the ten fault cases gets the telemetry it expects, from the pass that receives its
  command on.
-/
import AstraFsw.Demo.Downlink
import AstraFsw.Demo.Faults
import AstraFsw.Ground.StepLoop

namespace AstraFsw

namespace CommandTelemetryDemo

open Ground FlightSoftwareApp Wire

variable {options : DemoOptions} {demo : CommandTelemetryDemo} {pass : DemoPass} {passes : List DemoPass}

/-! ## Scripts -/

/-- the commands received in a list of passes -/
def received (passes : List DemoPass) : List CommandPacket := passes.filterMap fun pass => receivedCommand pass.datagram

/-- no two passes are a watchdog timeout apart -/
def Steady (passes : List DemoPass) : Prop :=
  passes.IsChain fun pass next => next.nowMs.toNat < pass.nowMs.toNat + 500

/-- the command of a pass is the next of the script, and in time -/
def InScript (earlier : List DemoPass) (pass : DemoPass) : Prop :=
  ∀ command, receivedCommand pass.datagram = some command →
    command.sequenceNumber = UInt32.ofNat ((received earlier).length + 1) ∧
      GroundCommandGuard.InWindow {} command.timestampMs pass.nowMs

/-- a run of the demo on a script -/
structure Script (options : DemoOptions) (passes : List DemoPass) : Prop where
  sensor : options.sensorTimeoutLoop = 0
  loopCount : options.loopCount.toNat < 212
  steady : Steady passes
  commands : ∀ earlier pass later, passes = earlier ++ pass :: later → InScript earlier pass

theorem Script.of_append {more : List DemoPass} (h : Script options (passes ++ more)) : Script options passes where
  sensor := h.sensor
  loopCount := h.loopCount
  steady := List.IsChain.left_of_append h.steady
  commands earlier pass later hsplit := h.commands earlier pass (later ++ more) (by simp [hsplit])

/-- no pass of a script raises an internal fault -/
theorem Script.demoFault (h : Script options (passes ++ [pass])) (hr : (run options passes).running options = true) :
    demoFault options passes pass = .none := by
  have hcount : passes.length < 211 + 1 := by
    have hmade := ((running_iff options passes).1 hr).2
    have hloop := h.loopCount
    omega
  have hsteady : ¬ FlightSoftwareApp.Stalled (lastPassMs passes) pass.nowMs := by
    intro hstalled
    obtain ⟨previousMs, hprevious, hgap⟩ := hstalled
    obtain ⟨last, hlast, rfl⟩ := Option.mem_map.1 hprevious
    obtain ⟨front, rfl⟩ := List.getLast?_eq_some_iff.1 hlast
    have hchain := h.steady
    rw [Steady, List.append_assoc, List.singleton_append] at hchain
    have hnext := (List.isChain_cons_cons.1 (List.IsChain.right_of_append hchain)).1
    omega
  unfold CommandTelemetryDemo.demoFault
  rw [if_neg hsteady, if_neg (fun hs => hs.1 h.sensor), if_neg]
  have hloop := h.loopCount
  have hmade := ((running_iff options passes).1 hr).2
  omega

/-! ## The processor inside -/

/-- the acknowledgement of a list of processed commands: that of the last one -/
def scriptAcknowledgement (commands : List CommandPacket) : UInt32 × UInt8 × UInt8 :=
  match (Machine.outputs CommandProcessor.process {} commands).getLast? with
  | none => (0, 0, 0)
  | some result => (result.sequenceNumber, result.commandId.toRaw.toUInt8, result.status.toRaw)

/-- the demo after a script that delivered these commands -/
structure Delivered (demo : CommandTelemetryDemo) (commands : List CommandPacket) : Prop where
  processor : demo.app.commandProcessor = Machine.final CommandProcessor.process {} commands
  initialized : demo.app.groundCommandGuard.sequenceInitialized = !commands.isEmpty
  highest : demo.app.groundCommandGuard.highestSequence = UInt32.ofNat commands.length
  acknowledgement : demo.app.acknowledgement = scriptAcknowledgement commands

theorem permits_default {app : FlightSoftwareApp} (h : ConfiguredBy {} app) {command : CommandPacket}
    (hid : command.commandId.toRaw ∈ commandIdValues) : app.permits command = true := by
  rw [permits, h.policy]
  unfold CommandAuthorizer.permits
  cases hcommand : command.commandId with
  | other raw =>
    rw [hcommand] at hid
    exact absurd hid raw.2
  | _ => rfl

/-- the next number of a script is newer than the last -/
theorem Delivered.sequenceOk {commands : List CommandPacket} (h : demo.Delivered commands) :
    demo.app.groundCommandGuard.sequenceOk (UInt32.ofNat (commands.length + 1)) = true := by
  unfold GroundCommandGuard.sequenceOk GroundCommandGuard.sequenceIsNewer
  have hdistance : UInt32.ofNat (commands.length + 1) - UInt32.ofNat commands.length = 1 := by
    rw [UInt32.ofNat_add, UInt32.add_comm]
    exact UInt32.add_sub_cancel _ _
  rw [h.highest, hdistance]
  simp [GroundCommandGuard.serialHalfRange]

/-- **One pass of a script.** The processor takes the command of the pass, if there is one, and nothing else happens. -/
theorem Delivered.step {commands : List CommandPacket} (h : demo.Delivered commands) (hconfig : ConfiguredBy {} demo.app)
    (hr : demo.running options = true) (hquiet : demo.app.primaryFault (demo.stepInput options pass) = .none)
    (hscript : ∀ command, receivedCommand pass.datagram = some command →
      command.sequenceNumber = UInt32.ofNat (commands.length + 1) ∧
        GroundCommandGuard.InWindow {} command.timestampMs pass.nowMs) :
    (demo.step options pass).2.Delivered (commands ++ (receivedCommand pass.datagram).toList) := by
  have hprocessor : (demo.step options pass).2.app.commandProcessor =
      demo.app.afterGround (demo.stepInput options pass) := by
    rw [step_app hr, step_commandProcessor, hquiet, respond_none]
  have hguard : (demo.step options pass).2.app.groundCommandGuard =
      (demo.app.groundPhase (demo.stepInput options pass)).2.1 := by
    rw [step_app hr, step_groundCommandGuard]
  cases hcommand : receivedCommand pass.datagram with
  | none =>
    have hnone : (demo.stepInput options pass).command = none := hcommand
    rw [groundPhase_of_none _ _ hnone] at hguard
    rw [afterGround_of_none _ _ hnone] at hprocessor
    have hack := step_acknowledgement_of_none hcommand options demo
    rw [Option.toList_none, List.append_nil]
    exact ⟨hprocessor.trans h.processor, by rw [hguard, h.initialized], by rw [hguard, h.highest],
      hack.trans h.acknowledgement⟩
  | some command =>
    have hsome : (demo.stepInput options pass).command = some command := hcommand
    obtain ⟨hnumber, hwindow⟩ := hscript command hcommand
    have hvalid : demo.app.groundCommandGuard.valid = true := by
      rw [GroundCommandGuard.valid, hconfig.guard]
      decide
    have haccepted : demo.app.guardStatus command pass.nowMs = .accepted := by
      refine (GroundCommandGuard.evaluate_accepted_iff hvalid _ _ _).2 ⟨?_, ?_⟩
      · rw [hconfig.guard]
        exact hwindow
      · rw [hnumber]
        exact h.sequenceOk
    have hpermits := permits_default hconfig (receivedCommand_commandId hcommand)
    have hadmitted : demo.app.Admitted command (demo.stepInput options pass).timestampMs := ⟨haccepted, hpermits⟩
    have hground := groundCommand_of_admitted hadmitted
    have hstatus : demo.app.finalStatus command pass.nowMs = (demo.app.commandProcessor.process command).1.status := by
      rw [finalStatus, if_neg (not_not.2 haccepted), if_pos hpermits]
    rw [groundPhase_of_some _ _ hsome] at hguard
    simp only [hground] at hguard
    rw [afterGround, groundPhase_of_some _ _ hsome] at hprocessor
    simp only [hground] at hprocessor
    have hack := step_acknowledgement_of_some hr hcommand
    rw [hstatus] at hack
    refine ⟨?_, ?_, ?_, ?_⟩
    · rw [hprocessor, h.processor, Option.toList_some, Machine.final_snoc]
    · rw [hguard]
      simp [GroundCommandGuard.take]
    · rw [hguard, Option.toList_some, List.length_append]
      exact hnumber
    · rw [hack, h.processor, Option.toList_some, scriptAcknowledgement, Machine.outputs_snoc, List.getLast?_append]
      rfl

theorem received_append (passes more : List DemoPass) : received (passes ++ more) = received passes ++ received more :=
  List.filterMap_append

theorem received_singleton (pass : DemoPass) : received [pass] = (receivedCommand pass.datagram).toList := by
  unfold received
  cases h : receivedCommand pass.datagram <;> simp [h]

/-- every pass is made, raises no internal fault, and hears the next command of the script or none -/
def Quiet (options : DemoOptions) (passes : List DemoPass) : Prop :=
  ∀ earlier pass later, passes = earlier ++ pass :: later →
    (run options earlier).running options = true ∧ demoFault options earlier pass = .none ∧ InScript earlier pass

theorem Quiet.of_append {more : List DemoPass} (h : Quiet options (passes ++ more)) : Quiet options passes := by
  intro earlier pass later hsplit
  exact h earlier pass (later ++ more) (by simp [hsplit])

/-- after quiet passes -/
theorem Quiet.delivered (h : Quiet options passes) : (run options passes).Delivered (received passes) := by
  induction passes using List.reverseRecOn with
  | nil => exact ⟨rfl, rfl, rfl, rfl⟩
  | append_singleton passes pass ih =>
    obtain ⟨hr, hfault, hscript⟩ := h passes pass [] rfl
    rw [run_snoc, received_append, received_singleton]
    refine (ih h.of_append).step (run_configuredBy options passes) hr ?_ hscript
    rw [primaryFault_stepInput hr pass]
    exact hfault

theorem receivedCommand_of_mem {command : CommandPacket} (h : command ∈ received passes) :
    command.commandId.toRaw ∈ commandIdValues := by
  obtain ⟨pass, -, hpass⟩ := List.mem_filterMap.1 h
  exact receivedCommand_commandId hpass

/-- the result of a received command repeats its id -/
theorem commandId_of_result {result : CommandResult}
    (h : result ∈ Machine.outputs CommandProcessor.process {} (received passes)) :
    result.commandId.toRaw ∈ commandIdValues := by
  obtain ⟨before, command, after, hsplit, rfl⟩ := (Machine.mem_outputs _).1 h
  have hmem : command ∈ received passes := by rw [hsplit]; simp
  exact receivedCommand_of_mem hmem

/-- what the ground reads after a script that delivered these commands -/
structure ScriptReported (telemetry : TelemetryReceiver.Telemetry) (commands : List CommandPacket) : Prop where
  mode : telemetry.mode = (Machine.final CommandProcessor.process {} commands).modeManager.mode.toString
  lastFault : telemetry.lastFault = (Machine.final CommandProcessor.process {} commands).lastFault.toString
  acknowledged : ∀ result, (Machine.outputs CommandProcessor.process {} commands).getLast? = some result →
    Acknowledged telemetry result.sequenceNumber.toNat
      (if result.commandId = .noop then "NONE" else result.commandId.toString) result.status.toString

/-- the passes before a pass that is made were made -/
theorem running_of_split {earlier before after : List DemoPass} {p : DemoPass}
    (hr : (run options earlier).running options = true) (hsplit : earlier ++ [pass] = before ++ p :: after) :
    (run options before).running options = true := by
  obtain ⟨hsent, hcount⟩ := (running_iff options earlier).1 hr
  have hfront : before <+: earlier := by
    have hlen := congrArg List.length hsplit
    simp only [List.length_append, List.length_cons, List.length_nil] at hlen
    exact List.prefix_of_prefix_length_le ⟨p :: after, hsplit.symm⟩ ⟨[pass], rfl⟩ (by omega)
  have hle := hfront.length_le
  exact (running_iff options before).2 ⟨fun q hq => hsent q (hfront.subset hq), by omega⟩

/-- the passes made of a script are quiet -/
theorem Script.quiet {earlier : List DemoPass} (h : Script options (earlier ++ [pass]))
    (hr : (run options earlier).running options = true) : Quiet options (earlier ++ [pass]) := by
  intro before p after hsplit
  have hmade := running_of_split hr hsplit
  have hpart : Script options (before ++ [p] ++ after) := by
    rw [List.append_assoc, List.singleton_append, ← hsplit]
    exact h
  exact ⟨hmade, hpart.of_append.demoFault hmade, h.commands before p after hsplit⟩

/-- one quiet pass, as the ground reads it -/
theorem Quiet.reported {earlier : List DemoPass} (h : Quiet options (earlier ++ [pass])) {report : DemoReport}
    (hreport : ((run options earlier).step options pass).1 = some report) :
    ∃ telemetry, ScenarioRunner.listen report.datagram = some (.decoded telemetry) ∧
      ScriptReported telemetry (received (earlier ++ [pass])) := by
  have hr := (h earlier pass [] rfl).1
  have hdelivered := h.delivered
  obtain ⟨report', telemetry, hreport', -, hlisten, hreported, hack⟩ := step_downlink
    (run_lockstep options earlier) (run_lastFault_isNamed options earlier) hr pass
  rw [hreport'] at hreport
  obtain rfl := Option.some.inj hreport
  rw [← run_snoc] at hreported hack
  refine ⟨telemetry, hlisten, ?_, ?_, ?_⟩
  · rw [hreported.mode, currentMode, hdelivered.processor]
  · rw [hreported.lastFault, lastFault, hdelivered.processor]
  · intro result hresult
    refine hack _ _ _ (commandId_of_result (List.mem_of_getLast? hresult)) ?_
    rw [hdelivered.acknowledgement, scriptAcknowledgement, hresult]

/-- one pass of a script, as the ground reads it -/
theorem Script.reported {earlier : List DemoPass} (h : Script options (earlier ++ [pass])) {report : DemoReport}
    (hreport : ((run options earlier).step options pass).1 = some report) :
    (run options (earlier ++ [pass])).app.commandProcessor =
        Machine.final CommandProcessor.process {} (received (earlier ++ [pass])) ∧
      ∃ telemetry, ScenarioRunner.listen report.datagram = some (.decoded telemetry) ∧
        ScriptReported telemetry (received (earlier ++ [pass])) := by
  cases hr : (run options earlier).running options with
  | false => simp [step_of_not_running hr] at hreport
  | true =>
    have hquiet := h.quiet hr
    exact ⟨hquiet.delivered.processor, hquiet.reported hreport⟩

/-- **The demo refines the command processor.** In every pass that is made of a script, whatever lies between its
commands, the processor inside is the bare processor run on the commands received so far, and the telemetry of the pass
decodes to its mode, its active fault and its last result. -/
theorem script_refines_processor (options : DemoOptions) (passes : List DemoPass) (h : Script options passes) :
    ∀ earlier pass later, passes = earlier ++ pass :: later →
      ∀ report, ((run options earlier).step options pass).1 = some report →
        (run options (earlier ++ [pass])).app.commandProcessor =
            Machine.final CommandProcessor.process {} (received (earlier ++ [pass])) ∧
          ∃ telemetry, ScenarioRunner.listen report.datagram = some (.decoded telemetry) ∧
            ScriptReported telemetry (received (earlier ++ [pass])) := by
  intro earlier pass later hsplit report hreport
  rw [hsplit, ← List.singleton_append, ← List.append_assoc] at h
  exact h.of_append.reported hreport

/-- a script of two commands, BOOT to NOMINAL and an injected fault, with a silent pass between them -/
theorem script_refines_processor_overload :
    let injected : CommandPacket := { sequenceNumber := 2, timestampMs := 1300, commandId := .injectFault, argument := 300 }
    let first : DemoPass := { nowMs := 1000, datagram := some (serializeCommandPacket setModeNominal) }
    let silent : DemoPass := { nowMs := 1200 }
    let last : DemoPass := { nowMs := 1400, datagram := some (serializeCommandPacket injected) }
    (run {} [first, silent, last]).app.commandProcessor =
        Machine.final CommandProcessor.process {} [setModeNominal, injected] ∧
      ∃ report telemetry, ((run {} [first, silent]).step {} last).1 = some report ∧
        ScenarioRunner.listen report.datagram = some (.decoded telemetry) ∧
        ScriptReported telemetry [setModeNominal, injected] := by
  intro injected first silent last
  have hfirst : receivedCommand first.datagram = some setModeNominal := receivedCommand_serialize (by decide)
  have hlast : receivedCommand last.datagram = some injected := receivedCommand_serialize (by decide)
  have hsilent : receivedCommand silent.datagram = none := rfl
  have hreceived : received [first, silent, last] = [setModeNominal, injected] := by
    simp [received, hfirst, hsilent, hlast]
  have hscript : Script {} [first, silent, last] := by
    refine ⟨rfl, by decide, by simp [Steady, first, silent, last], ?_⟩
    intro earlier q later hsplit command hcommand
    rcases earlier with _ | ⟨a, _ | ⟨b, _ | ⟨c, earlier⟩⟩⟩
    · obtain ⟨rfl, -⟩ := List.cons.inj hsplit
      obtain rfl := Option.some.inj (hfirst.symm.trans hcommand)
      exact ⟨rfl, by decide⟩
    · obtain ⟨rfl, rfl, -⟩ : a = first ∧ q = silent ∧ later = [last] := by simpa [eq_comm] using hsplit
      cases hsilent.symm.trans hcommand
    · obtain ⟨rfl, rfl, rfl, -⟩ : a = first ∧ b = silent ∧ q = last ∧ later = [] := by simpa [eq_comm] using hsplit
      obtain rfl := Option.some.inj (hlast.symm.trans hcommand)
      refine ⟨?_, by decide⟩
      simp [received, hfirst, hsilent]
      rfl
    · simp at hsplit
  have hrunning : (run {} [first, silent]).running {} = true := by
    rw [running_iff]
    decide
  have hreport := @step_report {} _ last hrunning
  obtain ⟨hprocessor, telemetry, hlisten, htelemetry⟩ :=
    script_refines_processor {} _ hscript [first, silent] last [] rfl _ hreport
  rw [List.cons_append, List.singleton_append, hreceived] at hprocessor htelemetry
  exact ⟨hprocessor, _, telemetry, hreport, hlisten, htelemetry⟩

end CommandTelemetryDemo

/-! ## The fault campaign -/

namespace FdirCampaign

open Ground StepLoop CommandTelemetryDemo

structure FaultCase where
  fault : String
  expectedMode : String
deriving DecidableEq, Repr

/-- `FAULT_CASES` -/
def faultCases : List FaultCase :=
  [⟨"SENSOR_TIMEOUT", "SAFE"⟩, ⟨"SENSOR_INVALID_DATA", "SAFE"⟩, ⟨"PAYLOAD_HEARTBEAT_TIMEOUT", "DEGRADED_PAYLOAD"⟩,
   ⟨"CPU_OVERLOAD", "DEGRADED_PAYLOAD"⟩, ⟨"MEMORY_OVERLOAD", "SAFE"⟩, ⟨"TELEMETRY_SOCKET_FAILURE", "SAFE"⟩,
   ⟨"COMMAND_BAD_CRC", "NOMINAL"⟩, ⟨"COMMAND_UNKNOWN_ID", "NOMINAL"⟩, ⟨"COMMAND_TIMEOUT", "SAFE"⟩,
   ⟨"WATCHDOG_DEADLINE_MISS", "SAFE"⟩]

/-- what the runner reads of a scenario -/
structure Scenario where
  name : String
  commandPort : ℕ
  telemetryPort : ℕ
  loopCount : ℕ
  steps : List ScenarioStep
deriving DecidableEq, Repr

/-- `scenario_for` -/
def scenarioFor (faultCase : FaultCase) (index : ℕ) : Scenario where
  name := "fdir_" ++ faultCase.fault.toLower
  commandPort := 6100 + index
  telemetryPort := 5100 + index
  loopCount := 20
  steps :=
    [{ command := some "SET_MODE"
       argument := some "NOMINAL"
       expected :=
         { ackSeq := some (.int 1), ackCmd := some (.str "SET_MODE"), ackStatus := some (.str "ACCEPTED"),
           mode := some (.str "NOMINAL"), fault := some (.str "NONE") } },
     { command := some "INJECT_FAULT"
       argument := some faultCase.fault
       expected :=
         { ackSeq := some (.int 2), ackCmd := some (.str "INJECT_FAULT"), ackStatus := some (.str "ACCEPTED"),
           mode := some (.str faultCase.expectedMode), fault := some (.str faultCase.fault) } }]

/-- the arguments that the runner starts the demo with: no sensor or watchdog loop -/
def demoOptions (scenario : Scenario) : DemoOptions := { loopCount := UInt32.ofNat scenario.loopCount }

/-- the datagram that the runner sends for a step, with the clock that the tool reads -/
def stepDatagram (sequence : ℤ) (step : ScenarioStep) (nowMs : ℤ) : Option (Except ToolError (List UInt8)) :=
  step.command.map fun command => do
    let argumentValue ← SendCommand.parseArgument command step.argument
    SendCommand.buildPacket sequence command argumentValue none nowMs

/-! ### The commands of a case -/

/-- SET_MODE NOMINAL, as the first step sends it -/
def nominalCommand (sentMs : UInt64) : CommandPacket := ⟨1, sentMs, .setMode, 1⟩

/-- INJECT_FAULT, as the second step sends it -/
def injectCommand (fault : FaultCode) (sentMs : UInt64) : CommandPacket :=
  ⟨2, sentMs, .injectFault, UInt32.ofNat fault.toRaw.toNat⟩

/-- every case names a fault and the mode that its response ends in from NOMINAL -/
theorem exists_fault_of_mem {faultCase : FaultCase} (h : faultCase ∈ faultCases) :
    ∃ fault : FaultCode, fault.isNamed = true ∧ fault.toString = faultCase.fault ∧
      (FdirManager.faultMode (FdirManager.dispositionFor fault).response .nominal).toString = faultCase.expectedMode := by
  simp only [faultCases, List.mem_cons, List.not_mem_nil, or_false] at h
  rcases h with rfl | rfl | rfl | rfl | rfl | rfl | rfl | rfl | rfl | rfl
  · exact ⟨.sensorTimeout, rfl, rfl, rfl⟩
  · exact ⟨.sensorInvalidData, rfl, rfl, rfl⟩
  · exact ⟨.payloadHeartbeatTimeout, rfl, rfl, rfl⟩
  · exact ⟨.cpuOverload, rfl, rfl, rfl⟩
  · exact ⟨.memoryOverload, rfl, rfl, rfl⟩
  · exact ⟨.telemetrySocketFailure, rfl, rfl, rfl⟩
  · exact ⟨.commandBadCrc, rfl, rfl, rfl⟩
  · exact ⟨.commandUnknownId, rfl, rfl, rfl⟩
  · exact ⟨.commandTimeout, rfl, rfl, rfl⟩
  · exact ⟨.watchdogDeadlineMiss, rfl, rfl, rfl⟩

/-- the datagram of a step reaches the demo in this pass, soon enough -/
def Heard (sequence : ℤ) (step : ScenarioStep) (pass : DemoPass) : Prop :=
  ∃ (sentMs : UInt64) (bytes : List UInt8), stepDatagram sequence step sentMs.toNat = some (.ok bytes) ∧
    pass.datagram = some bytes ∧ GroundCommandGuard.InWindow {} sentMs pass.nowMs

theorem stepDatagram_first {faultCase : FaultCase} {index : ℕ} {s₁ s₂ : ScenarioStep}
    (hsteps : (scenarioFor faultCase index).steps = [s₁, s₂]) (sentMs : UInt64) :
    stepDatagram 1 s₁ sentMs.toNat = some (.ok (Wire.serializeCommandPacket (nominalCommand sentMs))) := by
  obtain ⟨rfl, -⟩ := List.cons.inj hsteps
  have hid : CommandId.setMode.toRaw ∈ commandIdValues := by decide
  have hpacket : SendCommand.buildPacket 1 "SET_MODE" 1 none sentMs.toNat =
      .ok (Wire.serializeCommandPacket (nominalCommand sentMs)) :=
    SendCommand.buildPacket_eq ⟨rfl, ⟨hid, rfl⟩, rfl, rfl⟩
  have hargument : SendCommand.parseArgument "SET_MODE" (some "NOMINAL") = .ok 1 :=
    (SendCommand.parseArgument_mode .nominal).1
  rw [stepDatagram, Option.map_some, hargument, ok_bind, hpacket]

theorem stepDatagram_second {faultCase : FaultCase} {index : ℕ} {s₁ s₂ : ScenarioStep} {fault : FaultCode}
    (hnamed : fault.isNamed = true) (hname : fault.toString = faultCase.fault)
    (hsteps : (scenarioFor faultCase index).steps = [s₁, s₂]) (sentMs : UInt64) :
    stepDatagram 2 s₂ sentMs.toNat = some (.ok (Wire.serializeCommandPacket (injectCommand fault sentMs))) := by
  obtain ⟨-, hrest⟩ := List.cons.inj hsteps
  obtain ⟨rfl, -⟩ := List.cons.inj hrest
  have hargument := (SendCommand.parseArgument_fault hnamed).1
  have hword : ((UInt32.ofNat fault.toRaw.toNat).toNat : ℤ) = fault.toRaw.toNat := by
    rw [UInt32.toNat_ofNat_of_lt' (lt_trans fault.toRaw.toNat_lt (by decide))]
  have hid : CommandId.injectFault.toRaw ∈ commandIdValues := by decide
  have hpacket : SendCommand.buildPacket 2 "INJECT_FAULT" fault.toRaw.toNat none sentMs.toNat =
      .ok (Wire.serializeCommandPacket (injectCommand fault sentMs)) :=
    SendCommand.buildPacket_eq ⟨rfl, ⟨hid, rfl⟩, hword, rfl⟩
  rw [hname] at hargument
  rw [stepDatagram, Option.map_some, hargument, ok_bind, hpacket]

/-- a heard datagram is received as its command -/
theorem Heard.received {sequence : ℤ} {step : ScenarioStep} {pass : DemoPass} (h : Heard sequence step pass)
    {command : UInt64 → CommandPacket} (hid : ∀ sentMs, (command sentMs).commandId.toRaw ∈ commandIdValues)
    (hdatagram : ∀ sentMs : UInt64, stepDatagram sequence step sentMs.toNat =
      some (.ok (Wire.serializeCommandPacket (command sentMs)))) :
    ∃ sentMs, receivedCommand pass.datagram = some (command sentMs) ∧
      GroundCommandGuard.InWindow {} sentMs pass.nowMs := by
  obtain ⟨sentMs, bytes, hbytes, hpass, hwindow⟩ := h
  refine ⟨sentMs, ?_, hwindow⟩
  rw [hdatagram sentMs, Option.some.injEq] at hbytes
  obtain rfl := Except.ok.inj hbytes
  rw [hpass]
  exact receivedCommand_serialize (hid sentMs)

/-! ### The telemetry of a case -/

/-- the ground reads the report, and it meets the expectation -/
def Meets (report : DemoReport) (step : ScenarioStep) : Prop :=
  ∃ telemetry, ScenarioRunner.listen report.datagram = some (.decoded telemetry) ∧
    ScenarioRunner.packetMatches telemetry step.expected = true

/-- five equal fields are a match -/
theorem packetMatches_of_fields {telemetry : TelemetryReceiver.Telemetry} {sequence : ℕ}
    {command status mode fault : String} (hack : Acknowledged telemetry sequence command status)
    (hmode : telemetry.mode = mode) (hfault : telemetry.lastFault = fault) :
    ScenarioRunner.packetMatches telemetry
      { ackSeq := some (.int sequence), ackCmd := some (.str command), ackStatus := some (.str status),
        mode := some (.str mode), fault := some (.str fault) } = true := by
  simp [ScenarioRunner.packetMatches, ScenarioRunner.YamlValue.eqInt, ScenarioRunner.YamlValue.eqStr,
    ScenarioRunner.YamlValue.statusName, hack.sequence, hack.command, hack.status, hmode, hfault]

/-- the processor on an injected fault -/
theorem process_injectCommand (c : CommandProcessor) {fault : FaultCode} (hnamed : fault.isNamed = true)
    (sentMs : UInt64) :
    (c.process (injectCommand fault sentMs)).1.status = .accepted ∧
      (c.process (injectCommand fault sentMs)).2 = { c with
        modeManager := ⟨FdirManager.faultMode (FdirManager.dispositionFor fault).response c.modeManager.mode⟩,
        lastFault := fault } := by
  have hargument : commandArgumentToFault (injectCommand fault sentMs).argument = some fault :=
    (SendCommand.parseArgument_fault hnamed).2
  have hid : (injectCommand fault sentMs).commandId = .injectFault := rfl
  rw [← CommandProcessor.processInjectFault_snd, CommandProcessor.process, CommandProcessor.execute]
  simp only [hid, hargument, and_self]

/-- what the ground reads after both commands of a case -/
theorem reported_injected {telemetry : TelemetryReceiver.Telemetry} {fault : FaultCode} (hnamed : fault.isNamed = true)
    {sent₁ sent₂ : UInt64} (h : ScriptReported telemetry [nominalCommand sent₁, injectCommand fault sent₂]) :
    telemetry.mode = (FdirManager.faultMode (FdirManager.dispositionFor fault).response .nominal).toString ∧
      telemetry.lastFault = fault.toString ∧ Acknowledged telemetry 2 "INJECT_FAULT" "ACCEPTED" := by
  have hmode : (Machine.final CommandProcessor.process {} [nominalCommand sent₁]).modeManager.mode = .nominal := rfl
  obtain ⟨hstatus, hstate⟩ := process_injectCommand
    (Machine.final CommandProcessor.process {} [nominalCommand sent₁]) hnamed sent₂
  obtain ⟨hreported, hfault, hack⟩ := h
  have hfinal : Machine.final CommandProcessor.process {} [nominalCommand sent₁, injectCommand fault sent₂] =
      ((Machine.final CommandProcessor.process {} [nominalCommand sent₁]).process (injectCommand fault sent₂)).2 := rfl
  rw [hfinal, hstate] at hreported hfault
  rw [hmode] at hreported
  refine ⟨hreported, hfault, ?_⟩
  have hresult := hack ((Machine.final CommandProcessor.process {} [nominalCommand sent₁]).process
    (injectCommand fault sent₂)).1 rfl
  rw [hstatus] at hresult
  exact hresult

/-- a run of a case: the clock never stalls, the two datagrams arrive in order, and no other command does -/
structure CaseRun (s₁ s₂ : ScenarioStep) (before : List DemoPass) (p₁ : DemoPass) (between : List DemoPass)
    (p₂ : DemoPass) (after : List DemoPass) : Prop where
  steady : Steady (before ++ p₁ :: between ++ p₂ :: after)
  quiet : ∀ p ∈ before ++ between ++ after, receivedCommand p.datagram = none
  first : Heard 1 s₁ p₁
  second : Heard 2 s₂ p₂

theorem received_of_quiet {passes : List DemoPass} (h : ∀ p ∈ passes, receivedCommand p.datagram = none) :
    received passes = [] := List.filterMap_eq_nil_iff.2 h

theorem received_cons (p : DemoPass) (passes : List DemoPass) :
    received (p :: passes) = (receivedCommand p.datagram).toList ++ received passes := by
  rw [← List.singleton_append, received_append, received_singleton]

/-- where an entry of a list lies that is split around another -/
theorem split_cons {α : Type} {front back earlier later : List α} {x y : α}
    (h : front ++ x :: back = earlier ++ y :: later) :
    y ∈ front ∨ (earlier = front ∧ y = x) ∨ ∃ middle, earlier = front ++ x :: middle ∧ back = middle ++ y :: later := by
  rcases List.append_eq_append_iff.1 h with ⟨t, rfl, ht⟩ | ⟨t, rfl, ht⟩
  · cases t with
    | nil =>
      obtain ⟨rfl, -⟩ := List.cons.inj ht
      exact Or.inr (Or.inl ⟨List.append_nil _, rfl⟩)
    | cons z middle =>
      obtain ⟨rfl, hback⟩ := List.cons.inj ht
      exact Or.inr (Or.inr ⟨middle, rfl, hback⟩)
  · cases t with
    | nil =>
      obtain ⟨rfl, -⟩ := List.cons.inj ht
      exact Or.inr (Or.inl ⟨(List.append_nil _).symm, rfl⟩)
    | cons z middle =>
      obtain ⟨rfl, -⟩ := List.cons.inj ht
      exact Or.inl (by simp)

/-- a run of a case is a script of two commands -/
theorem CaseRun.script {s₁ s₂ : ScenarioStep} {before between after : List DemoPass} {p₁ p₂ : DemoPass}
    (h : CaseRun s₁ s₂ before p₁ between p₂ after) {faultCase : FaultCase} {index : ℕ} {c₁ c₂ : CommandPacket}
    (h₁ : receivedCommand p₁.datagram = some c₁ ∧ GroundCommandGuard.InWindow {} c₁.timestampMs p₁.nowMs)
    (h₂ : receivedCommand p₂.datagram = some c₂ ∧ GroundCommandGuard.InWindow {} c₂.timestampMs p₂.nowMs)
    (hnumbers : c₁.sequenceNumber = 1 ∧ c₂.sequenceNumber = 2) :
    Script (demoOptions (scenarioFor faultCase index)) (before ++ p₁ :: between ++ p₂ :: after) where
  sensor := rfl
  loopCount := by
    change (20 : UInt32).toNat < 212
    decide
  steady := h.steady
  commands := by
    intro earlier pass later hsplit command hcommand
    have hquiet : ∀ passes : List DemoPass, passes ⊆ before ++ between ++ after → pass ∉ passes := by
      intro passes hsub hmem
      rw [h.quiet pass (hsub hmem)] at hcommand
      exact absurd hcommand (by simp)
    have hbefore : received before = [] := received_of_quiet fun p hp => h.quiet p (by simp [hp])
    have hbetween : received between = [] := received_of_quiet fun p hp => h.quiet p (by simp [hp])
    rw [List.append_assoc, List.cons_append] at hsplit
    rcases split_cons hsplit with hmem | ⟨rfl, rfl⟩ | ⟨middle, rfl, hrest⟩
    · exact absurd hmem (hquiet before (by simp))
    · obtain rfl := Option.some.inj (h₁.1.symm.trans hcommand)
      rw [hbefore, hnumbers.1]
      exact ⟨rfl, h₁.2⟩
    · rcases split_cons hrest with hmem | ⟨rfl, rfl⟩ | ⟨last, rfl, rfl⟩
      · exact absurd hmem (hquiet between (by simp))
      · obtain rfl := Option.some.inj (h₂.1.symm.trans hcommand)
        rw [received_append, received_cons, hbefore, hbetween, h₁.1, hnumbers.2]
        exact ⟨rfl, h₂.2⟩
      · exact absurd (by simp) (hquiet (last ++ pass :: later) (by simp))

/-- a prefix of a list that holds a given entry -/
theorem exists_front {p pass : DemoPass} {tail mid rest : List DemoPass} (h : p :: tail = mid ++ pass :: rest) :
    ∃ front, mid ++ [pass] = p :: front ∧ ∀ q ∈ front, q ∈ tail := by
  cases mid with
  | nil =>
    obtain ⟨rfl, -⟩ := List.cons.inj h
    exact ⟨[], rfl, by simp⟩
  | cons q mid =>
    obtain ⟨rfl, rfl⟩ := List.cons.inj h
    refine ⟨mid ++ [pass], rfl, ?_⟩
    intro q hq
    rw [List.mem_append, List.mem_singleton] at hq
    rcases hq with hq | rfl <;> simp [*]

/-- **The campaign's expectations are met.** For every fault case, in every run of the demo on its scenario in which the
clock never stalls, the two commands arrive in order and within the guard's window, and no other does: every telemetry
packet from the pass that receives the first command up to the second meets the first expectation, and every one from
the pass that receives the second on meets the second. -/
theorem campaign_expectations_met (faultCase : FaultCase) (hcase : faultCase ∈ faultCases) (index : ℕ)
    (s₁ s₂ : ScenarioStep) (hsteps : (scenarioFor faultCase index).steps = [s₁, s₂]) (before : List DemoPass)
    (p₁ : DemoPass) (between : List DemoPass) (p₂ : DemoPass) (after : List DemoPass)
    (h : CaseRun s₁ s₂ before p₁ between p₂ after) :
    let options := demoOptions (scenarioFor faultCase index)
    (∀ mid pass rest, p₁ :: between = mid ++ pass :: rest → ∀ report,
      ((run options (before ++ mid)).step options pass).1 = some report → Meets report s₁) ∧
    ∀ mid pass rest, p₂ :: after = mid ++ pass :: rest → ∀ report,
      ((run options (before ++ p₁ :: between ++ mid)).step options pass).1 = some report → Meets report s₂ := by
  intro options
  obtain ⟨fault, hnamed, hname, hmode⟩ := exists_fault_of_mem hcase
  have hid₁ : CommandId.setMode.toRaw ∈ commandIdValues := by decide
  have hid₂ : CommandId.injectFault.toRaw ∈ commandIdValues := by decide
  obtain ⟨sent₁, hc₁, hw₁⟩ := h.first.received (fun _ => hid₁) (stepDatagram_first hsteps)
  obtain ⟨sent₂, hc₂, hw₂⟩ := h.second.received (fun _ => hid₂) (stepDatagram_second hnamed hname hsteps)
  have hscript : Script options (before ++ p₁ :: between ++ p₂ :: after) :=
    h.script ⟨hc₁, hw₁⟩ ⟨hc₂, hw₂⟩ ⟨rfl, rfl⟩
  have hbefore : received before = [] := received_of_quiet fun p hp => h.quiet p (by simp [hp])
  have hbetween : received between = [] := received_of_quiet fun p hp => h.quiet p (by simp [hp])
  obtain ⟨rfl, hrest⟩ := List.cons.inj hsteps
  obtain ⟨rfl, -⟩ := List.cons.inj hrest
  refine ⟨?_, ?_⟩
  · intro mid pass rest hsplit report hreport
    have hpart : before ++ p₁ :: between ++ p₂ :: after = before ++ mid ++ [pass] ++ (rest ++ p₂ :: after) := by
      simp [hsplit]
    rw [hpart] at hscript
    obtain ⟨-, telemetry, hlisten, hreported⟩ := hscript.of_append.reported hreport
    obtain ⟨front, hfront, hsub⟩ := exists_front hsplit
    have hquiet : received front = [] := received_of_quiet fun q hq => h.quiet q (by simp [hsub q hq])
    rw [List.append_assoc, hfront, received_append, received_cons, hbefore, hquiet, hc₁] at hreported
    refine ⟨telemetry, hlisten, ?_⟩
    exact packetMatches_of_fields (hreported.acknowledged _ rfl) hreported.mode hreported.lastFault
  · intro mid pass rest hsplit report hreport
    have hpart : before ++ p₁ :: between ++ p₂ :: after = before ++ p₁ :: between ++ mid ++ [pass] ++ rest := by
      simp [hsplit]
    rw [hpart] at hscript
    obtain ⟨-, telemetry, hlisten, hreported⟩ := hscript.of_append.reported hreport
    obtain ⟨front, hfront, hsub⟩ := exists_front hsplit
    have hquiet : received front = [] := received_of_quiet fun q hq => h.quiet q (by simp [hsub q hq])
    rw [List.append_assoc (before ++ p₁ :: between), hfront, received_append, received_append, received_cons,
      received_cons, hbefore, hbetween, hquiet, hc₁, hc₂] at hreported
    obtain ⟨hmode', hfault', hack⟩ := reported_injected hnamed hreported
    rw [← hname, ← hmode]
    exact ⟨telemetry, hlisten, packetMatches_of_fields hack hmode' hfault'⟩

/-- the sensor case, with one silent pass before each command -/
theorem campaign_expectations_met_sensor :
    let earlier : List DemoPass :=
      [{ nowMs := 1000 }, { nowMs := 1150, datagram := some (Wire.serializeCommandPacket (nominalCommand 1100)) },
        { nowMs := 1300 }]
    let pass : DemoPass :=
      { nowMs := 1450, datagram := some (Wire.serializeCommandPacket (injectCommand .sensorTimeout 1400)) }
    ∃ report, ((CommandTelemetryDemo.run { loopCount := 20 } earlier).step { loopCount := 20 } pass).1 = some report ∧
      Meets report { command := some "INJECT_FAULT", argument := some "SENSOR_TIMEOUT", expected :=
        { ackSeq := some (.int 2), ackCmd := some (.str "INJECT_FAULT"), ackStatus := some (.str "ACCEPTED"),
          mode := some (.str "SAFE"), fault := some (.str "SENSOR_TIMEOUT") } } := by
  intro earlier pass
  have hsteps : (scenarioFor ⟨"SENSOR_TIMEOUT", "SAFE"⟩ 0).steps = [_, _] := rfl
  have hnamed : FaultCode.sensorTimeout.isNamed = true := rfl
  have hrun : CaseRun _ _ [{ nowMs := 1000 }]
      { nowMs := 1150, datagram := some (Wire.serializeCommandPacket (nominalCommand 1100)) } [{ nowMs := 1300 }]
      { nowMs := 1450, datagram := some (Wire.serializeCommandPacket (injectCommand .sensorTimeout 1400)) } [] :=
    { steady := by unfold Steady; simp
      quiet := by simp [receivedCommand, UdpCommandReceiver.receivePacket]
      first := ⟨1100, _, stepDatagram_first hsteps 1100, rfl, by decide⟩
      second := ⟨1400, _, stepDatagram_second hnamed rfl hsteps 1400, rfl, by decide⟩ }
  have hr : (CommandTelemetryDemo.run { loopCount := 20 } earlier).running { loopCount := 20 } = true :=
    (running_iff _ _).2 ⟨by simp [earlier], Or.inl (by decide)⟩
  have hreport : (CommandTelemetryDemo.step { loopCount := 20 } _ pass).1 = _ := step_report hr
  exact ⟨_, hreport, (campaign_expectations_met _ (by decide) 0 _ _ hsteps _ _ _ _ _ hrun).2 [] _ [] rfl _ hreport⟩

end FdirCampaign

end AstraFsw
