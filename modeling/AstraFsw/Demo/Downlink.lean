/-
The two links of the demo, end to end: ground tools, wire formats, sockets and application in one loop.

- `demo_downlink`: whatever arrives at the command socket, every pass sends one telemetry packet that the ground listener
  decodes. It carries the pass number, the clock, the mode and the active fault after the pass, and acknowledges the last
  datagram the receiver accepted;
- `garbled_uplink_is_silence`: datagrams that are no accepted packet, or an accepted one with detectable bit errors, leave
  the demo as if nothing had arrived.
-/
import AstraFsw.Demo.FlightLoop
import AstraFsw.Ground.ScenarioRunner
import AstraFsw.Wire.Burst

namespace AstraFsw

open Wire

/-! ## The names of an acknowledgement -/

namespace Ground.TelemetryReceiver

/-- the command name in the dictionary of a decoded packet -/
theorem decodePacket_lastCommandId {packet : TelemetryPacket} {telemetry : Telemetry}
    (h : decodePacket (serializeTelemetryPacket packet) = .ok telemetry) :
    telemetry.lastCommandId = commandName packet.lastCommandId.toNat := by
  rw [serializeTelemetryPacket_eq, decodePacket_frame] at h
  split_ifs at h
  simp only [rawTelemetry, fieldsOf, decodeFields] at h
  split_ifs at h
  obtain rfl := Except.ok.inj h
  rfl

/-- the tool's name for an enumerated command: 0 is both NOOP and no command, and reads as NONE -/
theorem commandName_of_mem {id : CommandId} (h : id.toRaw ∈ commandIdValues) :
    commandName id.toRaw.toUInt8.toNat = if id = .noop then "NONE" else id.toString := by
  cases id with
  | other raw => exact absurd h raw.2
  | _ => rfl

end Ground.TelemetryReceiver

namespace CommandTelemetryDemo

open Ground FlightSoftwareApp

variable {options : DemoOptions} {demo : CommandTelemetryDemo} {pass : DemoPass} {passes : List DemoPass}

/-! ## Acknowledgements -/

theorem step_acknowledgement_of_none (h : receivedCommand pass.datagram = none) (options : DemoOptions)
    (demo : CommandTelemetryDemo) :
    (demo.step options pass).2.app.acknowledgement = demo.app.acknowledgement := by
  cases hr : demo.running options with
  | false => rw [step_of_not_running hr]
  | true =>
    have hcommand : (demo.stepInput options pass).command = none := h
    rw [step_app hr, FlightSoftwareApp.step_acknowledgement, hcommand]
    rfl

theorem step_acknowledgement_of_some (hr : demo.running options = true) {command : CommandPacket}
    (h : receivedCommand pass.datagram = some command) :
    (demo.step options pass).2.app.acknowledgement =
      (command.sequenceNumber, command.commandId.toRaw.toUInt8,
        (demo.app.finalStatus command pass.nowMs).toRaw) := by
  have hcommand : (demo.stepInput options pass).command = some command := h
  rw [step_app hr, FlightSoftwareApp.step_acknowledgement, hcommand]
  rfl

/-- passes without an accepted datagram keep the acknowledgement -/
theorem final_acknowledgement (h : ∀ pass ∈ passes, receivedCommand pass.datagram = none)
    (demo : CommandTelemetryDemo) :
    (Machine.final (step options) demo passes).app.acknowledgement = demo.app.acknowledgement :=
  @Machine.final_view _ _ _ (step options) _ (fun demo => demo.app.acknowledgement) _
    (fun pass hpass demo => step_acknowledgement_of_none (h pass hpass) options demo) demo

/-! ## One telemetry packet -/

/-- the dictionary of the telemetry of one pass -/
structure Reported (telemetry : TelemetryReceiver.Telemetry) (number : ℕ) (nowMs : UInt64)
    (after : FlightSoftwareApp) : Prop where
  sequenceNumber : telemetry.sequenceNumber = number
  heartbeatCount : telemetry.heartbeatCount = number
  timestampMs : telemetry.timestampMs = nowMs.toNat
  mode : telemetry.mode = after.currentMode.toString
  lastFault : telemetry.lastFault = after.lastFault.toString

/-- the three acknowledgement fields of a dictionary -/
structure Acknowledged (telemetry : TelemetryReceiver.Telemetry) (sequence : ℕ) (command status : String) : Prop where
  sequence : telemetry.lastCommandSequenceNumber = sequence
  command : telemetry.lastCommandId = command
  status : telemetry.lastCommandStatus = status

/-- **A pass that is made is heard.** -/
theorem step_downlink (hlockstep : demo.Lockstep) (hnamed : demo.app.lastFault.isNamed = true)
    (hr : demo.running options = true) (pass : DemoPass) :
    ∃ report telemetry, (demo.step options pass).1 = some report ∧ report.datagram.length = 43 ∧
      ScenarioRunner.listen report.datagram = some (.decoded telemetry) ∧
      Reported telemetry demo.loop.toNat pass.nowMs (demo.step options pass).2.app ∧
      ∀ (sequence : UInt32) (id : CommandId) (status : CommandStatus), id.toRaw ∈ commandIdValues →
        (demo.step options pass).2.app.acknowledgement = (sequence, id.toRaw.toUInt8, status.toRaw) →
        Acknowledged telemetry sequence.toNat (if id = .noop then "NONE" else id.toString) status.toString := by
  set input := demo.stepInput options pass with hinput
  have hfailed : demo.failed = false := by
    unfold running at hr
    simp only [Bool.and_eq_true, Bool.not_eq_true'] at hr
    exact hr.1
  have hfault : (demo.app.step input).1.telemetry.lastFault.isNamed = true := by
    rw [step_telemetry_lastFault]
    exact step_lastFault_isNamed hnamed input
  obtain ⟨telemetry, hdecoded, hreports⟩ := TelemetryReceiver.decodePacket_serialize hfault
  have hsequence : (demo.app.step input).1.telemetry.sequenceNumber = demo.loop := hlockstep hfailed
  refine ⟨_, telemetry, step_report hr, length_serializeTelemetryPacket _, ?_, ?_, ?_⟩
  · rw [ScenarioRunner.listen, hdecoded]
  · rw [step_app hr, ← hinput]
    refine ⟨?_, hreports.heartbeatCount, hreports.timestampMs, hreports.mode, hreports.lastFault⟩
    rw [hreports.sequenceNumber, hsequence]
  · intro sequence id status hid hack
    rw [step_app hr, ← step_telemetry_acknowledgement] at hack
    obtain ⟨hseq, hrest⟩ := Prod.mk.inj hack
    obtain ⟨hcommand, hstatus⟩ := Prod.mk.inj hrest
    refine ⟨?_, ?_, hreports.lastCommandStatus status hstatus.symm⟩
    · rw [hreports.lastCommandSequenceNumber, hseq]
    · rw [TelemetryReceiver.decodePacket_lastCommandId hdecoded, hcommand, TelemetryReceiver.commandName_of_mem hid]

theorem run_lastFault_isNamed (options : DemoOptions) (passes : List DemoPass) :
    (run options passes).app.lastFault.isNamed = true := by
  rw [run_app]
  exact FlightSoftwareApp.run_lastFault_isNamed _ _

/-! ## Every pass of a run -/

/-- the telemetry of a pass acknowledges what the receiver accepted last -/
def AcknowledgesLast (options : DemoOptions) (passes : List DemoPass) (telemetry : TelemetryReceiver.Telemetry) : Prop :=
  (∀ before pass between command, passes = before ++ pass :: between →
    receivedCommand pass.datagram = some command → (∀ p ∈ between, receivedCommand p.datagram = none) →
    Acknowledged telemetry command.sequenceNumber.toNat
      (if command.commandId = .noop then "NONE" else command.commandId.toString)
      ((run options before).app.finalStatus command pass.nowMs).toString) ∧
  ((∀ p ∈ passes, receivedCommand p.datagram = none) → Acknowledged telemetry 0 "NONE" "ACCEPTED")

theorem run_append (options : DemoOptions) (passes more : List DemoPass) :
    run options (passes ++ more) = Machine.final (step options) (run options passes) more :=
  Machine.final_append _ _ _ _

/-- a pass that is made, as the ground reads it -/
theorem made_downlink {earlier : List DemoPass} {report : DemoReport}
    (hmade : ((run options earlier).step options pass).1 = some report) :
    report.datagram.length = 43 ∧
      ∃ telemetry, ScenarioRunner.listen report.datagram = some (.decoded telemetry) ∧
        Reported telemetry ((earlier.length + 1) % 2 ^ 32) pass.nowMs (run options (earlier ++ [pass])).app ∧
        AcknowledgesLast options (earlier ++ [pass]) telemetry := by
  cases hr : (run options earlier).running options with
  | false => simp [step_of_not_running hr] at hmade
  | true =>
    obtain ⟨report', telemetry, hreport, hlength, hlisten, hreported, hack⟩ := step_downlink
      (run_lockstep options earlier) (run_lastFault_isNamed options earlier) hr pass
    have hnumber : (run options earlier).loop.toNat = (earlier.length + 1) % 2 ^ 32 := by
      rw [loop_of_running hr, UInt32.toNat_ofNat']
    rw [hreport] at hmade
    obtain rfl := Option.some.inj hmade
    rw [← run_snoc] at hreported hack
    rw [hnumber] at hreported
    refine ⟨hlength, telemetry, hlisten, hreported, ?_, ?_⟩
    · intro before p between command hsplit hcommand hbetween
      have hid := receivedCommand_commandId hcommand
      -- the accepting pass was made: every pass before the last one was
      have hbefore : (run options before).running options = true := by
        obtain ⟨hsent, hcount⟩ := (running_iff options earlier).1 hr
        rcases List.eq_nil_or_concat between with rfl | ⟨middle, last, rfl⟩
        · obtain ⟨rfl, -⟩ := List.append_inj' hsplit rfl
          exact hr
        · rw [List.concat_eq_append, ← List.cons_append, ← List.append_assoc] at hsplit
          obtain ⟨rfl, -⟩ := List.append_inj' hsplit rfl
          refine (running_iff options before).2 ⟨fun q hq => hsent q (List.mem_append_left _ hq), ?_⟩
          rw [List.length_append] at hcount
          omega
      refine hack _ _ _ hid ?_
      rw [hsplit, run_append, Machine.final_cons, final_acknowledgement hbetween,
        step_acknowledgement_of_some hbefore hcommand]
    · intro hnone
      have hinit : (run options (earlier ++ [pass])).app.acknowledgement = (0, 0, 0) :=
        final_acknowledgement hnone {}
      exact hack 0 .noop .accepted (by decide) hinit

/-- **The downlink.** For any options, clock readings and datagrams (any bytes, any length): a pass is made exactly when
every packet before it was sent and the loop count is not reached. A pass that is made sends 43 bytes that the ground
listener decodes, with the number of the pass as sequence and heartbeat, its clock reading, the mode and the active fault
after it, and the acknowledgement of the last datagram that the receiver accepted. -/
theorem demo_downlink (options : DemoOptions) (earlier : List DemoPass) (pass : DemoPass) :
    (((run options earlier).step options pass).1.isSome = true ↔
      (∀ p ∈ earlier, p.sent = true) ∧
        (earlier.length < options.loopCount.toNat ∨ options.loopCount.toNat = 2 ^ 32 - 1)) ∧
    ∀ report, ((run options earlier).step options pass).1 = some report →
      report.datagram.length = 43 ∧
      ∃ telemetry, ScenarioRunner.listen report.datagram = some (.decoded telemetry) ∧
        Reported telemetry ((earlier.length + 1) % 2 ^ 32) pass.nowMs (run options (earlier ++ [pass])).app ∧
        AcknowledgesLast options (earlier ++ [pass]) telemetry := by
  refine ⟨?_, fun report hreport => made_downlink hreport⟩
  rw [← running_iff]
  cases hr : (run options earlier).running options with
  | false => simp [step_of_not_running hr]
  | true => simp [step_report hr]

/-! ## Noise on the uplink -/

/-- no accepted packet, or an accepted one with detectable bit errors -/
inductive Garbled : List UInt8 → Prop
  | length {bytes : List UInt8} : bytes.length ≠ commandPacketSizeBytes → Garbled bytes
  | flips {command : CommandPacket} {error : List UInt8} : command.commandId.toRaw ∈ commandIdValues →
      error.length = 26 → Odd (flipped error).card ∨ (flipped error).card = 2 →
      Garbled (corrupt (serializeCommandPacket command) error)
  | burst {command : CommandPacket} {error : List UInt8} (start : ℕ) : command.commandId.toRaw ∈ commandIdValues →
      error.length = 26 → (flipped error).Nonempty → (∀ w ∈ flipped error, start ≤ w ∧ w < start + 16) →
      flipped error ∉ undetectedBursts → Garbled (corrupt (serializeCommandPacket command) error)

theorem receivedCommand_of_rejected {bytes : List UInt8}
    (h : deserializeCommandPacket bytes {} = some (false, {})) : receivedCommand (some bytes) = none := by
  rw [Option.eq_none_iff_forall_ne_some]
  intro command hcommand
  obtain ⟨bytes', heq, hdecoded⟩ := receivedCommand_eq_some.1 hcommand
  obtain rfl := Option.some.inj heq
  simp [h] at hdecoded

theorem Garbled.receivedCommand {bytes : List UInt8} (h : Garbled bytes) : receivedCommand (some bytes) = none := by
  apply receivedCommand_of_rejected
  cases h with
  | length hlen => exact if_pos hlen
  | flips hid herror hflips =>
    obtain ⟨hlen, hcheck⟩ := check_of_commandAccepted (deserializeCommandPacket_serialize hid {})
    exact deserializeCommandPacket_of_not_check (not_check_corrupt (by decide) hlen herror hcheck hflips) {}
  | burst start hid herror hne hwindow hnot =>
    exact (burst_detected_iff (deserializeCommandPacket_serialize hid {}) herror hne hwindow {}).2 hnot

/-- the demo reads a pass only through its clock, its command and the fate of its packet -/
theorem unwinds_uplink (options : DemoOptions) :
    Machine.Unwinds (step options) id (fun pass => (pass.nowMs, receivedCommand pass.datagram, pass.sent)) id := by
  intro demo demo' pass pass' hdemo hpass
  obtain rfl : demo = demo' := hdemo
  obtain ⟨hnow, hrest⟩ := Prod.mk.inj hpass
  obtain ⟨hcommand, hsent⟩ := Prod.mk.inj hrest
  have hinput : demo.stepInput options pass = demo.stepInput options pass' := by
    unfold stepInput
    rw [hnow, hcommand]
  simp only [step, hinput, hsent, id, and_self]

/-- the same pass, with a garbled datagram in the place of none -/
inductive Noise : DemoPass → DemoPass → Prop
  | same (pass : DemoPass) : Noise pass pass
  | garbled (nowMs : UInt64) (sent : Bool) {bytes : List UInt8} : Garbled bytes →
      Noise { nowMs, datagram := none, sent } { nowMs, datagram := some bytes, sent }

/-- **Noise is silence.** Datagrams of any other length than a packet's, and packets with an odd number of flipped bits,
two, or a detectable burst, in any number and at any passes, change nothing that the demo prints or sends, nor its
state. -/
theorem garbled_uplink_is_silence (options : DemoOptions) (quiet noisy : List DemoPass)
    (h : List.Forall₂ Noise quiet noisy) :
    reports options noisy = reports options quiet ∧ run options noisy = run options quiet := by
  have hsame : quiet.map (fun pass => (pass.nowMs, receivedCommand pass.datagram, pass.sent)) =
      noisy.map fun pass => (pass.nowMs, receivedCommand pass.datagram, pass.sent) := by
    induction h with
    | nil => rfl
    | cons hpass _ ih =>
      rw [List.map_cons, List.map_cons, ih]
      cases hpass with
      | same => rfl
      | garbled nowMs sent hbytes =>
        rw [hbytes.receivedCommand]
        rfl
  obtain ⟨houtputs, hfinal⟩ := (unwinds_uplink options).run (rfl : ({} : CommandTelemetryDemo) = {}) hsame
  rw [List.map_id, List.map_id] at houtputs
  exact ⟨by rw [reports, reports, houtputs], hfinal.symm⟩

/-- between two commands, one run hears a packet with two bits flipped and then two bytes, the other nothing -/
theorem garbled_uplink_is_silence_between :
    let hears (nowMs : UInt64) (bytes : List UInt8) : DemoPass := { nowMs, datagram := some bytes }
    let first := hears 1000 (serializeCommandPacket setModeNominal)
    let last := hears 1600 (serializeCommandPacket { sequenceNumber := 2, timestampMs := 1500, commandId := .noop })
    let flipped := corrupt (serializeCommandPacket setModeNominal) (3 :: List.replicate 25 0)
    reports {} [first, hears 1200 flipped, hears 1400 [7, 7], last] =
        reports {} [first, { nowMs := 1200 }, { nowMs := 1400 }, last] ∧
      run {} [first, hears 1200 flipped, hears 1400 [7, 7], last] =
        run {} [first, { nowMs := 1200 }, { nowMs := 1400 }, last] :=
  garbled_uplink_is_silence {} _ _
    (.cons (.same _) (.cons (.garbled 1200 true (.flips (by decide) rfl (Or.inr (by decide +kernel))))
      (.cons (.garbled 1400 true (.length (by decide))) (.cons (.same _) .nil))))

end CommandTelemetryDemo

end AstraFsw
