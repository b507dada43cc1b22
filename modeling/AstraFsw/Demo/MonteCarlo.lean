/-
The generated trials of `tools/run_monte_carlo.py`, against the demo.

A trial is one of five templates with drawn ports and timeout passes. Two of them command NOMINAL and then wait for a
timeout that the demo makes up in a pass of its own choosing, so command and timeout race.

- `Race.nominal_met_iff`, `Race.timeout_met_iff`: who wins, for one command and any first fault of the demo;
- `monte_carlo_trials`: which steps of a trial are met.
-/
import AstraFsw.App.Safety
import AstraFsw.Demo.ClosedLoop

namespace AstraFsw.MonteCarlo

open Ground StepLoop CommandTelemetryDemo FdirCampaign

/-! ## The generator -/

/-- what `make_case` draws; `choice` is the index that `rng.choice` takes -/
structure Draws where
  commandPort : ℕ
  sensorTimeoutLoop : ℕ
  watchdogTimeoutLoop : ℕ
  choice : Fin 5
  commandPort_mem : 20000 ≤ commandPort ∧ commandPort ≤ 50000
  sensorTimeoutLoop_mem : 7 ≤ sensorTimeoutLoop ∧ sensorTimeoutLoop ≤ 11
  watchdogTimeoutLoop_mem : 7 ≤ watchdogTimeoutLoop ∧ watchdogTimeoutLoop ≤ 11

structure Template where
  suffix : String
  description : String
  loopCount : ℕ
  sensorTimeoutLoop : Option ℕ := none
  watchdogTimeoutLoop : Option ℕ := none
  requirements : List String
  steps : List ScenarioStep
deriving DecidableEq, Repr

/-- a step with a command and its acknowledgement -/
def commandStep (number : ℤ) (command : String) (argument : Option String) (status : ℤ) (mode fault : String) :
    ScenarioStep where
  command := some command
  argument := argument
  expected :=
    { ackSeq := some (.int number), ackCmd := some (.str command), ackStatus := some (.int status),
      mode := some (.str mode), fault := some (.str fault) }

/-- a step that waits for SAFE and a fault -/
def waitStep (fault : String) : ScenarioStep where
  expected := { mode := some (.str "SAFE"), fault := some (.str fault) }

def setNominal : ScenarioStep := commandStep 1 "SET_MODE" (some "NOMINAL") 0 "NOMINAL" "NONE"

def templates (draws : Draws) : List Template :=
  [{ suffix := "nominal_transition", description := "Randomized verification of BOOT to NOMINAL transition."
     loopCount := 12, requirements := ["FSW-REQ-002", "FSW-REQ-106", "VER-REQ-006"]
     steps := [setNominal] },
   { suffix := "invalid_transition", description := "Randomized verification of invalid transition rejection."
     loopCount := 12, requirements := ["FSW-REQ-003", "FSW-REQ-106", "VER-REQ-006"]
     steps := [commandStep 1 "SET_MODE" (some "RECOVERY") 2 "BOOT" "NONE"] },
   { suffix := "cpu_fault_clear", description := "Randomized verification of CPU fault and fault clearing."
     loopCount := 22, requirements := ["FSW-REQ-002", "FSW-REQ-004", "FSW-REQ-005", "FSW-REQ-106", "VER-REQ-006"]
     steps := [setNominal, commandStep 2 "INJECT_FAULT" (some "CPU_OVERLOAD") 0 "DEGRADED_PAYLOAD" "CPU_OVERLOAD",
       commandStep 3 "CLEAR_FAULT" none 0 "DEGRADED_PAYLOAD" "NONE"] },
   { suffix := "sensor_timeout", description := "Randomized verification of sensor timeout forcing SAFE mode."
     loopCount := 22, sensorTimeoutLoop := some draws.sensorTimeoutLoop
     requirements := ["FSW-REQ-002", "FSW-REQ-006", "FSW-REQ-106", "VER-REQ-006"]
     steps := [setNominal, waitStep "SENSOR_TIMEOUT"] },
   { suffix := "watchdog_timeout", description := "Randomized verification of watchdog timeout forcing SAFE mode."
     loopCount := 22, watchdogTimeoutLoop := some draws.watchdogTimeoutLoop
     requirements := ["FSW-REQ-002", "FSW-REQ-007", "FSW-REQ-106", "VER-REQ-006"]
     steps := [setNominal, waitStep "WATCHDOG_DEADLINE_MISS"] }]

structure Scenario where
  name : String
  description : String
  requirements : List String
  commandPort : ℕ
  telemetryPort : ℕ
  loopCount : ℕ
  steps : List ScenarioStep
  sensorTimeoutLoop : Option ℕ
  watchdogTimeoutLoop : Option ℕ
deriving DecidableEq, Repr

/-- the format `03d` -/
def threeDigits (n : ℕ) : String := String.ofList (List.leftpad 3 '0' (toString n).toList)

/-- `make_case` -/
def makeCase (draws : Draws) (trialId : ℕ) : Scenario :=
  let case := (templates draws).get draws.choice
  { name := "monte_carlo_trial_" ++ threeDigits trialId ++ "_" ++ case.suffix
    description := case.description
    requirements := case.requirements
    commandPort := draws.commandPort
    telemetryPort := draws.commandPort + 1
    loopCount := case.loopCount
    steps := case.steps
    sensorTimeoutLoop := case.sensorTimeoutLoop
    watchdogTimeoutLoop := case.watchdogTimeoutLoop }

/-- the arguments that the runner starts the demo with -/
def demoOptions (scenario : Scenario) : DemoOptions where
  loopCount := UInt32.ofNat scenario.loopCount
  sensorTimeoutLoop := UInt32.ofNat (scenario.sensorTimeoutLoop.getD 0)
  watchdogTimeoutLoop := UInt32.ofNat (scenario.watchdogTimeoutLoop.getD 0)

/-! ## What the ground reads -/

variable {options : DemoOptions} {fault : FaultCode} {timeout : ℕ} {before after earlier later : List DemoPass}
  {p pass : DemoPass}

/-- the telemetry of some pass meets a step -/
def Met (options : DemoOptions) (passes : List DemoPass) (step : ScenarioStep) : Prop :=
  ∃ earlier pass later report, passes = earlier ++ pass :: later ∧
    ((run options earlier).step options pass).1 = some report ∧ Meets report step

/-- a report is read in one way only -/
theorem packetMatches_of_meets {report : DemoReport} {step : ScenarioStep} {telemetry : TelemetryReceiver.Telemetry}
    (h : Meets report step) (hlisten : ScenarioRunner.listen report.datagram = some (.decoded telemetry)) :
    ScenarioRunner.packetMatches telemetry step.expected = true := by
  obtain ⟨telemetry', hlisten', hmatch⟩ := h
  rw [hlisten, Option.some.injEq, ScenarioRunner.Received.decoded.injEq] at hlisten'
  rwa [hlisten']

/-- a packet that meets `setNominal` acknowledges command 1 in NOMINAL -/
theorem packetMatches_setNominal {telemetry : TelemetryReceiver.Telemetry}
    (h : ScenarioRunner.packetMatches telemetry setNominal.expected = true) :
    telemetry.lastCommandSequenceNumber = 1 ∧ telemetry.mode = Mode.nominal.toString := by
  simp only [ScenarioRunner.packetMatches, setNominal, commandStep, Option.all_some, Bool.and_eq_true,
    ScenarioRunner.YamlValue.eqInt, ScenarioRunner.YamlValue.eqStr, beq_iff_eq] at h
  obtain ⟨⟨⟨⟨hsequence, -⟩, -⟩, hmode⟩, -⟩ := h
  exact ⟨hsequence.symm, hmode.symm⟩

theorem packetMatches_waitStep_iff {telemetry : TelemetryReceiver.Telemetry} {name : String} :
    ScenarioRunner.packetMatches telemetry (waitStep name).expected = true ↔
      telemetry.mode = Mode.safe.toString ∧ telemetry.lastFault = name := by
  simp only [ScenarioRunner.packetMatches, waitStep, Option.all_none, Option.all_some, Bool.and_eq_true,
    ScenarioRunner.YamlValue.eqStr, beq_iff_eq, true_and]
  exact and_congr eq_comm eq_comm

/-- telemetry of a script that meets the step of its last command -/
theorem packetMatches_commandStep {telemetry : TelemetryReceiver.Telemetry} {commands : List CommandPacket}
    (h : ScriptReported telemetry commands) {result : CommandResult}
    (hresult : (Machine.outputs CommandProcessor.process {} commands).getLast? = some result) {number status : ℤ}
    {command mode fault : String} {argument : Option String} (hnumber : (result.sequenceNumber.toNat : ℤ) = number)
    (hcommand : (if result.commandId = .noop then "NONE" else result.commandId.toString) = command)
    (hstatus : ScenarioRunner.YamlValue.statusName (.int status) = .str result.status.toString)
    (hmode : (Machine.final CommandProcessor.process {} commands).modeManager.mode.toString = mode)
    (hfault : (Machine.final CommandProcessor.process {} commands).lastFault.toString = fault) :
    ScenarioRunner.packetMatches telemetry (commandStep number command argument status mode fault).expected = true := by
  have hack := h.acknowledged result hresult
  simp [ScenarioRunner.packetMatches, commandStep, ScenarioRunner.YamlValue.eqInt, ScenarioRunner.YamlValue.eqStr,
    hstatus, hack.sequence, hack.command, hack.status, h.mode, h.lastFault, hnumber, hcommand, hmode, hfault]

/-! ## A command against a timeout -/

/-- a run in which SET_MODE NOMINAL arrives in pass `p`, no other command does, and the first internal fault comes in
the pass numbered `timeout` -/
structure Race (options : DemoOptions) (fault : FaultCode) (timeout : ℕ) (before : List DemoPass) (p : DemoPass)
    (after : List DemoPass) : Prop where
  made : ∀ earlier pass later, before ++ p :: after = earlier ++ pass :: later →
    (run options earlier).running options = true
  early : ∀ earlier pass later, before ++ p :: after = earlier ++ pass :: later → earlier.length + 1 < timeout →
    demoFault options earlier pass = .none
  raised : ∀ earlier pass later, before ++ p :: after = earlier ++ pass :: later → earlier.length + 1 = timeout →
    demoFault options earlier pass = fault
  fault_ne : fault ≠ .none
  silent : ∀ q ∈ before ++ after, receivedCommand q.datagram = none
  heard : Heard 1 setNominal p

namespace Race

theorem command (h : Race options fault timeout before p after) :
    ∃ sentMs, receivedCommand p.datagram = some (nominalCommand sentMs) ∧
      GroundCommandGuard.InWindow {} sentMs p.nowMs := by
  have hsteps : (scenarioFor ⟨"SENSOR_TIMEOUT", "SAFE"⟩ 0).steps = [_, _] := rfl
  refine h.heard.received (fun _ => ?_) (fun sentMs => stepDatagram_first hsteps sentMs)
  exact (by decide : CommandId.setMode.toRaw ∈ commandIdValues)

/-- every pass hears SET_MODE NOMINAL, numbered 1, or nothing -/
theorem received_eq (h : Race options fault timeout before p after)
    (hsplit : before ++ p :: after = earlier ++ pass :: later) {command : CommandPacket}
    (hcommand : receivedCommand pass.datagram = some command) :
    earlier = before ∧ ∃ sentMs, command = nominalCommand sentMs ∧ GroundCommandGuard.InWindow {} sentMs pass.nowMs := by
  rcases split_cons hsplit with hmem | ⟨rfl, rfl⟩ | ⟨middle, rfl, rfl⟩
  · rw [h.silent pass (List.mem_append_left _ hmem)] at hcommand
    cases hcommand
  · obtain ⟨sentMs, hreceived, hwindow⟩ := h.command
    rw [hreceived, Option.some.injEq] at hcommand
    exact ⟨rfl, sentMs, hcommand.symm, hwindow⟩
  · rw [h.silent pass (by simp)] at hcommand
    cases hcommand

theorem before_silent (h : Race options fault timeout before p after) : received before = [] :=
  received_of_quiet fun q hq => h.silent q (List.mem_append_left _ hq)

/-- the commands received up to a pass -/
theorem received_upTo (h : Race options fault timeout before p after)
    (hsplit : before ++ p :: after = earlier ++ pass :: later) :
    (earlier.length < before.length ∧ received (earlier ++ [pass]) = []) ∨
      (before.length ≤ earlier.length ∧ ∃ sentMs, received (earlier ++ [pass]) = [nominalCommand sentMs]) := by
  have hfront : earlier ++ [pass] <+: before ++ p :: after := ⟨later, by simp [hsplit]⟩
  rcases lt_or_ge earlier.length before.length with hlt | hle
  · have hpart : earlier ++ [pass] <+: before :=
      List.prefix_of_prefix_length_le hfront (List.prefix_append _ _) (by simpa using hlt)
    exact Or.inl ⟨hlt, received_of_quiet fun q hq => h.silent q (List.mem_append_left _ (hpart.subset hq))⟩
  · have hpart : before ++ [p] <+: earlier ++ [pass] :=
      List.prefix_of_prefix_length_le ⟨after, by simp⟩ hfront (by simpa using hle)
    obtain ⟨middle, hmiddle⟩ := hpart
    have hrest : middle <+: after := by
      rw [← hmiddle, List.append_assoc, List.prefix_append_right_inj] at hfront
      exact (List.cons_prefix_cons.1 hfront).2
    have hquiet : received middle = [] :=
      received_of_quiet fun q hq => h.silent q (List.mem_append_right _ (hrest.subset hq))
    obtain ⟨sentMs, hcommand, -⟩ := h.command
    refine Or.inr ⟨hle, sentMs, ?_⟩
    rw [← hmiddle, received_append, received_append, received_singleton, h.before_silent, hquiet, hcommand]
    rfl

/-- before the timeout the run is quiet -/
theorem quiet (h : Race options fault timeout before p after)
    (hsplit : before ++ p :: after = earlier ++ pass :: later) (hearly : earlier.length + 1 < timeout) :
    Quiet options (earlier ++ [pass]) := by
  intro front q back hinner
  have hsplit' : before ++ p :: after = front ++ q :: (back ++ later) := by
    calc before ++ p :: after = earlier ++ [pass] ++ later := by simp [hsplit]
      _ = front ++ q :: (back ++ later) := by simp [hinner]
  have hlength : front.length + 1 < timeout := by
    have hcount := congrArg List.length hinner
    simp only [List.length_append, List.length_cons, List.length_nil] at hcount
    omega
  refine ⟨h.made front q _ hsplit', h.early front q _ hsplit' hlength, ?_⟩
  intro command hcommand
  obtain ⟨rfl, sentMs, rfl, hwindow⟩ := h.received_eq hsplit' hcommand
  rw [h.before_silent]
  exact ⟨rfl, hwindow⟩

/-- the timeout itself ends in SAFE with the fault active -/
theorem safe_at (h : Race options fault timeout before p after)
    (hsplit : before ++ p :: after = earlier ++ pass :: later) (hnumber : earlier.length + 1 = timeout) :
    (run options (earlier ++ [pass])).app.currentMode = .safe ∧
      (run options (earlier ++ [pass])).app.lastFault = fault := by
  have hr := h.made earlier pass later hsplit
  have hfault := h.raised earlier pass later hsplit hnumber
  have hne : demoFault options earlier pass ≠ .none := by
    rw [hfault]
    exact h.fault_ne
  have hprimary := primaryFault_stepInput hr pass
  constructor
  · rw [run_snoc, step_app hr, FlightSoftwareApp.step_currentMode, hprimary]
    exact faultMode_demoFault hne _
  · rw [run_snoc, step_app hr, FlightSoftwareApp.step_lastFault, hprimary, if_neg hne, hfault]

/-- from the timeout on the mode is SAFE: the only command of the run does not leave it -/
theorem safe (h : Race options fault timeout before p after)
    (hsplit : before ++ p :: after = earlier ++ pass :: later) (hlate : timeout ≤ earlier.length + 1)
    (hpos : 0 < timeout) : (run options (earlier ++ [pass])).app.currentMode = .safe := by
  induction earlier using List.reverseRecOn generalizing pass later with
  | nil =>
    have hone : ([] : List DemoPass).length + 1 = timeout := by
      rw [List.length_nil] at hlate ⊢
      omega
    exact (h.safe_at hsplit hone).1
  | append_singleton earlier last ih =>
    rcases eq_or_lt_of_le hlate with heq | hlt
    · exact (h.safe_at hsplit heq.symm).1
    · have hbefore : (run options (earlier ++ [last])).app.currentMode = .safe := by
        have hsplit' : before ++ p :: after = earlier ++ last :: pass :: later := by simp [hsplit]
        refine ih hsplit' ?_
        rw [List.length_append, List.length_singleton] at hlt
        omega
      have hr := h.made _ pass later hsplit
      rw [run_snoc, step_app hr]
      by_contra hleft
      obtain ⟨-, packet, hpacket, -, hrecovery, -⟩ := FlightSoftwareApp.step_leaves_safe _ _ hbefore hleft
      obtain ⟨-, sentMs, rfl, -⟩ := h.received_eq hsplit hpacket
      cases hrecovery

/-- the telemetry of a pass that is made -/
theorem downlink (h : Race options fault timeout before p after)
    (hsplit : before ++ p :: after = earlier ++ pass :: later) :
    ∃ report telemetry, ((run options earlier).step options pass).1 = some report ∧
      ScenarioRunner.listen report.datagram = some (.decoded telemetry) ∧
      telemetry.mode = (run options (earlier ++ [pass])).app.currentMode.toString ∧
      telemetry.lastFault = (run options (earlier ++ [pass])).app.lastFault.toString ∧
      AcknowledgesLast options (earlier ++ [pass]) telemetry := by
  have hreport : ((run options earlier).step options pass).1 = _ := step_report (h.made earlier pass later hsplit)
  obtain ⟨-, telemetry, hlisten, hreported, hack⟩ := made_downlink hreport
  exact ⟨_, telemetry, hreport, hlisten, hreported.mode, hreported.lastFault, hack⟩

/-- **The command wins** exactly when it arrives before the timeout. -/
theorem nominal_met_iff (h : Race options fault timeout before p after) (hpos : 0 < timeout) :
    Met options (before ++ p :: after) setNominal ↔ before.length + 1 < timeout := by
  constructor
  · intro hmet
    obtain ⟨earlier, pass, later, report, hsplit, hreport, hmeets⟩ := hmet
    obtain ⟨report', telemetry, hreport', hlisten, hmode, -, -, hsilent⟩ := h.downlink hsplit
    rw [hreport', Option.some.injEq] at hreport
    subst hreport
    obtain ⟨hsequence, hnominal⟩ := packetMatches_setNominal (packetMatches_of_meets hmeets hlisten)
    by_contra hlost
    rcases lt_or_ge (earlier.length + 1) timeout with hearly | hlate
    · -- nothing has been received yet
      rcases h.received_upTo hsplit with ⟨-, hnothing⟩ | ⟨hle, -⟩
      · rw [(hsilent (List.filterMap_eq_nil_iff.1 hnothing)).sequence] at hsequence
        omega
      · omega
    · rw [hmode, h.safe hsplit hlate hpos] at hnominal
      exact absurd hnominal (by decide)
  · intro hwins
    have hquiet := h.quiet rfl hwins
    obtain ⟨sentMs, hcommand, -⟩ := h.command
    obtain ⟨report, -, hreport, -⟩ := h.downlink rfl
    obtain ⟨telemetry, hlisten, hreported⟩ := hquiet.reported hreport
    rw [received_append, received_singleton, h.before_silent, hcommand] at hreported
    refine ⟨before, p, after, report, rfl, hreport, telemetry, hlisten, ?_⟩
    exact packetMatches_commandStep hreported rfl rfl rfl rfl rfl rfl

/-- **The timeout is seen** exactly when its pass is made. -/
theorem timeout_met_iff (h : Race options fault timeout before p after) (hpos : 0 < timeout) :
    Met options (before ++ p :: after) (waitStep fault.toString) ↔ timeout ≤ (before ++ p :: after).length := by
  constructor
  · intro hmet
    obtain ⟨earlier, pass, later, report, hsplit, hreport, hmeets⟩ := hmet
    obtain ⟨report', telemetry, hreport', hlisten, hmode, -, -⟩ := h.downlink hsplit
    rw [hreport', Option.some.injEq] at hreport
    subst hreport
    obtain ⟨hsafe, -⟩ := packetMatches_waitStep_iff.1 (packetMatches_of_meets hmeets hlisten)
    by_contra hshort
    have hcount : (before ++ p :: after).length = earlier.length + (later.length + 1) := by
      rw [hsplit, List.length_append, List.length_cons]
    have hquiet := h.quiet hsplit (by omega)
    rw [hmode, FlightSoftwareApp.currentMode, hquiet.delivered.processor] at hsafe
    rcases h.received_upTo hsplit with ⟨-, hnothing⟩ | ⟨-, sentMs, hone⟩
    · rw [hnothing] at hsafe
      exact absurd hsafe (by decide)
    · have hnominal : (Machine.final CommandProcessor.process {} [nominalCommand sentMs]).modeManager.mode =
          .nominal := rfl
      rw [hone, hnominal] at hsafe
      exact absurd hsafe (by decide)
  · intro hlong
    obtain ⟨earlier, pass, later, hsplit, hnumber⟩ : ∃ earlier pass later,
        before ++ p :: after = earlier ++ pass :: later ∧ earlier.length + 1 = timeout := by
      have hlt : timeout - 1 < (before ++ p :: after).length := by omega
      refine ⟨(before ++ p :: after).take (timeout - 1), (before ++ p :: after)[timeout - 1],
        (before ++ p :: after).drop (timeout - 1 + 1), ?_, ?_⟩
      · rw [List.getElem_cons_drop, List.take_append_drop]
      · rw [List.length_take]
        omega
    obtain ⟨report, telemetry, hreport, hlisten, hmode, hlast, -⟩ := h.downlink hsplit
    obtain ⟨hsafe, hactive⟩ := h.safe_at hsplit hnumber
    refine ⟨earlier, pass, later, report, hsplit, hreport, telemetry, hlisten, ?_⟩
    rw [packetMatches_waitStep_iff, hmode, hlast, hsafe, hactive]
    exact ⟨rfl, rfl⟩

end Race

/-! ## The demo's own timeouts -/

/-- the clock moves by less than 500 ms from pass to pass, but for the delay -/
def Paced (options : DemoOptions) (passes : List DemoPass) : Prop :=
  ∀ earlier previous pass later, passes = earlier ++ previous :: pass :: later →
    if delayMs options (UInt32.ofNat (earlier.length + 2)) = 0 then pass.nowMs.toNat < previous.nowMs.toNat + 500
    else previous.nowMs.toNat + delayMs options (UInt32.ofNat (earlier.length + 2)) ≤ pass.nowMs.toNat

/-- a run with one SET_MODE NOMINAL, in pass `p`, and no other delay than the demo's own -/
structure TimeoutRun (options : DemoOptions) (before : List DemoPass) (p : DemoPass) (after : List DemoPass) :
    Prop where
  sent : ∀ q ∈ before ++ p :: after, q.sent = true
  count : (before ++ p :: after).length ≤ options.loopCount.toNat
  paced : Paced options (before ++ p :: after)
  silent : ∀ q ∈ before ++ after, receivedCommand q.datagram = none
  heard : Heard 1 setNominal p

theorem delayMs_ne_zero_iff {loop : UInt32} :
    delayMs options loop ≠ 0 ↔ options.watchdogTimeoutLoop ≠ 0 ∧ loop = options.watchdogTimeoutLoop := by
  unfold delayMs
  split_ifs with h <;> simp [h]

/-- the watchdog sees the delayed pass, unless it is the first, and no other -/
theorem Paced.stalled_iff {passes : List DemoPass} (h : Paced options passes)
    (hsplit : passes = earlier ++ pass :: later) :
    FlightSoftwareApp.Stalled (lastPassMs earlier) pass.nowMs ↔
      earlier ≠ [] ∧ delayMs options (UInt32.ofNat (earlier.length + 1)) ≠ 0 := by
  rcases List.eq_nil_or_concat earlier with rfl | ⟨front, previous, rfl⟩
  · simp [FlightSoftwareApp.Stalled, lastPassMs]
  · rw [List.concat_eq_append] at hsplit ⊢
    have hpace := h front previous pass later (by simp [hsplit])
    have hlast : lastPassMs (front ++ [previous]) = some previous.nowMs := by simp [lastPassMs]
    have hnumber : (front ++ [previous]).length + 1 = front.length + 2 := by simp
    rw [hlast, hnumber, FlightSoftwareApp.stalled_some]
    split_ifs at hpace with hdelay
    · exact iff_of_false (by omega) (fun hlate => hlate.2 hdelay)
    · have hlong : delayMs options (UInt32.ofNat (front.length + 2)) = 650 := if_pos (delayMs_ne_zero_iff.1 hdelay)
      exact iff_of_true (by omega) ⟨by simp, hdelay⟩

namespace TimeoutRun

theorem made (h : TimeoutRun options before p after) (hsplit : before ++ p :: after = earlier ++ pass :: later) :
    (run options earlier).running options = true := by
  have hcount := h.count
  rw [hsplit, List.length_append, List.length_cons] at hcount
  refine (running_iff options earlier).2 ⟨fun q hq => h.sent q ?_, by omega⟩
  rw [hsplit]
  exact List.mem_append_left _ hq

/-- the internal fault of a pass of a short run -/
theorem demoFault_eq (h : TimeoutRun options before p after) (hshort : options.loopCount.toNat < 212)
    (hsplit : before ++ p :: after = earlier ++ pass :: later) :
    demoFault options earlier pass =
      if earlier ≠ [] ∧ delayMs options (UInt32.ofNat (earlier.length + 1)) ≠ 0 then .watchdogDeadlineMiss
      else if options.sensorTimeoutLoop ≠ 0 ∧ options.sensorTimeoutLoop.toNat ≤ earlier.length + 1 then .sensorTimeout
      else .none := by
  have hcount := h.count
  rw [hsplit, List.length_append, List.length_cons] at hcount
  have hnumber : (earlier.length + 1) % 2 ^ 32 = earlier.length + 1 := Nat.mod_eq_of_lt (by omega)
  have hbelow : ¬ 212 ≤ earlier.length + 1 := by omega
  unfold demoFault
  simp only [hnumber, h.paced.stalled_iff hsplit, if_neg hbelow]

theorem race (h : TimeoutRun options before p after) (hne : fault ≠ .none)
    (hearly : ∀ earlier pass later, before ++ p :: after = earlier ++ pass :: later → earlier.length + 1 < timeout →
      demoFault options earlier pass = .none)
    (hraised : ∀ earlier pass later, before ++ p :: after = earlier ++ pass :: later → earlier.length + 1 = timeout →
      demoFault options earlier pass = fault) : Race options fault timeout before p after :=
  ⟨fun _ _ _ hsplit => h.made hsplit, hearly, hraised, hne, h.silent, h.heard⟩

/-- the sensor grows old in pass `timeout` -/
theorem sensor_race (h : TimeoutRun options before p after) (hshort : options.loopCount.toNat < 212)
    (hwatchdog : options.watchdogTimeoutLoop = 0) (hsensor : options.sensorTimeoutLoop = UInt32.ofNat timeout)
    (hpos : 0 < timeout) (hsmall : timeout < 2 ^ 32) : Race options .sensorTimeout timeout before p after := by
  have hnumber : options.sensorTimeoutLoop.toNat = timeout := by
    rw [hsensor, UInt32.toNat_ofNat_of_lt' hsmall]
  have hset : options.sensorTimeoutLoop ≠ 0 := by
    intro hzero
    rw [hzero] at hnumber
    exact absurd hnumber (by simpa using hpos.ne)
  have hdelay : ∀ loop, ¬ delayMs options loop ≠ 0 := by
    intro loop hloop
    exact (delayMs_ne_zero_iff.1 hloop).1 hwatchdog
  refine h.race (by decide) ?_ ?_
  · intro earlier pass later hsplit hearly
    rw [h.demoFault_eq hshort hsplit, if_neg (fun hd => hdelay _ hd.2), if_neg]
    omega
  · intro earlier pass later hsplit hat
    rw [h.demoFault_eq hshort hsplit, if_neg (fun hd => hdelay _ hd.2), if_pos ⟨hset, by omega⟩]

/-- the loop is late in pass `timeout`, which is not the first -/
theorem watchdog_race (h : TimeoutRun options before p after) (hshort : options.loopCount.toNat < 212)
    (hsensor : options.sensorTimeoutLoop = 0) (hwatchdog : options.watchdogTimeoutLoop = UInt32.ofNat timeout)
    (hpos : 1 < timeout) (hsmall : timeout < 2 ^ 32) : Race options .watchdogDeadlineMiss timeout before p after := by
  have hdelay : ∀ number, number < 2 ^ 32 → (delayMs options (UInt32.ofNat number) ≠ 0 ↔ number = timeout) := by
    intro number hnumber
    have hset : options.watchdogTimeoutLoop ≠ 0 := by
      rw [hwatchdog, ← UInt32.toNat_inj.ne, UInt32.toNat_ofNat_of_lt' hsmall, UInt32.toNat_zero]
      omega
    have hloop : UInt32.ofNat number = UInt32.ofNat timeout ↔ number = timeout := by
      rw [← UInt32.toNat_inj, UInt32.toNat_ofNat_of_lt' hsmall, UInt32.toNat_ofNat_of_lt' hnumber]
    rw [delayMs_ne_zero_iff, hwatchdog, hloop, ← hwatchdog]
    exact and_iff_right hset
  have hsmall' : ∀ {earlier : List DemoPass} {pass later}, before ++ p :: after = earlier ++ pass :: later →
      earlier.length + 1 < 2 ^ 32 := by
    intro earlier pass later hsplit
    have hcount := h.count
    rw [hsplit, List.length_append, List.length_cons] at hcount
    omega
  refine h.race (by decide) ?_ ?_
  · intro earlier pass later hsplit hearly
    have hnumber : earlier.length + 1 ≠ timeout := by omega
    rw [h.demoFault_eq hshort hsplit, if_neg (fun hd => hnumber ((hdelay _ (hsmall' hsplit)).1 hd.2)),
      if_neg (fun hs => hs.1 hsensor)]
  · intro earlier pass later hsplit hat
    have hlater : earlier ≠ [] := List.ne_nil_of_length_pos (by omega)
    rw [h.demoFault_eq hshort hsplit, if_pos ⟨hlater, (hdelay _ (hsmall' hsplit)).2 hat⟩]

end TimeoutRun

/-! ## Trials without a timeout -/

/-- the packet asked for, but for its timestamp -/
theorem sentAs_eq {n : ℕ} {id : CommandId} {argument : Option String} {value : UInt32} {packet : CommandPacket}
    (h : SentAs (n, id.toString, argument) packet) (hn : n < 2 ^ 32) (hid : id.toRaw ∈ commandIdValues)
    (hargument : Ground.SendCommand.parseArgument id.toString argument = .ok (value.toNat : ℤ)) :
    packet = ⟨UInt32.ofNat n, packet.timestampMs, id, value⟩ := by
  obtain ⟨argumentValue, timestampMs, hparsed, hrequests⟩ := h
  obtain ⟨sequenceNumber, timestamp, commandId, packetArgument⟩ := packet
  have hsequence : sequenceNumber = UInt32.ofNat n := by
    have hnumber := hrequests.sequenceNumber
    rw [← UInt32.toNat_inj, UInt32.toNat_ofNat_of_lt' hn]
    exact_mod_cast hnumber
  have hvalue : packetArgument = value := by
    have hnumber := hrequests.argument
    rw [hargument, Except.ok.injEq] at hparsed
    rw [← hparsed] at hnumber
    rw [← UInt32.toNat_inj]
    exact_mod_cast hnumber
  have hname : commandId = id := by
    obtain ⟨hmem, hstring⟩ := hrequests.commandId
    have hindex := Ground.SendCommand.index_commands hmem
    rw [hstring, Ground.SendCommand.index_commands hid, Except.ok.injEq, Nat.cast_inj, UInt16.toNat_inj] at hindex
    rw [← CommandId.ofRaw_toRaw commandId, ← hindex, CommandId.ofRaw_toRaw]
  rw [hsequence, hvalue, hname]

theorem sentAs_nominal {packet : CommandPacket} (h : SentAs (1, "SET_MODE", some "NOMINAL") packet) :
    packet = nominalCommand packet.timestampMs := by
  have hid : CommandId.setMode.toRaw ∈ commandIdValues := by decide
  exact sentAs_eq h (by decide) hid rfl

/-- telemetry after the first k + 1 commands of the steps meets step k -/
def MetInScript (steps : List ScenarioStep) : Prop :=
  ∀ k step, steps[k]? = some step → ∀ commands,
    List.Forall₂ SentAs ((ClosedLoop.sends 1 steps).take (k + 1)) commands →
      ∀ telemetry, ScriptReported telemetry commands → ScenarioRunner.packetMatches telemetry step.expected = true

theorem metInScript_nominal : MetInScript [setNominal] := by
  intro k step hstep commands hsent telemetry hreported
  cases k with
  | zero =>
    obtain rfl := Option.some.inj hstep
    rcases hsent with _ | ⟨hfirst, hrest⟩
    cases hrest
    rw [sentAs_nominal hfirst] at hreported
    exact packetMatches_commandStep hreported rfl rfl rfl rfl rfl rfl
  | succ k => cases hstep

theorem metInScript_invalid : MetInScript [commandStep 1 "SET_MODE" (some "RECOVERY") 2 "BOOT" "NONE"] := by
  intro k step hstep commands hsent telemetry hreported
  cases k with
  | zero =>
    obtain rfl := Option.some.inj hstep
    rcases hsent with _ | ⟨hfirst, hrest⟩
    cases hrest
    have hid : CommandId.setMode.toRaw ∈ commandIdValues := by decide
    have hargument : Ground.SendCommand.parseArgument CommandId.setMode.toString (some "RECOVERY") =
        .ok ((UInt32.ofNat Mode.recovery.toRaw.toNat).toNat : ℤ) := rfl
    rw [sentAs_eq hfirst (by decide) hid hargument] at hreported
    exact packetMatches_commandStep hreported rfl rfl rfl rfl rfl rfl
  | succ k => cases hstep

theorem metInScript_cpuFault :
    MetInScript [setNominal, commandStep 2 "INJECT_FAULT" (some "CPU_OVERLOAD") 0 "DEGRADED_PAYLOAD" "CPU_OVERLOAD",
      commandStep 3 "CLEAR_FAULT" none 0 "DEGRADED_PAYLOAD" "NONE"] := by
  intro k step hstep commands hsent telemetry hreported
  have hinject : CommandId.injectFault.toRaw ∈ commandIdValues := by decide
  have hclear : CommandId.clearFault.toRaw ∈ commandIdValues := by decide
  have hfault : Ground.SendCommand.parseArgument CommandId.injectFault.toString (some "CPU_OVERLOAD") =
      .ok ((UInt32.ofNat FaultCode.cpuOverload.toRaw.toNat).toNat : ℤ) := rfl
  have hnone : Ground.SendCommand.parseArgument CommandId.clearFault.toString none = .ok ((0 : UInt32).toNat : ℤ) := rfl
  match k with
  | 0 =>
    obtain rfl := Option.some.inj hstep
    rcases hsent with _ | ⟨hfirst, hrest⟩
    cases hrest
    rw [sentAs_nominal hfirst] at hreported
    exact packetMatches_commandStep hreported rfl rfl rfl rfl rfl rfl
  | 1 =>
    obtain rfl := Option.some.inj hstep
    rcases hsent with _ | ⟨hfirst, _ | ⟨hsecond, hrest⟩⟩
    cases hrest
    rw [sentAs_nominal hfirst, sentAs_eq hsecond (by decide) hinject hfault] at hreported
    exact packetMatches_commandStep hreported rfl rfl rfl rfl rfl rfl
  | 2 =>
    obtain rfl := Option.some.inj hstep
    rcases hsent with _ | ⟨hfirst, _ | ⟨hsecond, _ | ⟨hthird, hrest⟩⟩⟩
    cases hrest
    rw [sentAs_nominal hfirst, sentAs_eq hsecond (by decide) hinject hfault, sentAs_eq hthird (by decide) hclear hnone]
      at hreported
    exact packetMatches_commandStep hreported rfl rfl rfl rfl rfl rfl
  | k + 3 => cases hstep

/-- what a trial without a timeout asks for -/
theorem makeCase_metInScript (draws : Draws) (trialId : ℕ) (hsensor : (makeCase draws trialId).sensorTimeoutLoop = none)
    (hwatchdog : (makeCase draws trialId).watchdogTimeoutLoop = none) :
    MetInScript (makeCase draws trialId).steps := by
  obtain ⟨commandPort, sensorTimeoutLoop, watchdogTimeoutLoop, choice, hport, hsensorLoop, hwatchdogLoop⟩ := draws
  match choice with
  | 0 => exact metInScript_nominal
  | 1 => exact metInScript_invalid
  | 2 => exact metInScript_cpuFault
  | 3 => cases hsensor
  | 4 => cases hwatchdog

/-- a trial has no timeout, or that of the sensor, or that of the watchdog -/
theorem makeCase_cases (draws : Draws) (trialId : ℕ) :
    let scenario := makeCase draws trialId
    (scenario.sensorTimeoutLoop = none ∧ scenario.watchdogTimeoutLoop = none) ∨
    (scenario.sensorTimeoutLoop = some draws.sensorTimeoutLoop ∧ scenario.watchdogTimeoutLoop = none ∧
      scenario.loopCount = 22 ∧ scenario.steps = [setNominal, waitStep "SENSOR_TIMEOUT"]) ∨
    (scenario.sensorTimeoutLoop = none ∧ scenario.watchdogTimeoutLoop = some draws.watchdogTimeoutLoop ∧
      scenario.loopCount = 22 ∧ scenario.steps = [setNominal, waitStep "WATCHDOG_DEADLINE_MISS"]) := by
  obtain ⟨commandPort, sensorTimeoutLoop, watchdogTimeoutLoop, choice, -, -, -⟩ := draws
  match choice with
  | 0 => exact Or.inl ⟨rfl, rfl⟩
  | 1 => exact Or.inl ⟨rfl, rfl⟩
  | 2 => exact Or.inl ⟨rfl, rfl⟩
  | 3 => exact Or.inr (Or.inl ⟨rfl, rfl, rfl, rfl⟩)
  | 4 => exact Or.inr (Or.inr ⟨rfl, rfl, rfl, rfl⟩)

/-- a trial with a timeout is a race -/
theorem makeCase_race (draws : Draws) (trialId : ℕ)
    (htimeout : (makeCase draws trialId).sensorTimeoutLoop = some timeout ∨
      (makeCase draws trialId).watchdogTimeoutLoop = some timeout)
    (h : TimeoutRun (demoOptions (makeCase draws trialId)) before p after) :
    0 < timeout ∧ ∃ fault, Race (demoOptions (makeCase draws trialId)) fault timeout before p after ∧
      (makeCase draws trialId).steps = [setNominal, waitStep fault.toString] := by
  have hshort : (22 : UInt32).toNat < 212 := by decide
  have hsensorLoop := draws.sensorTimeoutLoop_mem
  have hwatchdogLoop := draws.watchdogTimeoutLoop_mem
  unfold demoOptions at h ⊢
  rcases makeCase_cases draws trialId with ⟨hsensor, hwatchdog⟩ | ⟨hsensor, hwatchdog, hcount, hsteps⟩ |
    ⟨hsensor, hwatchdog, hcount, hsteps⟩
  · simp [hsensor, hwatchdog] at htimeout
  · rw [hsensor, hwatchdog, Option.some.injEq, or_iff_left (by simp)] at htimeout
    rw [hsensor, hwatchdog, hcount, htimeout] at h ⊢
    exact ⟨by omega, .sensorTimeout, h.sensor_race hshort rfl rfl (by omega) (by omega), hsteps⟩
  · rw [hsensor, hwatchdog, Option.some.injEq, or_iff_right (by simp)] at htimeout
    rw [hsensor, hwatchdog, hcount, htimeout] at h ⊢
    exact ⟨by omega, .watchdogDeadlineMiss, h.watchdog_race hshort rfl rfl (by omega) (by omega), hsteps⟩

/-! ## Every trial -/

/-- **The generated trials.** For every trial that `make_case` can generate, with the demo started as the runner starts
it:
- a trial without a timeout: in every script, the telemetry of a pass that has received exactly the commands of the
  first k + 1 steps, whatever their timestamps, meets step k;
- a trial with one: in every run in which SET_MODE NOMINAL arrives once and the clock moves by less than 500 ms but for
  the demo's own delay, the first step is met by some telemetry exactly if the command arrives before the pass of the
  timeout, and the second exactly if that pass is made. -/
theorem monte_carlo_trials (draws : Draws) (trialId : ℕ) :
    let scenario := makeCase draws trialId
    let options := demoOptions scenario
    (scenario.sensorTimeoutLoop = none → scenario.watchdogTimeoutLoop = none → ∀ passes, Script options passes →
      ∀ earlier pass later, passes = earlier ++ pass :: later → ∀ report,
        ((run options earlier).step options pass).1 = some report → ∀ k step, scenario.steps[k]? = some step →
          List.Forall₂ SentAs ((ClosedLoop.sends 1 scenario.steps).take (k + 1)) (received (earlier ++ [pass])) →
            Meets report step) ∧
    ∀ timeout, scenario.sensorTimeoutLoop = some timeout ∨ scenario.watchdogTimeoutLoop = some timeout →
      ∀ before p after, TimeoutRun options before p after → ∀ first second, scenario.steps = [first, second] →
        (Met options (before ++ p :: after) first ↔ before.length + 1 < timeout) ∧
          (Met options (before ++ p :: after) second ↔ timeout ≤ (before ++ p :: after).length) := by
  intro scenario options
  constructor
  · intro hsensor hwatchdog passes hscript earlier pass later hsplit report hreport k step hstep hsent
    have hpart : Script options (earlier ++ [pass] ++ later) := by
      have happend : earlier ++ [pass] ++ later = passes := by simp [hsplit]
      rwa [happend]
    obtain ⟨-, telemetry, hlisten, hreported⟩ := hpart.of_append.reported hreport
    exact ⟨telemetry, hlisten,
      makeCase_metInScript draws trialId hsensor hwatchdog k step hstep _ hsent telemetry hreported⟩
  · intro timeout htimeout before p after h first second hsteps
    obtain ⟨hpos, fault, hrace, hsteps'⟩ := makeCase_race draws trialId htimeout h
    obtain ⟨rfl, hrest⟩ := List.cons.inj (hsteps.symm.trans hsteps')
    obtain ⟨rfl, -⟩ := List.cons.inj hrest
    exact ⟨hrace.nominal_met_iff hpos, hrace.timeout_met_iff hpos⟩

/-- trial 1, a sensor timeout in pass 7; the command arrives in pass 1 of 7 -/
theorem monte_carlo_trials_sensor :
    let scenario := makeCase ⟨20000, 7, 7, 3, by decide, by decide, by decide⟩ 1
    let p : DemoPass := { nowMs := 1150, datagram := some (Wire.serializeCommandPacket (nominalCommand 1100)) }
    Met (demoOptions scenario) (p :: List.replicate 6 { nowMs := 1150 }) setNominal ∧
      Met (demoOptions scenario) (p :: List.replicate 6 { nowMs := 1150 }) (waitStep "SENSOR_TIMEOUT") := by
  intro scenario p
  have hsteps : (FdirCampaign.scenarioFor ⟨"SENSOR_TIMEOUT", "SAFE"⟩ 0).steps = [_, _] := rfl
  have hclock : ∀ q ∈ p :: List.replicate 6 ({ nowMs := 1150 } : DemoPass), q.nowMs.toNat = 1150 := by simp [p]
  have hrun : TimeoutRun (demoOptions scenario) [] p (List.replicate 6 { nowMs := 1150 }) :=
    { sent := by simp [p]
      count := by decide
      paced := by
        intro earlier previous pass later hsplit
        rw [List.nil_append] at hsplit
        have hprevious := hclock previous (by rw [hsplit]; simp)
        have hpass := hclock pass (by rw [hsplit]; simp)
        have hdelay : delayMs (demoOptions scenario) (UInt32.ofNat (earlier.length + 2)) = 0 := rfl
        rw [if_pos hdelay]
        omega
      silent := by simp [receivedCommand, UdpCommandReceiver.receivePacket]
      heard := ⟨1100, _, stepDatagram_first hsteps 1100, rfl, by decide⟩ }
  obtain ⟨hfirst, hsecond⟩ := (monte_carlo_trials ⟨20000, 7, 7, 3, by decide, by decide, by decide⟩ 1).2 7 (Or.inl rfl)
    [] p (List.replicate 6 { nowMs := 1150 }) hrun setNominal (waitStep "SENSOR_TIMEOUT") rfl
  exact ⟨hfirst.2 (by decide), hsecond.2 (by decide)⟩

end AstraFsw.MonteCarlo
