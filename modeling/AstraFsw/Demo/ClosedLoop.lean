/-
Ground and flight in one loop: `tools/run_scenario.py` with its command tool and its listener, the demo, and the two
links between them.

The links are UDP. A copy of any datagram sent so far can arrive in any pass or at any turn of the listener, or never;
so datagrams are lost, repeated and reordered freely, and bytes that neither side can read arrive as well. The runner's
turns, the demo's passes and the listener's turns interleave in any order, with any clocks. A step may carry any
timestamp.

- `inv_run`: what is in the runner's list was sent by the demo, and what the demo accepts was sent by the runner;
- `commands_in_order_at_most_once`: the commands that reach the processor are a subsequence of those sent;
- `passing_scenario_is_evidence`: what a scenario that passes says about the flight side.
-/
import AstraFsw.App.Rejection
import AstraFsw.Demo.Delivery
import AstraFsw.Ground.FuzzCorpus

namespace AstraFsw

open Ground Ground.StepLoop Ground.StepLoop.Runner ScenarioRunner Wire CommandTelemetryDemo

/-! ## The command tool -/

/-- the datagram of the command tool, called with these arguments -/
def sendCommand (sequence : ℤ) (command : String) (argument : Option String) (timestampMs : Option ℤ) (nowMs : ℤ) :
    Except ToolError (List UInt8) := do
  let argumentValue ← SendCommand.parseArgument command argument
  SendCommand.buildPacket sequence command argumentValue timestampMs nowMs

/-- the packet is what the runner asked for: sequence, command and argument -/
def SentAs (request : ℕ × String × Option String) (packet : CommandPacket) : Prop :=
  ∃ argumentValue timestampMs, SendCommand.parseArgument request.2.1 request.2.2 = .ok argumentValue ∧
    SendCommand.Requests packet request.1 request.2.1 argumentValue timestampMs

/-- the tool either raises or sends the packet asked for -/
theorem sendCommand_sentAs {sequence : ℕ} {command : String} {argument : Option String} {timestampMs : Option ℤ}
    {nowMs : ℤ} {bytes : List UInt8} (h : sendCommand sequence command argument timestampMs nowMs = .ok bytes) :
    ∃ packet, SentAs (sequence, command, argument) packet ∧ bytes = serializeCommandPacket packet := by
  unfold sendCommand at h
  cases hargument : SendCommand.parseArgument command argument with
  | error error =>
    rw [hargument] at h
    cases h
  | ok argumentValue =>
    rw [hargument, ok_bind] at h
    obtain ⟨id, hid, hname⟩ : ∃ id : CommandId, id.toRaw ∈ commandIdValues ∧ id.toString = command := by
      refine SendCommand.exists_of_mem_commands ?_
      by_contra hunknown
      have hnone : SendCommand.commands.lookup command = none := by
        rw [List.lookup_eq_none_iff]
        intro entry hentry
        exact bne_iff_ne.2 fun heq => hunknown (List.mem_map.2 ⟨entry, hentry, heq.symm⟩)
      rw [SendCommand.buildPacket, SendCommand.index, hnone] at h
      cases h
    have hfits : FuzzCorpus.Seed.Fits
        { sequence, timestampMs := timestampMs.getD nowMs, commandId := id.toRaw.toNat, argument := argumentValue } := by
      rw [SendCommand.buildPacket, ← hname, SendCommand.index_commands hid, ok_bind] at h
      cases hpayload : SendCommand.structPack "<IHIQHI" [SendCommand.commandMagic, SendCommand.commandVersion, sequence,
          timestampMs.getD nowMs, id.toRaw.toNat, argumentValue] with
      | error error =>
        rw [hpayload] at h
        cases h
      | ok payload => exact FuzzCorpus.fits_of_structPack hpayload
    have hrequests : SendCommand.Requests
        { sequenceNumber := UInt32.ofNat sequence, timestampMs := UInt64.ofNat (timestampMs.getD nowMs).toNat,
          commandId := id, argument := UInt32.ofNat argumentValue.toNat }
        sequence command argumentValue (timestampMs.getD nowMs) :=
      ⟨FuzzCorpus.uint32_cast hfits.sequence, ⟨hid, hname⟩, FuzzCorpus.uint32_cast hfits.argument,
        FuzzCorpus.uint64_cast hfits.timestampMs⟩
    refine ⟨_, ⟨argumentValue, _, hargument, hrequests⟩, ?_⟩
    rw [SendCommand.buildPacket_eq hrequests] at h
    exact (Except.ok.inj h).symm

/-! ## The system -/

/-- a datagram that is no command to the demo -/
structure UplinkNoise where
  bytes : List UInt8
  unheard : receivedCommand (some bytes) = none

/-- a datagram that is no telemetry to the listener -/
structure DownlinkNoise where
  bytes : List UInt8
  unheard : ∀ telemetry, listen bytes ≠ some (.decoded telemetry)

/-- what lies at the command socket in a pass -/
inductive Arrival where
  | nothing
  /-- a copy of a datagram sent so far, nothing if there are not so many -/
  | copy (n : ℕ)
  | noise (noise : UplinkNoise)

def Arrival.datagram (uplink : List (List UInt8)) : Arrival → Option (List UInt8)
  | .nothing => none
  | .copy n => uplink[n]?
  | .noise garbage => some garbage.bytes

inductive Event where
  /-- the runner's next action; the last two arguments matter if it sends a command -/
  | ground (expired : Bool) (timestampMs : Option ℤ) (nowMs : ℤ)
  /-- the demo's next pass -/
  | flight (nowMs : UInt64) (arrival : Arrival) (sent : Bool)
  /-- the listener receives a copy of a telemetry packet sent so far -/
  | telemetry (n : ℕ)
  | noise (noise : DownlinkNoise)

structure ClosedLoop where
  runner : Runner
  /-- the command tool has failed, which ends the runner -/
  crashed : Bool := false
  /-- the passes the demo has made -/
  passes : List DemoPass := []
  /-- the datagrams the runner has sent -/
  uplink : List (List UInt8) := []
  /-- the datagrams the demo has sent -/
  downlink : List (List UInt8) := []
  /-- the listener's thread has not ended -/
  listening : Bool := true

namespace ClosedLoop

def start (steps : List ScenarioStep) : ClosedLoop := { runner := Runner.start steps }

/-- the command that the runner's next action sends -/
def nextCommand (r : Runner) : Option (String × Option String) :=
  match r.current, r.todo with
  | none, s :: _ => s.command.map fun command => (command, s.argument)
  | _, _ => none

/-- the listener appends what it makes of a datagram, or its thread ends -/
def hear (s : ClosedLoop) (bytes : List UInt8) : ClosedLoop :=
  if !s.listening then s
  else
    match listen bytes with
    | none => { s with listening := false }
    | some entry => { s with runner := s.runner.step (.append entry) }

def step (options : DemoOptions) (s : ClosedLoop) : Event → ClosedLoop
  | .ground expired timestampMs nowMs =>
    if s.crashed then s
    else
      match nextCommand s.runner with
      | none => { s with runner := s.runner.advance expired }
      | some (command, argument) =>
        match sendCommand s.runner.sequence command argument timestampMs nowMs with
        | .ok bytes => { s with runner := s.runner.advance expired, uplink := s.uplink ++ [bytes] }
        | .error _ => { s with crashed := true }
  | .flight nowMs arrival sent =>
    let pass : DemoPass := { nowMs, datagram := arrival.datagram s.uplink, sent }
    match ((CommandTelemetryDemo.run options s.passes).step options pass).1 with
    | none => s
    | some report =>
      { s with
        passes := s.passes ++ [pass]
        downlink := if sent then s.downlink ++ [report.datagram] else s.downlink }
  | .telemetry n =>
    match s.downlink[n]? with
    | none => s
    | some bytes => s.hear bytes
  | .noise garbage => s.hear garbage.bytes

def run (options : DemoOptions) (s : ClosedLoop) (events : List Event) : ClosedLoop := events.foldl (step options) s

/-! ## What the runner sends -/

/-- the commands of a scenario, numbered from `n` -/
def sends : ℕ → List ScenarioStep → List (ℕ × String × Option String)
  | _, [] => []
  | n, s :: steps =>
    match s.command with
    | none => sends n steps
    | some command => (n, command, s.argument) :: sends (n + 1) steps

theorem sends_append (n : ℕ) (steps more : List ScenarioStep) :
    sends n (steps ++ more) = sends n steps ++ sends (n + (sends n steps).length) more := by
  induction steps generalizing n with
  | nil => rfl
  | cons s steps ih =>
    rw [List.cons_append, sends, sends]
    cases s.command with
    | none => exact ih n
    | some command =>
      simp only [ih, List.cons_append, List.length_cons]
      rw [Nat.add_right_comm n 1, Nat.add_assoc]

theorem sends_number {n : ℕ} {steps : List ScenarioStep} {k : ℕ} {request : ℕ × String × Option String}
    (h : (sends n steps)[k]? = some request) : request.1 = n + k := by
  induction steps generalizing n k with
  | nil => simp [sends] at h
  | cons s steps ih =>
    rw [sends] at h
    cases hcommand : s.command with
    | none =>
      rw [hcommand] at h
      exact ih h
    | some command =>
      rw [hcommand] at h
      cases k with
      | zero =>
        obtain rfl := Option.some.inj h
        rfl
      | succ k =>
        rw [List.getElem?_cons_succ] at h
        have hnumber := ih h
        omega

/-- what the runner has sent is what the steps begun ask for -/
structure Sending (steps : List ScenarioStep) (r : Runner) (done : List ScenarioStep) : Prop where
  sent : r.sent = sends 1 done
  sequence : r.sequence = (sends 1 done).length + 1
  front : done ++ r.todo <+: steps
  done : r.passed = true → done = r.matched.map Prod.fst ++ r.current.toList

theorem Sending.acts {steps : List ScenarioStep} {r r' : Runner} (hacts : Acts r r')
    (h : ∃ done, Sending steps r done) : ∃ done, Sending steps r' done := by
  obtain ⟨done, h⟩ := h
  cases hacts with
  | idle => exact ⟨done, h⟩
  | begins s todo hcurrent htodo =>
    refine ⟨done ++ [s], ?_, ?_, ?_, ?_⟩
    · rw [sends_append, Nat.add_comm, ← h.sequence, ← h.sent, Runner.begin]
      cases hcommand : s.command with
      | none => simp [sends, hcommand]
      | some command => simp [sends, hcommand]
    · rw [sends_append, List.length_append, Nat.add_comm 1, ← h.sequence, Runner.begin]
      have hsequence := h.sequence
      cases hcommand : s.command with
      | none => simp [sends, hcommand, hsequence]
      | some command => simp [sends, hcommand, hsequence]
    · rw [begin_todo, List.append_assoc, List.singleton_append, ← htodo]
      exact h.front
    · intro hpassed
      rw [begin_passed] at hpassed
      rw [begin_matched, begin_current, h.done hpassed, hcurrent, Option.toList_none, List.append_nil,
        Option.toList_some]
  | waits s expired hcurrent => exact ⟨done, h.sent, h.sequence, h.front, h.done⟩
  | marks s i packet hcurrent =>
    refine ⟨done, h.sent, h.sequence, h.front, ?_⟩
    intro hpassed
    rw [h.done hpassed, hcurrent]
    simp
  | fails =>
    have hfront : done ++ [] <+: steps := by
      rw [List.append_nil]
      exact (List.prefix_append done r.todo).trans h.front
    exact ⟨done, h.sent, h.sequence, hfront, fun hpassed => by cases hpassed⟩

theorem sending_run (steps : List ScenarioStep) (turns : List (Polling.Turn Received)) :
    ∃ done, Sending steps (Runner.run (Runner.start steps) turns) done := by
  have hstart : Sending steps (Runner.start steps) [] := ⟨rfl, rfl, List.prefix_refl steps, fun _ => rfl⟩
  exact run_inv (fun _ _ ⟨done, h⟩ => ⟨done, h.sent, h.sequence, h.front, h.done⟩)
    (fun _ _ hacts h => Sending.acts hacts h) ⟨[], hstart⟩ turns

/-- the runner's next action sends the next command, and leaves the received packets alone -/
theorem advance_sent (r : Runner) (expired : Bool) :
    (r.advance expired).sent =
        r.sent ++ ((nextCommand r).map fun c => (r.sequence, c.1, c.2)).toList ∧
      (r.advance expired).reader.entries = r.reader.entries := by
  unfold Runner.advance nextCommand
  cases hcurrent : r.current with
  | none =>
    cases htodo : r.todo with
    | nil => simp
    | cons s todo =>
      simp only [begin_reader, and_true]
      unfold Runner.begin
      cases s.command <;> simp
  | some s =>
    cases hphase : r.reader.phase with
    | returned result =>
      cases result with
      | none => simp
      | some found => simp
    | _ => simp [Polling.Reader.advance_entries]

/-! ## The invariant -/

/-- what holds of both sides and the links at every moment, with the packets sent so far -/
structure Inv (options : DemoOptions) (steps : List ScenarioStep) (s : ClosedLoop) (packets : List CommandPacket) :
    Prop where
  runner : ∃ turns, s.runner = Runner.run (Runner.start steps) turns
  sent : List.Forall₂ SentAs s.runner.sent packets
  uplink : s.uplink = packets.map serializeCommandPacket
  heard : ∀ pass ∈ s.passes, ∀ command, receivedCommand pass.datagram = some command → command ∈ packets
  downlink : ∀ bytes ∈ s.downlink, ∃ earlier pass later report, s.passes = earlier ++ pass :: later ∧
    ((CommandTelemetryDemo.run options earlier).step options pass).1 = some report ∧ pass.sent = true ∧
    report.datagram = bytes
  entries : ∀ telemetry, .decoded telemetry ∈ s.runner.reader.entries →
    ∃ bytes ∈ s.downlink, listen bytes = some (.decoded telemetry)
  listening : s.listening = true

section

variable {options : DemoOptions} {steps : List ScenarioStep} {s : ClosedLoop} {packets : List CommandPacket}

theorem inv_start (options : DemoOptions) (steps : List ScenarioStep) : Inv options steps (start steps) [] where
  runner := ⟨[], rfl⟩
  sent := .nil
  uplink := rfl
  heard := by simp [start]
  downlink := by simp [start]
  entries := by simp [start, Runner.start]
  listening := rfl

/-- the runner acts, and what it sends, if anything, is on the uplink -/
theorem Inv.advance (h : Inv options steps s packets) (expired : Bool) {more : List CommandPacket}
    (hsent : List.Forall₂ SentAs ((nextCommand s.runner).map fun c => (s.runner.sequence, c.1, c.2)).toList more) :
    Inv options steps
      { s with runner := s.runner.advance expired, uplink := s.uplink ++ more.map serializeCommandPacket }
      (packets ++ more) where
  runner := by
    obtain ⟨turns, hturns⟩ := h.runner
    refine ⟨turns ++ [.next expired], ?_⟩
    rw [Runner.run_snoc, ← hturns]
    rfl
  sent := by
    rw [(advance_sent s.runner expired).1]
    exact List.rel_append h.sent hsent
  uplink := by rw [h.uplink, List.map_append]
  heard pass hpass command hcommand := List.mem_append_left _ (h.heard pass hpass command hcommand)
  downlink := h.downlink
  entries := by
    rw [(advance_sent s.runner expired).2]
    exact h.entries
  listening := h.listening

/-- each packet is what the runner asked for at its position -/
theorem Inv.asked (h : Inv options steps s packets) {k : ℕ} {packet : CommandPacket} (hk : packets[k]? = some packet) :
    ∃ request, s.runner.sent[k]? = some request ∧ SentAs request packet := by
  obtain ⟨hlt, rfl⟩ := List.getElem?_eq_some_iff.1 hk
  have hlt' : k < s.runner.sent.length := h.sent.length_eq ▸ hlt
  exact ⟨_, List.getElem?_eq_getElem hlt', List.Forall₂.get h.sent hlt' hlt⟩

theorem Inv.sentAs (h : Inv options steps s packets) {packet : CommandPacket} (hmem : packet ∈ packets) :
    ∃ request ∈ s.runner.sent, SentAs request packet := by
  obtain ⟨k, hk⟩ := List.mem_iff_getElem?.1 hmem
  obtain ⟨request, hrequest, hsent⟩ := h.asked hk
  exact ⟨request, List.mem_of_getElem? hrequest, hsent⟩

/-- a packet of the list is a command the receiver accepts -/
theorem Inv.commandId (h : Inv options steps s packets) {packet : CommandPacket} (hmem : packet ∈ packets) :
    packet.commandId.toRaw ∈ commandIdValues := by
  obtain ⟨_, -, _, _, -, hrequests⟩ := h.sentAs hmem
  exact hrequests.commandId.1

/-- what the demo accepts is a packet that was sent -/
theorem Inv.arrival (h : Inv options steps s packets) {arrival : Arrival} {command : CommandPacket}
    (hcommand : receivedCommand (arrival.datagram s.uplink) = some command) : command ∈ packets := by
  cases arrival with
  | nothing => cases hcommand
  | copy n =>
    rw [Arrival.datagram, h.uplink, List.getElem?_map] at hcommand
    cases hpacket : packets[n]? with
    | none =>
      rw [hpacket] at hcommand
      cases hcommand
    | some packet =>
      have hmem := List.mem_of_getElem? hpacket
      rw [hpacket, Option.map_some, receivedCommand_serialize (h.commandId hmem)] at hcommand
      rwa [← Option.some.inj hcommand]
  | noise garbage =>
    rw [Arrival.datagram, garbage.unheard] at hcommand
    cases hcommand

/-- the listener hears telemetry that was sent, or nothing it can read; no datagram ends it -/
theorem Inv.hear (h : Inv options steps s packets) {bytes : List UInt8}
    (hbytes : bytes ∈ s.downlink ∨ ∀ telemetry, listen bytes ≠ some (.decoded telemetry)) :
    Inv options steps (s.hear bytes) packets := by
  unfold ClosedLoop.hear
  rw [if_neg (by simp [h.listening])]
  cases hlisten : listen bytes with
  | none => simpa [hlisten] using listen_isSome bytes
  | some entry =>
    refine ⟨?_, h.sent, h.uplink, h.heard, h.downlink, ?_, h.listening⟩
    · obtain ⟨turns, hturns⟩ := h.runner
      refine ⟨turns ++ [.append entry], ?_⟩
      rw [Runner.run_snoc, ← hturns]
    · intro telemetry hmem
      rcases List.mem_append.1 hmem with hmem | hmem
      · exact h.entries telemetry hmem
      · obtain rfl := List.mem_singleton.1 hmem
        rcases hbytes with hsent | hnoise
        · exact ⟨bytes, hsent, hlisten⟩
        · exact absurd hlisten (hnoise telemetry)

/-- a pass that is made hears a packet that was sent, if any, and its telemetry is on the downlink -/
theorem Inv.flight (h : Inv options steps s packets) (nowMs : UInt64) (arrival : Arrival) (sent : Bool) :
    Inv options steps (step options s (.flight nowMs arrival sent)) packets := by
  unfold ClosedLoop.step
  simp only
  split
  next => exact h
  next report hreport =>
    refine ⟨h.runner, h.sent, h.uplink, ?_, ?_, ?_, h.listening⟩
    · intro pass hpass command hcommand
      rcases List.mem_append.1 hpass with hpass | hpass
      · exact h.heard pass hpass command hcommand
      · rw [List.mem_singleton.1 hpass] at hcommand
        exact h.arrival hcommand
    · intro bytes hbytes
      have hold : bytes ∈ s.downlink ∨ sent = true ∧ bytes = report.datagram := by
        split_ifs at hbytes with hsent
        · exact (List.mem_append.1 hbytes).imp_right fun hnew => ⟨hsent, List.mem_singleton.1 hnew⟩
        · exact Or.inl hbytes
      rcases hold with hold | ⟨hsent, rfl⟩
      · obtain ⟨earlier, pass, later, report', hsplit, hmade⟩ := h.downlink bytes hold
        exact ⟨earlier, pass, later ++ [{ nowMs, datagram := arrival.datagram s.uplink, sent }], report',
          by simp [hsplit], hmade⟩
      · exact ⟨s.passes, _, [], report, rfl, hreport, hsent, rfl⟩
    · intro telemetry hmem
      obtain ⟨bytes, hbytes, hlisten⟩ := h.entries telemetry hmem
      refine ⟨bytes, ?_, hlisten⟩
      split_ifs
      · exact List.mem_append_left _ hbytes
      · exact hbytes

/-- **One event**, with the packet it sends, if any. -/
theorem Inv.step (h : Inv options steps s packets) (event : Event) :
    ∃ more, Inv options steps (ClosedLoop.step options s event) (packets ++ more) := by
  cases event with
  | flight nowMs arrival sent => exact ⟨[], by rw [List.append_nil]; exact h.flight nowMs arrival sent⟩
  | noise garbage => exact ⟨[], by rw [List.append_nil]; exact h.hear (Or.inr garbage.unheard)⟩
  | telemetry n =>
    refine ⟨[], ?_⟩
    rw [List.append_nil, ClosedLoop.step]
    cases hbytes : s.downlink[n]? with
    | none => exact h
    | some bytes => exact h.hear (Or.inl (List.mem_of_getElem? hbytes))
  | ground expired timestampMs nowMs =>
    rw [ClosedLoop.step]
    split_ifs
    · exact ⟨[], by rw [List.append_nil]; exact h⟩
    · cases hnext : nextCommand s.runner with
      | none =>
        have hasked : List.Forall₂ SentAs
            ((nextCommand s.runner).map fun c => (s.runner.sequence, c.1, c.2)).toList [] := by
          rw [hnext]
          exact .nil
        have hadvance := h.advance expired hasked
        rw [List.map_nil, List.append_nil] at hadvance
        exact ⟨[], hadvance⟩
      | some request =>
        obtain ⟨command, argument⟩ := request
        simp only
        cases hsend : sendCommand s.runner.sequence command argument timestampMs nowMs with
        | error error =>
          refine ⟨[], ?_⟩
          rw [List.append_nil]
          exact ⟨h.runner, h.sent, h.uplink, h.heard, h.downlink, h.entries, h.listening⟩
        | ok bytes =>
          obtain ⟨packet, hpacket, hbytes⟩ := sendCommand_sentAs hsend
          have hasked : List.Forall₂ SentAs
              ((nextCommand s.runner).map fun c => (s.runner.sequence, c.1, c.2)).toList [packet] := by
            rw [hnext]
            exact .cons hpacket .nil
          have hadvance := h.advance expired hasked
          rw [List.map_singleton, ← hbytes] at hadvance
          exact ⟨[packet], hadvance⟩

/-- **Every run** keeps the invariant. -/
theorem inv_run (options : DemoOptions) (steps : List ScenarioStep) (events : List Event) :
    ∃ packets, Inv options steps (run options (start steps) events) packets := by
  induction events using List.reverseRecOn with
  | nil => exact ⟨[], inv_start options steps⟩
  | append_singleton events event ih =>
    obtain ⟨packets, h⟩ := ih
    obtain ⟨more, hstep⟩ := h.step event
    refine ⟨packets ++ more, ?_⟩
    rw [run, List.foldl_append]
    exact hstep

/-- the packets are numbered in the order in which they were sent -/
theorem Inv.numbered (h : Inv options steps s packets) : Numbered packets := by
  intro k packet hk
  obtain ⟨turns, hturns⟩ := h.runner
  obtain ⟨done, hdone⟩ := sending_run steps turns
  obtain ⟨request, hasked, _, _, -, hrequests⟩ := h.asked hk
  rw [hturns, hdone.sent] at hasked
  have hsequence := hrequests.sequenceNumber
  rw [sends_number hasked] at hsequence
  omega

end

/-- a pass of the demo, after `earlier` passes, whose report was sent and decodes to telemetry that satisfies an
expectation -/
structure Evidence (options : DemoOptions) (sent : List (ℕ × String × Option String)) (expected : Expectation)
    (earlier : List DemoPass) (pass : DemoPass) (report : DemoReport) (telemetry : TelemetryReceiver.Telemetry) :
    Prop where
  reported : ((CommandTelemetryDemo.run options earlier).step options pass).1 = some report ∧ pass.sent = true
  decoded : listen report.datagram = some (.decoded telemetry)
  meets : packetMatches telemetry expected = true
  mode : telemetry.mode = (CommandTelemetryDemo.run options (earlier ++ [pass])).app.currentMode.toString
  lastFault : telemetry.lastFault = (CommandTelemetryDemo.run options (earlier ++ [pass])).app.lastFault.toString
  acknowledged : (received (earlier ++ [pass]) = [] ∧ Acknowledged telemetry 0 "NONE" "ACCEPTED") ∨
    ∃ before p between command, earlier ++ [pass] = before ++ p :: between ∧ receivedCommand p.datagram = some command ∧
      received between = [] ∧ (∃ request ∈ sent, SentAs request command) ∧
      Acknowledged telemetry command.sequenceNumber.toNat
        (if command.commandId = .noop then "NONE" else command.commandId.toString)
        ((CommandTelemetryDemo.run options before).app.finalStatus command p.nowMs).toString

/-- the last command received in a list of passes, if there is one -/
theorem lastReceived (passes : List DemoPass) :
    (∀ p ∈ passes, receivedCommand p.datagram = none) ∨
      ∃ before pass between command, passes = before ++ pass :: between ∧
        receivedCommand pass.datagram = some command ∧ ∀ p ∈ between, receivedCommand p.datagram = none := by
  induction passes with
  | nil => exact Or.inl (by simp)
  | cons p passes ih =>
    rcases ih with hnone | ⟨before, pass, between, command, rfl, hcommand, hbetween⟩
    · cases hp : receivedCommand p.datagram with
      | none => exact Or.inl (List.forall_mem_cons.2 ⟨hp, hnone⟩)
      | some command => exact Or.inr ⟨[], p, passes, command, rfl, hp, hnone⟩
    · exact Or.inr ⟨p :: before, pass, between, command, rfl, hcommand, hbetween⟩

section

variable {options : DemoOptions} {steps : List ScenarioStep} {s : ClosedLoop} {packets : List CommandPacket}

/-- a packet in the runner's list that satisfies a step is evidence -/
theorem Inv.evidence (h : Inv options steps s packets) {expected : Expectation} {entry : Received}
    (hentry : entry ∈ s.runner.reader.entries) (hmatch : isMatch expected entry = true) :
    ∃ earlier pass report telemetry, earlier ++ [pass] <+: s.passes ∧
      Evidence options s.runner.sent expected earlier pass report telemetry := by
  cases entry with
  | decodeError message => cases hmatch
  | decoded telemetry =>
    obtain ⟨bytes, hbytes, hlisten⟩ := h.entries telemetry hentry
    obtain ⟨earlier, pass, later, report, hsplit, hmade, hsent, rfl⟩ := h.downlink bytes hbytes
    obtain ⟨-, telemetry', hlisten', hreported, hlast, hnone⟩ := made_downlink hmade
    rw [hlisten, Option.some.injEq, Received.decoded.injEq] at hlisten'
    subst hlisten'
    have hfront : earlier ++ [pass] <+: s.passes := ⟨later, by rw [hsplit]; simp⟩
    refine ⟨earlier, pass, report, telemetry, hfront, ⟨hmade, hsent⟩, hlisten, hmatch, hreported.mode,
      hreported.lastFault, ?_⟩
    rcases lastReceived (earlier ++ [pass]) with hsilent | ⟨before, p, between, command, hsplit', hcommand, hbetween⟩
    · exact Or.inl ⟨List.filterMap_eq_nil_iff.2 hsilent, hnone hsilent⟩
    · have hmem : p ∈ s.passes := hfront.subset (by rw [hsplit']; simp)
      exact Or.inr ⟨before, p, between, command, hsplit', hcommand, List.filterMap_eq_nil_iff.2 hbetween,
        h.sentAs (h.heard p hmem command hcommand), hlast before p between command hsplit' hcommand hbetween⟩

/-- a pass that reports was made, and so were those before it -/
theorem running_of_report {earlier before between : List DemoPass} {pass p : DemoPass} {report : DemoReport}
    (hmade : ((CommandTelemetryDemo.run options earlier).step options pass).1 = some report)
    (hsplit : earlier ++ [pass] = before ++ p :: between) :
    (CommandTelemetryDemo.run options before).running options = true := by
  refine running_of_split ?_ hsplit
  cases hr : (CommandTelemetryDemo.run options earlier).running options with
  | false => simp [step_of_not_running hr] at hmade
  | true => rfl

end

/-! ## Scenarios that ask for every acknowledgement -/

/-- a status that the guard does not give, as a value of a scenario file -/
def OfProcessor (value : YamlValue) : Prop :=
  ∃ status : CommandStatus, FlightSoftwareApp.refusedByGuard status = false ∧ value.statusName = .str status.toString

/-- every step with a command expects the acknowledgement of that command, past the guard -/
def Acknowledging : ℕ → List ScenarioStep → Prop
  | _, [] => True
  | n, s :: steps =>
    match s.command with
    | none => Acknowledging n steps
    | some _ =>
      (s.expected.ackSeq = some (.int n) ∧ ∃ value, s.expected.ackStatus = some value ∧ OfProcessor value) ∧
        Acknowledging (n + 1) steps

theorem Acknowledging.expects {n : ℕ} {steps : List ScenarioStep} (h : Acknowledging n steps)
    {request : ℕ × String × Option String} (hmem : request ∈ sends n steps) :
    ∃ s ∈ steps, s.expected.ackSeq = some (.int request.1) ∧
      ∃ value, s.expected.ackStatus = some value ∧ OfProcessor value := by
  induction steps generalizing n with
  | nil => cases hmem
  | cons s steps ih =>
    rw [Acknowledging] at h
    rw [sends] at hmem
    cases hcommand : s.command with
    | none =>
      rw [hcommand] at h hmem
      obtain ⟨s', hs', hexpects⟩ := ih h hmem
      exact ⟨s', List.mem_cons_of_mem _ hs', hexpects⟩
    | some command =>
      rw [hcommand] at h hmem
      rcases List.mem_cons.1 hmem with rfl | hmem
      · exact ⟨s, List.mem_cons_self, h.1⟩
      · obtain ⟨s', hs', hexpects⟩ := ih h.2 hmem
        exact ⟨s', List.mem_cons_of_mem _ hs', hexpects⟩

theorem toString_inj {a b : CommandStatus} (h : a.toString = b.toString) : a = b := by
  revert h
  cases a <;> cases b <;> first | exact fun _ => rfl | exact fun h => absurd h (by decide)

/-- what a match says about the two acknowledgement fields -/
theorem packetMatches_ack {telemetry : TelemetryReceiver.Telemetry} {expected : Expectation} {n : ℕ} {value : YamlValue}
    (h : packetMatches telemetry expected = true) (hseq : expected.ackSeq = some (.int n))
    (hvalue : expected.ackStatus = some value) :
    telemetry.lastCommandSequenceNumber = n ∧
      ∀ status, value.statusName = .str status → telemetry.lastCommandStatus = status := by
  unfold packetMatches at h
  simp only [hseq, hvalue, Option.all_some, Bool.and_eq_true, YamlValue.eqInt, beq_iff_eq] at h
  obtain ⟨⟨⟨⟨hsequence, -⟩, hstatus⟩, -⟩, -⟩ := h
  refine ⟨hsequence.symm, ?_⟩
  intro status hname
  rw [hname, YamlValue.eqStr, beq_iff_eq] at hstatus
  exact hstatus.symm

section

variable {options : DemoOptions} {steps : List ScenarioStep} {s : ClosedLoop} {packets : List CommandPacket}

/-- evidence of an acknowledgement past the guard: the command of that number has reached the processor -/
theorem Inv.admitted_of_evidence (h : Inv options steps s packets) {expected : Expectation}
    {earlier : List DemoPass} {pass : DemoPass} {report : DemoReport} {telemetry : TelemetryReceiver.Telemetry}
    (hevidence : Evidence options s.runner.sent expected earlier pass report telemetry)
    (hfront : earlier ++ [pass] <+: s.passes) {k : ℕ} {packet : CommandPacket} (hk : packets[k]? = some packet)
    {value : YamlValue} (hseq : expected.ackSeq = some (.int (k + 1 : ℕ))) (hvalue : expected.ackStatus = some value)
    (hprocessor : OfProcessor value) : packet ∈ admitted options s.passes := by
  obtain ⟨hnumber, hstatus⟩ := packetMatches_ack hevidence.meets hseq hvalue
  obtain ⟨status, hguard, hname⟩ := hprocessor
  have hstatus := hstatus _ hname
  rcases hevidence.acknowledged with ⟨-, hack⟩ | ⟨before, p, between, command, hsplit, hcommand, -, -, hack⟩
  · have hzero := hack.sequence
    rw [hnumber] at hzero
    omega
  · have hmem : p ∈ s.passes := hfront.subset (by rw [hsplit]; simp)
    -- the acknowledged number is that of the packet
    obtain ⟨j, hj, hnumberj, -⟩ := h.numbered.lt_length (h.heard p hmem command hcommand)
    have hsequence := hack.sequence
    rw [hnumber, hnumberj] at hsequence
    obtain rfl : k = j := by omega
    obtain rfl : packet = command := Option.some.inj (hk.symm.trans hj)
    have hfinal := hack.status
    rw [hstatus] at hfinal
    have hfinal := toString_inj hfinal
    have haccepted : (CommandTelemetryDemo.run options before).app.guardStatus packet p.nowMs = .accepted := by
      by_contra hrefused
      rw [FlightSoftwareApp.finalStatus, if_pos hrefused] at hfinal
      rw [hfinal] at hguard
      revert hguard hrefused
      cases (CommandTelemetryDemo.run options before).app.guardStatus packet p.nowMs <;>
        simp [FlightSoftwareApp.refusalStatus, FlightSoftwareApp.refusedByGuard]
    have hpermits := permits_default (run_configuredBy options before) (receivedCommand_commandId hcommand)
    have hadmitted : admittedCommand options (CommandTelemetryDemo.run options before) p = some packet :=
      admittedCommand_eq_some.2 ⟨running_of_report hevidence.reported.1 hsplit, hcommand, haccepted, hpermits⟩
    have hsub : admitted options (before ++ [p]) <+: admitted options s.passes := by
      obtain ⟨later, hlater⟩ := hfront
      rw [← hlater, hsplit]
      have hshape : before ++ p :: between ++ later = before ++ [p] ++ (between ++ later) := by simp
      rw [hshape]
      exact admitted_prefix
    refine hsub.subset ?_
    rw [admitted_snoc, hadmitted]
    simp

end

/-- **A scenario that passes is evidence.** In every run in which the loop passes, whatever the links do:
- the runner has sent the commands of all steps, numbered from 1;
- for each step there is a pass of the demo that sent telemetry which satisfies it. Its mode and its active fault are
  those of the flight software after that pass, and its acknowledgement is that of the last command the demo received,
  which is one that was sent;
- if every step with a command expects the acknowledgement of that command with a status that is not the guard's, and
  they are fewer than 2^31, then every command has reached the processor exactly once, in the order of the scenario. -/
theorem passing_scenario_is_evidence (options : DemoOptions) (steps : List ScenarioStep) (events : List Event)
    (hpasses : (run options (start steps) events).runner.Passes) :
    (run options (start steps) events).runner.sent = sends 1 steps ∧
    (∀ s ∈ steps, ∃ earlier pass report telemetry, earlier ++ [pass] <+: (run options (start steps) events).passes ∧
      Evidence options (sends 1 steps) s.expected earlier pass report telemetry) ∧
    ((sends 1 steps).length < 2 ^ 31 → Acknowledging 1 steps →
      List.Forall₂ SentAs (sends 1 steps) (admitted options (run options (start steps) events).passes)) := by
  obtain ⟨packets, h⟩ := inv_run options steps events
  obtain ⟨turns, hturns⟩ := h.runner
  obtain ⟨done, hdone⟩ := sending_run steps turns
  rw [hturns] at hpasses
  have hmatched := matched_of_passes hpasses
  have hsent : (run options (start steps) events).runner.sent = sends 1 steps := by
    obtain ⟨hpassed, hcurrent, -⟩ := hpasses
    rw [hturns, hdone.sent, hdone.done hpassed, hcurrent, hmatched, Option.toList_none, List.append_nil]
  have hevidence : ∀ s ∈ steps, ∃ earlier pass report telemetry,
      earlier ++ [pass] <+: (run options (start steps) events).passes ∧
        Evidence options (sends 1 steps) s.expected earlier pass report telemetry := by
    intro s hs
    rw [← hmatched] at hs
    obtain ⟨e, he, rfl⟩ := List.mem_map.1 hs
    obtain ⟨entry, hget, hmatch⟩ := (run_evidenced steps turns).matched e he
    rw [← hturns] at hget
    rw [← hsent]
    exact h.evidence (List.mem_of_getElem? hget) hmatch
  refine ⟨hsent, hevidence, ?_⟩
  intro hshort hacknowledging
  have hlength : packets.length = (sends 1 steps).length := by rw [← h.sent.length_eq, hsent]
  have hsub : (admitted options (run options (start steps) events).passes).Sublist packets :=
    admitted_sublist h.numbered (hlength ▸ hshort) h.heard
  have hall : packets ⊆ admitted options (run options (start steps) events).passes := by
    intro packet hmem
    obtain ⟨k, hk⟩ := List.mem_iff_getElem?.1 hmem
    have hlt := (List.getElem?_eq_some_iff.1 hk).1
    have hrequest : (sends 1 steps)[k]? = some (sends 1 steps)[k] := List.getElem?_eq_getElem (hlength ▸ hlt)
    have hnumber := sends_number hrequest
    obtain ⟨s, hs, hseq, value, hvalue, hprocessor⟩ :=
      hacknowledging.expects (List.getElem_mem (hlength ▸ hlt) : (sends 1 steps)[k] ∈ sends 1 steps)
    obtain ⟨earlier, pass, report, telemetry, hfront, hfound⟩ := hevidence s hs
    rw [hnumber, Nat.add_comm] at hseq
    rw [← hsent] at hfound
    exact h.admitted_of_evidence hfound hfront hk hseq hvalue hprocessor
  have heq : admitted options (run options (start steps) events).passes = packets :=
    hsub.eq_of_length_le (h.numbered.nodup.subperm hall).length_le
  rw [heq, ← hsent]
  exact h.sent

/-- BOOT to NOMINAL; the command arrives twice -/
theorem passing_scenario_is_evidence_nominal :
    let first : ScenarioStep :=
      { command := some "SET_MODE", argument := some "NOMINAL", expected :=
          { ackSeq := some (.int 1), ackStatus := some (.int 0), mode := some (.str "NOMINAL") } }
    let steps : List ScenarioStep := [first]
    let events : List Event :=
      [.ground false none 1000, .flight 1100 (.copy 0) true, .telemetry 0, .flight 1250 (.copy 0) true] ++
        List.replicate 4 (.ground false none 1300)
    (∃ earlier pass report telemetry, earlier ++ [pass] <+: (run {} (start steps) events).passes ∧
      Evidence {} [(1, "SET_MODE", some "NOMINAL")] first.expected earlier pass report telemetry) ∧
    List.Forall₂ SentAs [(1, "SET_MODE", some "NOMINAL")] (admitted {} (run {} (start steps) events).passes) := by
  intro first steps events
  have hpasses : (run {} (start steps) events).runner.Passes := by decide +kernel
  have hacknowledging : Acknowledging 1 steps := ⟨⟨rfl, _, rfl, .accepted, rfl, rfl⟩, trivial⟩
  obtain ⟨-, hevidence, hadmitted⟩ := passing_scenario_is_evidence {} steps events hpasses
  exact ⟨hevidence first (List.mem_singleton_self first), hadmitted (by decide) hacknowledging⟩

end ClosedLoop

end AstraFsw
