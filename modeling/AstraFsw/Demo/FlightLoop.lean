/-
The command/telemetry demo: `UdpCommandReceiver::receive_packet`, `UdpTelemetrySender::send_packet` and the loop of
`fsw/src/command_telemetry_demo.cpp`, which puts both around the application.

What the outside decides in one pass of the loop (the clock, the datagram that waits at the command socket, whether the
socket takes the telemetry) is an input. Sockets are open: a receiver or sender that is not ready ends the program
before the loop.

- `embedsApp`: over any run, the application inside the demo is the application alone, on the inputs of the passes made;
- `run_lockstep`: pass number, telemetry sequence and heartbeat advance together;
- `running_iff`: a pass is made as long as every earlier telemetry packet was sent and the loop count is not reached.
-/
import AstraFsw.App.Acknowledgement
import AstraFsw.Core.Rounding
import AstraFsw.Wire.CommandCodec
import AstraFsw.Wire.TelemetryCodec

namespace AstraFsw

open Wire

/-! ## The sockets -/

namespace UdpCommandReceiver

/-- the size of the receive buffer -/
def bufferSizeBytes : ℕ := 256

/-- `receive_packet`. The argument is what `recvfrom` finds before its timeout; it copies as much as the buffer takes and
drops the rest. An empty datagram is no packet. -/
def receivePacket (datagram : Option (List UInt8)) (packetOut : CommandPacket) : Option (Bool × CommandPacket) :=
  match datagram with
  | none => some (false, packetOut)
  | some bytes =>
    let received := bytes.take bufferSizeBytes
    if received.length ≤ 0 then some (false, packetOut) else deserializeCommandPacket received packetOut

end UdpCommandReceiver

/-! ## The loop -/

/-- the arguments that the loop reads -/
structure DemoOptions where
  loopCount : UInt32 := 30
  /-- 0 for never, as for the next -/
  sensorTimeoutLoop : UInt32 := 0
  watchdogTimeoutLoop : UInt32 := 0
deriving DecidableEq, Repr

/-- what the outside decides in one pass -/
structure DemoPass where
  /-- `unix_time_ms()` -/
  nowMs : UInt64
  datagram : Option (List UInt8) := none
  /-- does `sendto` take the whole packet? -/
  sent : Bool := true
deriving DecidableEq, Repr

/-- what one pass prints and hands to `sendto` -/
structure DemoReport where
  output : FlightSoftwareStepOutput
  datagram : List UInt8
deriving DecidableEq, Repr

structure CommandTelemetryDemo where
  app : FlightSoftwareApp := .ofConfig {}
  loop : UInt32 := 1
  /-- a telemetry packet was not sent: EXIT_FAILURE -/
  failed : Bool := false
deriving DecidableEq, Repr

namespace CommandTelemetryDemo

/-- 92.0F while the active fault is CPU_OVERLOAD, 18.0F otherwise -/
def cpuLoadForState (fault : FaultCode) : Binary32 := if fault = .cpuOverload then ⟨0x42B80000⟩ else ⟨0x41900000⟩

/-- `42.0F + static_cast<float>(loop) * 0.25F` -/
def memoryLoad (loop : UInt32) : Binary32 := .add ⟨0x42280000⟩ (.mul (.ofNat loop.toNat) ⟨0x3E800000⟩)

/-- the delay before the clock is read, in milliseconds -/
def delayMs (options : DemoOptions) (loop : UInt32) : ℕ :=
  if options.watchdogTimeoutLoop ≠ 0 ∧ loop = options.watchdogTimeoutLoop then 650 else 0

/-- the command of a pass: `receive_packet` is called on a fresh packet, which is used when it succeeds -/
def receivedCommand (datagram : Option (List UInt8)) : Option CommandPacket :=
  match UdpCommandReceiver.receivePacket datagram {} with
  | some (true, command) => some command
  | _ => none

def stepInput (options : DemoOptions) (demo : CommandTelemetryDemo) (pass : DemoPass) : FlightSoftwareStepInput where
  command := receivedCommand pass.datagram
  timestampMs := pass.nowMs
  cpuLoadPercent := cpuLoadForState demo.app.lastFault
  memoryLoadPercent := memoryLoad demo.loop
  heartbeatCount := demo.loop
  sensorAgeMs := if options.sensorTimeoutLoop ≠ 0 ∧ demo.loop ≥ options.sensorTimeoutLoop then 1500 else 0

/-- the loop goes on -/
def running (options : DemoOptions) (demo : CommandTelemetryDemo) : Bool :=
  !demo.failed && decide (demo.loop ≤ options.loopCount)

/-- one pass; once the loop has ended nothing happens any more -/
def step (options : DemoOptions) (demo : CommandTelemetryDemo) (pass : DemoPass) :
    Option DemoReport × CommandTelemetryDemo :=
  if demo.running options then
    let result := demo.app.step (demo.stepInput options pass)
    let report : DemoReport := { output := result.1, datagram := serializeTelemetryPacket result.1.telemetry }
    if pass.sent then (some report, { demo with app := result.2, loop := demo.loop + 1 })
    else (some report, { demo with app := result.2, failed := true })
  else (none, demo)

/-- the demo after a list of passes -/
def run (options : DemoOptions) (passes : List DemoPass) : CommandTelemetryDemo := Machine.final (step options) {} passes

/-- what the passes made report -/
def reports (options : DemoOptions) (passes : List DemoPass) : List DemoReport :=
  (Machine.outputs (step options) {} passes).filterMap id

/-! ## What the receiver accepts -/

/-- only a datagram of exactly the packet size can be a command: the longer ones fill more of the buffer -/
theorem receivedCommand_eq_some {datagram : Option (List UInt8)} {command : CommandPacket} :
    receivedCommand datagram = some command ↔
      ∃ bytes, datagram = some bytes ∧ deserializeCommandPacket bytes {} = some (true, command) := by
  have hbuffer : ∀ bytes : List UInt8, receivedCommand (some bytes) = some command ↔
      deserializeCommandPacket bytes {} = some (true, command) := by
    intro bytes
    by_cases hlen : bytes.length = commandPacketSizeBytes
    · have htake : bytes.take UdpCommandReceiver.bufferSizeBytes = bytes :=
        List.take_of_length_le (by rw [hlen]; decide)
      have hpos : ¬ bytes.length ≤ 0 := by rw [hlen]; decide
      unfold receivedCommand UdpCommandReceiver.receivePacket
      simp only [htake, if_neg hpos]
      rcases deserializeCommandPacket_cases bytes {} with hfails | ⟨packet, hdecoded, -⟩
      · simp [hfails]
      · simp [hdecoded]
    · have htake : (bytes.take UdpCommandReceiver.bufferSizeBytes).length ≠ commandPacketSizeBytes := by
        rw [List.length_take, UdpCommandReceiver.bufferSizeBytes]
        unfold commandPacketSizeBytes at hlen ⊢
        omega
      have hrefused : ∀ data : List UInt8, data.length ≠ commandPacketSizeBytes →
          deserializeCommandPacket data {} = some (false, {}) := fun data h => if_pos h
      unfold receivedCommand UdpCommandReceiver.receivePacket
      simp only [hrefused _ htake, hrefused _ hlen, ite_self]
      simp
  cases datagram with
  | none => simp [receivedCommand, UdpCommandReceiver.receivePacket]
  | some bytes => simp [hbuffer]

theorem receivedCommand_serialize {command : CommandPacket} (h : command.commandId.toRaw ∈ commandIdValues) :
    receivedCommand (some (serializeCommandPacket command)) = some command :=
  receivedCommand_eq_some.2 ⟨_, rfl, deserializeCommandPacket_serialize h {}⟩

/-- a received command has an enumerated id -/
theorem receivedCommand_commandId {datagram : Option (List UInt8)} {command : CommandPacket}
    (h : receivedCommand datagram = some command) : command.commandId.toRaw ∈ commandIdValues := by
  obtain ⟨bytes, -, hdecoded⟩ := receivedCommand_eq_some.1 h
  rcases deserializeCommandPacket_cases bytes {} with hfails | ⟨packet, hpacket, hid, -⟩
  · simp [hfails] at hdecoded
  · rw [hdecoded, Option.some.injEq, Prod.mk.injEq] at hpacket
    rw [hpacket.2]
    exact hid

/-! ## One pass -/

variable {options : DemoOptions} {demo : CommandTelemetryDemo} {pass : DemoPass}

theorem step_of_not_running (h : demo.running options = false) : demo.step options pass = (none, demo) := by
  simp [step, h]

theorem step_report (h : demo.running options = true) :
    (demo.step options pass).1 =
      some { output := (demo.app.step (demo.stepInput options pass)).1
             datagram := serializeTelemetryPacket (demo.app.step (demo.stepInput options pass)).1.telemetry } := by
  simp only [step, h, if_true]
  split_ifs <;> rfl

theorem step_app (h : demo.running options = true) :
    (demo.step options pass).2.app = (demo.app.step (demo.stepInput options pass)).2 := by
  simp only [step, h, if_true]
  split_ifs <;> rfl

theorem step_loop (h : demo.running options = true) (pass : DemoPass) :
    (demo.step options pass).2.loop = (if pass.sent then demo.loop + 1 else demo.loop) ∧
      (demo.step options pass).2.failed = !pass.sent := by
  have hfailed : demo.failed = false := by
    unfold running at h
    simp only [Bool.and_eq_true, Bool.not_eq_true'] at h
    exact h.1
  simp only [step, h, if_true]
  cases pass.sent <;> simp [hfailed]

/-! ## The application inside -/

/-- the application input of a pass, if the pass is made -/
def passInput (options : DemoOptions) (demo : CommandTelemetryDemo) (pass : DemoPass) : List FlightSoftwareStepInput :=
  if demo.running options then [demo.stepInput options pass] else []

/-- the application inputs of a run -/
def stepInputs (options : DemoOptions) (passes : List DemoPass) : List FlightSoftwareStepInput :=
  Machine.innerInputs (step options) (passInput options) {} passes

/-- **The demo is a run of the application.** -/
theorem embedsApp (options : DemoOptions) :
    Machine.Embeds (step options) FlightSoftwareApp.step (fun _ => True) (·.app) (passInput options)
      (fun report => (report.map (·.output)).toList) where
  keeps _ _ _ := trivial
  state demo pass _ := by
    cases h : demo.running options with
    | true => simp [step_app h, passInput, h]
    | false => simp [step_of_not_running h, passInput, h]
  results demo pass _ := by
    cases h : demo.running options with
    | true => simp [step_report h, passInput, h]
    | false => simp [step_of_not_running h, passInput, h]

theorem run_app (options : DemoOptions) (passes : List DemoPass) :
    (run options passes).app = FlightSoftwareApp.run {} (stepInputs options passes) :=
  (embedsApp options).final trivial passes

theorem run_snoc (options : DemoOptions) (passes : List DemoPass) (pass : DemoPass) :
    run options (passes ++ [pass]) = ((run options passes).step options pass).2 := Machine.final_snoc _ _ _ _

theorem run_configuredBy (options : DemoOptions) (passes : List DemoPass) :
    FlightSoftwareApp.ConfiguredBy {} (run options passes).app := by
  rw [run_app]
  exact FlightSoftwareApp.run_configuredBy _ _

/-! ## Pass numbers -/

/-- before a pass, the next telemetry sequence number is the pass number -/
def Lockstep (demo : CommandTelemetryDemo) : Prop :=
  demo.failed = false → demo.app.telemetrySequence + 1 = demo.loop

theorem step_lockstep (options : DemoOptions) (demo : CommandTelemetryDemo) (pass : DemoPass) (h : demo.Lockstep) :
    (demo.step options pass).2.Lockstep := by
  cases hr : demo.running options with
  | false =>
    rw [step_of_not_running hr]
    exact h
  | true =>
    obtain ⟨hloop, hfailed⟩ := step_loop hr pass
    intro hsent
    rw [hfailed, Bool.not_eq_false'] at hsent
    have hbefore : demo.app.telemetrySequence + 1 = demo.loop := by
      unfold running at hr
      simp only [Bool.and_eq_true, Bool.not_eq_true'] at hr
      exact h hr.1
    rw [hloop, if_pos hsent, step_app hr]
    exact congrArg (· + 1) hbefore

theorem run_lockstep (options : DemoOptions) (passes : List DemoPass) : (run options passes).Lockstep :=
  Machine.final_inv _ (step_lockstep options) (fun _ => rfl) passes

/-- a pass after a pass: the loop went on, the packet was sent, and the counter moved -/
theorem running_step (h : (demo.step options pass).2.running options = true) :
    demo.running options = true ∧ pass.sent = true ∧ (demo.step options pass).2.loop = demo.loop + 1 := by
  cases hr : demo.running options with
  | false =>
    rw [step_of_not_running hr, hr] at h
    exact absurd h (by simp)
  | true =>
    obtain ⟨hloop, hfailed⟩ := step_loop hr pass
    have hsent : pass.sent = true := by
      unfold running at h
      simp only [hfailed, Bool.not_not, Bool.and_eq_true] at h
      exact h.1
    exact ⟨rfl, hsent, by rw [hloop, if_pos hsent]⟩

/-- the loop counter numbers the passes from 1, modulo 2^32 -/
theorem loop_of_running {passes : List DemoPass} (h : (run options passes).running options = true) :
    (run options passes).loop = UInt32.ofNat (passes.length + 1) := by
  induction passes using List.reverseRecOn with
  | nil => rfl
  | append_singleton passes pass ih =>
    rw [run_snoc] at h ⊢
    obtain ⟨hr, -, hloop⟩ := running_step h
    rw [hloop, ih hr, List.length_append, List.length_singleton, ← UInt32.toNat_inj]
    simp

/-- **When a pass is made.** Every packet before it was sent, and the loop count is not reached; a loop count of
2^32 - 1 never is. -/
theorem running_iff (options : DemoOptions) (passes : List DemoPass) :
    (run options passes).running options = true ↔
      (∀ pass ∈ passes, pass.sent = true) ∧
        (passes.length < options.loopCount.toNat ∨ options.loopCount.toNat = 2 ^ 32 - 1) := by
  have hmax := options.loopCount.toNat_lt
  induction passes using List.reverseRecOn with
  | nil =>
    have hloop : (1 : UInt32) ≤ options.loopCount ↔ 1 ≤ options.loopCount.toNat := UInt32.le_iff_toNat_le
    change (!false && decide ((1 : UInt32) ≤ options.loopCount)) = true ↔ _
    simp only [Bool.not_false, Bool.true_and, decide_eq_true_iff, hloop, List.not_mem_nil, false_imp_iff,
      implies_true, true_and, List.length_nil]
    omega
  | append_singleton passes pass ih =>
    rw [run_snoc, List.forall_mem_append, List.forall_mem_singleton, List.length_append, List.length_singleton]
    constructor
    · intro h
      obtain ⟨hr, hsent, hloop⟩ := running_step h
      obtain ⟨hall, hcount⟩ := ih.1 hr
      refine ⟨⟨hall, hsent⟩, ?_⟩
      unfold running at h
      rw [hloop, loop_of_running hr, Bool.and_eq_true, decide_eq_true_iff, UInt32.le_iff_toNat_le, UInt32.toNat_add,
        UInt32.toNat_ofNat', UInt32.toNat_one] at h
      omega
    · rintro ⟨⟨hall, hsent⟩, hcount⟩
      have hr := ih.2 ⟨hall, by omega⟩
      obtain ⟨hloop, hfailed⟩ := step_loop hr pass
      unfold running
      rw [hfailed, hloop, if_pos hsent, loop_of_running hr, hsent, Bool.and_eq_true, decide_eq_true_iff,
        UInt32.le_iff_toNat_le, UInt32.toNat_add, UInt32.toNat_ofNat', UInt32.toNat_one]
      exact ⟨rfl, by omega⟩

end CommandTelemetryDemo

end AstraFsw
