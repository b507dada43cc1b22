/-
Which commands of a numbered list reach the processor of the demo.

The ground numbers its commands 1, 2, 3, ... and the network may lose, repeat and reorder their datagrams. The guard takes
a command only if its number is newer than the last it took, which for fewer than 2^31 commands means greater.

- `guard_of_step`: what a pass does to the guard;
- `admitted_sublist`: the commands that reached the processor are a subsequence of those that were sent.
-/
import AstraFsw.Demo.Campaign

namespace AstraFsw.CommandTelemetryDemo

open FlightSoftwareApp

variable {options : DemoOptions} {demo : CommandTelemetryDemo} {pass : DemoPass} {passes : List DemoPass}
  {packets : List CommandPacket}

/-! ## Admitted commands -/

/-- the command that a pass hands to the processor -/
def admittedCommand (options : DemoOptions) (demo : CommandTelemetryDemo) (pass : DemoPass) : Option CommandPacket :=
  if demo.running options then
    (receivedCommand pass.datagram).filter fun command => decide (demo.app.Admitted command pass.nowMs)
  else none

/-- the commands that reached the processor, in order -/
def admitted (options : DemoOptions) (passes : List DemoPass) : List CommandPacket :=
  (Machine.trace (step options) {} passes).filterMap fun e => admittedCommand options e.1 e.2

theorem admitted_snoc (options : DemoOptions) (passes : List DemoPass) (pass : DemoPass) :
    admitted options (passes ++ [pass]) =
      admitted options passes ++ (admittedCommand options (run options passes) pass).toList := by
  have hlast : Machine.trace (step options) (run options passes) [pass] = [(run options passes, pass)] := rfl
  rw [admitted, Machine.trace_append, List.filterMap_append, ← run, hlast, ← admitted]
  cases hcommand : admittedCommand options (run options passes) pass with
  | none => simp [hcommand]
  | some command => simp [hcommand]

theorem admittedCommand_eq_some {command : CommandPacket} :
    admittedCommand options demo pass = some command ↔
      demo.running options = true ∧ receivedCommand pass.datagram = some command ∧
        demo.app.Admitted command pass.nowMs := by
  unfold admittedCommand
  split_ifs with hr
  · simp [Option.filter_eq_some_iff, hr]
  · simp [hr]

/-- an admitted command of a list stays admitted in a longer one -/
theorem admitted_prefix {more : List DemoPass} : admitted options passes <+: admitted options (passes ++ more) := by
  rw [admitted, admitted, Machine.trace_append, List.filterMap_append]
  exact List.prefix_append _ _

/-- a permitted command that is not admitted leaves the guard as it was -/
theorem guard_of_not_admitted {app : FlightSoftwareApp} {packet : CommandPacket} {nowMs : UInt64}
    {status : CommandStatus} {guard : GroundCommandGuard} {processor : CommandProcessor}
    (h : app.GroundStep packet nowMs status guard processor) (hpermits : app.permits packet = true)
    (hnot : ¬ app.Admitted packet nowMs) : guard = app.groundCommandGuard := by
  cases h with
  | guardRefused => rfl
  | unauthorized hguard | processed _ _ hguard => exact absurd ⟨hguard, hpermits⟩ hnot

/-- **What a pass does to the guard.** It takes the number of the admitted command, if there is one. -/
theorem guard_of_step (hconfig : ConfiguredBy {} demo.app) (hr : demo.running options = true) (pass : DemoPass) :
    (demo.step options pass).2.app.groundCommandGuard =
      match admittedCommand options demo pass with
      | none => demo.app.groundCommandGuard
      | some command => demo.app.groundCommandGuard.take command.sequenceNumber := by
  rw [step_app hr, step_groundCommandGuard]
  cases hcommand : receivedCommand pass.datagram with
  | none =>
    have hnone : (demo.stepInput options pass).command = none := hcommand
    have hadmitted : admittedCommand options demo pass = none := by simp [admittedCommand, hcommand]
    rw [groundPhase_of_none _ _ hnone, hadmitted]
  | some command =>
    have hsome : (demo.stepInput options pass).command = some command := hcommand
    have hpermits := permits_default hconfig (receivedCommand_commandId hcommand)
    rw [groundPhase_of_some _ _ hsome]
    by_cases hadmitted : demo.app.Admitted command pass.nowMs
    · rw [admittedCommand_eq_some.2 ⟨hr, hcommand, hadmitted⟩]
      exact congrArg Prod.fst (groundCommand_of_admitted hadmitted)
    · have hnone : admittedCommand options demo pass = none := by
        simp [admittedCommand, hcommand, Option.filter, hadmitted]
      rw [hnone]
      exact guard_of_not_admitted (demo.app.groundCommand_step command pass.nowMs) hpermits hadmitted

/-! ## Numbered commands -/

/-- the ground numbers its commands from 1 -/
def Numbered (packets : List CommandPacket) : Prop :=
  ∀ k packet, packets[k]? = some packet → packet.sequenceNumber.toNat = k + 1

theorem Numbered.lt_length (h : Numbered packets) {command : CommandPacket} (hmem : command ∈ packets) :
    ∃ k, packets[k]? = some command ∧ command.sequenceNumber.toNat = k + 1 ∧ k < packets.length := by
  obtain ⟨k, hk⟩ := List.mem_iff_getElem?.1 hmem
  exact ⟨k, hk, h k command hk, (List.getElem?_eq_some_iff.1 hk).1⟩

theorem Numbered.nodup (h : Numbered packets) : packets.Nodup := by
  rw [List.nodup_iff_getElem?_ne_getElem?]
  intro i j hij hj heq
  rw [List.getElem?_eq_getElem hj] at heq
  have hi := h i _ heq
  have hj := h j _ (List.getElem?_eq_getElem hj)
  omega

/-- a command behind the last one taken continues the subsequence -/
theorem sublist_take_snoc {taken : List CommandPacket} {n k : ℕ} {command : CommandPacket}
    (h : taken.Sublist (packets.take n)) (hle : n ≤ k) (hk : packets[k]? = some command) :
    (taken ++ [command]).Sublist (packets.take (k + 1)) := by
  rw [List.take_add_one, hk]
  exact (h.trans (List.take_sublist_take_left hle)).append (List.Sublist.refl _)

/-- the guard has taken nothing, or its number is that of the last command it took -/
def Taken (packets : List CommandPacket) (demo : CommandTelemetryDemo) (taken : List CommandPacket) : Prop :=
  (demo.app.groundCommandGuard.sequenceInitialized = false ∧ taken = []) ∨
    (demo.app.groundCommandGuard.sequenceInitialized = true ∧
      demo.app.groundCommandGuard.highestSequence.toNat ≤ packets.length ∧
      taken.Sublist (packets.take demo.app.groundCommandGuard.highestSequence.toNat))

/-- one pass, whatever of the list it hears -/
theorem Taken.step {taken : List CommandPacket} (h : Taken packets demo taken) (hconfig : ConfiguredBy {} demo.app)
    (hnumbered : Numbered packets) (hshort : packets.length < 2 ^ 31)
    (hheard : ∀ command, receivedCommand pass.datagram = some command → command ∈ packets) :
    Taken packets (demo.step options pass).2 (taken ++ (admittedCommand options demo pass).toList) := by
  cases hr : demo.running options with
  | false =>
    have hnone : admittedCommand options demo pass = none := by simp [admittedCommand, hr]
    rw [step_of_not_running hr, hnone, Option.toList_none, List.append_nil]
    exact h
  | true =>
    have hguard := guard_of_step hconfig hr pass
    cases hcommand : admittedCommand options demo pass with
    | none =>
      rw [hcommand] at hguard
      simp only at hguard
      rw [Taken, hguard, Option.toList_none, List.append_nil]
      exact h
    | some command =>
      obtain ⟨-, hreceived, haccepted, -⟩ := admittedCommand_eq_some.1 hcommand
      obtain ⟨k, hk, hnumber, hlt⟩ := hnumbered.lt_length (hheard command hreceived)
      rw [hcommand] at hguard
      simp only at hguard
      refine Or.inr ?_
      rw [hguard, Option.toList_some]
      change true = true ∧ command.sequenceNumber.toNat ≤ packets.length ∧
        (taken ++ [command]).Sublist (packets.take command.sequenceNumber.toNat)
      rw [hnumber]
      refine ⟨rfl, hlt, ?_⟩
      rcases h with ⟨-, rfl⟩ | ⟨hinit, hle, hsub⟩
      · exact sublist_take_snoc (List.nil_sublist (packets.take 0)) (Nat.zero_le k) hk
      · refine sublist_take_snoc hsub ?_ hk
        have hvalid : demo.app.groundCommandGuard.valid = true := by
          rw [GroundCommandGuard.valid, hconfig.guard]
          decide
        have hok := ((GroundCommandGuard.evaluate_accepted_iff hvalid _ _ _).1 haccepted).2
        rw [GroundCommandGuard.sequenceOk, hinit, Bool.not_true, Bool.false_or,
          GroundCommandGuard.sequenceIsNewer_iff] at hok
        have hnewer := (SerialNumber.newer_iff_lt (h := 2 ^ 31) (by omega) (by omega)).1 hok
        omega

/-- **In order and at most once.** Whatever the passes hear of a numbered list of fewer than 2^31 commands, with losses,
repetitions and in any order, the commands that reach the processor are a subsequence of the list. -/
theorem admitted_sublist (hnumbered : Numbered packets) (hshort : packets.length < 2 ^ 31)
    (hheard : ∀ pass ∈ passes, ∀ command, receivedCommand pass.datagram = some command → command ∈ packets) :
    (admitted options passes).Sublist packets := by
  have htaken : Taken packets (run options passes) (admitted options passes) := by
    induction passes using List.reverseRecOn with
    | nil => exact Or.inl ⟨rfl, rfl⟩
    | append_singleton passes pass ih =>
      rw [run_snoc, admitted_snoc]
      refine (ih fun p hp => hheard p (by simp [hp])).step (run_configuredBy options passes) hnumbered hshort ?_
      exact hheard pass (by simp)
  rcases htaken with ⟨-, hnil⟩ | ⟨-, -, hsub⟩
  · rw [hnil]
    exact List.nil_sublist _
  · exact hsub.trans (List.take_sublist _ _)

end AstraFsw.CommandTelemetryDemo
