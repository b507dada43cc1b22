/-
The browser console's ticks against the flight application.

A `Tick` moves the sliders and presses the tick button; the application takes a step without a command on the same
numbers. The console knows neither the time since the last step nor the missed-deadline count, its late loop starts at
600 ms instead of 250 ms, and it injects the payload fault, which for the application is a warning.
- `head?_classifyHealth`: the fault a tick injects, by priority;
- `selects_same_iff`: the health on which both select the same fault, as long as the watchdog has not expired;
- `Tracks.exchange`, `Tracks.tick`: one command and one tick, with the missed-deadline count of the application;
- `tick_selection_exact`, `console_session_simulates_app`: whole sessions of commands and ticks.
-/
import AstraFsw.Core.Rounding
import AstraFsw.Site.Simulation

namespace AstraFsw.Site

open FdirManager (dispositionFor faultMode)

/-! ## The console -/

/-- `state.health`: what the sliders show, whole numbers -/
structure Health where
  cpuLoad : ℕ := 20
  memoryLoad : ℕ := 35
  sensorAgeMs : ℕ := 10
  payloadAgeMs : ℕ := 20
  loopDurationMs : ℕ := 25
deriving DecidableEq, Repr

structure HealthThresholds where
  cpuWarning : ℕ
  cpuCritical : ℕ
  memoryWarning : ℕ
  memoryCritical : ℕ
  sensorCriticalAgeMs : ℕ
  payloadCriticalAgeMs : ℕ
  watchdogWarningMs : ℕ
  watchdogExpiredMs : ℕ
deriving DecidableEq, Repr

/-- `healthThresholds` of `model.json` -/
def healthThresholds : HealthThresholds where
  cpuWarning := 80
  cpuCritical := 95
  memoryWarning := 80
  memoryCritical := 95
  sensorCriticalAgeMs := 1000
  payloadCriticalAgeMs := 1000
  watchdogWarningMs := 400
  watchdogExpiredMs := 600

/-- the `priority` of each entry of `faults` -/
def priorities : List (String × ℕ) :=
  [("NONE", 0), ("SENSOR_TIMEOUT", 90), ("SENSOR_INVALID_DATA", 85), ("PAYLOAD_HEARTBEAT_TIMEOUT", 50),
   ("CPU_OVERLOAD", 60), ("MEMORY_OVERLOAD", 80), ("TELEMETRY_SOCKET_FAILURE", 75), ("COMMAND_BAD_CRC", 20),
   ("COMMAND_UNKNOWN_ID", 15), ("COMMAND_TIMEOUT", 70), ("WATCHDOG_DEADLINE_MISS", 100)]

def priority (faultName : String) : ℕ := (priorities.lookup faultName).getD 0

def classifyHealth (h : Health) : List String :=
  let t := healthThresholds
  let candidates :=
    (if h.loopDurationMs ≥ t.watchdogExpiredMs then ["WATCHDOG_DEADLINE_MISS"] else []) ++
    (if h.sensorAgeMs ≥ t.sensorCriticalAgeMs then ["SENSOR_TIMEOUT"] else []) ++
    (if h.payloadAgeMs ≥ t.payloadCriticalAgeMs then ["PAYLOAD_HEARTBEAT_TIMEOUT"] else []) ++
    (if h.cpuLoad ≥ t.cpuCritical then ["CPU_OVERLOAD"] else []) ++
    (if h.memoryLoad ≥ t.memoryCritical then ["MEMORY_OVERLOAD"] else [])
  candidates.insertionSort fun a b => priority b ≤ priority a

/-- the state of the page with its sliders -/
structure Console where
  state : State := {}
  health : Health := {}
deriving DecidableEq, Repr

namespace Console

variable (c : Console)

/-- `setHealthValues`, and the sliders' own handlers -/
def setHealthValues (values : Health) : Console := { c with health := values }

def advanceTick : Console :=
  let state :=
    match classifyHealth c.health with
    | primary :: suppressed =>
      let state := (c.state.applyFault primary "INTERNAL").2
      if suppressed.length > 0 then
        state.addEvent "FDIR" ("Primary=" ++ primary ++ " · suppressed=" ++ ", ".intercalate suppressed) "warning"
      else state
    | [] =>
      let h := c.health
      let t := healthThresholds
      if h.cpuLoad ≥ t.cpuWarning ∨ h.memoryLoad ≥ t.memoryWarning ∨ h.loopDurationMs ≥ t.watchdogWarningMs then
        c.state.addEvent "HEALTH" "Warning threshold active; no fault injected" "warning"
      else c.state.addEvent "HEALTH" "Nominal health evaluation"
  { c with state := state.recordTelemetry "TICK" }

end Console

/-! ## The selected fault -/

/-- a rounded whole number reaches 95 when the number does -/
theorem ofNat_ge_ninetyFive (n : ℕ) : (Binary32.ofNat n).ge ⟨0x42BE0000⟩ = true ↔ 95 ≤ n := by
  have hplain : (⟨0x42BE0000⟩ : Binary32).Plain := by
    unfold Binary32.Plain
    decide
  have hn : (Binary32.ofNat n).Plain := Binary32.plain_rounded _ _
  constructor
  · intro h
    by_contra hlt
    have hle := Binary32.ofNat_mono (show n ≤ 94 by omega)
    have h94 : (Binary32.ofNat 94).magnitude < (⟨0x42BE0000⟩ : Binary32).magnitude := by decide +kernel
    have hmag := Binary32.magnitude_mono hle (Binary32.plain_rounded _ _)
    rw [Binary32.not_ge_of_magnitude_lt hn hplain (lt_of_le_of_lt hmag h94)] at h
    cases h
  · intro h
    have h95 : (Binary32.ofNat 95).bits.toNat = (0x42BE0000 : UInt32).toNat := by decide +kernel
    have hle := Binary32.ofNat_mono h
    rw [h95] at hle
    exact Binary32.ge_of_bits_le hn hplain hle

namespace Health

variable (h : Health)

/-- the fault of a tick -/
def fault : FaultCode :=
  if h.loopDurationMs ≥ 600 then .watchdogDeadlineMiss
  else if h.sensorAgeMs ≥ 1000 then .sensorTimeout
  else if h.memoryLoad ≥ 95 then .memoryOverload
  else if h.cpuLoad ≥ 95 then .cpuOverload
  else if h.payloadAgeMs ≥ 1000 then .payloadHeartbeatTimeout
  else .none

/-- the application's deadline of a loop -/
def Late : Prop := h.loopDurationMs ≥ 250

instance : Decidable h.Late := inferInstanceAs (Decidable (_ ≥ _))

/-- no loop between the two deadlines, and no payload fault that nothing else masks -/
def Common : Prop :=
  (h.loopDurationMs < 250 ∨ 600 ≤ h.loopDurationMs) ∧
    (h.payloadAgeMs < 1000 ∨ 600 ≤ h.loopDurationMs ∨ 1000 ≤ h.sensorAgeMs ∨ 95 ≤ h.memoryLoad ∨ 95 ≤ h.cpuLoad)

instance : Decidable h.Common := inferInstanceAs (Decidable (_ ∧ _))

/-- **The sort puts the fault of highest priority first.** -/
theorem head?_classifyHealth :
    (classifyHealth h).head? = if h.fault = .none then none else some h.fault.toString := by
  unfold classifyHealth Health.fault
  simp only [healthThresholds]
  by_cases hloop : h.loopDurationMs ≥ 600 <;> by_cases hsensor : h.sensorAgeMs ≥ 1000 <;>
    by_cases hmemory : h.memoryLoad ≥ 95 <;> by_cases hcpu : h.cpuLoad ≥ 95 <;>
    by_cases hpayload : h.payloadAgeMs ≥ 1000 <;> simp only [hloop, hsensor, hmemory, hcpu, hpayload, if_true, if_false,
      List.append_nil, List.nil_append, List.cons_append] <;> decide +kernel

end Health

/-- a press of the tick button with these sliders, and the application's step on the same numbers -/
structure Tick where
  health : Health
  input : FlightSoftwareStepInput
  silent : input.command = none
  cpuLoad : input.cpuLoadPercent = .ofNat health.cpuLoad
  memoryLoad : input.memoryLoadPercent = .ofNat health.memoryLoad
  sensorAgeMs : input.sensorAgeMs.toNat = health.sensorAgeMs
  payloadAgeMs : input.payloadAgeMs.toNat = health.payloadAgeMs
  loopDurationMs : input.loopDurationMs.toNat = health.loopDurationMs

section

variable {policy : Policy} {eventLogCapacity : ℕ} {app : FlightSoftwareApp} (t : Tick)

theorem Tick.loopMissed_iff (h : app.ConfiguredBy (configuration policy eventLogCapacity)) :
    app.loopMissed t.input ↔ t.health.Late := by
  rw [FlightSoftwareApp.loopMissed, h.thresholds, Health.Late, ← t.loopDurationMs, ge_iff_le, UInt32.le_iff_toNat_le]
  rfl

/-- the application's fault on the same numbers -/
theorem Tick.primaryFault (h : app.ConfiguredBy (configuration policy eventLogCapacity))
    (hexpires : ¬ app.watchdogExpires t.input) :
    app.primaryFault t.input =
      if t.health.Late then .watchdogDeadlineMiss
      else if t.health.sensorAgeMs ≥ 1000 then .sensorTimeout
      else if t.health.memoryLoad ≥ 95 then .memoryOverload
      else if t.health.cpuLoad ≥ 95 then .cpuOverload
      else .none := by
  have hsensor : app.sensorTimedOut t.input ↔ t.health.sensorAgeMs ≥ 1000 := by
    rw [FlightSoftwareApp.sensorTimedOut, h.thresholds, ← t.sensorAgeMs, ge_iff_le, UInt32.le_iff_toNat_le]
    rfl
  have hmemory : app.memoryCritical t.input ↔ t.health.memoryLoad ≥ 95 := by
    rw [FlightSoftwareApp.memoryCritical, h.thresholds, t.memoryLoad]
    exact ofNat_ge_ninetyFive _
  have hcpu : app.cpuCritical t.input ↔ t.health.cpuLoad ≥ 95 := by
    rw [FlightSoftwareApp.cpuCritical, h.thresholds, t.cpuLoad]
    exact ofNat_ge_ninetyFive _
  rw [FlightSoftwareApp.primaryFault_eq]
  simp only [hexpires, false_or, t.loopMissed_iff h, hsensor, hmemory, hcpu]

/-- **When both select the same fault.** -/
theorem selects_same_iff (h : app.ConfiguredBy (configuration policy eventLogCapacity))
    (hexpires : ¬ app.watchdogExpires t.input) :
    t.health.fault = app.primaryFault t.input ↔ t.health.Common := by
  rw [t.primaryFault h hexpires]
  unfold Health.fault Health.Common Health.Late
  split_ifs <;> simp <;> omega

end

/-- an enumerated fault is determined by its name -/
theorem toString_inj {f g : FaultCode} (hf : f.isNamed = true) (hg : g.isNamed = true) :
    f.toString = g.toString ↔ f = g := by
  let named : List FaultCode :=
    [.none, .sensorTimeout, .sensorInvalidData, .payloadHeartbeatTimeout, .cpuOverload, .memoryOverload,
     .telemetrySocketFailure, .commandBadCrc, .commandUnknownId, .commandTimeout, .watchdogDeadlineMiss]
  have hfind : ∀ f : FaultCode, f.isNamed = true → named.find? (fun g => g.toString = f.toString) = some f := by
    intro f hf
    cases f with
    | other raw => simp [FaultCode.isNamed] at hf
    | _ => rfl
  refine ⟨fun h => ?_, congrArg _⟩
  have hsame := hfind f hf
  rw [h, hfind g hg, Option.some.injEq] at hsame
  exact hsame.symm

theorem Health.fault_isNamed (h : Health) : h.fault.isNamed = true := by
  unfold Health.fault
  split_ifs <;> rfl

/-! ## Sessions -/

inductive Item where
  | exchange (e : Exchange)
  | tick (t : Tick)

namespace Item

def input : Item → FlightSoftwareStepInput
  | exchange e => e.input
  | tick t => t.input

/-- the late loops of an item, none for a command -/
def late : Item → ℕ
  | exchange _ => 0
  | tick t => if t.health.Late then 1 else 0

end Item

def Console.step (policy : Policy) (c : Console) : Item → Console
  | .exchange e => { c with state := (c.state.sendCommand policy e.request).2 }
  | .tick t => (c.setHealthValues t.health).advanceTick

def Console.run (policy : Policy) (items : List Item) : Console := items.foldl (Console.step policy) {}

/-- the application in the same session -/
def appAfter (policy : Policy) (eventLogCapacity : ℕ) (items : List Item) : FlightSoftwareApp :=
  FlightSoftwareApp.run (configuration policy eventLogCapacity) (items.map Item.input)

def lateLoops (items : List Item) : ℕ := (items.map Item.late).sum

/-- each step comes before the watchdog's timeout after the one before -/
def Punctual (items : List Item) : Prop :=
  items.IsChain fun i j => j.input.timestampMs.toNat < i.input.timestampMs.toNat + ({} : WatchdogConfig).timeoutMs.toNat

/-- the watchdog has not expired, and no tick is one of those the two decide differently -/
structure Session (items : List Item) : Prop where
  punctual : Punctual items
  late : lateLoops items ≤ 2
  common : ∀ t, .tick t ∈ items → t.health.Common

theorem Session.left {items more : List Item} (h : Session (items ++ more)) : Session items where
  punctual := List.IsChain.left_of_append h.punctual
  late := by
    have hle := h.late
    rw [lateLoops, List.map_append, List.sum_append] at hle
    exact le_trans (Nat.le_add_right _ _) hle
  common := fun t ht => h.common t (List.mem_append_left _ ht)

/-- the states of the two sides, with the late loops so far -/
structure Tracks (policy : Policy) (eventLogCapacity late : ℕ) (s : State) (app : FlightSoftwareApp) : Prop where
  agrees : Agrees s app.groundCommandGuard app.commandProcessor
  configured : app.ConfiguredBy (configuration policy eventLogCapacity)
  recovery : ∃ count, FlightSoftwareApp.RecoveryInv 3 app.commandProcessor count
  /-- the watchdog counts them, also when the next step arms it -/
  missed : ∀ input, (app.armedWatchdog input).missedDeadlineCount.toNat = late

namespace Tracks

variable {policy : Policy} {eventLogCapacity late : ℕ} {s : State} {app : FlightSoftwareApp}

theorem initial : Tracks policy eventLogCapacity 0 {} (.ofConfig (configuration policy eventLogCapacity)) where
  agrees := Agrees.initial _ _
  configured := FlightSoftwareApp.configuredBy_ofConfig _
  recovery := ⟨0, rfl, by decide, nofun, fun _ _ => rfl⟩
  missed := fun _ => rfl

/-- the missed-deadline count after a step -/
theorem countAfter (h : Tracks policy eventLogCapacity late s app) (input : FlightSoftwareStepInput) (hlate : late ≤ 2) :
    ((app.armedWatchdog input).countAfter input.loopDurationMs).toNat =
      late + if app.loopMissed input then 1 else 0 := by
  have hmissed := h.missed input
  have hdeadline : (app.armedWatchdog input).config.loopDeadlineMs = app.healthMonitor.thresholds.loopDeadlineMs := by
    rw [FlightSoftwareApp.armedWatchdog_config, h.configured.watchdog, h.configured.thresholds]
  rw [Watchdog.countAfter, hdeadline]
  by_cases hloop : app.loopMissed input
  · rw [if_pos hloop, if_pos (show input.loopDurationMs ≥ _ from hloop), UInt32.toNat_add, hmissed]
    change (late + 1) % 2 ^ 32 = _
    omega
  · rw [if_neg hloop, if_neg (show ¬ input.loopDurationMs ≥ _ from hloop)]
    exact hmissed

theorem not_expires (h : Tracks policy eventLogCapacity late s app) {input : FlightSoftwareStepInput}
    (htime : app.watchdogInitialized = true →
      input.timestampMs.toNat < app.watchdog.lastKickMs.toNat + ({} : WatchdogConfig).timeoutMs.toNat)
    (hlate : late + (if app.loopMissed input then 1 else 0) ≤ 2) : ¬ app.watchdogExpires input := by
  have hcount := h.countAfter input (le_trans (Nat.le_add_right _ _) hlate)
  rintro (helapsed | hmany)
  · exact not_elapsed h.configured htime helapsed
  · rw [h.configured.watchdog, ge_iff_le, UInt32.le_iff_toNat_le, hcount] at hmany
    change 3 ≤ _ at hmany
    omega

/-- what every step keeps but the agreement -/
theorem next (h : Tracks policy eventLogCapacity late s app) (input : FlightSoftwareStepInput) (hlate : late ≤ 2)
    (s' : State) (hagrees : Agrees s' (app.step input).2.groundCommandGuard (app.step input).2.commandProcessor) :
    Tracks policy eventLogCapacity (late + if app.loopMissed input then 1 else 0) s' (app.step input).2 := by
  obtain ⟨count, hcount⟩ := h.recovery
  refine ⟨hagrees, h.configured.step, ⟨_, hcount.step input⟩, fun input' => ?_⟩
  have harmed : (app.step input).2.armedWatchdog input' = (app.step input).2.watchdog := if_pos rfl
  rw [harmed, FlightSoftwareApp.step_watchdog]
  exact h.countAfter input hlate

/-- **One command.** -/
theorem exchange (h : Tracks policy eventLogCapacity late s app) (e : Exchange) (htime : InTime app e)
    (hlate : late ≤ 2) :
    (s.sendCommand policy e.request).1 = (app.step e.input).1.commandResult.status.toString ∧
      Tracks policy eventLogCapacity late (s.sendCommand policy e.request).2 (app.step e.input).2 := by
  obtain ⟨count, hcount⟩ := h.recovery
  obtain ⟨hstatus, hagrees⟩ := h.agrees.ground h.configured hcount e (app.step_ground e.input e.carried)
  have hshort := e.loop_not_missed h.configured
  have hexpires : ¬ app.watchdogExpires e.input := h.not_expires htime (by rw [if_neg hshort]; exact hlate)
  have hnext := h.next e.input hlate (s.sendCommand policy e.request).2
  rw [if_neg hshort, FlightSoftwareApp.step_commandProcessor, e.primaryFault_eq_none h.configured hexpires] at hnext
  exact ⟨hstatus, hnext hagrees⟩

end Tracks

/-- telemetry samples do not matter -/
theorem Agrees.recordTelemetry {s : State} {guard : GroundCommandGuard} {c : CommandProcessor} (h : Agrees s guard c)
    (source : String) : Agrees (s.recordTelemetry source) guard c :=
  ⟨h.mode, h.fault, h.named, h.sequence, h.attempts⟩

/-- a tick injects the fault at the head of its candidates -/
theorem Agrees.advanceTick {console : Console} {guard : GroundCommandGuard} {c : CommandProcessor}
    (h : Agrees console.state guard c) :
    Agrees console.advanceTick.state guard (FlightSoftwareApp.respond c console.health.fault) := by
  have hhead := console.health.head?_classifyHealth
  unfold Console.advanceTick
  cases hcandidates : classifyHealth console.health with
  | nil =>
    rw [hcandidates, List.head?_nil] at hhead
    have hnone : console.health.fault = .none := by
      by_contra hne
      rw [if_neg hne] at hhead
      cases hhead
    rw [hnone, FlightSoftwareApp.respond_none]
    simp only
    split_ifs <;> exact (h.addEvent _ _ _).recordTelemetry _
  | cons primary suppressed =>
    rw [hcandidates, List.head?_cons] at hhead
    have hne : console.health.fault ≠ .none := by
      intro hnone
      rw [if_pos hnone] at hhead
      cases hhead
    rw [if_neg hne, Option.some.injEq] at hhead
    rw [FlightSoftwareApp.respond_of_ne hne, hhead]
    have happlied := (h.applyFault console.health.fault_isNamed "INTERNAL").2
    simp only
    split_ifs
    · exact (happlied.addEvent _ _ _).recordTelemetry _
    · exact happlied.recordTelemetry _

namespace Tracks

variable {policy : Policy} {eventLogCapacity late : ℕ} {app : FlightSoftwareApp}

/-- **One tick**, on the health that both decide alike. -/
theorem tick {console : Console} (h : Tracks policy eventLogCapacity late console.state app) (t : Tick)
    (hcommon : t.health.Common)
    (htime : app.watchdogInitialized = true →
      t.input.timestampMs.toNat < app.watchdog.lastKickMs.toNat + ({} : WatchdogConfig).timeoutMs.toNat)
    (hlate : late + (Item.tick t).late ≤ 2) :
    Tracks policy eventLogCapacity (late + (Item.tick t).late)
      (console.setHealthValues t.health).advanceTick.state (app.step t.input).2 := by
  have hloop : (if app.loopMissed t.input then 1 else 0) = (Item.tick t).late :=
    if_congr (t.loopMissed_iff h.configured) rfl rfl
  have hexpires : ¬ app.watchdogExpires t.input := h.not_expires htime (by rw [hloop]; exact hlate)
  have hselected := (selects_same_iff t h.configured hexpires).2 hcommon
  have hnext := h.next t.input (le_trans (Nat.le_add_right _ _) hlate)
    (console.setHealthValues t.health).advanceTick.state
  rw [hloop, FlightSoftwareApp.step_commandProcessor, ← hselected, FlightSoftwareApp.step_groundCommandGuard,
    FlightSoftwareApp.groundPhase_of_none app _ t.silent, FlightSoftwareApp.afterGround_of_none app _ t.silent] at hnext
  have hset : Agrees (console.setHealthValues t.health).state app.groundCommandGuard app.commandProcessor := h.agrees
  exact hnext hset.advanceTick

end Tracks

/-! ## Whole sessions -/

section

variable (policy : Policy) (eventLogCapacity : ℕ)

theorem appAfter_snoc (items : List Item) (item : Item) :
    appAfter policy eventLogCapacity (items ++ [item]) =
      ((appAfter policy eventLogCapacity items).step item.input).2 := by
  rw [appAfter, List.map_append, List.map_singleton, FlightSoftwareApp.run_snoc]
  rfl

theorem Console.run_snoc (items : List Item) (item : Item) :
    Console.run policy (items ++ [item]) = (Console.run policy items).step policy item := by
  rw [Console.run, List.foldl_append]
  rfl

theorem lateLoops_snoc (items : List Item) (item : Item) : lateLoops (items ++ [item]) = lateLoops items + item.late := by
  simp [lateLoops]

/-- the next step is in time -/
theorem punctual_next {items : List Item} {item : Item} (h : Punctual (items ++ [item])) :
    (appAfter policy eventLogCapacity items).watchdogInitialized = true →
      item.input.timestampMs.toNat <
        (appAfter policy eventLogCapacity items).watchdog.lastKickMs.toNat + ({} : WatchdogConfig).timeoutMs.toNat := by
  rcases List.eq_nil_or_concat items with rfl | ⟨earlier, last, rfl⟩
  · exact nofun
  · intro _
    rw [List.concat_eq_append] at h ⊢
    rw [appAfter_snoc, FlightSoftwareApp.step_watchdog]
    rw [Punctual, List.append_assoc] at h
    exact (List.isChain_cons_cons.1 (List.IsChain.right_of_append h)).1

/-- **A session keeps the two sides together.** -/
theorem Session.tracks {items : List Item} (h : Session items) :
    Tracks policy eventLogCapacity (lateLoops items) (Console.run policy items).state
      (appAfter policy eventLogCapacity items) := by
  induction items using List.reverseRecOn with
  | nil => exact Tracks.initial
  | append_singleton items item ih =>
    have hitems := ih h.left
    have htime := punctual_next policy eventLogCapacity h.punctual
    have hlate := h.late
    rw [lateLoops_snoc] at hlate ⊢
    rw [appAfter_snoc, Console.run_snoc]
    cases item with
    | exchange e => exact (hitems.exchange e htime hlate).2
    | tick t => exact hitems.tick t (h.common t (by simp)) htime hlate

end

/-- **Which ticks are decided alike.** After every session that kept the two sides together, a further tick in time, with
at most two late loops so far, selects the same fault on both sides exactly when its health is common: its loop takes
less than 250 ms or at least 600 ms, and its payload is younger than 1000 ms or masked by another condition. -/
theorem tick_selection_exact (policy : Policy) (eventLogCapacity : ℕ) (items : List Item) (t : Tick)
    (hsession : Session items) (htime : Punctual (items ++ [.tick t])) (hlate : lateLoops (items ++ [.tick t]) ≤ 2) :
    (classifyHealth t.health).head?.getD "NONE" =
        ((appAfter policy eventLogCapacity items).step t.input).1.primaryInternalFault.toString ↔
      t.health.Common := by
  have htracks := hsession.tracks policy eventLogCapacity
  have hpunctual := punctual_next policy eventLogCapacity htime
  have hloop : (if (appAfter policy eventLogCapacity items).loopMissed t.input then 1 else 0) = (Item.tick t).late :=
    if_congr (t.loopMissed_iff htracks.configured) rfl rfl
  rw [lateLoops_snoc, ← hloop] at hlate
  have hexpires := htracks.not_expires hpunctual hlate
  have hselected : (classifyHealth t.health).head?.getD "NONE" = t.health.fault.toString := by
    rw [t.health.head?_classifyHealth]
    split_ifs with hnone
    · rw [hnone]
      rfl
    · rfl
  rw [hselected, FlightSoftwareApp.step_primaryInternalFault,
    toString_inj t.health.fault_isNamed (FlightSoftwareApp.primaryFault_isNamed _ _)]
  exact selects_same_iff t htracks.configured hexpires

/-- SET_MODE NOMINAL, then a sensor that is 1500 ms old -/
def sensorTick : Tick where
  health := { sensorAgeMs := 1500 }
  input :=
    { timestampMs := 10499, cpuLoadPercent := .ofNat 20, memoryLoadPercent := .ofNat 35, sensorAgeMs := 1500,
      payloadAgeMs := 20, loopDurationMs := 25 }
  silent := rfl
  cpuLoad := rfl
  memoryLoad := rfl
  sensorAgeMs := rfl
  payloadAgeMs := rfl
  loopDurationMs := rfl

/-- a payload that is 1200 ms old: a fault of the console only -/
def payloadTick : Tick where
  health := { payloadAgeMs := 1200 }
  input :=
    { timestampMs := 10499, cpuLoadPercent := .ofNat 20, memoryLoadPercent := .ofNat 35, sensorAgeMs := 10,
      payloadAgeMs := 1200, loopDurationMs := 25 }
  silent := rfl
  cpuLoad := rfl
  memoryLoad := rfl
  sensorAgeMs := rfl
  payloadAgeMs := rfl
  loopDurationMs := rfl

theorem session_setNominal : Session [.exchange setNominal] where
  punctual := by simp [Punctual]
  late := by decide
  common := by simp

theorem tick_selection_exact_payload :
    (classifyHealth payloadTick.health).head?.getD "NONE" ≠
      ((appAfter {} 256 [.exchange setNominal]).step payloadTick.input).1.primaryInternalFault.toString := by
  refine mt (tick_selection_exact {} 256 [.exchange setNominal] payloadTick session_setNominal ?_ ?_).1 ?_
  · simp only [Punctual, List.cons_append, List.nil_append, List.isChain_cons_cons, List.isChain_singleton, and_true]
    decide
  · decide
  · decide

/-- **The console simulates the flight application over whole sessions of commands and ticks**, in any number and order,
as long as each step comes before the watchdog's timeout, at most two loops were late and every tick has common health:
mode, active fault, highest sequence number and recovery-failure count are the same after every item, and so is the
status of every command. -/
theorem console_session_simulates_app (policy : Policy) (eventLogCapacity : ℕ) (items : List Item)
    (hsession : Session items) :
    let console := (Console.run policy items).state
    let app := appAfter policy eventLogCapacity items
    (console.mode = app.currentMode.toString ∧ console.fault = app.lastFault.toString ∧ app.lastFault.isNamed = true ∧
      console.highestCommandSequence = (if app.groundCommandGuard.sequenceInitialized then
        some app.groundCommandGuard.highestSequence.toNat else none) ∧
      console.recoveryAttempts = app.commandProcessor.recoverySupervisor.failedAttempts.toNat) ∧
    ∀ earlier e, items = earlier ++ [.exchange e] → console.lastStatus =
      ((appAfter policy eventLogCapacity earlier).step e.input).1.commandResult.status.toString := by
  intro console app
  have htracks := hsession.tracks policy eventLogCapacity
  refine ⟨⟨htracks.agrees.mode, htracks.agrees.fault, htracks.agrees.named, htracks.agrees.sequence,
    htracks.agrees.attempts⟩, ?_⟩
  intro earlier e hitems
  subst hitems
  have hearlier := hsession.left.tracks policy eventLogCapacity
  have htime := punctual_next policy eventLogCapacity hsession.punctual
  have hlate := hsession.left.late
  rw [← (hearlier.exchange e htime hlate).1, ← sendCommand_lastStatus]
  exact congrArg (fun c : Console => c.state.lastStatus) (Console.run_snoc policy earlier (.exchange e))

/-- both end in SAFE with SENSOR_TIMEOUT -/
theorem console_session_simulates_app_sensor :
    (Console.run {} [.exchange setNominal, .tick sensorTick]).state.fault =
      (appAfter {} 256 [.exchange setNominal, .tick sensorTick]).lastFault.toString ∧
    (Console.run {} [.exchange setNominal, .tick sensorTick]).state.mode = "SAFE" := by
  have hsession : Session [.exchange setNominal, .tick sensorTick] := by
    refine ⟨?_, by decide, ?_⟩
    · simp only [Punctual, List.isChain_cons_cons, List.isChain_singleton, and_true]
      decide
    · intro t ht
      simp only [List.mem_cons, reduceCtorEq, Item.tick.injEq, List.not_mem_nil, or_false, false_or] at ht
      rw [ht]
      decide
  exact ⟨(console_session_simulates_app {} 256 _ hsession).1.2.1, by decide +kernel⟩

end AstraFsw.Site
