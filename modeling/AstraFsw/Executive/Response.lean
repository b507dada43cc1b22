/-
How fast the executive responds, in ticks.

Only the accepted ticks count: ticks that the scheduler refuses change nothing. The flight phase is below the period in
every valid configuration, so a period of accepted ticks always holds one flight step.

- `critical_reaches_safe`: a condition other than CPU load that lasts for a flight period ends in SAFE;
- `Flown`: what the watchdog knows of the last flight step when no loop is late;
- `watchdog_schedulable`: the watchdog expires exactly when the mission time moves by its timeout or more from one
  flight step to the next, so with a steady clock exactly when the flight period is too long for it.
-/
import AstraFsw.App.Cadence
import AstraFsw.App.Safety
import AstraFsw.Executive.Timing

namespace AstraFsw.FlightSoftwareExecutive

variable {configuration : FlightSoftwareExecutiveConfig} {executive : FlightSoftwareExecutive}
variable {input : FlightSoftwareExecutiveInput}

/-- the flight rate group passes the scheduler's checks -/
theorem flight_checked (hv : (ofConfig configuration).scheduler.valid = true) :
    0 < configuration.flightPeriodTicks.toNat ∧
      configuration.flightPhaseTicks.toNat < configuration.flightPeriodTicks.toNat := by
  have hflight := ((makeSchedulerConfiguration_valid_iff configuration).1 hv).1
  exact ⟨hflight.period, hflight.phase⟩

/-- **The three kinds of steps**, by the number of ticks accepted so far. -/
theorem step_cases (h : Scheduled configuration executive) (input : FlightSoftwareExecutiveInput) :
    ((executive.step input).2 = executive ∧ (executive.step input).1.flightSoftwareRan = false) ∨
    (input.tick.toNat = executive.scheduler.clock ∧
      (executive.step input).2.scheduler.clock = executive.scheduler.clock + 1 ∧
      ((FlightDue configuration input.tick ∧ (executive.step input).1.flightSoftwareRan = true ∧
          (executive.step input).1.flightOutput = (executive.app.step input.flightInput).1 ∧
          (executive.step input).2.app = (executive.app.step input.flightInput).2) ∨
        (¬ FlightDue configuration input.tick ∧ (executive.step input).1.flightSoftwareRan = false ∧
          (executive.step input).2.app = executive.app))) := by
  have hclock : (executive.step input).2.scheduler.clock =
      executive.scheduler.clock + acceptedCount [(executive.step input).1] := step_clock h
  cases hc : executive.scheduler.continuous input.tick with
  | false =>
    rw [step_of_refused h hc]
    exact Or.inl ⟨rfl, rfl⟩
  | true =>
    refine Or.inr ⟨(RateGroupScheduler.continuous_iff _ _).1 hc, ?_, ?_⟩
    · rw [hclock]
      simp [step_of_accepted h hc, acceptedCount]
    · rw [step_of_accepted h hc, ← flightDue_iff]
      cases flightDue configuration input.tick with
      | false => exact Or.inr ⟨by simp, rfl, rfl⟩
      | true => exact Or.inl ⟨rfl, rfl, rfl, rfl⟩

/-! ## Critical conditions -/

/-- a condition that the application answers with SAFE, at its thresholds -/
def Critical (input : FlightSoftwareStepInput) : Prop :=
  250 ≤ input.loopDurationMs ∨ 1000 ≤ input.sensorAgeMs ∨ input.memoryLoadPercent.ge ⟨0x42BE0000⟩ = true

theorem step_of_critical {app : FlightSoftwareApp} {cfg : FlightSoftwareAppConfig}
    (h : FlightSoftwareApp.ConfiguredBy cfg app) {input : FlightSoftwareStepInput} (hcritical : Critical input) :
    (app.step input).2.currentMode = .safe := by
  obtain ⟨fault, hraised, hne⟩ : ∃ fault, app.Raised input fault ∧ fault ≠ .cpuOverload := by
    rcases hcritical with hloop | hsensor | hmemory
    · refine ⟨.watchdogDeadlineMiss, Or.inr ?_, by simp⟩
      rw [FlightSoftwareApp.loopMissed, h.thresholds]
      exact hloop
    · refine ⟨.sensorTimeout, ?_, by simp⟩
      change app.sensorTimedOut input
      rw [FlightSoftwareApp.sensorTimedOut, h.thresholds]
      exact hsensor
    · refine ⟨.memoryOverload, ?_, by simp⟩
      change app.memoryCritical input
      rw [FlightSoftwareApp.memoryCritical, h.thresholds]
      exact hmemory
  have hselected : app.primaryFault input ≠ .none := fun hnone =>
    (app.primaryFault_eq_none input).1 hnone fault hraised
  have hcpu := FlightSoftwareApp.primaryFault_ne_cpuOverload hraised hne
  rw [FlightSoftwareApp.step_currentMode_of_primaryFault hselected, if_neg fun hc => hcpu hc.1]

theorem run_configuredBy (hv : (ofConfig configuration).scheduler.valid = true)
    (inputs : List FlightSoftwareExecutiveInput) :
    FlightSoftwareApp.ConfiguredBy configuration.app (run configuration inputs).app := by
  rw [run_app hv]
  exact FlightSoftwareApp.run_configuredBy _ _

/-- after a flight step inside the window, the mode is SAFE -/
theorem safe_of_due (hv : (ofConfig configuration).scheduler.valid = true)
    (pre window : List FlightSoftwareExecutiveInput) (hcritical : ∀ input ∈ window, Critical input.flightInput)
    {k : ℕ} (hk : (run configuration pre).scheduler.clock ≤ k)
    (hlt : k < (run configuration (pre ++ window)).scheduler.clock)
    (hdue : Periodic.Due configuration.flightPhaseTicks.toNat configuration.flightPeriodTicks.toNat k) :
    (run configuration (pre ++ window)).currentMode = .safe := by
  induction window using List.reverseRecOn with
  | nil =>
    rw [List.append_nil] at hlt
    omega
  | append_singleton window input ih =>
    have hearlier := ih fun i hi => hcritical i (List.mem_append_left _ hi)
    rw [← List.append_assoc, run_snoc] at hlt ⊢
    rcases step_cases (run_scheduled hv (pre ++ window)) input with
      ⟨hsame, -⟩ | ⟨htick, hclock, ⟨-, -, -, happ⟩ | ⟨hnot, -, happ⟩⟩
    · rw [hsame] at hlt ⊢
      exact hearlier hlt
    · rw [currentMode, happ]
      exact step_of_critical (run_configuredBy hv _) (hcritical input (by simp))
    · rw [currentMode, happ]
      refine hearlier ?_
      -- the tick that was just accepted is not the due one
      have hne : k ≠ (run configuration (pre ++ window)).scheduler.clock := by
        intro heq
        rw [← htick] at heq
        rw [heq] at hdue
        exact hnot hdue
      omega

/-- **A lasting critical condition reaches SAFE within one flight period.** For any valid rate groups, from every
reachable state, whatever the ground commands and refused ticks in between: if a late loop, a sensor timeout or a memory
overload is presented at every tick of a window with at least `flight_period_ticks` accepted ones, the window ends in
SAFE. -/
theorem critical_reaches_safe (configuration : FlightSoftwareExecutiveConfig)
    (hv : (ofConfig configuration).scheduler.valid = true) (pre window : List FlightSoftwareExecutiveInput)
    (hcritical : ∀ input ∈ window, Critical input.flightInput)
    (hlong : acceptedCount (outputs configuration pre) + configuration.flightPeriodTicks.toNat ≤
      acceptedCount (outputs configuration (pre ++ window))) :
    (run configuration (pre ++ window)).currentMode = .safe := by
  rw [← clock_eq_acceptedCount hv, ← clock_eq_acceptedCount hv] at hlong
  obtain ⟨k, hk, hlt, hdue⟩ := Periodic.exists_due (flight_checked hv).2 hlong
  exact safe_of_due hv pre window hcritical hk hlt hdue

/-- a flight step at the odd ticks: the sensor timeout wins over the SET_MODE NOMINAL in the same step -/
theorem critical_reaches_safe_odd :
    (run oddTicks [{ tick := 0, flightInput := { sensorAgeMs := 1000 } },
      { tick := 1, flightInput := { sensorAgeMs := 1000, command := some ⟨1, 0, .setMode, 1⟩ } }]).currentMode = .safe :=
  critical_reaches_safe oddTicks (by decide) []
    [{ tick := 0, flightInput := { sensorAgeMs := 1000 } },
      { tick := 1, flightInput := { sensorAgeMs := 1000, command := some ⟨1, 0, .setMode, 1⟩ } }]
    (by
      intro input hinput
      refine Or.inr (Or.inl ?_)
      rcases List.mem_pair.1 hinput with rfl | rfl <;> decide)
    (by decide)

/-! ## The watchdog's timeout -/

/-- the last flight step of a run with short loops, whose flight inputs carry the mission time of their ticks -/
structure Flown (configuration : FlightSoftwareExecutiveConfig) (mission : ℕ → ℕ) (executive : FlightSoftwareExecutive)
    (last : Option UInt64) : Prop where
  scheduled : Scheduled configuration executive
  watched : FlightSoftwareApp.Watched configuration.app executive.app last
  none : last = none → executive.scheduler.clock ≤ configuration.flightPhaseTicks.toNat
  some : ∀ ms ∈ last, ∃ r, Periodic.Due configuration.flightPhaseTicks.toNat configuration.flightPeriodTicks.toNat r ∧
    r < executive.scheduler.clock ∧ executive.scheduler.clock ≤ r + configuration.flightPeriodTicks.toNat ∧
    ms.toNat = mission r

/-- a flight input on time: a short loop, and the mission time of its tick -/
def OnTime (mission : ℕ → ℕ) (input : FlightSoftwareExecutiveInput) : Prop :=
  input.flightInput.loopDurationMs < 250 ∧ input.flightInput.timestampMs.toNat = mission input.tick.toNat

namespace Flown

variable {mission : ℕ → ℕ} {last : Option UInt64}

theorem ofConfig (hv : (ofConfig configuration).scheduler.valid = true) (mission : ℕ → ℕ) :
    Flown configuration mission (ofConfig configuration) Option.none where
  scheduled := scheduled_ofConfig hv
  watched := FlightSoftwareApp.watched_ofConfig _
  none := by
    intro _
    have hclock : (FlightSoftwareExecutive.ofConfig configuration).scheduler.clock = 0 := clock_eq_acceptedCount hv []
    omega
  some := by simp

/-- **One step** keeps the record of the last flight step. -/
theorem step (h : Flown configuration mission executive last) (hontime : OnTime mission input)
    (hperiod : 0 < configuration.flightPeriodTicks.toNat) :
    ∃ last', Flown configuration mission (executive.step input).2 last' := by
  have hscheduled : Scheduled configuration (executive.step input).2 := h.scheduled.step
  rcases step_cases h.scheduled input with ⟨hsame, -⟩ | ⟨htick, hclock, ⟨hdue, -, -, happ⟩ | ⟨hnot, -, happ⟩⟩
  · rw [hsame]
    exact ⟨last, h⟩
  · refine ⟨Option.some input.flightInput.timestampMs, hscheduled, ?_, by simp, ?_⟩
    · rw [happ]
      exact h.watched.step hontime.1
    · intro ms hms
      obtain rfl := Option.some.inj hms
      rw [FlightDue, htick] at hdue
      exact ⟨executive.scheduler.clock, hdue, by omega, by omega, by rw [hontime.2, htick]⟩
  · refine ⟨last, hscheduled, by rw [happ]; exact h.watched, ?_, ?_⟩
    · intro hlast
      have hphase := h.none hlast
      -- the phase itself would be due
      have hne : executive.scheduler.clock ≠ configuration.flightPhaseTicks.toNat := by
        intro heq
        refine hnot ?_
        rw [FlightDue, htick, heq]
        exact Periodic.due_phase _ _
      omega
    · intro ms hms
      obtain ⟨r, hr, hlt, hle, hmission⟩ := h.some ms hms
      have hne : executive.scheduler.clock ≠ r + configuration.flightPeriodTicks.toNat := by
        intro heq
        refine hnot ?_
        rw [FlightDue, htick, heq]
        exact hr.add_period
      exact ⟨r, hr, by omega, by omega, hmission⟩

theorem run (hv : (FlightSoftwareExecutive.ofConfig configuration).scheduler.valid = true) (mission : ℕ → ℕ)
    (inputs : List FlightSoftwareExecutiveInput) (hontime : ∀ input ∈ inputs, OnTime mission input) :
    ∃ last, Flown configuration mission (run configuration inputs) last := by
  induction inputs using List.reverseRecOn with
  | nil => exact ⟨_, ofConfig hv mission⟩
  | append_singleton inputs input ih =>
    obtain ⟨last, hlast⟩ := ih fun i hi => hontime i (List.mem_append_left _ hi)
    rw [run_snoc]
    exact hlast.step (hontime input (by simp)) (flight_checked hv).1

/-- at a flight step the mission time is compared with that of a period before -/
theorem stalled_iff (h : Flown configuration mission executive last) (hontime : OnTime mission input)
    (htick : input.tick.toNat = executive.scheduler.clock) (hdue : FlightDue configuration input.tick) :
    FlightSoftwareApp.Stalled last input.flightInput.timestampMs ↔
      configuration.flightPhaseTicks.toNat < input.tick.toNat ∧
        mission (input.tick.toNat - configuration.flightPeriodTicks.toNat) + 500 ≤ mission input.tick.toNat := by
  cases hlast : last with
  | none =>
    have hphase := h.none hlast
    refine iff_of_false (FlightSoftwareApp.stalled_none _) fun hlate => ?_
    rw [htick] at hlate
    omega
  | some ms =>
    obtain ⟨r, hr, hlt, hle, hmission⟩ := h.some ms hlast
    have heq : input.tick.toNat = r + configuration.flightPeriodTicks.toNat := by
      rw [← htick] at hlt hle
      exact hr.eq_add_period hdue hlt hle
    have hafter : configuration.flightPhaseTicks.toNat < input.tick.toNat := by
      have hphase := hr.1
      omega
    rw [FlightSoftwareApp.stalled_some, hontime.2, hmission, and_iff_right hafter, heq, Nat.add_sub_cancel]

end Flown

/-- **When the watchdog's timeout is met.** For any valid rate groups, in every run whose loops are short and whose flight
inputs carry a mission time that depends on the tick: the watchdog of a flight step reports EXPIRED exactly when a flight
step came before it and the mission time moved by 500 ms or more since the tick one flight period ago. With a clock of
`d` ms for each tick that is from the second flight step on, exactly if `d * flight_period_ticks ≥ 500`. An expired step
ends in SAFE with WATCHDOG_DEADLINE_MISS. -/
theorem watchdog_schedulable (configuration : FlightSoftwareExecutiveConfig)
    (hv : (ofConfig configuration).scheduler.valid = true) (mission : ℕ → ℕ)
    (pre : List FlightSoftwareExecutiveInput) (input : FlightSoftwareExecutiveInput)
    (hontime : ∀ i ∈ pre ++ [input], OnTime mission i)
    (hran : ((run configuration pre).step input).1.flightSoftwareRan = true) :
    let period := configuration.flightPeriodTicks.toNat
    let expired := ((run configuration pre).step input).1.flightOutput.watchdogReport.status = .expired
    let second := configuration.flightPhaseTicks.toNat < input.tick.toNat
    (expired ↔ second ∧ mission (input.tick.toNat - period) + 500 ≤ mission input.tick.toNat) ∧
    (∀ start d, (∀ k, mission k = start + d * k) → (expired ↔ second ∧ 500 ≤ d * period)) ∧
    (expired → (run configuration (pre ++ [input])).currentMode = .safe ∧
      (run configuration (pre ++ [input])).lastFault = .watchdogDeadlineMiss) := by
  intro period expired second
  obtain ⟨last, hflown⟩ := Flown.run hv mission pre fun i hi => hontime i (List.mem_append_left _ hi)
  have hinput := hontime input (by simp)
  rcases step_cases hflown.scheduled input with
    ⟨-, hnot⟩ | ⟨htick, -, ⟨hdue, -, houtput, happ⟩ | ⟨-, hnot, -⟩⟩
  · rw [hnot] at hran
    cases hran
  · have hexpires : expired ↔ FlightSoftwareApp.Stalled last input.flightInput.timestampMs := by
      have hreport := FlightSoftwareApp.watchdogReport_expired_iff (run configuration pre).app input.flightInput
      rw [hflown.watched.watchdogExpires_iff hinput.1] at hreport
      rw [← hreport]
      change ((run configuration pre).step input).1.flightOutput.watchdogReport.status = .expired ↔ _
      rw [houtput]
      rfl
    have hstalled := hexpires.trans (hflown.stalled_iff hinput htick hdue)
    refine ⟨hstalled, ?_, ?_⟩
    · intro start d hclock
      rw [hstalled]
      refine and_congr_right fun hsecond => ?_
      have hle : configuration.flightPhaseTicks.toNat + period ≤ input.tick.toNat := hdue.sub_period hsecond
      obtain ⟨r, hr⟩ := Nat.exists_eq_add_of_le (show period ≤ input.tick.toNat by omega)
      rw [hclock, hclock, hr, Nat.add_sub_cancel_left, Nat.mul_add]
      omega
    · intro hexpired
      have hfault : (run configuration pre).app.primaryFault input.flightInput = .watchdogDeadlineMiss := by
        rw [hflown.watched.primaryFault hinput.1, if_pos (hexpires.1 hexpired)]
      have hselected : (run configuration pre).app.primaryFault input.flightInput ≠ .none := by rw [hfault]; simp
      rw [run_snoc, currentMode, lastFault, happ, FlightSoftwareApp.step_lastFault,
        FlightSoftwareApp.step_currentMode_of_primaryFault hselected, hfault]
      simp
  · rw [hnot] at hran
    cases hran

/-- a flight step every second tick of 250 ms expires at tick 2, with no fault presented at all -/
theorem watchdog_schedulable_slow :
    (run { flightPeriodTicks := 2 } [{ tick := 0 }, { tick := 1, flightInput := { timestampMs := 250 } },
      { tick := 2, flightInput := { timestampMs := 500 } }]).currentMode = .safe := by
  have hspec := watchdog_schedulable { flightPeriodTicks := 2 } (by decide) (fun k => 0 + 250 * k)
    [{ tick := 0 }, { tick := 1, flightInput := { timestampMs := 250 } }]
    { tick := 2, flightInput := { timestampMs := 500 } }
    (by
      intro i hi
      simp only [List.cons_append, List.nil_append, List.mem_cons, List.not_mem_nil, or_false] at hi
      rcases hi with rfl | rfl | rfl <;> exact ⟨by decide, by decide⟩)
    (by decide)
  exact (hspec.2.2 ((hspec.2.1 0 250 fun _ => rfl).2 ⟨by decide, by decide⟩)).1

end AstraFsw.FlightSoftwareExecutive
