/-
The host timing campaign (`fsw/src/timing_campaign.cpp`): its command line and the loop that drives a default executive.

Tick `t` presents the time `t * mission_step_ms` (modulo 2^64), readings that raise no fault, SET_MODE to NOMINAL at tick
0, and a completion two ticks late at every `overload_every`-th tick after the first. The durations that the host clock
measures are an input.

- `parseOptions_range`: the command line gives exactly the option records that pass the final checks;
- `campaignInputs_accepted`, `campaign_app`: every tick is accepted, and one tick is one step of the application;
- `campaign_mode`: NOMINAL without a fault if the mission step is below 500 ms or there is one tick only, SAFE with
  WATCHDOG_DEADLINE_MISS otherwise, also where the presented time wraps around;
- `loop_eq`: the loop never stops early, and counts one missed deadline for each late completion.
-/
import AstraFsw.App.Cadence
import AstraFsw.Executive.Timing

namespace AstraFsw

structure TimingOptions where
  ticks : UInt64 := 100000
  missionStepMs : UInt64 := 10
  overloadEvery : UInt64 := 0
  /-- empty for standard output -/
  outputPath : String := ""
deriving DecidableEq, Repr

/-- the command line asks for the usage, or is refused with a message -/
inductive OptionsExit where
  | help
  | error (message : String)
deriving DecidableEq, Repr

namespace TimingCampaign

open FlightSoftwareExecutive

/-! ## The command line -/

/-- `isspace` in the C locale -/
def isSpace (c : Char) : Bool := c.toNat == 32 || (9 ≤ c.toNat && c.toNat ≤ 13)

/-- `std::stoull(text, &consumed, 10)`: the value and the number of characters it used. A minus sign negates the value
modulo 2^64. -/
def stoull (text : List Char) : Except String (UInt64 × ℕ) :=
  let signed := text.dropWhile isSpace
  let sign := signed.take (if signed.head? = some '-' ∨ signed.head? = some '+' then 1 else 0)
  let digits := (signed.drop sign.length).takeWhile Char.isDigit
  let value := Nat.ofDigitChars 10 digits 0
  if digits = [] ∨ 2 ^ 64 ≤ value then .error "stoull"
  else .ok (if sign = ['-'] then -UInt64.ofNat value else UInt64.ofNat value,
    (text.length - signed.length) + sign.length + digits.length)

def parseU64 (value : String) (optionName : String) : Except OptionsExit UInt64 :=
  let refused (what : String) : OptionsExit := .error (optionName ++ " requires an unsigned integer: " ++ what)
  match stoull value.toList with
  | .error what => .error (refused what)
  | .ok (parsed, consumed) =>
    if consumed ≠ value.toList.length then .error (refused "trailing characters") else .ok parsed

/-- the loop over the arguments -/
def parseArguments (options : TimingOptions) : List String → Except OptionsExit TimingOptions
  | [] => .ok options
  | [argument] =>
    if argument = "--help" then .error .help
    else .error (.error ("unknown or incomplete option: " ++ argument))
  | argument :: value :: rest =>
    if argument = "--ticks" then
      (parseU64 value "--ticks").bind fun ticks => parseArguments { options with ticks := ticks } rest
    else if argument = "--mission-step-ms" then
      (parseU64 value "--mission-step-ms").bind fun step =>
        parseArguments { options with missionStepMs := step } rest
    else if argument = "--overload-every" then
      (parseU64 value "--overload-every").bind fun every =>
        parseArguments { options with overloadEvery := every } rest
    else if argument = "--output" then parseArguments { options with outputPath := value } rest
    else if argument = "--help" then .error .help
    else .error (.error ("unknown or incomplete option: " ++ argument))

def parseOptions (arguments : List String) : Except OptionsExit TimingOptions :=
  (parseArguments {} arguments).bind fun options =>
    if options.ticks = 0 then .error (.error "--ticks must be greater than zero")
    else if options.missionStepMs = 0 then .error (.error "--mission-step-ms must be greater than zero")
    else .ok options

/-- arguments as a program receives them: a NUL would end one -/
def Terminated (arguments : List String) : Prop := ∀ argument ∈ arguments, Char.ofNat 0 ∉ argument.toList

/-- what the final checks ask for, and an output path that can be an argument -/
structure Checked (options : TimingOptions) : Prop where
  ticks : options.ticks ≠ 0
  missionStepMs : options.missionStepMs ≠ 0
  outputPath : Char.ofNat 0 ∉ options.outputPath.toList

theorem bind_eq_ok {ε α β : Type} {x : Except ε α} {next : α → Except ε β} {b : β} :
    x.bind next = .ok b ↔ ∃ a, x = .ok a ∧ next a = .ok b := by
  cases x <;> simp [Except.bind]

/-- the output path is the one of the start or an argument -/
theorem outputPath_of_parseArguments {options parsed : TimingOptions} {arguments : List String}
    (h : parseArguments options arguments = .ok parsed) :
    parsed.outputPath = options.outputPath ∨ parsed.outputPath ∈ arguments := by
  induction options, arguments using parseArguments.induct with
  | case1 options =>
    obtain rfl := Except.ok.inj h
    exact Or.inl rfl
  | case2 options => simp [parseArguments] at h
  | case3 options argument hhelp => simp [parseArguments, hhelp] at h
  | case4 options value rest ih =>
    simp only [parseArguments, if_true, bind_eq_ok] at h
    obtain ⟨ticks, -, hrest⟩ := h
    exact (ih ticks hrest).imp id fun hmem => by simp [hmem]
  | case5 options value rest hticks ih =>
    simp only [parseArguments, hticks, if_true, if_false, bind_eq_ok] at h
    obtain ⟨step, -, hrest⟩ := h
    exact (ih step hrest).imp id fun hmem => by simp [hmem]
  | case6 options value rest hticks hstep ih =>
    simp only [parseArguments, hticks, hstep, if_true, if_false, bind_eq_ok] at h
    obtain ⟨every, -, hrest⟩ := h
    exact (ih every hrest).imp id fun hmem => by simp [hmem]
  | case7 options value rest hticks hstep hevery ih =>
    simp only [parseArguments, hticks, hstep, hevery, if_true, if_false] at h
    rcases ih h with hsame | hmem
    · exact Or.inr (by simp [hsame])
    · exact Or.inr (by simp [hmem])
  | case8 options value rest => simp [parseArguments] at h
  | case9 options argument value rest hticks hstep hevery houtput hhelp =>
    simp [parseArguments, hticks, hstep, hevery, houtput, hhelp] at h

theorem parseOptions_eq_ok {arguments : List String} {options : TimingOptions}
    (h : parseOptions arguments = .ok options) :
    parseArguments {} arguments = .ok options ∧ options.ticks ≠ 0 ∧ options.missionStepMs ≠ 0 := by
  obtain ⟨parsed, hparsed, hchecks⟩ := bind_eq_ok.1 h
  split_ifs at hchecks with hticks hstep
  obtain rfl := Except.ok.inj hchecks
  exact ⟨hparsed, hticks, hstep⟩

theorem checked_of_parseOptions {arguments : List String} {options : TimingOptions} (harguments : Terminated arguments)
    (h : parseOptions arguments = .ok options) : Checked options := by
  obtain ⟨hparsed, hticks, hstep⟩ := parseOptions_eq_ok h
  refine ⟨hticks, hstep, ?_⟩
  rcases outputPath_of_parseArguments hparsed with hdefault | hgiven
  · rw [hdefault]
    decide
  · exact harguments _ hgiven

/-- a command line that gives all options -/
def renderOptions (options : TimingOptions) : List String :=
  ["--ticks", options.ticks.toNat.repr, "--mission-step-ms", options.missionStepMs.toNat.repr,
    "--overload-every", options.overloadEvery.toNat.repr, "--output", options.outputPath]

theorem parseU64_repr (n : UInt64) (optionName : String) : parseU64 n.toNat.repr optionName = .ok n := by
  have hdigit : ∀ c ∈ Nat.toDigits 10 n.toNat, c.isDigit = true := fun c hc =>
    Nat.isDigit_of_mem_toDigits (by decide) (by decide) hc
  have hstoull : stoull (Nat.toDigits 10 n.toNat) = .ok (n, (Nat.toDigits 10 n.toNat).length) := by
    have hvalue : Nat.ofDigitChars 10 (Nat.toDigits 10 n.toNat) 0 = n.toNat := Nat.ofDigitChars_ten_toDigits
    have hne : Nat.toDigits 10 n.toNat ≠ [] := Nat.toDigits_ne_nil
    generalize Nat.toDigits 10 n.toNat = digits at *
    cases digits with
    | nil => exact absurd rfl hne
    | cons c rest =>
      -- a digit is neither a blank nor a sign
      have hc := hdigit c List.mem_cons_self
      have hrange : 48 ≤ c.toNat ∧ c.toNat ≤ 57 := by
        simpa [Char.isDigit, UInt32.le_iff_toNat_le] using hc
      have hblank : isSpace c = false := by simp [isSpace]; omega
      have hminus : c ≠ '-' := by rintro rfl; simp at hrange
      have hplus : c ≠ '+' := by rintro rfl; simp at hrange
      have hall : (c :: rest).takeWhile Char.isDigit = c :: rest := List.takeWhile_eq_self_iff.2 hdigit
      have hlt := n.toNat_lt
      simp [stoull, hblank, hminus, hplus, hall, hvalue, hlt]
  unfold parseU64
  simp only [Nat.toList_repr, hstoull, ne_eq, not_true_eq_false, if_false]

theorem parseOptions_renderOptions {options : TimingOptions} (hticks : options.ticks ≠ 0)
    (hstep : options.missionStepMs ≠ 0) : parseOptions (renderOptions options) = .ok options := by
  simp [parseOptions, renderOptions, parseArguments, parseU64_repr, Except.bind, hticks, hstep]

/-- the decimal digits of a number are no NUL -/
theorem nul_notMem_repr (n : ℕ) : Char.ofNat 0 ∉ n.repr.toList := by
  intro hmem
  rw [Nat.toList_repr] at hmem
  have hdigit := Nat.isDigit_of_mem_toDigits (by decide) (by decide) hmem
  exact absurd hdigit (by decide)

theorem terminated_renderOptions {options : TimingOptions} :
    Terminated (renderOptions options) ↔ Char.ofNat 0 ∉ options.outputPath.toList := by
  have hnames : ∀ name ∈ ["--ticks", "--mission-step-ms", "--overload-every", "--output"],
      Char.ofNat 0 ∉ name.toList := by decide
  simp only [List.forall_mem_cons, List.not_mem_nil, false_imp_iff, implies_true, and_true] at hnames
  simp only [Terminated, renderOptions, List.forall_mem_cons, nul_notMem_repr, hnames, List.not_mem_nil, false_imp_iff,
    implies_true, not_false_eq_true, and_true, true_and]

/-- **What the command line can give**: exactly the option records that pass the final checks and have an output path
without a NUL, each by the command line that spells it out in decimal. -/
theorem parseOptions_range (options : TimingOptions) :
    ((∃ arguments, Terminated arguments ∧ parseOptions arguments = .ok options) ↔ Checked options) ∧
      (Terminated (renderOptions options) ∧ parseOptions (renderOptions options) = .ok options ↔ Checked options) := by
  have hrendered : Checked options →
      Terminated (renderOptions options) ∧ parseOptions (renderOptions options) = .ok options := fun h =>
    ⟨terminated_renderOptions.2 h.outputPath, parseOptions_renderOptions h.ticks h.missionStepMs⟩
  refine ⟨⟨?_, ?_⟩, ?_, hrendered⟩
  · intro h
    obtain ⟨arguments, harguments, hparsed⟩ := h
    exact checked_of_parseOptions harguments hparsed
  · intro h
    exact ⟨renderOptions options, hrendered h⟩
  · intro h
    obtain ⟨harguments, hparsed⟩ := h
    exact checked_of_parseOptions harguments hparsed

-- a minus sign is accepted, and wraps
example : parseU64 " -5" "--ticks" = .ok 18446744073709551611 := by decide +kernel

/-! ## The loop -/

/-- the input of one tick: CPU 25 %, memory 30 %, a loop of 1 ms -/
def tickInput (options : TimingOptions) (tick : UInt64) : FlightSoftwareExecutiveInput where
  tick := tick
  flightInput :=
    { command := if tick = 0 then some ⟨1, 0, .setMode, Mode.nominal.toRaw.toUInt32⟩ else none
      timestampMs := tick * options.missionStepMs
      cpuLoadPercent := ⟨0x41C80000⟩
      memoryLoadPercent := ⟨0x41F00000⟩
      heartbeatCount := tick.toUInt32
      loopDurationMs := 1 }
  simulatedFlightCompletionDelayTicks :=
    if options.overloadEvery > 0 ∧ tick > 0 ∧ tick % options.overloadEvery = 0 then 2 else 0

structure CampaignState where
  executive : FlightSoftwareExecutive := .ofConfig {}
  /-- the durations of the steps so far, in nanoseconds -/
  samples : List UInt64 := []
  deadlineMisses : UInt64 := 0
deriving DecidableEq, Repr

/-- a tick that the scheduler does not answer with OK ends the program -/
structure SchedulerFailure where
  tick : UInt64
  status : SchedulerStatus
deriving DecidableEq, Repr

/-- one pass of the loop; `stepNs` is the duration that the host measures at each tick -/
def step (options : TimingOptions) (stepNs : UInt64 → UInt64) (state : CampaignState) (tick : UInt64) :
    Except SchedulerFailure CampaignState :=
  let result := state.executive.step (tickInput options tick)
  if result.1.schedulerStatus ≠ .ok then .error ⟨tick, result.1.schedulerStatus⟩
  else .ok
    { executive := result.2
      samples := state.samples ++ [stepNs tick]
      deadlineMisses :=
        match result.1.schedulerStatistics with
        | [] => state.deadlineMisses
        | flight :: _ => flight.deadlineMissCount }

/-- the first `count` passes -/
def loop (options : TimingOptions) (stepNs : UInt64 → UInt64) (count : ℕ) : Except SchedulerFailure CampaignState :=
  ((List.range count).map UInt64.ofNat).foldlM (step options stepNs) {}

/-! ## The executive inside -/

section Loop

variable {options : TimingOptions} {stepNs : UInt64 → UInt64} {count : ℕ}

/-- the executive inputs of the first `count` ticks -/
def campaignInputs (options : TimingOptions) (count : ℕ) : List FlightSoftwareExecutiveInput :=
  (List.range count).map fun tick => tickInput options (UInt64.ofNat tick)

theorem campaignInputs_succ (options : TimingOptions) (count : ℕ) :
    campaignInputs options (count + 1) = campaignInputs options count ++ [tickInput options (UInt64.ofNat count)] := by
  simp [campaignInputs, List.range_succ]

theorem default_valid : (ofConfig {}).scheduler.valid = true := by decide

/-- the flight task is due at every tick -/
theorem flightDue_default (tick : UInt64) : flightDue {} tick = true := by
  rw [flightDue_iff]
  exact ⟨Nat.zero_le _, Nat.mod_one _⟩

/-- **Every tick is accepted**: the clock of the scheduler is the number of passes. -/
theorem campaignInputs_clock (options : TimingOptions) (hcount : count ≤ 2 ^ 64) :
    (run {} (campaignInputs options count)).scheduler.clock = count := by
  induction count with
  | zero => exact clock_eq_acceptedCount default_valid []
  | succ count ih =>
    have hclock := ih (by omega)
    have hscheduled := run_scheduled default_valid (campaignInputs options count)
    have hok : ((run {} (campaignInputs options count)).step
        (tickInput options (UInt64.ofNat count))).1.schedulerStatus = .ok := by
      have hlt : count < 2 ^ 64 := by omega
      rw [status_ok_iff hscheduled, hclock]
      exact UInt64.toNat_ofNat_of_lt' hlt
    rw [campaignInputs_succ, run_snoc, step_clock hscheduled, hclock]
    simp [acceptedCount, hok]

theorem continuous_campaign (options : TimingOptions) (hcount : count < 2 ^ 64) :
    (run {} (campaignInputs options count)).scheduler.continuous (UInt64.ofNat count) = true := by
  rw [RateGroupScheduler.continuous_iff, campaignInputs_clock options hcount.le]
  exact UInt64.toNat_ofNat_of_lt' hcount

/-- one tick is one step of the application -/
theorem campaign_app (options : TimingOptions) (hcount : count < 2 ^ 64) :
    (run {} (campaignInputs options (count + 1))).app =
      ((run {} (campaignInputs options count)).app.step (tickInput options (UInt64.ofNat count)).flightInput).2 := by
  have hcontinuous : (run {} (campaignInputs options count)).scheduler.continuous
      (tickInput options (UInt64.ofNat count)).tick = true := continuous_campaign options hcount
  rw [campaignInputs_succ, run_snoc, step_of_accepted (run_scheduled default_valid _) hcontinuous]
  exact if_pos (flightDue_default _)

/-! ## The application inside -/

/-- the time presented at a tick -/
def tickMs (options : TimingOptions) (tick : ℕ) : UInt64 := UInt64.ofNat tick * options.missionStepMs

theorem tickMs_succ (options : TimingOptions) (tick : ℕ) :
    tickMs options (tick + 1) = tickMs options tick + options.missionStepMs := by
  rw [tickMs, tickMs, UInt64.ofNat_add]
  change (UInt64.ofNat tick + 1) * options.missionStepMs = _
  rw [UInt64.add_mul, UInt64.one_mul]

/-- the presented time stalls only over a long mission step; a wrap of the time hides the gap -/
theorem le_of_stalled (options : TimingOptions) (tick : ℕ)
    (h : FlightSoftwareApp.Stalled (some (tickMs options tick)) (tickMs options (tick + 1))) :
    500 ≤ options.missionStepMs := by
  rw [FlightSoftwareApp.stalled_some, tickMs_succ, UInt64.toNat_add] at h
  have hmod := Nat.mod_le ((tickMs options tick).toNat + options.missionStepMs.toNat) (2 ^ 64)
  rw [UInt64.le_iff_toNat_le]
  change 500 ≤ options.missionStepMs.toNat
  omega

theorem stalled_first (options : TimingOptions) :
    FlightSoftwareApp.Stalled (some (tickMs options 0)) (tickMs options 1) ↔ 500 ≤ options.missionStepMs := by
  have hzero : tickMs options 0 = 0 := UInt64.zero_mul
  have hone : tickMs options 1 = options.missionStepMs := UInt64.one_mul _
  rw [FlightSoftwareApp.stalled_some, hzero, hone, UInt64.le_iff_toNat_le]
  change 0 + 500 ≤ _ ↔ 500 ≤ _
  rw [Nat.zero_add]

/-- mode and active fault after a number of ticks -/
def campaignOutcome (options : TimingOptions) (count : ℕ) : Mode × FaultCode :=
  if options.missionStepMs < 500 ∨ count ≤ 1 then (.nominal, .none) else (.safe, .watchdogDeadlineMiss)

/-- the application after `count + 1` ticks -/
structure Steady (options : TimingOptions) (count : ℕ) (app : FlightSoftwareApp) : Prop where
  watched : FlightSoftwareApp.Watched {} app (some (tickMs options count))
  outcome : (app.currentMode, app.lastFault) = campaignOutcome options (count + 1)

/-- the first tick is the same for all options: time 0, and the one command -/
theorem tickInput_zero (options : TimingOptions) :
    (tickInput options 0).flightInput =
      { command := some ⟨1, 0, .setMode, 1⟩, cpuLoadPercent := ⟨0x41C80000⟩, memoryLoadPercent := ⟨0x41F00000⟩
        loopDurationMs := 1 } := by
  have htime : 0 * options.missionStepMs = 0 := UInt64.zero_mul
  simp only [tickInput, htime]
  rfl

theorem steady_first (options : TimingOptions) : Steady options 0 (run {} (campaignInputs options 1)).app := by
  have hfirst : (run {} (campaignInputs options 1)).app =
      ((FlightSoftwareApp.ofConfig {}).step (tickInput options 0).flightInput).2 := campaign_app options (by decide)
  have htime : (tickInput options 0).flightInput.timestampMs = tickMs options 0 := rfl
  rw [hfirst]
  refine ⟨?_, ?_⟩
  · rw [← htime]
    exact (FlightSoftwareApp.watched_ofConfig {}).step (show (1 : UInt32) < 250 by decide)
  · have houtcome : campaignOutcome options (0 + 1) = (.nominal, .none) := if_pos (Or.inr le_rfl)
    rw [houtcome, tickInput_zero]
    decide

/-- **One more tick.** -/
theorem Steady.step {app : FlightSoftwareApp} (h : Steady options count app) (hcount : count + 1 < 2 ^ 64) :
    Steady options (count + 1) (app.step (tickInput options (UInt64.ofNat (count + 1))).flightInput).2 := by
  have hlater : UInt64.ofNat (count + 1) ≠ 0 := by
    intro hzero
    have hnat := congrArg UInt64.toNat hzero
    rw [UInt64.toNat_ofNat_of_lt' hcount, UInt64.toNat_zero] at hnat
    omega
  have hsilent : (tickInput options (UInt64.ofNat (count + 1))).flightInput.command = none := if_neg hlater
  have hshort : (tickInput options (UInt64.ofNat (count + 1))).flightInput.loopDurationMs < 250 :=
    show (1 : UInt32) < 250 by decide
  have hfault : app.primaryFault (tickInput options (UInt64.ofNat (count + 1))).flightInput =
      if FlightSoftwareApp.Stalled (some (tickMs options count)) (tickMs options (count + 1)) then
        .watchdogDeadlineMiss else .none := by
    have hsensor : ¬ (tickInput options (UInt64.ofNat (count + 1))).flightInput.sensorAgeMs ≥ 1000 :=
      show ¬ (0 : UInt32) ≥ 1000 by decide
    have hmemory :
        ¬ (tickInput options (UInt64.ofNat (count + 1))).flightInput.memoryLoadPercent.ge ⟨0x42BE0000⟩ = true :=
      show ¬ Binary32.ge ⟨0x41F00000⟩ ⟨0x42BE0000⟩ = true by decide
    have hcpu : ¬ (tickInput options (UInt64.ofNat (count + 1))).flightInput.cpuLoadPercent.ge ⟨0x42BE0000⟩ = true :=
      show ¬ Binary32.ge ⟨0x41C80000⟩ ⟨0x42BE0000⟩ = true by decide
    rw [h.watched.primaryFault hshort, if_neg hsensor, if_neg hmemory, if_neg hcpu]
    rfl
  obtain ⟨hmode, hactive⟩ := FlightSoftwareApp.step_of_silent app hsilent
  refine ⟨h.watched.step hshort, ?_⟩
  rw [hmode, hactive, hfault]
  by_cases hstalled : FlightSoftwareApp.Stalled (some (tickMs options count)) (tickMs options (count + 1))
  · have hlong := UInt64.not_lt.2 (le_of_stalled options count hstalled)
    have hover : campaignOutcome options (count + 1 + 1) = (.safe, .watchdogDeadlineMiss) := if_neg (by simp [hlong])
    rw [if_pos hstalled, hover]
    exact Prod.ext (FdirManager.faultMode_enterSafe _) rfl
  · rw [if_neg hstalled, if_pos rfl]
    change (FdirManager.faultMode .none app.currentMode, app.lastFault) = _
    rw [FdirManager.faultMode_none, h.outcome]
    -- a long mission step stalls the second tick already
    have hkept : options.missionStepMs < 500 ∨ count ≠ 0 := by
      by_cases hzero : count = 0
      · subst hzero
        exact Or.inl (UInt64.not_le.1 (mt (stalled_first options).2 hstalled))
      · exact Or.inr hzero
    unfold campaignOutcome
    rcases hkept with hshortStep | hlate
    · simp [hshortStep]
    · simp [hlate]

/-- **Every tick of the campaign.** -/
theorem steady_run (options : TimingOptions) (hcount : count < 2 ^ 64) :
    Steady options count (run {} (campaignInputs options (count + 1))).app := by
  induction count with
  | zero => exact steady_first options
  | succ count ih =>
    rw [campaign_app options hcount]
    exact (ih (by omega)).step hcount

/-! ## Missed deadlines -/

/-- the flight job of a tick is late exactly at the multiples of `overload_every` after the first tick -/
theorem releasedLate_campaign (options : TimingOptions) (hcount : count < 2 ^ 64) :
    releasedLate {} ((run {} (campaignInputs options count)).step (tickInput options (UInt64.ofNat count))).1
        (tickInput options (UInt64.ofNat count)) =
      decide (0 < count ∧ options.overloadEvery.toNat ∣ count) := by
  have htick : (UInt64.ofNat count).toNat = count := UInt64.toNat_ofNat_of_lt' hcount
  have hzero : (UInt64.ofNat count) > 0 ↔ 0 < count := by rw [gt_iff_lt, UInt64.lt_iff_toNat_lt, htick]; rfl
  have hevery : options.overloadEvery > 0 ↔ 0 < options.overloadEvery.toNat := UInt64.lt_iff_toNat_lt
  have hmultiple : UInt64.ofNat count % options.overloadEvery = 0 ↔ options.overloadEvery.toNat ∣ count := by
    rw [← UInt64.toNat_inj, UInt64.toNat_mod, htick, UInt64.toNat_zero, Nat.dvd_iff_mod_eq_zero]
  have hdelayed : ({} : FlightSoftwareExecutiveConfig).flightDeadlineTicks <
      (tickInput options (UInt64.ofNat count)).simulatedFlightCompletionDelayTicks ↔
      0 < count ∧ options.overloadEvery.toNat ∣ count := by
    unfold tickInput
    simp only [hzero, hevery, hmultiple]
    split_ifs with hlate
    · exact iff_of_true (by decide) ⟨hlate.2.1, hlate.2.2⟩
    · refine iff_of_false (by decide) ?_
      intro h
      -- 0 divides no later tick
      have hpos : 0 < options.overloadEvery.toNat := Nat.pos_of_dvd_of_pos h.2 h.1
      exact hlate ⟨hpos, h⟩
  rw [releasedLate_of_accepted (run_scheduled default_valid _) (continuous_campaign options hcount)]
  simp [flightDue_default, hdelayed]

/-- **The late completions so far**: one for each positive multiple of `overload_every`. -/
theorem lateReleases_campaign (options : TimingOptions) (hcount : count < 2 ^ 64) :
    lateReleases {} (campaignInputs options (count + 1)) = count / options.overloadEvery.toNat := by
  induction count with
  | zero =>
    rw [campaignInputs_succ, lateReleases_snoc, releasedLate_campaign options hcount]
    simp [campaignInputs, lateReleases]
  | succ count ih =>
    rw [campaignInputs_succ, lateReleases_snoc, ih (by omega), releasedLate_campaign options hcount, Nat.succ_div]
    simp

/-- `max_size()` of the sample vector: half the address space in elements of eight bytes; beyond it `reserve` throws -/
def maxSamples : ℕ := 2 ^ 60 - 1

theorem ticksBounded_campaign (options : TimingOptions) (hcount : count ≤ maxSamples) :
    TicksBounded {} (campaignInputs options count) := by
  refine TicksBounded.of_forall ?_
  intro input hinput
  obtain ⟨tick, htick, rfl⟩ := List.mem_map.1 hinput
  have hlt := List.mem_range.1 htick
  have hnat : (UInt64.ofNat tick).toNat ≤ tick := by rw [UInt64.toNat_ofNat']; exact Nat.mod_le _ _
  unfold maxSamples at hcount
  change (UInt64.ofNat tick).toNat ≤ _
  omega

/-- the statistics after a pass start with those of the flight task -/
theorem statistics_campaign (options : TimingOptions) (hcount : count < maxSamples) :
    ∃ flight housekeeping,
      ((run {} (campaignInputs options count)).step (tickInput options (UInt64.ofNat count))).1.schedulerStatistics =
        [flight, housekeeping] ∧
      flight.deadlineMissCount.toNat = count / options.overloadEvery.toNat := by
  have hlt : count < 2 ^ 64 := by unfold maxSamples at hcount; omega
  obtain ⟨flight, housekeeping, htasks, hflight, -⟩ :=
    run_accounted default_valid (campaignInputs options (count + 1)) (ticksBounded_campaign options hcount)
  rw [lateReleases_campaign options hlt] at hflight
  rw [campaignInputs_succ, run_snoc] at htasks
  rw [step_statistics, RateGroupScheduler.statistics, htasks]
  exact ⟨_, _, rfl, hflight.missed⟩

/-- the state after a number of passes -/
def campaignState (options : TimingOptions) (stepNs : UInt64 → UInt64) (count : ℕ) : CampaignState where
  executive := run {} (campaignInputs options count)
  samples := (List.range count).map fun tick => stepNs (UInt64.ofNat tick)
  deadlineMisses := UInt64.ofNat ((count - 1) / options.overloadEvery.toNat)

theorem step_campaignState (options : TimingOptions) (stepNs : UInt64 → UInt64) (hcount : count < maxSamples) :
    step options stepNs (campaignState options stepNs count) (UInt64.ofNat count) =
      .ok (campaignState options stepNs (count + 1)) := by
  have hlt : count < 2 ^ 64 := by unfold maxSamples at hcount; omega
  have hok : ((run {} (campaignInputs options count)).step (tickInput options (UInt64.ofNat count))).1.schedulerStatus =
      .ok := by
    rw [step_of_accepted (run_scheduled default_valid _) (continuous_campaign options hlt)]
  obtain ⟨flight, housekeeping, hstatistics, hmissed⟩ := statistics_campaign options hcount
  have hmisses : flight.deadlineMissCount = UInt64.ofNat (count / options.overloadEvery.toNat) := by
    rw [← hmissed, UInt64.ofNat_toNat]
  unfold step campaignState
  simp only [hok, hstatistics, hmisses, ne_eq, not_true_eq_false, if_false, campaignInputs_succ, run_snoc,
    List.range_succ, List.map_append, List.map_cons, List.map_nil, Nat.add_sub_cancel]

/-- **The loop never stops early.** -/
theorem loop_eq (options : TimingOptions) (stepNs : UInt64 → UInt64) (hcount : count ≤ maxSamples) :
    loop options stepNs count = .ok (campaignState options stepNs count) := by
  induction count with
  | zero =>
    have hnone : (0 - 1) / options.overloadEvery.toNat = 0 := Nat.zero_div _
    rw [campaignState, hnone]
    rfl
  | succ count ih =>
    have hbefore : loop options stepNs count = .ok (campaignState options stepNs count) := ih (by omega)
    unfold loop at hbefore ⊢
    rw [List.range_succ, List.map_append, List.foldlM_append, hbefore]
    simp only [bind, Except.bind, pure, Except.pure, List.map_cons, List.map_nil, List.foldlM_cons, List.foldlM_nil,
      step_campaignState options stepNs (show count < maxSamples by omega)]

end Loop

end TimingCampaign

end AstraFsw
