/-
The evidence of a timing campaign and its validator: `percentile_ns`, `build_json` and `main` of
`fsw/src/timing_campaign.cpp`, and `validate` of `tools/validate_timing_evidence.py`.

The JSON text between the two is taken as the dictionary it stands for; a key that is absent reads as `null`, as
`payload.get` has it. The durations and the printed average come from the host.

- `percentileIndex_le`, `percentileNs_spec`: the index computed in 64-bit floats stays inside the sample vector, and the
  reported percentiles are samples in order;
- `campaign_evidence`: for every accepted command line the campaign ends with evidence if its output can be opened, and
  the validator accepts it under an expectation exactly under a condition on the options.
-/
import AstraFsw.Core.Rounding
import AstraFsw.Executive.TimingCampaign
import Mathlib.Data.List.Sort
import Mathlib.Data.NNRat.Defs

namespace AstraFsw

/-! ## JSON values -/

/-- a value as `json.loads` gives it; floats are finite -/
inductive JsonValue where
  | null
  | bool (b : Bool)
  | int (n : ℤ)
  | float (q : ℚ)
  | string (s : String)
  /-- a list or a dictionary -/
  | compound
deriving DecidableEq

namespace JsonValue

/-- `isinstance(value, int)`, true of the booleans too -/
def int? : JsonValue → Option ℤ
  | bool b => some (if b then 1 else 0)
  | int n => some n
  | _ => none

/-- `isinstance(value, (int, float))` -/
def number? : JsonValue → Option ℚ
  | bool b => some (if b then 1 else 0)
  | int n => some n
  | float q => some q
  | _ => none

end JsonValue

abbrev Payload := String → JsonValue

/-- the dictionary with these entries -/
def Payload.ofEntries (entries : List (String × JsonValue)) : Payload := fun key => (entries.lookup key).getD .null

theorem Payload.ofEntries_cons (key : String) (value : JsonValue) (entries : List (String × JsonValue)) (k : String) :
    ofEntries ((key, value) :: entries) k = if k = key then value else ofEntries entries k := by
  unfold ofEntries
  by_cases h : k = key
  · simp [h]
  · have hne : (k == key) = false := beq_false_of_ne h
    simp [List.lookup_cons, hne, h]

namespace TimingCampaign

open Rounding FlightSoftwareExecutive

/-! ## Percentiles -/

/-- the literals 0.50, 0.95 and 0.99 in units of 2^-53 -/
def p50 : ℕ := 4503599627370496
def p95 : ℕ := 8556839292003942
def p99 : ℕ := 8917127262193582

/-- the index that `percentile_ns` reads, in a vector that is not empty; the sum is in units of 2^-53 -/
def percentileIndex (percentile size : ℕ) : ℕ :=
  let scaled := roundTo 53 (percentile * roundTo 53 (size - 1))
  roundTo 53 (scaled + 2 ^ 52) / 2 ^ 53

/-- `percentile_ns`; `none` where `at` throws -/
def percentileNs (sortedSamples : List UInt64) (percentile : ℕ) : Option UInt64 :=
  if sortedSamples = [] then some 0 else sortedSamples[percentileIndex percentile sortedSamples.length]?

theorem percentileIndex_mono {p q : ℕ} (h : p ≤ q) (size : ℕ) : percentileIndex p size ≤ percentileIndex q size := by
  have hscaled := roundTo_mono (p := 53) (by decide) (Nat.mul_le_mul_right (roundTo 53 (size - 1)) h)
  exact Nat.div_le_div_right (roundTo_mono (by decide) (Nat.add_le_add_right hscaled _))

/-- **The index stays inside.** Below 2^52 samples the steps are exact enough; above, the percentile leaves more room
than the roundings can take. -/
theorem percentileIndex_le {p size : ℕ} (hp : p ≤ p99) (hpos : 0 < size) (hsize : size ≤ maxSamples) :
    percentileIndex p size < size := by
  have hmono : percentileIndex p size ≤ percentileIndex p99 size := percentileIndex_mono hp size
  refine lt_of_le_of_lt hmono ?_
  unfold percentileIndex
  dsimp only
  obtain ⟨last, rfl⟩ : ∃ last, size = last + 1 := ⟨size - 1, by omega⟩
  rw [Nat.add_sub_cancel, Nat.div_lt_iff_lt_mul (by positivity)]
  by_cases hsmall : last < 2 ^ 52
  · have hexact : roundTo 53 last = last := roundTo_of_lt (by decide) (by omega)
    have hscaled : roundTo 53 (p99 * last) ≤ last * 2 ^ 53 :=
      roundTo_le_of_bits (by decide) (by omega) (by unfold p99; omega)
    have hsum : roundTo 53 (roundTo 53 (p99 * last) + 2 ^ 52) ≤ (2 * last + 1) * 2 ^ 52 :=
      roundTo_le_of_bits (by decide) (by omega) (by omega)
    rw [hexact]
    omega
  · have hlast := roundTo_le_add (p := 53) (by decide) last
    generalize roundTo 53 last = r at *
    have hscaled := roundTo_le_add (p := 53) (by decide) (p99 * r)
    generalize roundTo 53 (p99 * r) = scaled at *
    have hsum := roundTo_le_add (p := 53) (by decide) (scaled + 2 ^ 52)
    generalize roundTo 53 (scaled + 2 ^ 52) = sum at *
    unfold maxSamples at hsize
    unfold p99 at hscaled
    omega

/-- a vector in order, read at two indices -/
theorem getElem?_le_of_sorted {sorted : List UInt64} (hsorted : sorted.Pairwise (· ≤ ·)) {i j : ℕ} (hij : i ≤ j)
    (hj : j < sorted.length) : ∃ a b, sorted[i]? = some a ∧ sorted[j]? = some b ∧ a ≤ b := by
  refine ⟨_, _, List.getElem?_eq_getElem (lt_of_le_of_lt hij hj), List.getElem?_eq_getElem hj, ?_⟩
  rcases Nat.lt_or_eq_of_le hij with hlt | rfl
  · exact List.pairwise_iff_getElem.1 hsorted i j _ _ hlt
  · exact UInt64.le_refl _

/-- **The percentiles of a sorted vector are samples in order.** -/
theorem percentileNs_spec {sorted : List UInt64} (hsorted : sorted.Pairwise (· ≤ ·)) (hne : sorted ≠ [])
    (hsize : sorted.length ≤ maxSamples) :
    ∃ minimum median high higher maximum, sorted.head? = some minimum ∧ percentileNs sorted p50 = some median ∧
      percentileNs sorted p95 = some high ∧ percentileNs sorted p99 = some higher ∧
      sorted.getLast? = some maximum ∧ minimum ≤ median ∧ median ≤ high ∧ high ≤ higher ∧ higher ≤ maximum := by
  have hpos : 0 < sorted.length := List.length_pos_iff.2 hne
  have hread : ∀ p, percentileNs sorted p = sorted[percentileIndex p sorted.length]? := fun p => if_neg hne
  have h99 : percentileIndex p99 sorted.length < sorted.length := percentileIndex_le le_rfl hpos hsize
  have h95 : percentileIndex p95 sorted.length ≤ percentileIndex p99 sorted.length :=
    percentileIndex_mono (by decide) _
  have h50 : percentileIndex p50 sorted.length ≤ percentileIndex p95 sorted.length :=
    percentileIndex_mono (by decide) _
  obtain ⟨minimum, median, hminimum, hmedian, hle₁⟩ :=
    getElem?_le_of_sorted hsorted (Nat.zero_le _) (h50.trans_lt (h95.trans_lt h99))
  obtain ⟨median', high, hmedian', hhigh, hle₂⟩ := getElem?_le_of_sorted hsorted h50 (h95.trans_lt h99)
  obtain ⟨high', higher, hhigh', hhigher, hle₃⟩ := getElem?_le_of_sorted hsorted h95 h99
  obtain ⟨higher', maximum, hhigher', hmaximum, hle₄⟩ :=
    getElem?_le_of_sorted hsorted (Nat.le_sub_one_of_lt h99) (Nat.sub_one_lt (Nat.ne_of_gt hpos))
  -- each index was read twice
  obtain rfl := Option.some.inj (hmedian.symm.trans hmedian')
  obtain rfl := Option.some.inj (hhigh.symm.trans hhigh')
  obtain rfl := Option.some.inj (hhigher.symm.trans hhigher')
  refine ⟨minimum, median, high, higher, maximum, ?_, ?_, ?_, ?_, ?_, hle₁, hle₂, hle₃, hle₄⟩
  · rw [List.head?_eq_getElem?, hminimum]
  · rw [hread, hmedian]
  · rw [hread, hhigh]
  · rw [hread, hhigher]
  · rw [List.getLast?_eq_getElem?, hmaximum]

/-! ## The evidence -/

/-- what is measured or averaged outside the model: the duration of each step, of the whole campaign, and the average
step, as printed; and the paths that can be opened for writing -/
structure Host where
  stepNs : UInt64 → UInt64
  totalElapsedNs : UInt64
  meanStepNs : List UInt64 → ℚ≥0
  opens : String → Bool

/-- the reported smallest, percentile and largest durations -/
structure Spread where
  minimum : UInt64
  median : UInt64
  high : UInt64
  higher : UInt64
  maximum : UInt64
deriving DecidableEq, Repr

/-- the spread of the samples; `none` where reading them throws -/
def spreadOf (samples : List UInt64) : Option Spread :=
  let sortedSamples := samples.insertionSort (· ≤ ·)
  sortedSamples.head?.bind fun minimum =>
  (percentileNs sortedSamples p50).bind fun median =>
  (percentileNs sortedSamples p95).bind fun high =>
  (percentileNs sortedSamples p99).bind fun higher =>
  sortedSamples.getLast?.map fun maximum => ⟨minimum, median, high, higher, maximum⟩

/-- the evidence with a given spread -/
def evidence (options : TimingOptions) (spread : Spread) (meanStepNs : ℚ≥0)
    (totalElapsedNs schedulerDeadlineMisses : UInt64) (finalMode : Mode) (finalFault : FaultCode) : Payload :=
  .ofEntries
    [("schema", .string "astra-os.host-timing.v1"),
      ("claim_boundary", .string
        "Host faster-than-real-time execution evidence only; not a real-time, HIL, or flight qualification claim."),
      ("ticks", .int options.ticks.toNat),
      ("mission_step_ms", .int options.missionStepMs.toNat),
      ("overload_every", .int options.overloadEvery.toNat),
      ("total_elapsed_ns", .int totalElapsedNs.toNat),
      ("mean_step_ns", .float meanStepNs),
      ("min_step_ns", .int spread.minimum.toNat),
      ("p50_step_ns", .int spread.median.toNat),
      ("p95_step_ns", .int spread.high.toNat),
      ("p99_step_ns", .int spread.higher.toNat),
      ("max_step_ns", .int spread.maximum.toNat),
      ("scheduler_deadline_misses", .int schedulerDeadlineMisses.toNat),
      ("final_mode", .string finalMode.toString),
      ("final_fault", .string finalFault.toString)]

/-- `build_json`; `none` where reading the samples throws -/
def buildJson (options : TimingOptions) (samples : List UInt64) (meanStepNs : ℚ≥0)
    (totalElapsedNs schedulerDeadlineMisses : UInt64) (finalMode : Mode) (finalFault : FaultCode) : Option Payload :=
  (spreadOf samples).map fun spread =>
    evidence options spread meanStepNs totalElapsedNs schedulerDeadlineMisses finalMode finalFault

/-- how `main` ends without evidence -/
inductive CampaignExit where
  | options (exit : OptionsExit)
  /-- `reserve` throws: the samples do not fit in a vector -/
  | tooManyTicks
  | scheduler (failure : SchedulerFailure)
  /-- `percentile_ns` throws -/
  | outOfRange
  | cannotOpen (outputPath : String)
deriving DecidableEq, Repr

/-- `main`, up to the evidence it hands to its output -/
def main (arguments : List String) (host : Host) : Except CampaignExit Payload :=
  match parseOptions arguments with
  | .error exit => .error (.options exit)
  | .ok options =>
    if maxSamples < options.ticks.toNat then .error .tooManyTicks
    else match loop options host.stepNs options.ticks.toNat with
      | .error failure => .error (.scheduler failure)
      | .ok state =>
        match buildJson options state.samples (host.meanStepNs state.samples) host.totalElapsedNs state.deadlineMisses
          state.executive.currentMode state.executive.lastFault with
        | none => .error .outOfRange
        | some payload =>
          if options.outputPath ≠ "" ∧ !host.opens options.outputPath then .error (.cannotOpen options.outputPath)
          else .ok payload

/-! ## The validator -/

namespace Validator

def requiredNumericFields : List String :=
  ["ticks", "mission_step_ms", "overload_every", "total_elapsed_ns", "mean_step_ns", "min_step_ns", "p50_step_ns",
    "p95_step_ns", "p99_step_ns", "max_step_ns", "scheduler_deadline_misses"]

def orderedFields : List String := ["min_step_ns", "p50_step_ns", "p95_step_ns", "p99_step_ns", "max_step_ns"]

def numericProblem (payload : Payload) (field : String) : List String :=
  match payload field with
  | .int n => if n < 0 then [field ++ " must not be negative"] else []
  | .float q => if q < 0 then [field ++ " must not be negative"] else []
  | _ => [field ++ " must be numeric"]

def orderProblem (payload : Payload) : List String :=
  match orderedFields.mapM fun field => (payload field).number? with
  | some values =>
    if values ≠ values.insertionSort (· ≤ ·) then ["timing percentile fields are not monotonic"] else []
  | none => []

/-- a problem about an integer field -/
def intProblem (value : JsonValue) (wrong : ℤ → Bool) (problem : String) : List String :=
  match value.int? with
  | some n => if wrong n then [problem] else []
  | none => []

/-- `validate(payload, expect_misses=...)` -/
def validate (payload : Payload) (expectMisses : Option Bool) : List String :=
  (if payload "schema" ≠ .string "astra-os.host-timing.v1" then ["unexpected or missing schema"] else []) ++
  (match payload "claim_boundary" with
    | .string text => if text = "" then ["missing claim boundary"] else []
    | _ => ["missing claim boundary"]) ++
  requiredNumericFields.flatMap (numericProblem payload) ++
  intProblem (payload "ticks") (fun n => n ≤ 0) "ticks must be greater than zero" ++
  orderProblem payload ++
  (if payload "final_mode" ≠ .string "NOMINAL" then ["timing campaign did not finish in NOMINAL"] else []) ++
  (if payload "final_fault" ≠ .string "NONE" then ["timing campaign finished with an unexpected fault"] else []) ++
  intProblem (payload "scheduler_deadline_misses") (fun n => expectMisses = some true && n ≤ 0)
    "controlled-overrun campaign produced no deadline misses" ++
  intProblem (payload "scheduler_deadline_misses") (fun n => expectMisses = some false && n ≠ 0)
    "nominal campaign produced scheduler deadline misses"

/-! ## The validator on evidence -/

section Evidence

variable (options : TimingOptions) (spread : Spread) (meanStepNs : ℚ≥0) (totalElapsedNs misses : UInt64)
variable (finalMode : Mode) (finalFault : FaultCode)

/-- every numeric field is present and not negative -/
theorem numericProblem_evidence :
    requiredNumericFields.flatMap
      (numericProblem (evidence options spread meanStepNs totalElapsedNs misses finalMode finalFault)) = [] := by
  have hmean : ¬ (meanStepNs : ℚ) < 0 := not_lt.2 meanStepNs.2
  have hnat : ∀ n : ℕ, ¬ (n : ℤ) < 0 := fun n => not_lt.2 (Int.natCast_nonneg n)
  simp only [requiredNumericFields, List.flatMap_cons, List.flatMap_nil, numericProblem, evidence,
    Payload.ofEntries_cons, String.reduceEq, if_true, if_false, hmean, hnat, List.append_nil]

/-- a spread in order has no problem -/
theorem orderProblem_evidence (h₁ : spread.minimum ≤ spread.median) (h₂ : spread.median ≤ spread.high)
    (h₃ : spread.high ≤ spread.higher) (h₄ : spread.higher ≤ spread.maximum) :
    orderProblem (evidence options spread meanStepNs totalElapsedNs misses finalMode finalFault) = [] := by
  have hvalues : (orderedFields.mapM fun field =>
      (evidence options spread meanStepNs totalElapsedNs misses finalMode finalFault field).number?) =
      some ([spread.minimum, spread.median, spread.high, spread.higher, spread.maximum].map
        fun sample => (sample.toNat : ℚ)) := by
    simp [orderedFields, evidence, Payload.ofEntries_cons, JsonValue.number?]
  have hsorted : ([spread.minimum, spread.median, spread.high, spread.higher, spread.maximum].map
      fun sample => (sample.toNat : ℚ)).Pairwise (· ≤ ·) := by
    have hchain : [spread.minimum, spread.median, spread.high, spread.higher, spread.maximum].IsChain (· ≤ ·) := by
      simp [h₁, h₂, h₃, h₄]
    refine List.Pairwise.map _ ?_ (List.isChain_iff_pairwise.1 hchain)
    intro a b hab
    exact_mod_cast UInt64.le_iff_toNat_le.1 hab
  rw [orderProblem, hvalues]
  simp only [hsorted.insertionSort_eq, ne_eq, not_true_eq_false, if_false]

theorem modeProblem_iff (mode : Mode) : JsonValue.string mode.toString ≠ .string "NOMINAL" ↔ mode ≠ .nominal := by
  cases mode <;> decide

theorem faultProblem_iff (fault : FaultCode) : JsonValue.string fault.toString ≠ .string "NONE" ↔ fault ≠ .none := by
  cases fault <;> simp [FaultCode.toString]

/-- the fields that the verdict reads -/
theorem evidence_fields :
    evidence options spread meanStepNs totalElapsedNs misses finalMode finalFault "scheduler_deadline_misses" =
        .int misses.toNat ∧
      evidence options spread meanStepNs totalElapsedNs misses finalMode finalFault "final_mode" =
        .string finalMode.toString ∧
      evidence options spread meanStepNs totalElapsedNs misses finalMode finalFault "final_fault" =
        .string finalFault.toString := by
  simp only [evidence, Payload.ofEntries_cons, String.reduceEq, if_true, if_false, and_self]

/-- **What the validator finds in evidence**: only the final mode, the final fault and the miss count matter. -/
theorem validate_evidence (hticks : options.ticks ≠ 0) (h₁ : spread.minimum ≤ spread.median)
    (h₂ : spread.median ≤ spread.high) (h₃ : spread.high ≤ spread.higher) (h₄ : spread.higher ≤ spread.maximum)
    (expectMisses : Option Bool) :
    validate (evidence options spread meanStepNs totalElapsedNs misses finalMode finalFault) expectMisses =
      (if finalMode ≠ .nominal then ["timing campaign did not finish in NOMINAL"] else []) ++
      (if finalFault ≠ .none then ["timing campaign finished with an unexpected fault"] else []) ++
      (if expectMisses = some true ∧ misses.toNat = 0 then
        ["controlled-overrun campaign produced no deadline misses"] else []) ++
      (if expectMisses = some false ∧ misses.toNat ≠ 0 then
        ["nominal campaign produced scheduler deadline misses"] else []) := by
  have hpositive : ¬ options.ticks.toNat = 0 := fun h => hticks (UInt64.toNat_inj.1 h)
  obtain ⟨hmisses, hmode, hfault⟩ :=
    evidence_fields options spread meanStepNs totalElapsedNs misses finalMode finalFault
  unfold validate
  rw [numericProblem_evidence, orderProblem_evidence options spread meanStepNs totalElapsedNs misses finalMode
    finalFault h₁ h₂ h₃ h₄, hmisses, hmode, hfault]
  simp only [modeProblem_iff, faultProblem_iff, evidence, Payload.ofEntries_cons, String.reduceEq, if_true, if_false,
    ne_eq, not_true_eq_false, intProblem, JsonValue.int?]
  simp [hpositive]

end Evidence

end Validator

/-! ## The campaign -/

section Campaign

variable {options : TimingOptions}

/-- the samples of a campaign have a spread in order -/
theorem spreadOf_samples (samples : List UInt64) (hne : samples ≠ []) (hsize : samples.length ≤ maxSamples) :
    ∃ spread, spreadOf samples = some spread ∧ spread.minimum ≤ spread.median ∧ spread.median ≤ spread.high ∧
      spread.high ≤ spread.higher ∧ spread.higher ≤ spread.maximum := by
  have hsorted : (samples.insertionSort (· ≤ ·)).Pairwise (· ≤ ·) := List.pairwise_insertionSort _ _
  have hlength := List.length_insertionSort (· ≤ ·) samples
  have hnonempty : samples.insertionSort (· ≤ ·) ≠ [] := by
    intro hnil
    rw [hnil, List.length_nil] at hlength
    exact hne (List.eq_nil_of_length_eq_zero hlength.symm)
  obtain ⟨minimum, median, high, higher, maximum, hhead, h50, h95, h99, hlast, hle₁, hle₂, hle₃, hle₄⟩ :=
    percentileNs_spec hsorted hnonempty (hlength.le.trans hsize)
  refine ⟨⟨minimum, median, high, higher, maximum⟩, ?_, hle₁, hle₂, hle₃, hle₄⟩
  simp [spreadOf, hhead, h50, h95, h99, hlast]

/-- mode and fault at the end -/
theorem outcome_campaign (options : TimingOptions) (hticks : options.ticks ≠ 0) :
    ((run {} (campaignInputs options options.ticks.toNat)).currentMode,
        (run {} (campaignInputs options options.ticks.toNat)).lastFault) =
      campaignOutcome options options.ticks.toNat := by
  have hne : options.ticks.toNat ≠ 0 := fun h => hticks (UInt64.toNat_inj.1 h)
  obtain ⟨count, hcount⟩ := Nat.exists_eq_succ_of_ne_zero hne
  have hlt := options.ticks.toNat_lt
  rw [hcount]
  exact (steady_run options (by omega)).outcome

/-- the misses at the end: one for each positive multiple of the interval below the number of ticks -/
theorem deadlineMisses_campaign (options : TimingOptions) (stepNs : UInt64 → UInt64) :
    (campaignState options stepNs options.ticks.toNat).deadlineMisses.toNat =
      (options.ticks.toNat - 1) / options.overloadEvery.toNat := by
  have hle := Nat.div_le_self (options.ticks.toNat - 1) options.overloadEvery.toNat
  have hlt := options.ticks.toNat_lt
  have hbound : (options.ticks.toNat - 1) / options.overloadEvery.toNat < 2 ^ 64 := by omega
  exact UInt64.toNat_ofNat_of_lt' hbound

/-- **A campaign runs through**: all ticks, then the evidence of their samples, unless the output cannot be opened. -/
theorem main_campaign {arguments : List String} (host : Host) (hparsed : parseOptions arguments = .ok options)
    (hticks : options.ticks ≠ 0) (hsize : options.ticks.toNat ≤ maxSamples) :
    ∃ spread : Spread, (spread.minimum ≤ spread.median ∧ spread.median ≤ spread.high ∧ spread.high ≤ spread.higher ∧
        spread.higher ≤ spread.maximum) ∧
      main arguments host =
        if options.outputPath ≠ "" ∧ !host.opens options.outputPath then .error (.cannotOpen options.outputPath)
        else .ok (evidence options spread
          (host.meanStepNs (campaignState options host.stepNs options.ticks.toNat).samples) host.totalElapsedNs
          (campaignState options host.stepNs options.ticks.toNat).deadlineMisses
          (campaignState options host.stepNs options.ticks.toNat).executive.currentMode
          (campaignState options host.stepNs options.ticks.toNat).executive.lastFault) := by
  have hne : options.ticks.toNat ≠ 0 := fun h => hticks (UInt64.toNat_inj.1 h)
  obtain ⟨spread, hspread, hordered⟩ :=
    spreadOf_samples (campaignState options host.stepNs options.ticks.toNat).samples
      (by simpa [campaignState] using hne) (by simpa [campaignState] using hsize)
  refine ⟨spread, hordered, ?_⟩
  simp [main, hparsed, not_lt.2 hsize, loop_eq options host.stepNs hsize, buildJson, hspread]

/-- **The verdict on a campaign.** For every command line that is accepted, with as many ticks as a vector can hold
samples, and whatever durations the host measures: the campaign runs through, and ends without evidence only if the
output path is given and cannot be opened. Else its evidence counts one missed deadline for each positive multiple of
`overload_every` below the number of ticks, and ends in NOMINAL without a fault if the mission step is below 500 ms or
there is one tick only, in SAFE with WATCHDOG_DEADLINE_MISS otherwise. The validator accepts it exactly if it ends in
NOMINAL and the expectation, if any, fits `overload_every`. -/
theorem campaign_evidence (arguments : List String) (host : Host) (options : TimingOptions)
    (hparsed : parseOptions arguments = .ok options) (hsize : options.ticks.toNat ≤ maxSamples) :
    (options.outputPath ≠ "" ∧ host.opens options.outputPath = false →
      main arguments host = .error (.cannotOpen options.outputPath)) ∧
    (options.outputPath = "" ∨ host.opens options.outputPath = true →
      ∃ payload, main arguments host = .ok payload ∧
        payload "scheduler_deadline_misses" =
          .int ((options.ticks.toNat - 1) / options.overloadEvery.toNat : ℕ) ∧
        (payload "final_mode", payload "final_fault") =
          (if options.missionStepMs < 500 ∨ options.ticks = 1 then (.string "NOMINAL", .string "NONE")
            else (.string "SAFE", .string "WATCHDOG_DEADLINE_MISS")) ∧
        ∀ expectMisses, Validator.validate payload expectMisses = [] ↔
          (options.missionStepMs < 500 ∨ options.ticks = 1) ∧
          (expectMisses = some true → 0 < options.overloadEvery ∧ options.overloadEvery < options.ticks) ∧
          (expectMisses = some false → options.overloadEvery = 0 ∨ options.ticks ≤ options.overloadEvery)) := by
  obtain ⟨-, hticks, -⟩ := parseOptions_eq_ok hparsed
  have hone : options.ticks.toNat ≤ 1 ↔ options.ticks = 1 := by
    have hne : options.ticks.toNat ≠ 0 := fun h => hticks (UInt64.toNat_inj.1 h)
    rw [← UInt64.toNat_inj, UInt64.toNat_one]
    omega
  obtain ⟨spread, ⟨h₁, h₂, h₃, h₄⟩, hmain⟩ := main_campaign host hparsed hticks hsize
  have hmisses := deadlineMisses_campaign options host.stepNs
  have houtcome : ((campaignState options host.stepNs options.ticks.toNat).executive.currentMode,
      (campaignState options host.stepNs options.ticks.toNat).executive.lastFault) =
        if options.missionStepMs < 500 ∨ options.ticks = 1 then (.nominal, .none)
        else (.safe, .watchdogDeadlineMiss) := by
    have hend := outcome_campaign options hticks
    simp only [campaignOutcome, hone] at hend
    exact hend
  generalize campaignState options host.stepNs options.ticks.toNat = final at *
  obtain ⟨hmissField, hmodeField, hfaultField⟩ := Validator.evidence_fields options spread
    (host.meanStepNs final.samples) host.totalElapsedNs final.deadlineMisses final.executive.currentMode
    final.executive.lastFault
  refine ⟨?_, ?_⟩
  · intro hclosed
    rw [hmain, if_pos (by simpa using hclosed)]
  -- the output takes the evidence
  intro hopened
  rw [hmain, if_neg (by rcases hopened with hstdout | hopens <;> simp [*])]
  refine ⟨_, rfl, ?_, ?_, ?_⟩
  · rw [hmissField, hmisses]
  · rw [hmodeField, hfaultField]
    split_ifs at houtcome ⊢ <;> rw [(Prod.mk.inj houtcome).1, (Prod.mk.inj houtcome).2] <;> rfl
  · intro expectMisses
    -- no miss: the interval is off or too long
    have hnone : (options.ticks.toNat - 1) / options.overloadEvery.toNat = 0 ↔
        options.overloadEvery = 0 ∨ options.ticks ≤ options.overloadEvery := by
      rw [Nat.div_eq_zero_iff, UInt64.le_iff_toNat_le, ← UInt64.toNat_inj, UInt64.toNat_zero]
      omega
    have hsome : ¬ (options.ticks.toNat - 1) / options.overloadEvery.toNat = 0 ↔
        0 < options.overloadEvery ∧ options.overloadEvery < options.ticks := by
      rw [hnone, not_or, UInt64.not_le, ← ne_eq, UInt64.pos_iff_ne_zero]
    have hquiet : (0 < options.overloadEvery → ¬ options.overloadEvery < options.ticks) ↔
        options.overloadEvery = 0 ∨ options.ticks ≤ options.overloadEvery := by
      rw [← not_and, ← hsome, not_not, hnone]
    rw [Validator.validate_evidence options spread _ _ _ _ _ hticks h₁ h₂ h₃ h₄, hmisses]
    have hclean : (final.executive.currentMode = .nominal ∧ final.executive.lastFault = .none) ↔
        options.missionStepMs < 500 ∨ options.ticks = 1 := by
      rw [← Prod.mk.injEq, houtcome]
      split_ifs with hshort <;> simp [hshort]
    simp only [List.append_eq_nil_iff, ite_eq_right_iff, reduceCtorEq, imp_false, not_and, not_not, ne_eq, hsome,
      hquiet]
    rw [hclean, and_assoc]

/-- the controlled overrun of the performance workflow -/
def controlledOverrun : List String :=
  ["--ticks", "100000", "--mission-step-ms", "10", "--overload-every", "1000", "--output",
    "reports/latest/controlled-overrun-timing.json"]

theorem parseOptions_controlledOverrun :
    parseOptions controlledOverrun = .ok ⟨100000, 10, 1000, "reports/latest/controlled-overrun-timing.json"⟩ := by
  decide +kernel

/-- a host on which each step takes 900 ns -/
def steadyHost (opens : Bool) : Host := ⟨fun _ => 900, 90000000, fun _ => 900, fun _ => opens⟩

/-- it is accepted under `--expect-misses`, if its file can be opened -/
theorem campaign_evidence_controlledOverrun :
    (∃ payload, main controlledOverrun (steadyHost true) = .ok payload ∧
      Validator.validate payload (some true) = []) ∧
    main controlledOverrun (steadyHost false) =
      .error (.cannotOpen "reports/latest/controlled-overrun-timing.json") := by
  obtain ⟨payload, hmain, -, -, hverdict⟩ :=
    (campaign_evidence controlledOverrun (steadyHost true) _ parseOptions_controlledOverrun (by decide)).2 (.inr rfl)
  have hclosed :=
    (campaign_evidence controlledOverrun (steadyHost false) _ parseOptions_controlledOverrun (by decide)).1
      ⟨by decide, rfl⟩
  exact ⟨⟨payload, hmain, (hverdict (some true)).2 ⟨by decide, by decide, by decide⟩⟩, hclosed⟩

end Campaign

end TimingCampaign

end AstraFsw
