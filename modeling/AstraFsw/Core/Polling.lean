/-
A reader that polls a list to which another party appends, looking for an entry it wants.

The reader keeps a mark. It takes the entries past the mark, tests them, and when it wants none of them it moves the mark
to the end of the list and sleeps. Each of these is one atomic action, and the other party can append between any two:
`run` is an arbitrary interleaving. At its loop head the reader may find its deadline expired.

- `run_sound`: what the reader returns is an entry of the list that it wants;
- `scan_returns`: if nothing wanted was appended in a window (between taking a slice without a wanted entry and moving
  the mark), a wanted entry in the list is returned by the next complete scan;
- `window_loses`: what is appended in a window is not found by the next complete scan;
- `NotPast.step`: a reader that starts at the front does not pass a wanted entry it started with.
-/
import Mathlib.Tactic

namespace AstraFsw.Polling

variable {α : Type*} (wanted : α → Bool)

inductive Phase (α : Type*) where
  /-- at the loop head -/
  | ready
  /-- the slice is taken and not yet tested -/
  | holding (slice : List α)
  /-- the slice was tested without success -/
  | tested
  | asleep
  /-- the entry with its position in the list, or nothing at the deadline -/
  | returned (result : Option (ℕ × α))
deriving DecidableEq, Repr

structure Reader (α : Type*) where
  entries : List α := []
  mark : ℕ := 0
  phase : Phase α := .ready
deriving DecidableEq, Repr

inductive Turn (α : Type*) where
  /-- the other party appends -/
  | append (a : α)
  /-- the reader's next action; the deadline is looked at in the loop head only -/
  | next (expired : Bool)
deriving DecidableEq, Repr

/-- the reader's next action -/
def Reader.advance (s : Reader α) (expired : Bool) : Reader α :=
  match s.phase with
  | .ready =>
    if expired then { s with phase := .returned none } else { s with phase := .holding (s.entries.drop s.mark) }
  | .holding slice =>
    match slice.find? wanted with
    | some a => { s with phase := .returned (some (s.mark + slice.findIdx wanted, a)) }
    | none => { s with phase := .tested }
  | .tested => { s with mark := s.entries.length, phase := .asleep }
  | .asleep => { s with phase := .ready }
  | .returned _ => s

def step (s : Reader α) : Turn α → Reader α
  | .append a => { s with entries := s.entries ++ [a] }
  | .next expired => s.advance wanted expired

def run (s : Reader α) (turns : List (Turn α)) : Reader α := turns.foldl (step wanted) s

@[simp] theorem run_nil (s : Reader α) : run wanted s [] = s := rfl

@[simp] theorem run_cons (s : Reader α) (t : Turn α) (turns : List (Turn α)) :
    run wanted s (t :: turns) = run wanted (step wanted s t) turns := rfl

theorem run_append (s : Reader α) (turns turns' : List (Turn α)) :
    run wanted s (turns ++ turns') = run wanted (run wanted s turns) turns' := List.foldl_append

theorem run_snoc (s : Reader α) (turns : List (Turn α)) (t : Turn α) :
    run wanted s (turns ++ [t]) = step wanted (run wanted s turns) t := by
  rw [run_append]; rfl

/-! ## One action for each phase -/

namespace Reader

variable {wanted} {s : Reader α}

theorem advance_expired (h : s.phase = .ready) : s.advance wanted true = { s with phase := .returned none } := by
  simp [advance, h]

theorem advance_ready (h : s.phase = .ready) :
    s.advance wanted false = { s with phase := .holding (s.entries.drop s.mark) } := by
  simp [advance, h]

theorem advance_found {slice : List α} {a : α} (h : s.phase = .holding slice) (hfind : slice.find? wanted = some a)
    (expired : Bool) :
    s.advance wanted expired = { s with phase := .returned (some (s.mark + slice.findIdx wanted, a)) } := by
  simp [advance, h, hfind]

theorem advance_notFound {slice : List α} (h : s.phase = .holding slice) (hfind : slice.find? wanted = none)
    (expired : Bool) : s.advance wanted expired = { s with phase := .tested } := by
  simp [advance, h, hfind]

theorem advance_tested (h : s.phase = .tested) (expired : Bool) :
    s.advance wanted expired = { s with mark := s.entries.length, phase := .asleep } := by
  simp [advance, h]

theorem advance_asleep (h : s.phase = .asleep) (expired : Bool) :
    s.advance wanted expired = { s with phase := .ready } := by
  simp [advance, h]

theorem advance_returned {result : Option (ℕ × α)} (h : s.phase = .returned result) (expired : Bool) :
    s.advance wanted expired = s := by
  simp [advance, h]

theorem advance_entries (expired : Bool) : (s.advance wanted expired).entries = s.entries := by
  cases h : s.phase with
  | ready =>
    cases expired with
    | true => rw [advance_expired h]
    | false => rw [advance_ready h]
  | holding slice =>
    cases hfind : slice.find? wanted with
    | none => rw [advance_notFound h hfind]
    | some a => rw [advance_found h hfind]
  | tested => rw [advance_tested h]
  | asleep => rw [advance_asleep h]
  | returned result => rw [advance_returned h]

end Reader

/-- the list only grows -/
theorem step_entries (s : Reader α) (t : Turn α) : s.entries <+: (step wanted s t).entries := by
  cases t with
  | append a => exact List.prefix_append _ _
  | next expired =>
    rw [step, Reader.advance_entries]

theorem run_entries (s : Reader α) (turns : List (Turn α)) : s.entries <+: (run wanted s turns).entries := by
  induction turns generalizing s with
  | nil => exact List.prefix_refl _
  | cons t turns ih => exact (step_entries wanted s t).trans (ih _)

/-- a reader that has returned stays so -/
theorem run_returned {s : Reader α} {result : Option (ℕ × α)} (h : s.phase = .returned result)
    (turns : List (Turn α)) : (run wanted s turns).phase = .returned result := by
  induction turns generalizing s with
  | nil => exact h
  | cons t turns ih =>
    apply ih
    cases t with
    | append a => exact h
    | next expired => rw [step, Reader.advance_returned h, h]

/-! ## What is returned -/

/-- the slice is what followed the mark, and what is returned is wanted and in the list -/
structure Sound (s : Reader α) : Prop where
  mark_le : s.mark ≤ s.entries.length
  slice : ∀ slice, s.phase = .holding slice → slice <+: s.entries.drop s.mark
  result : ∀ i a, s.phase = .returned (some (i, a)) → s.entries[i]? = some a ∧ wanted a = true

/-- the first wanted entry of a slice, at its position in the list -/
theorem getElem?_of_find? {entries slice : List α} {mark : ℕ} {a : α} (hslice : slice <+: entries.drop mark)
    (h : slice.find? wanted = some a) : entries[mark + slice.findIdx wanted]? = some a := by
  obtain ⟨rest, hrest⟩ := hslice
  have hlt : slice.findIdx wanted < slice.length :=
    List.findIdx_lt_length_of_exists ⟨a, List.mem_of_find?_eq_some h, List.find?_some h⟩
  rw [← List.getElem?_drop, ← hrest, List.getElem?_append_left hlt, ← List.find?_eq_getElem?_findIdx, h]

theorem Sound.step {s : Reader α} (h : Sound wanted s) (t : Turn α) : Sound wanted (step wanted s t) := by
  cases t with
  | append b =>
    refine ⟨?_, ?_, ?_⟩
    · exact h.mark_le.trans (List.prefix_append s.entries [b]).length_le
    · intro slice hphase
      refine (h.slice slice hphase).trans ?_
      rw [Polling.step, List.drop_append_of_le_length h.mark_le]
      exact List.prefix_append _ _
    · intro i a hphase
      obtain ⟨hget, ha⟩ := h.result i a hphase
      exact ⟨by rw [Polling.step, List.getElem?_append_left (List.getElem?_eq_some_iff.1 hget).1, hget], ha⟩
  | next expired =>
    rw [Polling.step]
    cases hphase : s.phase with
    | ready =>
      cases expired with
      | true =>
        rw [Reader.advance_expired hphase]
        exact ⟨h.mark_le, by simp, by simp⟩
      | false =>
        rw [Reader.advance_ready hphase]
        refine ⟨h.mark_le, ?_, by simp⟩
        intro slice hslice
        cases hslice
        exact List.prefix_refl _
    | holding slice =>
      cases hfind : slice.find? wanted with
      | none =>
        rw [Reader.advance_notFound hphase hfind]
        exact ⟨h.mark_le, by simp, by simp⟩
      | some a =>
        rw [Reader.advance_found hphase hfind]
        refine ⟨h.mark_le, by simp, ?_⟩
        intro i b hresult
        cases hresult
        exact ⟨getElem?_of_find? wanted (h.slice slice hphase) hfind, List.find?_some hfind⟩
    | tested =>
      rw [Reader.advance_tested hphase]
      exact ⟨le_rfl, by simp, by simp⟩
    | asleep =>
      rw [Reader.advance_asleep hphase]
      exact ⟨h.mark_le, by simp, by simp⟩
    | returned result =>
      rw [Reader.advance_returned hphase]
      exact h

/-- **What the reader returns is an entry of the list that it wants.** -/
theorem run_sound {s : Reader α} (h : Sound wanted s) (turns : List (Turn α)) : Sound wanted (run wanted s turns) := by
  induction turns generalizing s with
  | nil => exact h
  | cons t turns ih => exact ih (h.step wanted t)

theorem sound_start (entries : List α) : Sound wanted { entries } :=
  ⟨Nat.zero_le _, by simp, by simp⟩

/-! ## Windows -/

/-- the reader is done with a slice that holds nothing wanted, and has not moved the mark yet -/
def Reader.inWindow (s : Reader α) : Bool :=
  match s.phase with
  | .holding slice => !slice.any wanted
  | .tested => true
  | _ => false

/-- nothing wanted is behind the mark, and during a window nothing wanted is in the list -/
structure Caught (s : Reader α) : Prop where
  behind : s.phase = .ready ∨ s.phase = .asleep → ∀ a ∈ s.entries.take s.mark, wanted a = false
  window : s.inWindow wanted = true → ∀ a ∈ s.entries, wanted a = false

/-- the turn appends nothing wanted in a window -/
def Outside (s : Reader α) : Turn α → Prop
  | .append a => wanted a = true → s.inWindow wanted = false
  | .next _ => True

instance (s : Reader α) : (t : Turn α) → Decidable (Outside wanted s t)
  | .append a => inferInstanceAs (Decidable (wanted a = true → s.inWindow wanted = false))
  | .next _ => .isTrue trivial

theorem Caught.step {s : Reader α} (h : Caught wanted s) (hs : Sound wanted s) {t : Turn α} (ht : Outside wanted s t) :
    Caught wanted (step wanted s t) := by
  cases t with
  | append b =>
    refine ⟨?_, ?_⟩
    · intro hphase a ha
      rw [Polling.step, List.take_append_of_le_length hs.mark_le] at ha
      exact h.behind hphase a ha
    · intro hwindow a ha
      rcases List.mem_append.1 ha with hold | hnew
      · exact h.window hwindow a hold
      · obtain rfl := List.mem_singleton.1 hnew
        by_contra hwanted
        exact Bool.eq_false_iff.1 (ht (Bool.not_eq_false _ ▸ hwanted)) hwindow
  | next expired =>
    rw [Polling.step]
    cases hphase : s.phase with
    | ready =>
      cases expired with
      | true =>
        rw [Reader.advance_expired hphase]
        exact ⟨by simp, by simp [Reader.inWindow]⟩
      | false =>
        rw [Reader.advance_ready hphase]
        refine ⟨by simp, ?_⟩
        -- the slice and what is behind the mark are the whole list
        intro hwindow a ha
        rw [← List.take_append_drop s.mark s.entries] at ha
        rcases List.mem_append.1 ha with hbehind | hslice
        · exact h.behind (Or.inl hphase) a hbehind
        · simp only [Reader.inWindow, Bool.not_eq_true', List.any_eq_false] at hwindow
          exact Bool.eq_false_iff.2 (hwindow a hslice)
    | holding slice =>
      cases hfind : slice.find? wanted with
      | some a =>
        rw [Reader.advance_found hphase hfind]
        exact ⟨by simp, by simp [Reader.inWindow]⟩
      | none =>
        rw [Reader.advance_notFound hphase hfind]
        refine ⟨by simp, ?_⟩
        intro _ a ha
        refine h.window ?_ a ha
        simpa [Reader.inWindow, hphase] using hfind
    | tested =>
      rw [Reader.advance_tested hphase]
      refine ⟨?_, by simp [Reader.inWindow]⟩
      intro _ a ha
      exact h.window (by rw [Reader.inWindow, hphase]) a (List.mem_of_mem_take ha)
    | asleep =>
      rw [Reader.advance_asleep hphase]
      exact ⟨fun _ => h.behind (Or.inr hphase), by simp [Reader.inWindow]⟩
    | returned result =>
      rw [Reader.advance_returned hphase]
      exact h

/-- every turn of the run is outside the windows -/
def AllOutside : Reader α → List (Turn α) → Prop
  | _, [] => True
  | s, t :: turns => Outside wanted s t ∧ AllOutside (step wanted s t) turns

instance decidableAllOutside (s : Reader α) : (turns : List (Turn α)) → Decidable (AllOutside wanted s turns)
  | [] => .isTrue trivial
  | t :: turns => @instDecidableAnd _ _ _ (decidableAllOutside (step wanted s t) turns)

theorem AllOutside.left {s : Reader α} {turns turns' : List (Turn α)} (h : AllOutside wanted s (turns ++ turns')) :
    AllOutside wanted s turns := by
  induction turns generalizing s with
  | nil => trivial
  | cons t turns ih => exact ⟨h.1, ih h.2⟩

theorem AllOutside.right {s : Reader α} {turns turns' : List (Turn α)} (h : AllOutside wanted s (turns ++ turns')) :
    AllOutside wanted (run wanted s turns) turns' := by
  induction turns generalizing s with
  | nil => exact h
  | cons t turns ih => exact ih h.2

theorem run_caught {s : Reader α} (h : Caught wanted s) (hs : Sound wanted s) {turns : List (Turn α)}
    (ht : AllOutside wanted s turns) : Caught wanted (run wanted s turns) := by
  induction turns generalizing s with
  | nil => exact h
  | cons t turns ih => exact ih (h.step wanted hs ht.1) (hs.step wanted t) ht.2

theorem caught_start (entries : List α) : Caught wanted { entries } :=
  ⟨by simp, by simp [Reader.inWindow]⟩

/-! ## Scans -/

/-- somewhere among the turns the reader takes a slice and tests it -/
def CompleteScan (s : Reader α) (turns : List (Turn α)) : Prop :=
  ∃ before between expired after, turns = before ++ Turn.next false :: between ++ Turn.next expired :: after ∧
    (run wanted s before).phase = .ready ∧ ∀ t ∈ between, ∃ a, t = Turn.append a

/-- appending does not move the reader -/
theorem run_appends_phase (s : Reader α) {turns : List (Turn α)} (h : ∀ t ∈ turns, ∃ a, t = Turn.append a) :
    (run wanted s turns).phase = s.phase := by
  induction turns generalizing s with
  | nil => rfl
  | cons t turns ih =>
    obtain ⟨a, rfl⟩ := h t List.mem_cons_self
    exact ih _ fun t' ht' => h t' (List.mem_cons_of_mem _ ht')

/-- **A complete scan returns.** If the list holds a wanted entry, nothing wanted is behind the mark or appended in a
window, and the reader completes a scan, then it has returned a wanted entry. -/
theorem scan_returns {s : Reader α} {turns : List (Turn α)} (hs : Sound wanted s) (hc : Caught wanted s)
    (ht : AllOutside wanted s turns) (hentry : ∃ a ∈ s.entries, wanted a = true) (hscan : CompleteScan wanted s turns) :
    ∃ i a, (run wanted s turns).phase = .returned (some (i, a)) ∧ wanted a = true := by
  obtain ⟨a, ha, hwanted⟩ := hentry
  obtain ⟨before, between, expired, after, rfl, hready, hbetween⟩ := hscan
  rw [List.append_assoc] at ht ⊢
  rw [run_append, List.cons_append, run_cons, run_append, run_cons]
  have hs' := run_sound wanted hs before
  have hc' := run_caught wanted hc hs ht.left
  have ha' := (run_entries wanted s before).subset ha
  generalize run wanted s before = loop at hready hs' hc' ha' ⊢
  -- the wanted entry is past the mark
  have hdrop : a ∈ loop.entries.drop loop.mark := by
    rw [← List.take_append_drop loop.mark loop.entries] at ha'
    rcases List.mem_append.1 ha' with hbehind | hpast
    · rw [hc'.behind (Or.inl hready) a hbehind] at hwanted
      cases hwanted
    · exact hpast
  obtain ⟨b, hb⟩ : ∃ b, (loop.entries.drop loop.mark).find? wanted = some b :=
    Option.isSome_iff_exists.1 (List.find?_isSome.2 ⟨a, hdrop, hwanted⟩)
  have hholding : (run wanted (step wanted loop (.next false)) between).phase =
      .holding (loop.entries.drop loop.mark) := by
    rw [run_appends_phase wanted _ hbetween, step, Reader.advance_ready hready]
  have hreturned := congrArg Reader.phase (Reader.advance_found hholding hb expired)
  exact ⟨_, b, run_returned wanted hreturned after, List.find?_some hb⟩

/-- after the mark moves, an empty slice is scanned -/
theorem tested_loses {s : Reader α} (h : s.phase = .tested) :
    ∃ turns, CompleteScan wanted s turns ∧ ∀ result, (run wanted s turns).phase ≠ .returned result := by
  have hasleep : step wanted s (.next false) = { s with mark := s.entries.length, phase := .asleep } :=
    Reader.advance_tested h false
  have hready : run wanted s [.next false, .next false] = { s with mark := s.entries.length, phase := .ready } := by
    rw [run_cons, hasleep, run_cons, run_nil]
    rfl
  refine ⟨[.next false, .next false] ++ .next false :: [] ++ .next false :: [],
    ⟨[.next false, .next false], [], false, [], rfl, by rw [hready], by simp⟩, ?_⟩
  intro result
  rw [List.append_assoc, run_append, hready]
  simp [step, Reader.advance]

/-- **What is appended in a window is lost**: the reader can complete a scan after it and return nothing. -/
theorem window_loses {s : Reader α} (h : s.inWindow wanted = true) (a : α) :
    ∃ turns, CompleteScan wanted (step wanted s (.append a)) turns ∧
      ∀ result, (run wanted (step wanted s (.append a)) turns).phase ≠ .returned result := by
  cases hphase : s.phase with
  | holding slice =>
    have hfind : slice.find? wanted = none := by simpa [Reader.inWindow, hphase] using h
    have hheld : (step wanted s (.append a)).phase = .holding slice := hphase
    have htested := congrArg Reader.phase (Reader.advance_notFound hheld hfind false)
    obtain ⟨turns, ⟨before, between, expired, after, hsplit, hready, hbetween⟩, hnone⟩ := tested_loses wanted htested
    exact ⟨.next false :: turns, ⟨.next false :: before, between, expired, after, by rw [hsplit]; rfl, hready, hbetween⟩,
      hnone⟩
  | tested => exact tested_loses wanted hphase
  | _ => simp [Reader.inWindow, hphase] at h

/-! ## The first scan -/

/-- the reader has not passed the wanted entry at `j` -/
structure NotPast (j : ℕ) (s : Reader α) : Prop where
  entry : ∃ a, s.entries[j]? = some a ∧ wanted a = true
  phase : s.phase ≠ .tested ∧ s.phase ≠ .asleep
  ready : s.phase = .ready → s.mark = 0
  holding : ∀ slice, s.phase = .holding slice → s.mark = 0 ∧ ∃ a, slice[j]? = some a ∧ wanted a = true
  result : ∀ i a, s.phase = .returned (some (i, a)) → i ≤ j

theorem NotPast.step {j : ℕ} {s : Reader α} (h : NotPast wanted j s) (t : Turn α) :
    NotPast wanted j (step wanted s t) := by
  obtain ⟨a, hget, ha⟩ := h.entry
  have hentry : ∃ a, (Polling.step wanted s t).entries[j]? = some a ∧ wanted a = true := by
    obtain ⟨rest, hrest⟩ := step_entries wanted s t
    exact ⟨a, by rw [← hrest, List.getElem?_append_left (List.getElem?_eq_some_iff.1 hget).1, hget], ha⟩
  cases t with
  | append b => exact ⟨hentry, h.phase, h.ready, h.holding, h.result⟩
  | next expired =>
    rw [Polling.step] at hentry ⊢
    cases hphase : s.phase with
    | ready =>
      cases expired with
      | true =>
        rw [Reader.advance_expired hphase] at hentry ⊢
        exact ⟨hentry, by simp, by simp, by simp, by simp⟩
      | false =>
        rw [Reader.advance_ready hphase] at hentry ⊢
        refine ⟨hentry, by simp, by simp, ?_, by simp⟩
        intro slice hslice
        cases hslice
        exact ⟨h.ready hphase, a, by rw [h.ready hphase, List.drop_zero, hget], ha⟩
    | holding slice =>
      obtain ⟨hmark, b, hb, hwanted⟩ := h.holding slice hphase
      obtain ⟨c, hc⟩ : ∃ c, slice.find? wanted = some c :=
        Option.isSome_iff_exists.1 (List.find?_isSome.2 ⟨b, List.mem_of_getElem? hb, hwanted⟩)
      rw [Reader.advance_found hphase hc] at hentry ⊢
      refine ⟨hentry, by simp, by simp, by simp, ?_⟩
      intro i c' hresult
      cases hresult
      rw [hmark, Nat.zero_add]
      -- the first wanted entry of the slice is not behind a wanted one
      by_contra hlt
      have hnot := List.not_of_lt_findIdx (Nat.lt_of_not_le hlt)
      rw [List.getElem?_eq_some_iff] at hb
      obtain ⟨_, rfl⟩ := hb
      simp [hwanted] at hnot
    | tested => exact absurd hphase h.phase.1
    | asleep => exact absurd hphase h.phase.2
    | returned result =>
      rw [Reader.advance_returned hphase]
      exact h

theorem notPast_start {entries : List α} {j : ℕ} {a : α} (h : entries[j]? = some a) (ha : wanted a = true) :
    NotPast wanted j { entries } :=
  ⟨⟨a, h, ha⟩, by simp, by simp, by simp, by simp⟩

end AstraFsw.Polling
