/-
The bounded event log (`fsw/src/event_logger.cpp`): a ring buffer of records with contiguous sequence numbers.

Sizes and indices are natural numbers (`start_index_` stays below the capacity, so `size_t` never wraps); the sequence
and dropped counters are 64-bit.

The logger stores a ring buffer (`Core/RingBuffer`, `Stores`). Over runs of log and clear calls it holds the last
records of the journal, what a logger without a bound would hold (`run_tracks`, `lossless_bounded_suffix`).

`logAll` logs a list of entries. It drops exactly the entries the log has no room for (`logAll_droppedCount`), and while
there is room it appends them, numbered, to the snapshot (`logAll_of_room`, `snapshot_of_startIndex`).
-/
import AstraFsw.Core.Machine
import AstraFsw.Core.RingBuffer

namespace AstraFsw

inductive EventSeverity where
  | debug
  | info
  | warning
  | error
  | critical
deriving DecidableEq, Repr

inductive EventSource where
  | system
  | command
  | mode
  | health
  | watchdog
  | fdir
  | scheduler
  | telemetry
  | configuration
deriving DecidableEq, Repr

structure EventRecord where
  sequence : UInt64 := 0
  timestampMs : UInt64 := 0
  severity : EventSeverity := .info
  source : EventSource := .system
  code : UInt16 := 0
  message : String := ""
deriving DecidableEq, Repr

structure EventLogger where
  capacity : ℕ := 256
  records : List EventRecord := []
  startIndex : ℕ := 0
  nextSequence : UInt64 := 1
  droppedCount : UInt64 := 0
deriving DecidableEq, Repr

namespace EventLogger

def valid (l : EventLogger) : Bool := decide (l.capacity > 0)

def size (l : EventLogger) : ℕ := l.records.length

def log (l : EventLogger) (timestampMs : UInt64) (severity : EventSeverity) (source : EventSource) (code : UInt16)
    (message : String) : UInt64 × EventLogger :=
  if !l.valid then (0, l)
  else
    let record : EventRecord := { sequence := l.nextSequence, timestampMs, severity, source, code, message }
    let nextSequence := l.nextSequence + 1
    if l.records.length < l.capacity then
      (nextSequence - 1, { l with records := l.records ++ [record], nextSequence })
    else
      (nextSequence - 1,
        { l with records := l.records.set l.startIndex record
                 startIndex := (l.startIndex + 1) % l.capacity
                 nextSequence
                 droppedCount := l.droppedCount + 1 })

/-- the records, oldest first -/
def snapshot (l : EventLogger) : List EventRecord :=
  (List.range l.records.length).filterMap fun offset => l.records[(l.startIndex + offset) % l.records.length]?

def clear (l : EventLogger) : EventLogger := { l with records := [], startIndex := 0, droppedCount := 0 }

/-! ## Several entries -/

/-- log the entries in order (an entry is a record whose number is still to be given) -/
def logAll (l : EventLogger) (entries : List EventRecord) : EventLogger :=
  entries.foldl (fun l e => (l.log e.timestampMs e.severity e.source e.code e.message).2) l

/-- the entries with contiguous numbers from `n` on -/
def numbered : UInt64 → List EventRecord → List EventRecord
  | _, [] => []
  | n, e :: entries => { e with sequence := n } :: numbered (n + 1) entries

@[simp] theorem logAll_nil (l : EventLogger) : l.logAll [] = l := rfl

@[simp] theorem logAll_cons (l : EventLogger) (e : EventRecord) (entries : List EventRecord) :
    l.logAll (e :: entries) = (l.log e.timestampMs e.severity e.source e.code e.message).2.logAll entries := rfl

theorem logAll_append (l : EventLogger) (a b : List EventRecord) : l.logAll (a ++ b) = (l.logAll a).logAll b := by
  simp [logAll, List.foldl_append]

@[simp] theorem numbered_source (n : UInt64) (entries : List EventRecord) :
    (numbered n entries).map (·.source) = entries.map (·.source) := by
  induction entries generalizing n with
  | nil => rfl
  | cons e entries ih => simp [numbered, ih]

theorem log_of_room {l : EventLogger} (h : l.records.length < l.capacity) (ts : UInt64) (severity : EventSeverity)
    (source : EventSource) (code : UInt16) (message : String) :
    (l.log ts severity source code message).2 = { l with
      records := l.records ++ [{ sequence := l.nextSequence, timestampMs := ts, severity, source, code, message }]
      nextSequence := l.nextSequence + 1 } := by
  have hv : l.valid = true := by simp only [valid, decide_eq_true_eq]; omega
  simp [log, hv, h]

/-- a full log keeps its size and counts the record it overwrites -/
theorem log_of_full {l : EventLogger} (hv : l.valid = true) (h : l.capacity ≤ l.records.length) (ts : UInt64)
    (severity : EventSeverity) (source : EventSource) (code : UInt16) (message : String) :
    (l.log ts severity source code message).2.droppedCount = l.droppedCount + 1 ∧
      (l.log ts severity source code message).2.records.length = l.records.length ∧
      (l.log ts severity source code message).2.capacity = l.capacity := by
  simp [log, hv, Nat.not_lt.2 h]

@[simp] theorem log_capacity (l : EventLogger) (ts : UInt64) (severity : EventSeverity) (source : EventSource)
    (code : UInt16) (message : String) : (l.log ts severity source code message).2.capacity = l.capacity := by
  unfold log
  simp only
  split_ifs <;> rfl

@[simp] theorem logAll_capacity (l : EventLogger) (entries : List EventRecord) :
    (l.logAll entries).capacity = l.capacity := by
  induction entries generalizing l with
  | nil => rfl
  | cons e entries ih => rw [logAll_cons, ih, log_capacity]

/-- **What is dropped**: the entries there is no room for. -/
theorem logAll_droppedCount {l : EventLogger} (hv : l.valid = true) (entries : List EventRecord) :
    (l.logAll entries).droppedCount.toNat =
      (l.droppedCount.toNat + (entries.length - (l.capacity - l.records.length))) % 2 ^ 64 := by
  induction entries generalizing l with
  | nil => simp [Nat.mod_eq_of_lt l.droppedCount.toNat_lt]
  | cons e entries ih =>
    have hv' : (l.log e.timestampMs e.severity e.source e.code e.message).2.valid = true := by
      rw [valid, log_capacity]; exact hv
    rw [logAll_cons, ih hv']
    rcases Nat.lt_or_ge l.records.length l.capacity with hroom | hfull
    · rw [log_of_room hroom]
      simp only [List.length_append, List.length_cons, List.length_nil]
      congr 2
      omega
    · obtain ⟨hdropped, hlength, hcapacity⟩ :=
        log_of_full hv hfull e.timestampMs e.severity e.source e.code e.message
      rw [hdropped, hlength, hcapacity, UInt64.toNat_add, UInt64.toNat_one, Nat.mod_add_mod, List.length_cons]
      congr 1
      omega

/-- while there is room the entries are appended -/
theorem logAll_of_room {l : EventLogger} {entries : List EventRecord}
    (h : entries.length ≤ l.capacity - l.records.length) :
    (l.logAll entries).records = l.records ++ numbered l.nextSequence entries ∧
      (l.logAll entries).startIndex = l.startIndex := by
  induction entries generalizing l with
  | nil => simp [numbered]
  | cons e entries ih =>
    rw [List.length_cons] at h
    have hroom : l.records.length < l.capacity := by omega
    rw [logAll_cons, log_of_room hroom]
    obtain ⟨hrecords, hstart⟩ := ih (l := { l with
      records := l.records ++ [{ e with sequence := l.nextSequence }], nextSequence := l.nextSequence + 1 })
      (by simp only [List.length_append, List.length_cons, List.length_nil]; omega)
    refine ⟨hrecords.trans ?_, hstart⟩
    simp [numbered]

/-- before the first wrap the snapshot is the record list -/
theorem snapshot_of_startIndex {l : EventLogger} (h : l.startIndex = 0) : l.snapshot = l.records := by
  rw [snapshot, readBack_eq_rotate, h, List.rotate_zero]

/-- the counters of a valid logger after one record -/
theorem log_counters {l : EventLogger} (hv : l.valid = true) (ts : UInt64) (severity : EventSeverity)
    (source : EventSource) (code : UInt16) (message : String) :
    (l.log ts severity source code message).1 = l.nextSequence ∧
    (l.log ts severity source code message).2.nextSequence = l.nextSequence + 1 ∧
    (l.log ts severity source code message).2.droppedCount =
      if l.records.length < l.capacity then l.droppedCount else l.droppedCount + 1 := by
  unfold log
  simp only [hv, Bool.not_true, Bool.false_eq_true, if_false]
  split_ifs <;> exact ⟨UInt64.add_sub_cancel .., rfl, rfl⟩

/-! ## The ring buffer of a logger -/

/-- the logger stores the ring buffer -/
structure Stores (l : EventLogger) {capacity : ℕ} (r : RingBuffer EventRecord capacity) : Prop where
  capacity_eq : l.capacity = capacity
  records_eq : l.records = r.slots
  startIndex_eq : l.startIndex = r.start

namespace Stores

variable {l : EventLogger} {capacity : ℕ} {r : RingBuffer EventRecord capacity}

theorem valid (h : l.Stores r) : l.valid = true := by
  rw [EventLogger.valid, h.capacity_eq]
  exact decide_eq_true (Nat.zero_lt_of_lt r.start_lt)

theorem snapshot_eq (h : l.Stores r) : l.snapshot = r.contents := by
  rw [EventLogger.snapshot, readBack_eq_rotate, h.records_eq, h.startIndex_eq, RingBuffer.contents]

theorem size_eq (h : l.Stores r) : l.size = r.contents.length := by
  rw [EventLogger.size, h.records_eq, RingBuffer.length_contents]

/-- logging pushes one record -/
theorem log (h : l.Stores r) (ts : UInt64) (severity : EventSeverity) (source : EventSource) (code : UInt16)
    (message : String) :
    (l.log ts severity source code message).2.Stores
      (r.push { sequence := l.nextSequence, timestampMs := ts, severity, source, code, message }) := by
  unfold EventLogger.log RingBuffer.push
  have hv := h.valid
  obtain ⟨hcapacity, hrecords, hstart⟩ := h
  by_cases hroom : r.slots.length < capacity
  · simp only [hv, hrecords, hcapacity, hroom, Bool.not_true, Bool.false_eq_true, if_false, if_true, dif_pos]
    exact ⟨rfl, rfl, hstart⟩
  · simp only [hv, hrecords, hcapacity, hroom, hstart, Bool.not_true, Bool.false_eq_true, if_false, dif_neg,
      not_false_eq_true]
    exact ⟨rfl, rfl, rfl⟩

/-- **Several entries.** They are pushed in order, numbered from the next sequence number on. -/
theorem logAll (h : l.Stores r) (entries : List EventRecord) :
    (l.logAll entries).Stores (r.pushAll (numbered l.nextSequence entries)) := by
  induction entries generalizing l r with
  | nil => exact h
  | cons e entries ih =>
    have hrest := ih (h.log e.timestampMs e.severity e.source e.code e.message)
    rw [(log_counters h.valid ..).2.1] at hrest
    exact hrest

theorem clear (h : l.Stores r) (hpos : 0 < capacity) : l.clear.Stores (RingBuffer.empty hpos) :=
  ⟨h.capacity_eq, rfl, rfl⟩

end Stores

/-! ## Runs of log and clear calls -/

/-- the calls that change a logger -/
inductive Call where
  | log (timestampMs : UInt64) (severity : EventSeverity) (source : EventSource) (code : UInt16) (message : String)
  | clear
deriving DecidableEq, Repr

/-- one call, with the sequence number it returns -/
def call (l : EventLogger) : Call → Option UInt64 × EventLogger
  | .log timestampMs severity source code message =>
    let (sequence, l') := l.log timestampMs severity source code message
    (some sequence, l')
  | .clear => (none, l.clear)

/-- what was logged: the number of log calls so far and the records since the last clear, as a logger without a bound
would hold them -/
structure Journal where
  logged : ℕ := 0
  records : List EventRecord := []

/-- the n-th log call of a run makes the record with number n; a clear discards the records and keeps the numbering -/
def Journal.call (j : Journal) : Call → Journal
  | .log timestampMs severity source code message =>
    { logged := j.logged + 1
      records := j.records ++
        [{ sequence := UInt64.ofNat (j.logged + 1), timestampMs, severity, source, code, message }] }
  | .clear => { j with records := [] }

def journal (calls : List Call) : Journal := calls.foldl Journal.call {}

theorem journal_snoc (calls : List Call) (c : Call) : journal (calls ++ [c]) = (journal calls).call c := by
  simp [journal, List.foldl_append]

theorem journal_logged_le (calls : List Call) : (journal calls).logged ≤ calls.length := by
  induction calls using List.reverseRecOn with
  | nil => exact Nat.zero_le _
  | append_singleton calls c ih =>
    rw [journal_snoc, List.length_append, List.length_singleton]
    cases c with
    | log ts severity source code message => exact Nat.succ_le_succ ih
    | clear => exact Nat.le_succ_of_le ih

/-- the records of a journal end with its last number and are numbered without gaps -/
def Journal.Contiguous (j : Journal) : Prop :=
  j.records.length ≤ j.logged ∧
    j.records.map (·.sequence) =
      (List.range' (j.logged - j.records.length + 1) j.records.length).map (UInt64.ofNat ·)

theorem Journal.Contiguous.call {j : Journal} (h : j.Contiguous) (c : Call) : (j.call c).Contiguous := by
  obtain ⟨hle, hnumbers⟩ := h
  cases c with
  | clear => exact ⟨Nat.zero_le _, rfl⟩
  | log ts severity source code message =>
    refine ⟨by simp only [Journal.call, List.length_append, List.length_singleton]; omega, ?_⟩
    simp only [Journal.call, List.map_append, List.length_append, List.length_singleton, hnumbers,
      Nat.add_sub_add_right, List.range'_concat, List.map_cons, List.map_nil, Nat.one_mul]
    congr 3
    omega

theorem journal_contiguous (calls : List Call) : (journal calls).Contiguous := by
  induction calls using List.reverseRecOn with
  | nil => exact ⟨Nat.le_refl _, rfl⟩
  | append_singleton calls c ih => rw [journal_snoc]; exact ih.call c

/-- the logger holds the last records of the journal, and its counters are those of the journal -/
structure Tracks (l : EventLogger) {capacity : ℕ} (hpos : 0 < capacity) (j : Journal) : Prop where
  stores : l.Stores ((RingBuffer.empty hpos).pushAll j.records)
  nextSequence_eq : l.nextSequence = UInt64.ofNat (j.logged + 1)
  droppedCount_eq : l.droppedCount = UInt64.ofNat (j.records.length - capacity)

namespace Tracks

variable {l : EventLogger} {capacity : ℕ} {hpos : 0 < capacity} {j : Journal}

theorem snapshot_eq (h : l.Tracks hpos j) : l.snapshot = j.records.rtake capacity := by
  rw [h.stores.snapshot_eq, RingBuffer.contents_pushAll_empty]

theorem size_eq (h : l.Tracks hpos j) : l.size = min capacity j.records.length := by
  rw [h.stores.size_eq, RingBuffer.contents_pushAll_empty, length_rtake]

/-- **One call.** The logger keeps tracking, and a log call returns the number of its record. -/
theorem call (h : l.Tracks hpos j) (c : Call) :
    (l.call c).2.Tracks hpos (j.call c) ∧
      (l.call c).1 = if c = .clear then none else some (UInt64.ofNat (j.logged + 1)) := by
  cases c with
  | clear =>
    refine ⟨⟨h.stores.clear hpos, h.nextSequence_eq, ?_⟩, rfl⟩
    simp [EventLogger.call, EventLogger.clear, Journal.call]
  | log ts severity source code message =>
    obtain ⟨hreturned, hnext, hdropped⟩ := log_counters h.stores.valid ts severity source code message
    have hstores := h.stores.log ts severity source code message
    rw [h.nextSequence_eq] at hreturned hnext hstores
    refine ⟨⟨?_, ?_, ?_⟩, ?_⟩
    · rw [← RingBuffer.pushAll_concat] at hstores
      exact hstores
    · exact hnext.trans (by simp [Journal.call])
    · have hsize := h.size_eq
      rw [size] at hsize
      rw [h.stores.capacity_eq, hsize, h.droppedCount_eq] at hdropped
      refine hdropped.trans ?_
      simp only [Journal.call, List.length_append, List.length_singleton]
      split_ifs with hroom
      · congr 1; omega
      · rw [show j.records.length + 1 - capacity = (j.records.length - capacity) + 1 by omega]
        simp
    · exact congrArg some hreturned

end Tracks

section Runs

variable {capacity : ℕ} (hpos : 0 < capacity) (calls : List Call)

theorem run_tracks : (Machine.final call { capacity } calls).Tracks hpos (journal calls) := by
  induction calls using List.reverseRecOn with
  | nil => exact ⟨⟨rfl, rfl, rfl⟩, rfl, by simp [journal]⟩
  | append_singleton calls c ih =>
    rw [Machine.final_snoc, journal_snoc]
    exact (ih.call c).1

include hpos in
/-- the numbers returned are consecutive, whatever is cleared in between -/
theorem returned_eq :
    (Machine.outputs call { capacity } calls).filterMap id =
      (List.range' 1 (journal calls).logged).map (UInt64.ofNat ·) := by
  induction calls using List.reverseRecOn with
  | nil => rfl
  | append_singleton calls c ih =>
    rw [Machine.outputs_snoc, List.filterMap_append, ih, journal_snoc, ((run_tracks hpos calls).call c).2]
    cases c with
    | clear => simp [Journal.call]
    | log ts severity source code message =>
      simp only [Journal.call, List.range'_1_concat, List.map_append, List.map_cons, List.map_nil, reduceCtorEq,
        if_false, Nat.add_comm 1]
      rfl

end Runs

/-- numbers below 2^64 survive the counter -/
theorem toNat_range' {start n : ℕ} (h : start + n ≤ 2 ^ 64) :
    ((List.range' start n).map (UInt64.ofNat ·)).map (·.toNat) = List.range' start n := by
  rw [List.map_map]
  refine (List.map_congr_left fun i hi => ?_).trans (List.map_id _)
  have hi' := (List.mem_range'_1.1 hi).2
  exact UInt64.toNat_ofNat'.trans (Nat.mod_eq_of_lt (by omega))

/-- **A lossless bounded suffix.** Over fewer than 2^64 calls log returns 1, 2, 3, …, and the logger holds the last
records logged since the last clear, every field as given, and counts the others as dropped. -/
theorem lossless_bounded_suffix (capacity : ℕ) (hpos : 1 ≤ capacity) (calls : List Call)
    (hlength : calls.length < 2 ^ 64) :
    let logger := Machine.final call { capacity } calls
    let logged := (journal calls).logged
    let records := (journal calls).records
    ((Machine.outputs call { capacity } calls).filterMap id).map (·.toNat) = List.range' 1 logged ∧
    logger.snapshot = records.rtake (min capacity records.length) ∧
    logger.snapshot.map (·.sequence.toNat) = List.range' (logged - logger.size + 1) logger.size ∧
    logger.size = min capacity records.length ∧ logger.size ≤ capacity ∧
    logger.droppedCount.toNat = records.length - logger.size := by
  intro logger logged records
  have htracks : logger.Tracks hpos (journal calls) := run_tracks hpos calls
  have hlogged : logged < 2 ^ 64 := Nat.lt_of_le_of_lt (journal_logged_le calls) hlength
  have hreturned : (Machine.outputs call { capacity } calls).filterMap id =
      (List.range' 1 logged).map (UInt64.ofNat ·) := returned_eq hpos calls
  have hsnapshot : logger.snapshot = records.rtake capacity := htracks.snapshot_eq
  have hsize : logger.size = min capacity records.length := htracks.size_eq
  have hdropped : logger.droppedCount = UInt64.ofNat (records.length - capacity) := htracks.droppedCount_eq
  obtain ⟨hle, hnumbers⟩ : records.length ≤ logged ∧ records.map (·.sequence) =
      (List.range' (logged - records.length + 1) records.length).map (UInt64.ofNat ·) := journal_contiguous calls
  clear_value logger logged records
  refine ⟨?_, ?_, ?_, hsize, hsize ▸ Nat.min_le_left _ _, ?_⟩
  · rw [hreturned, toNat_range' (by omega)]
  · rw [hsnapshot, List.rtake, List.rtake]
    congr 1
    omega
  · calc logger.snapshot.map (·.sequence.toNat)
        = ((records.map (·.sequence)).map (·.toNat)).rtake capacity := by
          rw [hsnapshot, List.rtake, List.rtake, List.map_drop, List.map_map, List.length_map]
          rfl
      _ = (List.range' (logged - records.length + 1) records.length).rtake capacity := by
          rw [hnumbers, toNat_range' (by omega)]
      _ = List.range' (logged - logger.size + 1) logger.size := by
          rw [List.rtake, List.length_range', List.drop_range', hsize]
          congr 1 <;> omega
  · rw [hdropped, UInt64.toNat_ofNat', Nat.mod_eq_of_lt (by omega), hsize]
    omega

/-- three records in two slots, a clear, one more -/
theorem lossless_bounded_suffix_wrapped :
    let calls := [Call.log 1 .info .command 7 "a", .log 2 .info .mode 8 "b", .log 3 .info .fdir 9 "c", .clear,
      .log 4 .info .mode 5 "d"]
    (Machine.final call { capacity := 2 } calls).snapshot = [⟨4, 4, .info, .mode, 5, "d"⟩] ∧
    (Machine.final call { capacity := 2 } (calls.take 3)).snapshot.map (·.sequence.toNat) = [2, 3] := by
  refine ⟨(lossless_bounded_suffix 2 (by decide) _ (by decide)).2.1.trans (by decide), ?_⟩
  exact (lossless_bounded_suffix 2 (by decide) _ (by decide)).2.2.1.trans (by decide)

end EventLogger

end AstraFsw
