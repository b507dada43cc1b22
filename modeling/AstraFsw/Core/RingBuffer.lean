/-
A ring buffer: a bounded list of slots, of which the oldest is overwritten when the buffer is full.

`RingBuffer α capacity` carries its invariant: the slots fit, the oldest index is in range, and it is 0 until the buffer
is full. `contents` is the slots from the oldest on.
- `contents_push`: a push appends to the contents and keeps the last `capacity` of the result;
- `contents_pushAll`: so after a run they are the last `capacity` of the old contents and everything pushed, over any
  number of wraps;
- `readBack_eq_rotate`: reading the slots through an index modulo their number is a rotation.
-/
import Mathlib.Tactic
import Mathlib.Data.List.DropRight
import Mathlib.Data.List.Rotate

namespace AstraFsw

/-! ## Last elements -/

section LastElements

variable {α : Type*}

theorem rtake_of_length_le {xs : List α} {n : ℕ} (h : xs.length ≤ n) : xs.rtake n = xs := by
  rw [List.rtake, Nat.sub_eq_zero_of_le h, List.drop_zero]

theorem length_rtake (xs : List α) (n : ℕ) : (xs.rtake n).length = min n xs.length := by
  rw [List.rtake, List.length_drop]
  omega

/-- keeping the last `n` before an append loses nothing that is kept after it -/
theorem rtake_append_rtake (xs ys : List α) (n : ℕ) : (xs.rtake n ++ ys).rtake n = (xs ++ ys).rtake n := by
  simp only [List.rtake, List.drop_append, List.length_append, List.length_drop, List.drop_drop]
  congr 2 <;> omega

/-- appending to a full list of `n` drops its head -/
theorem rtake_concat_of_length {xs : List α} {n : ℕ} (h : xs.length = n) (hpos : 0 < n) (a : α) :
    (xs ++ [a]).rtake n = xs.tail ++ [a] := by
  rw [List.rtake, List.length_append, List.length_singleton, h, Nat.add_sub_cancel_left,
    List.drop_append_of_le_length (by omega), List.drop_one]

/-- reading a list index by index gives the list -/
theorem filterMap_getElem?_range (xs : List α) : (List.range xs.length).filterMap (xs[·]?) = xs := by
  induction xs using List.reverseRecOn with
  | nil => rfl
  | append_singleton xs a ih =>
    have hprefix : ∀ i ∈ List.range xs.length, (xs ++ [a])[i]? = xs[i]? := by
      intro i hi
      exact List.getElem?_append_left (List.mem_range.1 hi)
    rw [List.length_append, List.length_singleton, List.range_succ, List.filterMap_append,
      List.filterMap_congr hprefix, ih]
    simp

/-- reading index by index from `start` on, modulo the length, gives the rotated list -/
theorem readBack_eq_rotate (xs : List α) (start : ℕ) :
    ((List.range xs.length).filterMap fun offset => xs[(start + offset) % xs.length]?) = xs.rotate start := by
  have hread : ∀ offset ∈ List.range xs.length,
      xs[(start + offset) % xs.length]? = (xs.rotate start)[offset]? := by
    intro offset hoffset
    rw [List.getElem?_rotate (List.mem_range.1 hoffset), Nat.add_comm]
  rw [List.filterMap_congr hread, ← List.length_rotate (n := start)]
  exact filterMap_getElem?_range (xs.rotate start)

/-- overwriting the first element of a rotation and rotating on appends to its tail -/
theorem set_rotate_succ {xs : List α} {start : ℕ} (h : start < xs.length) (a : α) :
    (xs.set start a).rotate (start + 1) = (xs.rotate start).tail ++ [a] := by
  have hset : xs.set start a = (xs.take start ++ [a]) ++ xs.drop (start + 1) := by
    rw [List.set_eq_take_append_cons_drop, if_pos h, List.append_assoc, List.singleton_append]
  have hlength : (xs.take start ++ [a]).length = start + 1 := by
    rw [List.length_append, List.length_singleton, List.length_take_of_le (Nat.le_of_lt h)]
  calc (xs.set start a).rotate (start + 1)
      = ((xs.take start ++ [a]) ++ xs.drop (start + 1)).rotate (xs.take start ++ [a]).length := by rw [hset, hlength]
    _ = xs.drop (start + 1) ++ (xs.take start ++ [a]) := List.rotate_append_length_eq ..
    _ = (xs.rotate start).tail ++ [a] := by
      rw [List.rotate_eq_drop_append_take (Nat.le_of_lt h), List.drop_eq_getElem_cons h, List.cons_append,
        List.tail_cons, List.append_assoc]

end LastElements

/-! ## The buffer -/

structure RingBuffer (α : Type*) (capacity : ℕ) where
  slots : List α
  /-- the index of the oldest slot -/
  start : ℕ
  length_le : slots.length ≤ capacity
  start_lt : start < capacity
  start_of_room : slots.length < capacity → start = 0

namespace RingBuffer

variable {α : Type*} {capacity : ℕ}

def empty (hpos : 0 < capacity) : RingBuffer α capacity where
  slots := []
  start := 0
  length_le := Nat.zero_le _
  start_lt := hpos
  start_of_room := fun _ => rfl

/-- the elements, oldest first -/
def contents (r : RingBuffer α capacity) : List α := r.slots.rotate r.start

/-- append while there is room, else overwrite the oldest slot -/
def push (r : RingBuffer α capacity) (a : α) : RingBuffer α capacity :=
  if hroom : r.slots.length < capacity then
    { slots := r.slots ++ [a]
      start := r.start
      length_le := by rw [List.length_append, List.length_singleton]; exact hroom
      start_lt := r.start_lt
      start_of_room := fun _ => r.start_of_room hroom }
  else
    { slots := r.slots.set r.start a
      start := (r.start + 1) % capacity
      length_le := by rw [List.length_set]; exact r.length_le
      start_lt := Nat.mod_lt _ (Nat.zero_lt_of_lt r.start_lt)
      start_of_room := by rw [List.length_set]; exact fun h => absurd h hroom }

@[simp] theorem contents_empty (hpos : 0 < capacity) : (empty hpos : RingBuffer α capacity).contents = [] := rfl

theorem length_contents (r : RingBuffer α capacity) : r.contents.length = r.slots.length :=
  List.length_rotate ..

/-- **One push.** -/
theorem contents_push (r : RingBuffer α capacity) (a : α) :
    (r.push a).contents = (r.contents ++ [a]).rtake capacity := by
  unfold push contents
  by_cases hroom : r.slots.length < capacity
  · simp only [hroom, dif_pos, r.start_of_room hroom, List.rotate_zero]
    rw [rtake_of_length_le (by rw [List.length_append, List.length_singleton]; exact hroom)]
  · have hfull : r.slots.length = capacity := Nat.le_antisymm r.length_le (Nat.not_lt.1 hroom)
    have hstart : r.start < r.slots.length := by rw [hfull]; exact r.start_lt
    have hmod : (r.slots.set r.start a).rotate ((r.start + 1) % capacity) =
        (r.slots.set r.start a).rotate (r.start + 1) := by
      have := List.rotate_mod (r.slots.set r.start a) (r.start + 1)
      rwa [List.length_set, hfull] at this
    simp only [hroom, dif_neg, not_false_eq_true]
    rw [hmod, set_rotate_succ hstart,
      rtake_concat_of_length (by rw [List.length_rotate, hfull]) (Nat.zero_lt_of_lt r.start_lt)]

def pushAll (r : RingBuffer α capacity) (xs : List α) : RingBuffer α capacity := xs.foldl push r

theorem pushAll_concat (r : RingBuffer α capacity) (xs : List α) (a : α) :
    r.pushAll (xs ++ [a]) = (r.pushAll xs).push a := by
  simp [pushAll, List.foldl_append]

/-- **A whole run.** The buffer keeps the last `capacity` elements of its contents and everything pushed after them. -/
theorem contents_pushAll (r : RingBuffer α capacity) (xs : List α) :
    (r.pushAll xs).contents = (r.contents ++ xs).rtake capacity := by
  induction xs using List.reverseRecOn with
  | nil =>
    rw [List.append_nil, rtake_of_length_le (by rw [length_contents]; exact r.length_le)]
    rfl
  | append_singleton xs a ih =>
    rw [pushAll_concat, contents_push, ih, rtake_append_rtake, List.append_assoc]

theorem contents_pushAll_empty (hpos : 0 < capacity) (xs : List α) :
    ((empty hpos).pushAll xs).contents = xs.rtake capacity := by
  rw [contents_pushAll, contents_empty, List.nil_append]

end RingBuffer

end AstraFsw
