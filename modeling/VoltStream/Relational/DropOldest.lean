/-
Module: VoltStream.Relational.DropOldest
Purpose: A bounded queue that makes room by dropping its oldest item, and what its
  reader gets to see of everything that was pushed.
Trusted boundary: none
Main exports: pushDropOldest, Reader, Reader.queue, Reader.received, Reader.push,
  Reader.take, Reader.queue_push, Reader.exists_positions
-/
import Mathlib

namespace VoltStream.Relational

variable {α : Type*} {capacity : Nat}

/-- The queue after a push: of more items than the capacity, the newest are kept. -/
def pushDropOldest (capacity : Nat) (queue : List α) (item : α) : List α :=
  (queue ++ [item]).drop (queue.length + 1 - capacity)

/-- What one reader has seen: the items pushed for it, by their positions.  Those up to
`next` it has taken or lost, the others are its queue. -/
structure Reader (capacity : Nat) (α : Type*) where
  pushed : List α
  next : Nat
  taken : List Nat
  dropped : List Nat
  nextBound : next ≤ pushed.length
  queueBound : pushed.length ≤ next + capacity
  takenRising : taken.Pairwise (· < ·)
  accounted : (taken ++ dropped).Perm (List.range next)

namespace Reader

/-- Nothing has been pushed. -/
def start : Reader capacity α where
  pushed := []
  next := 0
  taken := []
  dropped := []
  nextBound := le_rfl
  queueBound := Nat.zero_le _
  takenRising := .nil
  accounted := .nil

variable (reader : Reader capacity α)

/-- What has been pushed and is still there. -/
def queue : List α := reader.pushed.drop reader.next

/-- What has been taken, in the order in which it was. -/
def received : List α := reader.taken.filterMap (reader.pushed[·]?)

theorem lt_of_mem_taken {position : Nat} (isTaken : position ∈ reader.taken) :
    position < reader.next :=
  List.mem_range.mp (reader.accounted.mem_iff.mp (List.mem_append_left _ isTaken))

/-- An item is pushed; in a full queue the oldest is lost. -/
def push (item : α) : Reader capacity α :=
  if room : reader.pushed.length < reader.next + capacity then
    { reader with
      pushed := reader.pushed ++ [item]
      nextBound := by
        rw [List.length_append]
        exact reader.nextBound.trans (Nat.le_add_right ..)
      queueBound := by
        rw [List.length_append, List.length_singleton]
        exact room }
  else
    { pushed := reader.pushed ++ [item]
      next := reader.next + 1
      taken := reader.taken
      dropped := reader.dropped ++ [reader.next]
      nextBound := by
        rw [List.length_append, List.length_singleton]
        exact Nat.succ_le_succ reader.nextBound
      queueBound := by
        have bound := reader.queueBound
        rw [List.length_append, List.length_singleton]
        omega
      takenRising := reader.takenRising
      accounted := by
        rw [← List.append_assoc, List.range_succ]
        exact reader.accounted.append_right _ }

/-- The oldest item of a queue that is not empty is taken. -/
def take (nonempty : reader.next < reader.pushed.length) : Reader capacity α where
  pushed := reader.pushed
  next := reader.next + 1
  taken := reader.taken ++ [reader.next]
  dropped := reader.dropped
  nextBound := nonempty
  queueBound := by
    have bound := reader.queueBound
    omega
  takenRising := by
    refine List.pairwise_append.mpr ⟨reader.takenRising, List.pairwise_singleton .., ?_⟩
    intro position isTaken last isLast
    rw [List.mem_singleton.mp isLast]
    exact reader.lt_of_mem_taken isTaken
  accounted := by
    rw [List.range_succ, List.append_assoc]
    refine (List.perm_append_comm.append_left _).trans ?_
    rw [← List.append_assoc]
    exact reader.accounted.append_right _

theorem length_queue : reader.queue.length = reader.pushed.length - reader.next :=
  List.length_drop

theorem length_queue_le : reader.queue.length ≤ capacity := by
  have bound := reader.queueBound
  rw [length_queue]
  omega

/-- The queue is the end of what was pushed. -/
theorem queue_suffix : reader.queue <:+ reader.pushed := List.drop_suffix ..

@[simp] theorem push_pushed (item : α) : (reader.push item).pushed = reader.pushed ++ [item] := by
  unfold push
  split <;> rfl

@[simp] theorem push_taken (item : α) : (reader.push item).taken = reader.taken := by
  unfold push
  split <;> rfl

/-- A push into a full queue drops the position that was next, and no other does. -/
theorem mem_dropped_push {item : α} {position : Nat} :
    position ∈ (reader.push item).dropped ↔
      position ∈ reader.dropped ∨ position = reader.next ∧ reader.queue.length = capacity := by
  have least := reader.nextBound
  have most := reader.queueBound
  unfold push
  rw [length_queue]
  split
  · next room => exact (or_iff_left fun full => by omega).symm
  · next full =>
      rw [List.mem_append, List.mem_singleton]
      exact or_congr_right (iff_self_and.mpr fun _ => by omega)

/-- The reader's queue is a queue that drops its oldest item. -/
theorem queue_push (item : α) :
    (reader.push item).queue = pushDropOldest capacity reader.queue item := by
  have least := reader.nextBound
  have most := reader.queueBound
  rw [pushDropOldest, length_queue, queue, queue, ← List.drop_append_of_le_length least,
    List.drop_drop, push_pushed]
  congr 1
  unfold push
  split
  · simp only
    omega
  · simp only
    omega

theorem queue_take (nonempty : reader.next < reader.pushed.length) :
    (reader.take nonempty).queue = reader.queue.tail := by
  rw [queue, queue, List.tail_drop]
  rfl

theorem received_push (item : α) : (reader.push item).received = reader.received := by
  rw [received, received, push_taken, push_pushed]
  refine List.filterMap_congr fun position isTaken => ?_
  exact List.getElem?_append_left ((reader.lt_of_mem_taken isTaken).trans_le reader.nextBound)

theorem received_take (nonempty : reader.next < reader.pushed.length) :
    (reader.take nonempty).received = reader.received ++ [reader.pushed[reader.next]] := by
  change (reader.taken ++ [reader.next]).filterMap (reader.pushed[·]?) = _
  rw [List.filterMap_append, received]
  simp [nonempty]

/-- What the reader has received and what it has in its queue are items at rising
positions of what was pushed; the positions between them were dropped. -/
theorem exists_positions :
    ∃ positions : List Nat, positions.Pairwise (· < ·) ∧
      positions.map (reader.pushed[·]?) = (reader.received ++ reader.queue).map some ∧
      ∀ position < reader.pushed.length, position ∉ positions → position ∈ reader.dropped := by
  refine ⟨reader.taken ++ List.range' reader.next (reader.pushed.length - reader.next), ?_, ?_, ?_⟩
  · refine List.pairwise_append.mpr ⟨reader.takenRising, List.pairwise_lt_range' .., ?_⟩
    intro position isTaken later isQueued
    exact (reader.lt_of_mem_taken isTaken).trans_le (List.mem_range'_1.mp isQueued).1
  · have taken : reader.taken.map (reader.pushed[·]?) = reader.received.map some := by
      rw [received, List.map_filterMap_some_eq_filter_map_isSome, eq_comm, List.filter_eq_self]
      intro found isFound
      obtain ⟨position, isTaken, rfl⟩ := List.mem_map.mp isFound
      have inRange := (reader.lt_of_mem_taken isTaken).trans_le reader.nextBound
      simp [inRange]
    have queued : (List.range' reader.next (reader.pushed.length - reader.next)).map
        (reader.pushed[·]?) = reader.queue.map some := by
      refine List.ext_getElem ?_ fun index inRange _ => ?_
      · rw [List.length_map, List.length_map, List.length_range', length_queue]
      · rw [List.length_map, List.length_range'] at inRange
        have inside : reader.next + index < reader.pushed.length := by omega
        simp [queue, inside]
    rw [List.map_append, taken, queued, List.map_append]
  · intro position inRange missing
    rw [List.mem_append, not_or, List.mem_range'_1] at missing
    have passed : position ∈ reader.taken ++ reader.dropped := by
      rw [reader.accounted.mem_iff, List.mem_range]
      omega
    exact (List.mem_append.mp passed).resolve_left missing.1

end Reader

end VoltStream.Relational
