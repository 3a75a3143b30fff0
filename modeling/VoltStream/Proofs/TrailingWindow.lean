/-
Module: VoltStream.Proofs.TrailingWindow
Purpose: The trailing window of the dataset builder: its left edge, which only moves
  forward and only in the turns of candidates, always cuts off what is too old.
Trusted boundary: none
Main exports: Sorted, stale, windowStart_le, windowStart_le_stale, windowStart_eq,
  trailingWindow, window_eq_trailingWindow
-/
import VoltStream.Ml.Dataset

namespace VoltStream.Ml

open Relational Backend

theorem window5m : timedeltaMinutes rollingWindow5mMinutes = 300000000 := by decide +kernel

theorem window15m : timedeltaMinutes rollingWindow15mMinutes = 900000000 := by decide +kernel

theorem lookback_eq : lookback = 900000000 := by decide +kernel

/-- Readings in the order of their timestamps, ties in any order. -/
abbrev Sorted (telemetry : List Telemetry) : Prop :=
  telemetry.Pairwise fun first second => first.timestamp ≤ second.timestamp

variable {telemetry : List Telemetry}

theorem Sorted.getElem_le (sorted : Sorted telemetry) {i j : Nat} {first second : Telemetry}
    (one : telemetry[i]? = some first) (two : telemetry[j]? = some second) (before : i ≤ j) :
    first.timestamp ≤ second.timestamp := by
  obtain ⟨inOne, rfl⟩ := List.getElem?_eq_some_iff.mp one
  obtain ⟨inTwo, rfl⟩ := List.getElem?_eq_some_iff.mp two
  rcases Nat.eq_or_lt_of_le before with rfl | less
  · exact le_refl _
  · exact List.pairwise_iff_getElem.mp sorted i j inOne inTwo less

/-! ### The left edge -/

/-- How many readings are too old for a window that ends at this instant. -/
def stale (telemetry : List Telemetry) (asOf : Timestamp) : Nat :=
  (telemetry.takeWhile fun reading => reading.timestamp < asOf - lookback).length

theorem stale_mono {early late : Timestamp} (before : early ≤ late) :
    stale telemetry early ≤ stale telemetry late := by
  apply length_takeWhile_le
  intro reading tooOld
  exact decide_eq_true ((of_decide_eq_true tooOld).trans_le (sub_le_sub_right before lookback))

/-- A reading is not too old for its own window. -/
theorem not_stale (reading : Telemetry) :
    ¬decide (reading.timestamp < reading.timestamp - lookback) = true := by
  rw [decide_eq_true_eq, lookback_eq]
  linarith

theorem stale_le {i : Nat} {reading : Telemetry} (isReading : telemetry[i]? = some reading) :
    stale telemetry reading.timestamp ≤ i :=
  (takeWhile_of_miss isReading (not_stale reading)).1

/-- Up to a reading, as many readings are stale as in all. -/
theorem stale_take {i : Nat} {reading : Telemetry} (isReading : telemetry[i]? = some reading) :
    stale (telemetry.take (i + 1)) reading.timestamp = stale telemetry reading.timestamp :=
  congrArg List.length (takeWhile_of_miss isReading (not_stale reading)).2

theorem advance_eq {asOf : Timestamp} {start : Nat} (within : start ≤ stale telemetry asOf) :
    advance telemetry asOf start = stale telemetry asOf :=
  add_length_takeWhile_drop within

/-- The left edge has not passed what is stale for a later instant. -/
theorem windowStart_le (sorted : Sorted telemetry) {i : Nat} {asOf : Timestamp}
    (behind : ∀ j < i, ∀ reading, telemetry[j]? = some reading → reading.timestamp ≤ asOf) :
    windowStart telemetry i ≤ stale telemetry asOf := by
  induction i generalizing asOf with
  | zero => exact Nat.zero_le _
  | succ i ih =>
      have front : windowStart telemetry i ≤ stale telemetry asOf :=
        ih fun j before => behind j (Nat.lt_succ_of_lt before)
      unfold windowStart
      split
      · next reading isReading =>
          split
          · have here : windowStart telemetry i ≤ stale telemetry reading.timestamp :=
              ih fun j before other isOther => sorted.getElem_le isOther isReading before.le
            rw [advance_eq here]
            exact stale_mono (behind i (Nat.lt_succ_self i) reading isReading)
          · exact front
      · exact front

/-- Neither before the turn of a reading nor after it is the left edge past it. -/
theorem windowStart_le_stale (sorted : Sorted telemetry) {i : Nat} {reading : Telemetry}
    (isReading : telemetry[i]? = some reading) :
    windowStart telemetry i ≤ stale telemetry reading.timestamp ∧
      windowStart telemetry (i + 1) ≤ stale telemetry reading.timestamp :=
  ⟨windowStart_le sorted fun _ before _ isOther =>
      sorted.getElem_le isOther isReading before.le,
    windowStart_le sorted fun _ before _ isOther =>
      sorted.getElem_le isOther isReading (Nat.le_of_lt_succ before)⟩

/-- In the turn of a candidate the left edge stands at the first reading that is
not stale. -/
theorem windowStart_eq (sorted : Sorted telemetry) {i : Nat} {reading : Telemetry}
    (isReading : telemetry[i]? = some reading) (candidate : isCandidate reading = true) :
    windowStart telemetry (i + 1) = stale telemetry reading.timestamp := by
  simp only [windowStart, isReading, candidate, if_true]
  exact advance_eq (windowStart_le_stale sorted isReading).1

theorem windowStart_of_not_isCandidate {i : Nat} {reading : Telemetry}
    (isReading : telemetry[i]? = some reading) (notCandidate : isCandidate reading = false) :
    windowStart telemetry (i + 1) = windowStart telemetry i := by
  simp [windowStart, isReading, notCandidate]

/-! ### The window -/

/-- Of the readings up to this index, those that are at most a lookback older than this
instant. -/
def trailingWindow (telemetry : List Telemetry) (i : Nat) (asOf : Timestamp) : List Telemetry :=
  (telemetry.take (i + 1)).filter fun reading => asOf - lookback ≤ reading.timestamp

/-- What the builder cuts out is the trailing window. -/
theorem window_eq_trailingWindow (sorted : Sorted telemetry) {i : Nat} {reading : Telemetry}
    (isReading : telemetry[i]? = some reading) (candidate : isCandidate reading = true) :
    (telemetry.take (i + 1)).drop (windowStart telemetry (i + 1)) =
      trailingWindow telemetry i reading.timestamp := by
  have closed : (telemetry.take (i + 1)).Pairwise fun first second =>
      decide (reading.timestamp - lookback ≤ first.timestamp) = true →
      decide (reading.timestamp - lookback ≤ second.timestamp) = true :=
    (sorted.sublist (List.take_sublist ..)).imp fun less hit =>
      decide_eq_true ((of_decide_eq_true hit).trans less)
  have kept := filter_eq_dropWhile closed
  simp only [← decide_not, not_le] at kept
  rw [windowStart_eq sorted isReading candidate, ← stale_take isReading, stale,
    drop_length_takeWhile, trailingWindow, kept]

end VoltStream.Ml
