/-
Module: VoltStream.Numeric.Clamp
Purpose: Values cut off at both ends of a range, and sums cut off after every
  summand.
Trusted boundary: none
Main exports: clamp, clamp_bounds, clamp_of_bounds, clamp_mono, clamp_clamp_add
-/
import Mathlib

namespace VoltStream.Numeric

section Order

variable {α : Type*} [LinearOrder α] {low high value : α}

/-- The value, cut off at both ends of a range. -/
def clamp (low high value : α) : α := max low (min high value)

theorem clamp_bounds (ordered : low ≤ high) (value : α) :
    low ≤ clamp low high value ∧ clamp low high value ≤ high :=
  ⟨le_max_left .., max_le ordered (min_le_left ..)⟩

theorem clamp_of_bounds (least : low ≤ value) (most : value ≤ high) :
    clamp low high value = value := by
  rw [clamp, min_eq_right most, max_eq_right least]

theorem clamp_of_le (most : value ≤ high) : clamp low high value = max low value := by
  rw [clamp, min_eq_right most]

theorem clamp_of_ge (ordered : low ≤ high) (least : low ≤ value) :
    clamp low high value = min high value := by
  rw [clamp, max_eq_right (le_min ordered least)]

theorem clamp_mono {larger : α} (more : value ≤ larger) :
    clamp low high value ≤ clamp low high larger :=
  max_le_max_left low (min_le_min_left high more)

end Order

section Sums

variable {α : Type*} [AddCommGroup α] [LinearOrder α] [IsOrderedAddMonoid α] {low high start : α}

/-- Where sums only fall, a cut between two summands makes no difference after the
last cut. -/
theorem clamp_clamp_add_of_nonpos {first second : α} (most : start ≤ high)
    (firstFalls : first ≤ 0) (secondFalls : second ≤ 0) :
    clamp low high (clamp low high (start + first) + second) =
      clamp low high (start + (first + second)) := by
  have reached : start + first ≤ high := (add_le_of_nonpos_right firstFalls).trans most
  rw [clamp_of_le reached, ← add_assoc]
  rcases le_total low (start + first) with above | below
  · rw [max_eq_right above]
  · have lowest : low + second ≤ low := add_le_of_nonpos_right secondFalls
    have lower : start + first + second ≤ low :=
      (add_le_add_left below second).trans lowest
    rw [max_eq_left below, clamp, clamp, max_eq_left ((min_le_right ..).trans lowest),
      max_eq_left ((min_le_right ..).trans lower)]

/-- Where sums only rise, neither does one. -/
theorem clamp_clamp_add_of_nonneg {first second : α} (ordered : low ≤ high)
    (least : low ≤ start) (firstRises : 0 ≤ first) (secondRises : 0 ≤ second) :
    clamp low high (clamp low high (start + first) + second) =
      clamp low high (start + (first + second)) := by
  have reached : low ≤ start + first := least.trans (le_add_of_nonneg_right firstRises)
  rw [clamp_of_ge ordered reached, ← add_assoc]
  rcases le_total (start + first) high with below | above
  · rw [min_eq_right below]
  · have highest : high ≤ high + second := le_add_of_nonneg_right secondRises
    have higher : high ≤ start + first + second :=
      above.trans (le_add_of_nonneg_right secondRises)
    rw [min_eq_left above, clamp, clamp, min_eq_left highest, min_eq_left higher]

/-- Summands of one sign are cut off together as they are one after the other. -/
theorem clamp_clamp_add {first second : α} (least : low ≤ start) (most : start ≤ high)
    (sameSign : 0 ≤ first ∧ 0 ≤ second ∨ first ≤ 0 ∧ second ≤ 0) :
    clamp low high (clamp low high (start + first) + second) =
      clamp low high (start + (first + second)) := by
  rcases sameSign with ⟨firstRises, secondRises⟩ | ⟨firstFalls, secondFalls⟩
  · exact clamp_clamp_add_of_nonneg (least.trans most) least firstRises secondRises
  · exact clamp_clamp_add_of_nonpos most firstFalls secondFalls

end Sums

end VoltStream.Numeric
