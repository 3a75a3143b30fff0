/-
Module: VoltStream.Relational.Spacing
Purpose: Instants that are at least a gap apart: how far the last of them is from the
  first, and how many of them a stretch of time has room for.
Trusted boundary: none
Main exports: SpacedBy, SpacedBy.add_nsmul_le_getLast, SpacedBy.nsmul_le_of_within
-/
import Mathlib

namespace VoltStream.Relational

section

variable {τ : Type*} [AddCommGroup τ] [LinearOrder τ] [IsOrderedAddMonoid τ] {gap : τ}

/-- Each instant is at least a gap later than those before it. -/
def SpacedBy (gap : τ) (times : List τ) : Prop :=
  times.Pairwise fun first second => first + gap ≤ second

/-- There is a gap for every instant after the first. -/
theorem SpacedBy.add_nsmul_le_getLast {first : τ} {rest : List τ}
    (spaced : SpacedBy gap (first :: rest)) :
    first + rest.length • gap ≤ (first :: rest).getLast (List.cons_ne_nil first rest) := by
  induction rest generalizing first with
  | nil => simp
  | cons next later ih =>
      obtain ⟨fromFirst, others⟩ := List.pairwise_cons.mp spaced
      have one : first + gap ≤ next := fromFirst next List.mem_cons_self
      rw [List.getLast_cons (List.cons_ne_nil next later)]
      calc first + (next :: later).length • gap
          = first + gap + later.length • gap := by
            rw [List.length_cons, succ_nsmul']
            abel
        _ ≤ next + later.length • gap := by gcongr
        _ ≤ _ := ih others

/-- A stretch of time has room for one instant more than there are gaps in it. -/
theorem SpacedBy.nsmul_le_of_within {times : List τ} (spaced : SpacedBy gap times)
    (nonempty : times ≠ []) {low high : τ} (within : ∀ time ∈ times, low ≤ time ∧ time ≤ high) :
    low + (times.length - 1) • gap ≤ high := by
  cases times with
  | nil => exact absurd rfl nonempty
  | cons first rest =>
      have span := spaced.add_nsmul_le_getLast
      have least := (within first List.mem_cons_self).1
      have most := (within _ (List.getLast_mem (List.cons_ne_nil first rest))).2
      rw [List.length_cons, Nat.add_sub_cancel]
      exact (add_le_add_left least _).trans (span.trans most)

end

end VoltStream.Relational
