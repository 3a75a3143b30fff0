/-
Module: VoltStream.Relational.Least
Purpose: The first of the least elements of a list, by a comparison that need not compare
  all of them.
Trusted boundary: none
Main exports: least, least_mem, least_eq_or_before, not_before_least
-/
import Mathlib

namespace VoltStream.Relational

section

variable {α : Type*} (before : α → α → Bool)

/-- What is left of going through the list with the least so far in hand. -/
def least (first : α) (rest : List α) : α :=
  rest.foldl (fun best next => if before next best then next else best) first

theorem least_cons (first next : α) (rest : List α) :
    least before first (next :: rest) =
      least before (if before next first then next else first) rest := rfl

theorem least_mem (first : α) (rest : List α) : least before first rest ∈ first :: rest := by
  induction rest generalizing first with
  | nil => exact List.mem_singleton_self first
  | cons next rest ih =>
      rw [least_cons]
      split
      · exact List.mem_cons_of_mem _ (ih next)
      · rcases List.mem_cons.mp (ih first) with isFirst | later
        · exact List.mem_cons.mpr (.inl isFirst)
        · exact List.mem_cons_of_mem _ (List.mem_cons_of_mem _ later)

variable {before}
variable (transitive : ∀ one two three, before one two = true → before two three = true →
  before one three = true)
include transitive

/-- The least element is the first one, or it is before the first one. -/
theorem least_eq_or_before (first : α) (rest : List α) :
    least before first rest = first ∨ before (least before first rest) first = true := by
  induction rest generalizing first with
  | nil => exact .inl rfl
  | cons next rest ih =>
      rw [least_cons]
      by_cases isBefore : before next first = true
      · rw [if_pos isBefore]
        rcases ih next with same | further
        · exact .inr (by rw [same, isBefore])
        · exact .inr (transitive _ _ _ further isBefore)
      · rw [if_neg isBefore]
        exact ih first

/-- No element is before the least one. -/
theorem not_before_least (irreflexive : ∀ one, before one one = false) (first : α)
    (rest : List α) : ∀ other ∈ first :: rest, before other (least before first rest) = false := by
  induction rest generalizing first with
  | nil =>
      intro other isFirst
      obtain rfl := List.mem_singleton.mp isFirst
      exact irreflexive other
  | cons next rest ih =>
      rw [least_cons]
      set best := if before next first then next else first with isBest
      have beaten := ih best
      -- what is before the least element would be before the best of the first two
      have kept : ∀ other, before other best = false →
          before other (least before best rest) = false := by
        intro other notBefore
        refine Bool.eq_false_of_not_eq_true fun isBefore => ?_
        rcases least_eq_or_before transitive best rest with same | further
        · rw [same, notBefore] at isBefore
          exact Bool.false_ne_true isBefore
        · rw [transitive _ _ _ isBefore further] at notBefore
          exact Bool.false_ne_true notBefore.symm
      have first' : before first best = false := by
        rw [isBest]
        split
        · next isBefore =>
            refine Bool.eq_false_of_not_eq_true fun back => ?_
            have loop := transitive _ _ _ isBefore back
            rw [irreflexive] at loop
            exact Bool.false_ne_true loop
        · exact irreflexive first
      have next' : before next best = false := by
        rw [isBest]
        split
        · exact irreflexive next
        · next notBefore => exact Bool.eq_false_of_not_eq_true notBefore
      intro other isOther
      rcases List.mem_cons.mp isOther with rfl | isOther
      · exact kept _ first'
      · rcases List.mem_cons.mp isOther with rfl | later
        · exact kept _ next'
        · exact beaten other (List.mem_cons_of_mem _ later)

end

end VoltStream.Relational
