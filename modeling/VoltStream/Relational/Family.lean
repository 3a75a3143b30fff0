/-
Module: VoltStream.Relational.Family
Purpose: Families of things of which one changes at a time, and totals over them.
Trusted boundary: none
Main exports: update_cases, forall_update, sum_update, sum_le_of_forall,
  length_flatten_le
-/
import Mathlib.Algebra.Order.BigOperators.Group.Finset
import Mathlib.Tactic.Abel

namespace VoltStream.Relational

section Family

variable {ι α M : Type*} [DecidableEq ι]

/-- What is found after a change of one member is its new value, or an unchanged
value of another member. -/
theorem update_cases {family : ι → α} {member index : ι} {value wanted : α}
    (found : Function.update family member value index = wanted) :
    (index = member ∧ value = wanted) ∨ (index ≠ member ∧ family index = wanted) := by
  by_cases same : index = member
  · subst same
    exact Or.inl ⟨rfl, (Function.update_self _ _ _).symm.trans found⟩
  · exact Or.inr ⟨same, (Function.update_of_ne same _ _).symm.trans found⟩

/-- A change of one member keeps what holds of all, if it holds of the new value. -/
theorem forall_update (Good : α → Prop) {family : ι → α} {member : ι} {value : α}
    (all : ∀ index, Good (family index)) (new : Good value) :
    ∀ index, Good (Function.update family member value index) := by
  intro index
  by_cases same : index = member
  · subst same
    rwa [Function.update_self]
  · rw [Function.update_of_ne same]
    exact all index

/-- How a change of one member shows in a total. -/
theorem sum_update [Fintype ι] [AddCommMonoid M] (weight : α → M) (family : ι → α) (member : ι)
    (value : α) :
    (∑ index, weight (Function.update family member value index)) + weight (family member) =
      (∑ index, weight (family index)) + weight value := by
  have others : ∑ index ∈ Finset.univ.erase member,
      weight (Function.update family member value index) =
        ∑ index ∈ Finset.univ.erase member, weight (family index) := by
    apply Finset.sum_congr rfl
    intro index different
    rw [Function.update_of_ne (Finset.ne_of_mem_erase different)]
  rw [← Finset.add_sum_erase Finset.univ _ (Finset.mem_univ member),
    ← Finset.add_sum_erase Finset.univ (fun index => weight (family index))
      (Finset.mem_univ member), Function.update_self, others]
  abel

end Family

theorem sum_le_of_forall {count bound : Nat} {size : Fin count → Nat}
    (each : ∀ index, size index ≤ bound) : ∑ index, size index ≤ count * bound := by
  simpa using Finset.sum_le_card_nsmul Finset.univ size bound fun index _ => each index

theorem length_flatten_le {α : Type*} {lists : List (List α)} {bound : Nat}
    (each : ∀ list ∈ lists, list.length ≤ bound) :
    lists.flatten.length ≤ lists.length * bound := by
  rw [List.length_flatten]
  simpa using List.sum_le_card_nsmul (lists.map List.length) bound (by simpa using each)

end VoltStream.Relational
