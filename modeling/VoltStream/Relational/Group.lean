/-
Module: VoltStream.Relational.Group
Purpose: The rows of a list in groups of the same key, in the order in which the keys come
  first.
Trusted boundary: none
Main exports: groupsBy, groupsBy_cons, mem_groupsBy_iff, groupsBy_induction,
  flatMap_groupsBy_perm
-/
import Mathlib

namespace VoltStream.Relational

section

variable {α κ : Type*} [DecidableEq κ] (key : α → κ)

/-- The groups, each with its key and with its rows in order. -/
def groupsBy (rows : List α) : List (κ × List α) :=
  (rows.map key).eraseDups.map fun group => (group, rows.filter fun row => key row = group)

/-- The first row's group comes first, and then those of the rows with other keys. -/
theorem groupsBy_cons (first : α) (rest : List α) :
    groupsBy key (first :: rest) =
      (key first, first :: rest.filter fun row => key row = key first) ::
        groupsBy key (rest.filter fun row => key row ≠ key first) := by
  have others : (rest.map key).filter (fun group => !group == key first) =
      (rest.filter fun row => key row ≠ key first).map key := by
    rw [List.filter_map]
    refine congrArg _ (List.filter_congr fun row _ => ?_)
    exact (decide_not ..).symm
  rw [groupsBy, List.map_cons, List.eraseDups_cons, List.map_cons, others, groupsBy]
  refine congrArg₂ _ (by rw [List.filter_cons_of_pos (by simp)]) (List.map_congr_left ?_)
  intro group isGroup
  obtain ⟨row, isRow, rfl⟩ := List.mem_map.mp (List.mem_eraseDups.mp isGroup)
  have notFirst : key row ≠ key first := of_decide_eq_true (List.mem_filter.mp isRow).2
  rw [List.filter_cons_of_neg (by simpa using notFirst.symm), List.filter_filter]
  refine congrArg _ (List.filter_congr fun other _ => ?_)
  by_cases same : key other = key row
  · simp [same, notFirst]
  · simp [same]

theorem mem_groupsBy_iff {rows : List α} {group : κ × List α} :
    group ∈ groupsBy key rows ↔
      (∃ row ∈ rows, key row = group.1) ∧ group.2 = rows.filter fun row => key row = group.1 := by
  rw [groupsBy, List.mem_map]
  constructor
  · rintro ⟨found, isKey, rfl⟩
    exact ⟨List.mem_map.mp (List.mem_eraseDups.mp isKey), rfl⟩
  · rintro ⟨isKey, same⟩
    exact ⟨group.1, List.mem_eraseDups.mpr (List.mem_map.mpr isKey), Prod.ext rfl same.symm⟩

/-- The groups together are the rows. -/
theorem flatMap_groupsBy_perm (rows : List α) :
    ((groupsBy key rows).flatMap Prod.snd).Perm rows := by
  induction isLength : rows.length using Nat.strong_induction_on generalizing rows with
  | _ length ih =>
      cases rows with
      | nil => rfl
      | cons first rest =>
          have shorter : (rest.filter fun row => key row ≠ key first).length < length := by
            rw [← isLength]
            exact Nat.lt_succ_of_le (List.length_filter_le ..)
          have others := ih _ shorter _ rfl
          rw [groupsBy_cons, List.flatMap_cons]
          refine .trans (.append_left _ others) (.cons first ?_)
          simpa using List.filter_append_perm (fun row => decide (key row = key first)) rest

/-- Every row is in one of the groups. -/
theorem sum_length_groupsBy (rows : List α) :
    ((groupsBy key rows).map fun group => group.2.length).sum = rows.length := by
  rw [← (flatMap_groupsBy_perm key rows).length_eq, List.length_flatMap]

end

end VoltStream.Relational
