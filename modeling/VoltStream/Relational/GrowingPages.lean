/-
Module: VoltStream.Relational.GrowingPages
Purpose: An ordered list that others add to while it is read page by page, each page cut out
  of the list as it is by then.
Trusted boundary: none
Main exports: allPages_same, idxOf_le_of_sublist, mem_page_of_idxOf, exists_page_of_growing
-/
import VoltStream.Relational.Paging

namespace VoltStream.Relational

variable {α : Type*}

/-- The pages of a list that nobody changes are the list. -/
theorem allPages_same (items : List α) (limit count : Nat) :
    (allPages limit count fun _ => items) = items.take (count * limit) := by
  induction count with
  | zero => rw [Nat.zero_mul, List.take_zero, allPages, List.range_zero, List.flatMap_nil]
  | succ count ih => rw [allPages_succ, ih, take_append_page]

section Position

variable [DecidableEq α] {item : α}

/-- Other items that come in move an item further back, never to the front. -/
theorem idxOf_le_of_sublist {first second : List α} (part : first.Sublist second)
    (nodup : second.Nodup) (isIn : item ∈ first) : first.idxOf item ≤ second.idxOf item := by
  induction part with
  | slnil => exact absurd isIn List.not_mem_nil
  | cons other part ih =>
      rw [List.nodup_cons] at nodup
      have differs : other ≠ item := by
        rintro rfl
        exact nodup.1 (part.subset isIn)
      rw [List.idxOf_cons_ne _ differs]
      exact (ih nodup.2 isIn).trans (Nat.le_succ _)
  | cons_cons other part ih =>
      rw [List.nodup_cons] at nodup
      by_cases same : other = item
      · subst same
        simp
      · have isInRest := List.mem_of_ne_of_mem (Ne.symm same) isIn
        rw [List.idxOf_cons_ne _ same, List.idxOf_cons_ne _ same]
        exact Nat.succ_le_succ (ih nodup.2 isInRest)

/-- An item is on the page that its position falls on. -/
theorem mem_page_of_idxOf {items : List α} {limit number : Nat} (isIn : item ∈ items)
    (least : number * limit ≤ items.idxOf item)
    (most : items.idxOf item < (number + 1) * limit) : item ∈ page limit number items := by
  have inRange := List.idxOf_lt_length_of_mem isIn
  have behind : items.drop (items.idxOf item) =
      item :: items.drop (items.idxOf item + 1) := by
    rw [List.drop_eq_getElem_cons inRange, List.getElem_idxOf]
  have front := List.length_take_of_le inRange.le
  rw [← List.take_append_drop (items.idxOf item) items, behind]
  exact mem_page (front.symm ▸ least) (front.symm ▸ most)

/-- While the list only grows, an item that is there from the start is on one of the pages, up
to the first that is not full. -/
theorem exists_page_of_growing {lists : Nat → List α} {limit last : Nat}
    (nodup : ∀ number, (lists number).Nodup)
    (grows : ∀ number, (lists number).Sublist (lists (number + 1)))
    (notFull : (page limit last (lists last)).length < limit) (isIn : item ∈ lists 0) :
    ∃ number ≤ last, item ∈ page limit number (lists number) := by
  have stays : ∀ number, item ∈ lists number := by
    intro number
    induction number with
    | zero => exact isIn
    | succ number ih => exact (grows number).subset ih
  by_contra missed
  push Not at missed
  -- A page that does not show the item has been read before its position.
  have behind : ∀ number ≤ last, (number + 1) * limit ≤ (lists number).idxOf item := by
    intro number
    induction number with
    | zero =>
        intro inTime
        by_contra early
        exact missed 0 inTime (mem_page_of_idxOf (stays 0) (by omega) (by omega))
    | succ number ih =>
        intro inTime
        have moved := idxOf_le_of_sublist (grows number) (nodup (number + 1)) (stays number)
        have before := ih (by omega)
        by_contra early
        exact missed (number + 1) inTime
          (mem_page_of_idxOf (stays (number + 1)) (before.trans moved) (not_le.mp early))
  have position := List.idxOf_lt_length_of_mem (stays last)
  have afterwards := behind last le_rfl
  rw [Nat.succ_mul] at afterwards
  rw [page, List.length_take, List.length_drop] at notFull
  omega

end Position

end VoltStream.Relational
