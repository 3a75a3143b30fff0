/-
Module: VoltStream.Relational.MaximalRuns
Purpose: The maximal runs of consecutive items with a property, and how they
  change when one more item arrives.
Trusted boundary: none
Main exports: Episode, episodes, noted, episodes_concat
-/
import Mathlib

namespace VoltStream.Relational

/-- A maximal run of consecutive active items: its first item, the items after
that, and the inactive item that ended it, if any. -/
structure Episode (α : Type*) where
  first : α
  rest : List α
  next : Option α

namespace Episode

variable {α : Type*}

/-- The last item of the run. -/
def last (episode : Episode α) : α := episode.rest.getLastD episode.first

def extend (item : α) (episode : Episode α) : Episode α :=
  { episode with rest := episode.rest ++ [item] }

def finish (item : α) (episode : Episode α) : Episode α := { episode with next := some item }

@[simp] theorem last_extend (item : α) (episode : Episode α) :
    (episode.extend item).last = item := by
  simp [last, extend]

end Episode

variable {α : Type*} (active : α → Bool)

/-- The maximal runs of active items, in order. -/
def episodes : List α → List (Episode α)
  | [] => []
  | item :: items =>
      if active item then
        { first := item
          rest := items.takeWhile active
          next := (items.dropWhile active).head? } :: episodes (items.dropWhile active)
      else episodes items
termination_by items => items.length
decreasing_by
  · exact Nat.lt_succ_of_le (List.dropWhile_suffix active).length_le
  · exact Nat.lt_succ_self _

/-- Some run is still going. -/
def ongoing (runs : List (Episode α)) : Bool := runs.any fun run => run.next.isNone

/-- Apply a change to the run that is still going. -/
def onOngoing (change : Episode α → Episode α) (runs : List (Episode α)) : List (Episode α) :=
  runs.map fun run => if run.next.isSome then run else change run

/-- One more item: it extends the ongoing run, starts one, or ends one. -/
def noted (runs : List (Episode α)) (item : α) : List (Episode α) :=
  if active item then
    if ongoing runs then onOngoing (Episode.extend item) runs
    else runs ++ [{ first := item, rest := [], next := none }]
  else onOngoing (Episode.finish item) runs

@[simp] theorem episodes_nil : episodes active [] = [] := by rw [episodes]

theorem episodes_cons_of_active {item : α} (isActive : active item = true) (items : List α) :
    episodes active (item :: items) =
      { first := item
        rest := items.takeWhile active
        next := (items.dropWhile active).head? } :: episodes active (items.dropWhile active) := by
  rw [episodes, if_pos isActive]

theorem episodes_cons_of_inactive {item : α} (inactive : active item = false) (items : List α) :
    episodes active (item :: items) = episodes active items := by
  rw [episodes, if_neg (by simp [inactive])]

/-- A run that has ended is not touched by later items. -/
theorem noted_cons_of_ended {run : Episode α} (ended : run.next.isSome = true)
    (runs : List (Episode α)) (item : α) :
    noted active (run :: runs) item = run :: noted active runs item := by
  have notOngoing : run.next.isNone = false := by
    cases nextItem : run.next with
    | none => simp [nextItem] at ended
    | some _ => rfl
  simp only [noted, ongoing, onOngoing, List.any_cons, notOngoing, Bool.false_or, List.map_cons,
    ended, if_true, List.cons_append]
  by_cases isActive : active item = true
  · by_cases going : (runs.any fun run => run.next.isNone) = true
    · simp only [isActive, going, if_true]
    · simp only [isActive, going, if_true, if_false, Bool.false_eq_true]
  · simp only [isActive, if_false, Bool.false_eq_true]

/-- The runs of a sequence with one more item at its end. -/
theorem episodes_concat (items : List α) (item : α) :
    episodes active (items ++ [item]) = noted active (episodes active items) item := by
  induction items using episodes.induct active with
  | case1 =>
      by_cases isActive : active item = true
      · simp [episodes_cons_of_active active isActive, noted, ongoing, isActive]
      · simp [episodes_cons_of_inactive active (Bool.eq_false_iff.mpr isActive), noted, onOngoing,
          isActive]
  | case2 head tail headActive ih =>
      rw [List.cons_append, episodes_cons_of_active active headActive,
        episodes_cons_of_active active headActive]
      cases remainder : tail.dropWhile active with
      | nil =>
          -- The first run reaches the end of the sequence, so it is the one to extend or end.
          have allActive : ∀ other ∈ tail, active other = true :=
            List.dropWhile_eq_nil_iff.mp remainder
          have whole : tail.takeWhile active = tail := List.takeWhile_eq_self_iff.mpr allActive
          rw [List.takeWhile_append_of_pos allActive, List.dropWhile_append_of_pos allActive, whole]
          by_cases isActive : active item = true
          · simp [noted, ongoing, onOngoing, isActive, Episode.extend]
          · have inactive : active item = false := Bool.eq_false_iff.mpr isActive
            simp [noted, onOngoing, inactive, Episode.finish,
              episodes_cons_of_inactive active inactive]
      | cons next later =>
          -- The first run has ended already.
          rw [remainder] at ih
          have ends : tail.takeWhile active ++ next :: later = tail := by
            rw [← remainder]
            exact List.takeWhile_append_dropWhile
          have nextInactive : active next = false := by
            have stop := List.head?_dropWhile_not active tail
            simpa only [remainder, List.head?_cons] using stop
          have front : ∀ other ∈ tail.takeWhile active, active other = true :=
            fun other member => List.mem_takeWhile_imp member
          have moved : tail ++ [item] = tail.takeWhile active ++ (next :: later ++ [item]) := by
            rw [← List.append_assoc, ends]
          rw [moved, List.takeWhile_append_of_pos front, List.dropWhile_append_of_pos front]
          rw [List.cons_append] at ih ⊢
          rw [List.takeWhile_cons_of_neg (by simp [nextInactive]),
            List.dropWhile_cons_of_neg (by simp [nextInactive]), List.append_nil, List.head?_cons,
            List.head?_cons, ih]
          exact (noted_cons_of_ended active rfl _ item).symm
  | case3 head tail headInactive ih =>
      have inactive : active head = false := Bool.eq_false_iff.mpr headInactive
      rw [List.cons_append, episodes_cons_of_inactive active inactive,
        episodes_cons_of_inactive active inactive, ih]

/-- Tests that agree on related items find the same. -/
theorem any_eq_of_forall₂ {β γ : Type*} {Rel : β → γ → Prop} {left : List β} {right : List γ}
    (related : List.Forall₂ Rel left right) {test : β → Bool} {test' : γ → Bool}
    (agree : ∀ one other, Rel one other → test one = test' other) :
    left.any test = right.any test' := by
  induction related with
  | nil => rfl
  | cons head _ ih => rw [List.any_cons, List.any_cons, agree _ _ head, ih]

end VoltStream.Relational
