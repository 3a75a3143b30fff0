/-
Module: VoltStream.Relational.Run
Purpose: Runs of transition systems: the states a deterministic run visits, the
  steps it takes, and labelled runs of a step relation.
Trusted boundary: none
Main exports: visited, taken, visited_iff_taken, taken_invariant,
  visited_iff_taken_within, InOrder, Trace, Trace.invariant, Trace.mono, play, trace_of_play,
  play_of_trace, filterMap_concat, takeWhile_not_concat, filterMap_takeWhile_concat
-/
import Mathlib

namespace VoltStream.Relational

section Deterministic

variable {σ α : Type*} (step : σ → α → σ)

/-- Every state a run passes through, the first and the last included. -/
def visited : σ → List α → List σ
  | state, [] => [state]
  | state, action :: rest => state :: visited (step state action) rest

/-- Every step of a run: the action together with the state it is taken in. -/
def taken : σ → List α → List (σ × α)
  | _, [] => []
  | state, action :: rest => (state, action) :: taken (step state action) rest

theorem start_mem_visited (state : σ) (actions : List α) : state ∈ visited step state actions := by
  cases actions <;> simp [visited]

theorem taken_concat (state : σ) (actions : List α) (action : α) :
    taken step state (actions ++ [action]) =
      taken step state actions ++ [(actions.foldl step state, action)] := by
  induction actions generalizing state with
  | nil => rfl
  | cons first rest ih => simp only [List.cons_append, taken, List.foldl_cons, ih]

/-- The exactness principle for runs.  When a step from a good state ends in a
good state and meets its own guarantee exactly if it satisfies `Harmless`, a
run from a good state is good throughout exactly if all its steps are
harmless in the state they are taken in. -/
theorem visited_and_taken_iff {Good : σ → Prop} {Guarantee Harmless : σ → α → Prop}
    (exactStep : ∀ state action, Good state →
      ((Good (step state action) ∧ Guarantee state action) ↔ Harmless state action))
    {state : σ} (start : Good state) (actions : List α) :
    ((∀ reached ∈ visited step state actions, Good reached) ∧
        ∀ taking ∈ taken step state actions, Guarantee taking.1 taking.2) ↔
      ∀ taking ∈ taken step state actions, Harmless taking.1 taking.2 := by
  induction actions generalizing state with
  | nil => simpa [visited, taken] using start
  | cons action rest ih =>
      have first := exactStep state action start
      simp only [visited, taken, List.forall_mem_cons]
      constructor
      · rintro ⟨⟨-, later⟩, guarantee, guarantees⟩
        have nextGood : Good (step state action) :=
          later _ (start_mem_visited step _ rest)
        exact ⟨first.mp ⟨nextGood, guarantee⟩, (ih nextGood).mp ⟨later, guarantees⟩⟩
      · rintro ⟨harmless, harmlessRest⟩
        obtain ⟨nextGood, guarantee⟩ := first.mpr harmless
        obtain ⟨later, guarantees⟩ := (ih nextGood).mpr harmlessRest
        exact ⟨⟨start, later⟩, guarantee, guarantees⟩

/-- The exactness principle for a property of states alone. -/
theorem visited_iff_taken {Good : σ → Prop} {Harmless : σ → α → Prop}
    (exactStep : ∀ state action, Good state →
      (Good (step state action) ↔ Harmless state action))
    {state : σ} (start : Good state) (actions : List α) :
    (∀ reached ∈ visited step state actions, Good reached) ↔
      ∀ taking ∈ taken step state actions, Harmless taking.1 taking.2 := by
  have both := @visited_and_taken_iff σ α step Good (fun _ _ => True) Harmless
    (fun state action good => by simpa using exactStep state action good) state start actions
  simpa using both

/-- An invariant that admissible steps keep holds in every state a run takes a
step in. -/
theorem taken_invariant {Sound : σ → Prop} {Admissible : σ → α → Prop}
    (kept : ∀ state action, Sound state → Admissible state action → Sound (step state action))
    {state : σ} (sound : Sound state) (actions : List α)
    (admissible : ∀ taking ∈ taken step state actions, Admissible taking.1 taking.2) :
    ∀ taking ∈ taken step state actions, Sound taking.1 := by
  induction actions generalizing state with
  | nil => simp [taken]
  | cons action rest ih =>
      simp only [taken, List.forall_mem_cons] at admissible ⊢
      exact ⟨sound, ih (kept state action sound admissible.1) admissible.2⟩

/-- The exactness principle under an invariant that admissible steps keep: over
a run of admissible steps the property holds throughout exactly if every step
is harmless in the state it is taken in. -/
theorem visited_iff_taken_within {Sound Good : σ → Prop} {Admissible Harmless : σ → α → Prop}
    (kept : ∀ state action, Sound state → Admissible state action → Sound (step state action))
    (exactStep : ∀ state action, Sound state → Admissible state action → Good state →
      (Good (step state action) ↔ Harmless state action))
    {state : σ} (sound : Sound state) (start : Good state) (actions : List α)
    (admissible : ∀ taking ∈ taken step state actions, Admissible taking.1 taking.2) :
    (∀ reached ∈ visited step state actions, Good reached) ↔
      ∀ taking ∈ taken step state actions, Harmless taking.1 taking.2 := by
  induction actions generalizing state with
  | nil => simpa [visited, taken] using start
  | cons action rest ih =>
      simp only [visited, taken, List.forall_mem_cons] at admissible ⊢
      obtain ⟨now, later⟩ := admissible
      have nextSound := kept state action sound now
      have first := exactStep state action sound now start
      constructor
      · rintro ⟨-, good⟩
        have nextGood : Good (step state action) := good _ (start_mem_visited step _ rest)
        exact ⟨first.mp nextGood, (ih nextSound nextGood later).mp good⟩
      · rintro ⟨harmless, harmlessRest⟩
        exact ⟨start, (ih nextSound (first.mpr harmless) later).mpr harmlessRest⟩

/-- The last state of a run satisfies every invariant. -/
theorem foldl_invariant {Good : σ → Prop} (kept : ∀ state action, Good state →
    Good (step state action)) {state : σ} (start : Good state) (actions : List α) :
    Good (actions.foldl step state) := by
  induction actions generalizing state with
  | nil => exact start
  | cons action rest ih => exact ih (kept state action start)

end Deterministic

section Order

variable {ℓ : Type*} {early labels : List ℓ} {label last : ℓ}

/-- The labels occur in this order, possibly with others between them. -/
def InOrder (wanted labels : List ℓ) : Prop := wanted.Sublist labels

/-- In a longer run an order is found before its last step, or completed by it. -/
theorem inOrder_concat :
    InOrder (early ++ [label]) (labels ++ [last]) ↔
      InOrder (early ++ [label]) labels ∨ InOrder early labels ∧ label = last := by
  unfold InOrder
  constructor
  · intro found
    rcases List.sublist_append_iff.mp found with ⟨front, back, split, inFront, inBack⟩
    rcases List.sublist_singleton.mp inBack with rfl | rfl
    · rw [List.append_nil] at split
      exact Or.inl (split ▸ inFront)
    · obtain ⟨rfl, same⟩ := List.append_inj' split rfl
      exact Or.inr ⟨inFront, List.singleton_inj.mp same⟩
  · rintro (found | ⟨found, rfl⟩)
    · exact found.trans (List.sublist_append_left labels [last])
    · exact found.append (List.Sublist.refl [label])

theorem inOrder_pair_concat {first second : ℓ} :
    InOrder [first, second] (labels ++ [last]) ↔
      InOrder [first, second] labels ∨ first ∈ labels ∧ second = last := by
  have general := @inOrder_concat ℓ [first] labels second last
  simpa only [InOrder, List.singleton_sublist, List.singleton_append] using general

end Order

/-- Labelled runs of a step relation; the labels are in the order of the steps. -/
inductive Trace {σ ℓ : Type*} (next : σ → ℓ → σ → Prop) : σ → List ℓ → σ → Prop where
  | nil (state : σ) : Trace next state [] state
  | snoc {first state last : σ} {labels : List ℓ} {label : ℓ}
      (run : Trace next first labels state) (step : next state label last) :
      Trace next first (labels ++ [label]) last

namespace Trace

variable {σ ℓ : Type*} {next : σ → ℓ → σ → Prop}

/-- A property of labels and states kept by every step holds at the end of
every run. -/
theorem invariant (Good : List ℓ → σ → Prop) {first last : σ} {labels : List ℓ}
    (run : Trace next first labels last) (start : Good [] first)
    (kept : ∀ labels state label after, Good labels state → next state label after →
      Good (labels ++ [label]) after) : Good labels last := by
  induction run with
  | nil => exact start
  | snoc _ step ih => exact kept _ _ _ _ ih step

/-- A run is a run of every relation that allows its steps. -/
theorem mono {next' : σ → ℓ → σ → Prop}
    (weaker : ∀ before label after, next before label after → next' before label after)
    {first last : σ} {labels : List ℓ} (run : Trace next first labels last) :
    Trace next' first labels last := by
  induction run with
  | nil => exact .nil _
  | snoc _ step ih => exact .snoc ih (weaker _ _ _ step)

theorem append {first middle last : σ} {early late : List ℓ}
    (one : Trace next first early middle) (two : Trace next middle late last) :
    Trace next first (early ++ late) last := by
  induction two with
  | nil => simpa using one
  | snoc _ step ih =>
      rw [← List.append_assoc]
      exact .snoc ih step

end Trace

section Play

variable {σ α : Type*} (perform : σ → α → Option σ)

/-- Run a schedule of actions, each of which may turn out impossible. -/
def play : List α → σ → Option σ
  | [], state => some state
  | action :: rest, state => (perform state action).bind (play rest)

/-- What a schedule plays is a run. -/
theorem trace_of_play {schedule : List α} {first last : σ}
    (played : play perform schedule first = some last) :
    Trace (fun before action after => perform before action = some after) first schedule last := by
  induction schedule generalizing first with
  | nil =>
      obtain rfl := Option.some.inj played
      exact .nil first
  | cons action rest ih =>
      obtain ⟨next, performed, continued⟩ := Option.bind_eq_some_iff.mp played
      have one : Trace (fun before action after => perform before action = some after) first
          ([] ++ [action]) next := .snoc (.nil first) performed
      exact one.append (ih continued)

theorem play_append (early late : List α) (first : σ) :
    play perform (early ++ late) first = (play perform early first).bind (play perform late) := by
  induction early generalizing first with
  | nil => rfl
  | cons action rest ih =>
      rw [List.cons_append, play, play, Option.bind_assoc]
      exact congrArg _ (funext fun next => ih next)

/-- And a run is played by its schedule. -/
theorem play_of_trace {schedule : List α} {first last : σ}
    (run : Trace (fun before action after => perform before action = some after) first schedule
      last) : play perform schedule first = some last := by
  induction run with
  | nil => rfl
  | @snoc before after early action run step ih =>
      rw [play_append, ih, Option.bind_some, play, step]
      rfl

end Play

/-! ### One more action -/

section Concat

variable {α β : Type*} (ends : α → Bool) (actions : List α) (action : α)

theorem filterMap_concat (pick : α → Option β) :
    (actions ++ [action]).filterMap pick = actions.filterMap pick ++ (pick action).toList := by
  rw [List.filterMap_append]
  cases picked : pick action <;> simp [picked]

/-- One more action comes before the end, unless it is the end or behind it. -/
theorem takeWhile_not_concat :
    (actions ++ [action]).takeWhile (fun action => !ends action) =
      actions.takeWhile (fun action => !ends action) ++
        if actions.any ends || ends action then [] else [action] := by
  induction actions with
  | nil => cases isEnd : ends action <;> simp [isEnd]
  | cons first rest ih =>
      cases isEnd : ends first with
      | true => simp [isEnd]
      | false => simp [isEnd, ih]

/-- What is picked out of what comes before the end. -/
theorem filterMap_takeWhile_concat {pick : α → Option β}
    (deaf : ends action = true → pick action = none) :
    ((actions ++ [action]).takeWhile fun action => !ends action).filterMap pick =
      (actions.takeWhile fun action => !ends action).filterMap pick ++
        (if actions.any ends then none else pick action).toList := by
  rw [takeWhile_not_concat, List.filterMap_append]
  congr 1
  cases actions.any ends with
  | true => rfl
  | false =>
      cases isEnd : ends action with
      | true => rw [deaf isEnd]; rfl
      | false => cases picked : pick action <;> simp [picked]

end Concat

end VoltStream.Relational
