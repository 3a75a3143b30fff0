/-
Module: VoltStream.Frontend.UseAsync
Purpose: The hook that fetches whenever its dependencies change, over everything that can
  happen to a component: commits, effects, responses in any order, and the end.
Trusted boundary: human-reviewed spec of `useAsync.ts` and of when React runs effects: an
  effect after the commit that changed its dependencies and before the next commit, its
  cleanup before the next effect or when the component is unmounted
Main exports: AsyncState, Result, Fetch, Async, Async.mount, Async.Move, Async.perform,
  Async.Step
-/
import VoltStream.Frontend.FleetDashboard

namespace VoltStream.Frontend

/-- `AsyncState<T>`. -/
structure AsyncState (δ : Type) where
  data : Option δ
  loading : Bool
  error : Option String
deriving Repr, DecidableEq

/-- What the promise of a fetch comes to. -/
inductive Result (δ : Type) where
  | resolved (data : δ)
  | rejected (err : Rejection)
deriving Repr, DecidableEq

/-- The state that the hook starts with, and that its effect sets. -/
def AsyncState.fetching {δ : Type} : AsyncState δ := ⟨none, true, none⟩

/-- The state that `then` or `catch` sets. -/
def Result.toState {δ : Type} : Result δ → AsyncState δ
  | .resolved data => ⟨some data, false, none⟩
  | .rejected err => ⟨none, false, some err.message⟩

/-- One run of the effect: the dependencies of its `fetcher`, its `cancelled`, and whether
its promise is settled. -/
structure Fetch (κ : Type) where
  deps : κ
  cancelled : Bool
  settled : Bool
deriving Repr, DecidableEq

/-- A component that uses the hook: what the hook holds, the dependencies of the last
commit, whether the effect of that commit is still to run, and the runs of the effect. -/
structure Async (κ δ : Type) where
  state : AsyncState δ
  deps : κ
  effectPending : Bool
  fetches : List (Fetch κ)
  unmounted : Bool
deriving Repr, DecidableEq

namespace Async

variable {κ δ : Type}

/-- The first commit. -/
def mount (deps : κ) : Async κ δ where
  state := .fetching
  deps := deps
  effectPending := true
  fetches := []
  unmounted := false

/-- What can happen to the component. -/
inductive Move (κ δ : Type) where
  | commit (deps : κ)
  | effect
  | settle (fetch : Nat) (result : Result δ)
  | unmount
deriving Repr, DecidableEq

/-- The cleanup of the last effect. -/
def cleanup (fetches : List (Fetch κ)) : List (Fetch κ) :=
  fetches.modify (fetches.length - 1) fun last => { last with cancelled := true }

variable [DecidableEq κ] (self : Async κ δ)

/-- What a move does, if it is possible. -/
def perform : Move κ δ → Option (Async κ δ)
  | .commit deps =>
      if self.unmounted ∨ self.effectPending then none
      else if deps = self.deps then some self
      else some { self with deps := deps, effectPending := true }
  | .effect =>
      if self.unmounted ∨ self.effectPending = false then none
      else
        some
          { self with
            state := .fetching
            effectPending := false
            fetches := cleanup self.fetches ++ [⟨self.deps, false, false⟩] }
  | .settle index result =>
      match self.fetches[index]? with
      | none => none
      | some fetch =>
          if fetch.settled then none
          else
            some
              { self with
                state := if fetch.cancelled then self.state else result.toState
                fetches := self.fetches.set index { fetch with settled := true } }
  | .unmount =>
      if self.unmounted then none
      else some { self with fetches := cleanup self.fetches, unmounted := true }

/-- `perform` as a relation. -/
def Step (before : Async κ δ) (move : Move κ δ) (after : Async κ δ) : Prop :=
  before.perform move = some after

end Async

end VoltStream.Frontend
