/-
Module: VoltStream.Proofs.DashboardHistory
Purpose: Whether the dashboard ever goes back in time: it does exactly if a summary of the
  REST channel crosses another one on its way.
Trusted boundary: human-reviewed statements that the summary does not go back in time
  (`NeverGoesBack`), that events arrive in order (`UpdatesInOrder`) and that no summary of
  the REST channel crosses another one (`Uncrossed`)
Main exports: Channel, Move.delivery, deliveries, Mount.summary_of_run, NeverGoesBack,
  UpdatesInOrder, Uncrossed, neverGoesBack_iff, late_snapshot_goes_back
-/
import VoltStream.Frontend.FleetDashboard

namespace VoltStream.Frontend

open Relational Mount

variable {τ : Type}

/-! ### What is delivered -/

/-- Where a summary comes from: the response to a request, or an event. -/
inductive Channel where
  | rest
  | events
deriving Repr, DecidableEq

/-- The summary that a move delivers, and its channel. -/
def Move.delivery : Move τ → Option (Channel × Snapshot τ)
  | .snapshotFetched data => some (.rest, data)
  | .refetched data => some (.rest, data)
  | .fleetUpdate payload => some (.events, payload)
  | _ => none

/-- The summaries that are delivered before the component is unmounted. -/
def deliveries (moves : List (Move τ)) : List (Channel × Snapshot τ) :=
  (heard moves).filterMap Move.delivery

theorem deliveries_concat (moves : List (Move τ)) (move : Move τ) :
    deliveries (moves ++ [move]) =
      deliveries moves ++ (if moves.any Move.isUnmount then none else move.delivery).toList :=
  filterMap_heard_concat rfl moves move

theorem RealtimeFleetSummaryState.summary_react (state : RealtimeFleetSummaryState τ)
    (move : Move τ) :
    (state.react move).summary = (move.delivery.map Prod.snd).or state.summary := by
  cases move <;> rfl

namespace Mount

variable {moves : List (Move τ)} {last : Mount τ}

/-- The hook holds the summary that was delivered last. -/
theorem summary_of_run (run : Trace Step mounted moves last) :
    last.state.summary = (deliveries moves).getLast?.map Prod.snd := by
  induction run with
  | nil => rfl
  | @snoc before after moves move run step ih =>
      rw [(transition_of_step step).state, cancelled_of_run run, deliveries_concat,
        List.getLast?_append]
      split
      · rw [ih]
        rfl
      · rw [RealtimeFleetSummaryState.summary_react, ih]
        cases move.delivery <;> rfl

end Mount

/-! ### Back in time -/

section

variable [LinearOrder τ]

/-- The second summary was computed no earlier than the first. -/
def NoEarlier (first second : Channel × Snapshot τ) : Prop :=
  first.2.computedAt ≤ second.2.computedAt

/-- No step of the run changes the held summary to one that was computed earlier. -/
def NeverGoesBack (moves : List (Move τ)) : Prop :=
  ∀ early move late before after, moves = early ++ move :: late →
    Trace Step mounted early before → before.Step move after →
      ∀ held ∈ before.state.summary, ∀ next ∈ after.state.summary,
        held.computedAt ≤ next.computedAt

/-- Events arrive in the order in which their summaries were computed. -/
def UpdatesInOrder (moves : List (Move τ)) : Prop :=
  (deliveries moves).Pairwise fun first second =>
    first.1 = .events ∧ second.1 = .events → NoEarlier first second

/-- No response to a request crosses another delivery: whatever is delivered before it
was computed no later, and whatever is delivered after it no earlier. -/
def Uncrossed (moves : List (Move τ)) : Prop :=
  (deliveries moves).Pairwise fun first second =>
    first.1 = .rest ∨ second.1 = .rest → NoEarlier first second

theorem events_of_not_rest {first second : Channel} (neither : ¬ (first = .rest ∨ second = .rest)) :
    first = .events ∧ second = .events := by
  cases first <;> cases second <;> simp_all

theorem uncrossed_iff {moves : List (Move τ)} (ordered : UpdatesInOrder moves) :
    Uncrossed moves ↔ (deliveries moves).IsChain NoEarlier := by
  have transitive : IsTrans (Channel × Snapshot τ) NoEarlier :=
    ⟨fun first second third one two => le_trans one two⟩
  rw [List.isChain_iff_pairwise]
  constructor
  · intro uncrossed
    refine (ordered.and uncrossed).imp ?_
    rintro first second ⟨inOrder, across⟩
    by_cases channels : first.1 = .rest ∨ second.1 = .rest
    · exact across channels
    · exact inOrder (events_of_not_rest channels)
  · intro chain
    refine chain.imp ?_
    intro first second noEarlier _
    exact noEarlier

/-- A list with one more delivery, if any, is in order exactly if it was and the last
summary is no earlier than the one that was last. -/
theorem isChain_concat (early : List (Channel × Snapshot τ))
    (latest : Option (Channel × Snapshot τ)) :
    (early ++ latest.toList).IsChain NoEarlier ↔
      early.IsChain NoEarlier ∧ ∀ held ∈ early.getLast?.map Prod.snd,
        ∀ next ∈ (early ++ latest.toList).getLast?.map Prod.snd,
          held.computedAt ≤ next.computedAt := by
  cases latest with
  | none =>
      rw [Option.toList_none, List.append_nil, iff_self_and]
      intro _ held isHeld next isNext
      rw [Option.mem_unique isNext isHeld]
  | some delivery =>
      rw [Option.toList_some, List.isChain_append, List.getLast?_concat]
      cases early.getLast? <;> simp [NoEarlier]

variable {moves : List (Move τ)} {move : Move τ} {before after last : Mount τ}

/-- A longer run never goes back exactly if it did not before, and its last step does not. -/
theorem neverGoesBack_concat (run : Trace Step mounted moves before)
    (step : before.Step move after) :
    NeverGoesBack (moves ++ [move]) ↔
      NeverGoesBack moves ∧ ∀ held ∈ before.state.summary, ∀ next ∈ after.state.summary,
        held.computedAt ≤ next.computedAt := by
  constructor
  · intro never
    refine ⟨?_, never moves move [] before after rfl run step⟩
    rintro early other late start stop rfl earlyRun otherStep
    refine never early other (late ++ [move]) start stop ?_ earlyRun otherStep
    rw [List.append_assoc, List.cons_append]
  · rintro ⟨never, lastStep⟩ early other late start stop split earlyRun otherStep
    rcases List.eq_nil_or_concat' late with rfl | ⟨front, final, rfl⟩
    · obtain ⟨rfl, same⟩ := List.append_inj' split rfl
      obtain rfl := List.singleton_inj.mp same
      rw [summary_of_run earlyRun, summary_of_run (earlyRun.snoc otherStep),
        ← summary_of_run run, ← summary_of_run (run.snoc step)]
      exact lastStep
    · rw [← List.cons_append, ← List.append_assoc] at split
      obtain ⟨rfl, -⟩ := List.append_inj' split rfl
      exact never early other front start stop rfl earlyRun otherStep

/-- A run never goes back exactly if its deliveries are in the order of computation. -/
theorem neverGoesBack_iff_isChain (run : Trace Step mounted moves last) :
    NeverGoesBack moves ↔ (deliveries moves).IsChain NoEarlier := by
  induction run with
  | nil =>
      refine iff_of_true ?_ .nil
      intro early move late before after split
      cases early <;> cases split
  | @snoc before after moves move run step ih =>
      rw [neverGoesBack_concat run step, ih, summary_of_run run,
        summary_of_run (run.snoc step), deliveries_concat, isChain_concat]

/-- Of events in order, the summary that the hook holds never goes back in time exactly if
no response to a request crosses another delivery. -/
theorem neverGoesBack_iff (run : Trace Step mounted moves last) (ordered : UpdatesInOrder moves) :
    NeverGoesBack moves ↔ Uncrossed moves :=
  (neverGoesBack_iff_isChain run).trans (uncrossed_iff ordered).symm

instance : DecidableRel (@NoEarlier τ _) := fun first second =>
  inferInstanceAs (Decidable (first.2.computedAt ≤ second.2.computedAt))

instance : DecidablePred (@UpdatesInOrder τ _) := fun _ =>
  inferInstanceAs (Decidable (List.Pairwise _ _))

instance : DecidablePred (@Uncrossed τ _) := fun _ =>
  inferInstanceAs (Decidable (List.Pairwise _ _))

end

/-! ### A slow response -/

/-- The summary of a fleet of batteries that are all idle. -/
def idleFleet (batteries : Int) (computedAt : Nat) : Snapshot Nat where
  summary :=
    { totalDevices := batteries
      onlineDevices := batteries
      offlineDevices := 0
      averageSoc := 50
      totalAvailableEnergyKwh := 5 * batteries
      chargingDevices := 0
      dischargingDevices := 0
      idleDevices := batteries
      activeAlerts := 0
      criticalAlerts := 0 }
  computedAt := computedAt

/-- The connection is lost and comes back; each response is there before the next event. -/
def promptResponses : List (Move Nat) :=
  [.snapshotFetched (idleFleet 1 1), .opened, .fleetUpdate (idleFleet 2 3), .errored false,
    .opened, .refetched (idleFleet 3 5), .fleetUpdate (idleFleet 3 6)]

theorem sample_neverGoesBack : NeverGoesBack promptResponses := by
  have run : Trace Step mounted promptResponses _ := trace_of_play perform rfl
  exact (neverGoesBack_iff run (by decide)).mpr (by decide)

/-- The first request is answered after an event that was computed later. -/
def lateSnapshot : List (Move Nat) :=
  [.opened, .fleetUpdate (idleFleet 2 3), .snapshotFetched (idleFleet 1 1)]

/-- The response replaces what the event has brought. -/
theorem late_snapshot_goes_back :
    ∃ last, Trace Step mounted lateSnapshot last ∧ UpdatesInOrder lateSnapshot ∧
      ¬ NeverGoesBack lateSnapshot := by
  have early : Trace Step mounted [.opened, .fleetUpdate (idleFleet 2 3)] _ :=
    trace_of_play perform rfl
  refine ⟨_, trace_of_play perform rfl, by decide, ?_⟩
  intro never
  have back := never [.opened, .fleetUpdate (idleFleet 2 3)] (.snapshotFetched (idleFleet 1 1)) []
    _ _ rfl early rfl (idleFleet 2 3) rfl (idleFleet 1 1) rfl
  exact absurd back (by decide)

end VoltStream.Frontend
