/-
Module: VoltStream.Proofs.IngestionCounters
Purpose: Whether the telemetry counters of a process match the rows it has committed:
  they do until a batch fails between its two commits.
Trusted boundary: human-reviewed statement that the counters match (`CountersMatch`)
Main exports: IngestionProcess.Transition, IngestionProcess.transition_of_step,
  IngestionProcess.Balanced, IngestionProcess.Stored, IngestionProcess.CountersMatch,
  IngestionProcess.countersMatch_iff, IngestionProcess.failed_rules_break_counters
-/
import VoltStream.Relational.Family
import VoltStream.Relational.Run
import VoltStream.Backend.IngestionMetrics

namespace VoltStream.Backend

open Relational

/-! ### The ids of a request -/

/-- The rows that a request in this stage has committed and not counted yet. -/
def Stage.stored : Stage → Multiset Uuid
  | .evaluating _ insertedIds => insertedIds
  | .counting _ insertedIds => insertedIds
  | _ => 0

theorem Stage.stored_of_isIdle {stage : Stage} (idle : stage.isIdle = true) : stage.stored = 0 := by
  cases stage with
  | idle => rfl
  | _ => cases idle

/-- The rows that a request in this stage has inserted and not committed yet. -/
def Stage.uncommitted : Stage → List Uuid
  | .inserting _ _ insertedIds => insertedIds
  | _ => []

/-- The ids returned are some of those inserted, and a batch is evaluated only if there
are any. -/
def Stage.WellFormed : Stage → Prop
  | .inserting request todo insertedIds =>
      ∃ done, request.events = done ++ todo ∧ insertedIds.Sublist (done.map TelemetryEvent.eventId)
  | .evaluating request insertedIds =>
      insertedIds ≠ [] ∧ insertedIds.Sublist (request.events.map TelemetryEvent.eventId)
  | .counting request insertedIds =>
      insertedIds.Sublist (request.events.map TelemetryEvent.eventId)
  | _ => True

namespace Request

variable {request : Request} {insertedIds : List Uuid}

theorem stored_afterCommit (request : Request) (insertedIds : List Uuid) :
    (request.afterCommit insertedIds).stored = insertedIds := by
  unfold afterCommit
  split
  · rfl
  · split <;> rfl

theorem uncommitted_afterCommit (request : Request) (insertedIds : List Uuid) :
    (request.afterCommit insertedIds).uncommitted = [] := by
  unfold afterCommit
  split
  · rfl
  · split <;> rfl

theorem wellFormed_afterCommit
    (some : insertedIds.Sublist (request.events.map TelemetryEvent.eventId)) :
    (request.afterCommit insertedIds).WellFormed := by
  unfold afterCommit
  split
  · exact some
  · split
    · next any => exact ⟨any, some⟩
    · exact some

/-- What is counted as inserted are the ids returned, for either kind of request, and as
duplicates the rest. -/
theorem counts_eq (some : insertedIds.Sublist (request.events.map TelemetryEvent.eventId)) :
    request.counts insertedIds = (insertedIds.length,
      ((request.events.map TelemetryEvent.eventId).diff insertedIds).length) := by
  have rest : ((request.events.map TelemetryEvent.eventId).diff insertedIds).length =
      request.events.length - insertedIds.length := by
    have fits : (insertedIds : Multiset Uuid) ≤ (request.events.map TelemetryEvent.eventId) :=
      Multiset.coe_le.mpr some.subperm
    have card := Multiset.card_sub fits
    rwa [Multiset.coe_sub, Multiset.coe_card, Multiset.coe_card, Multiset.coe_card,
      List.length_map] at card
  rw [rest]
  cases request with
  | single event =>
      rcases List.sublist_singleton.mp some with rfl | rfl
      · rfl
      · rfl
  | batch request => rfl

end Request

/-! ### What a move can do -/

namespace IngestionProcess

variable {connections : Nat} {before after process : IngestionProcess connections}
  {move : Move connections} {moves : List (Move connections)}

/-- Everything a move can do. -/
inductive Transition (before : IngestionProcess connections) :
    Move connections → IngestionProcess connections → Prop where
  | received {session : Fin connections} {request : Request}
      (stage : before.stages session = .idle) :
      Transition before (.receive session request)
        { before.setStage session (.received request) with
          metrics.received := before.metrics.received + request.events.length }
  | found {session : Fin connections} {request : Request}
      (stage : before.stages session = .received request) :
      Transition before (.lookup session)
        (before.setStage session (.inserting request request.events []))
  | refused {session : Fin connections} {request : Request}
      (stage : before.stages session = .received request) :
      Transition before (.lookup session) (before.setStage session .idle)
  | skipped {session : Fin connections} {request : Request} {event : TelemetryEvent}
      {todo : List TelemetryEvent} {insertedIds : List Uuid}
      (stage : before.stages session = .inserting request (event :: todo) insertedIds) :
      Transition before (.insertRow session)
        (before.setStage session (.inserting request todo insertedIds))
  | inserted {session : Fin connections} {request : Request} {event : TelemetryEvent}
      {todo : List TelemetryEvent} {insertedIds : List Uuid}
      (stage : before.stages session = .inserting request (event :: todo) insertedIds)
      (free : (before.telemetry event.eventId).lockedAgainst session = false)
      (absent : (before.telemetry event.eventId).view session = none) :
      Transition before (.insertRow session)
        { before.setStage session (.inserting request todo (insertedIds ++ [event.eventId])) with
          telemetry := Function.update before.telemetry event.eventId
            ((before.telemetry event.eventId).write session event.toTelemetry) }
  | stored {session : Fin connections} {request : Request} {insertedIds : List Uuid}
      (stage : before.stages session = .inserting request [] insertedIds) :
      Transition before (.commit session)
        { before.setStage session (request.afterCommit insertedIds) with
          telemetry := fun eventId => (before.telemetry eventId).commit session
          ledger.ownRows := before.ledger.ownRows ++ insertedIds }
  | evaluated {session : Fin connections} {request : Request} {insertedIds : List Uuid}
      (stage : before.stages session = .evaluating request insertedIds) :
      Transition before (.commit session)
        (before.setStage session (.counting request insertedIds))
  | counted {session : Fin connections} {request : Request} {insertedIds : List Uuid}
      (stage : before.stages session = .counting request insertedIds) :
      Transition before (.count session)
        { before.setStage session .idle with
          metrics.inserted := before.metrics.inserted + (request.counts insertedIds).1
          metrics.duplicates := before.metrics.duplicates + (request.counts insertedIds).2
          ledger.countedInserted := before.ledger.countedInserted ++ insertedIds
          ledger.countedDuplicate := before.ledger.countedDuplicate ++
            (request.events.map TelemetryEvent.eventId).diff insertedIds }
  | dropped {session : Fin connections} {request : Request}
      (stage : before.stages session = .received request) :
      Transition before (.fail session) (before.setStage session .idle)
  | rolledBack {session : Fin connections} {request : Request} {todo : List TelemetryEvent}
      {insertedIds : List Uuid}
      (stage : before.stages session = .inserting request todo insertedIds) :
      Transition before (.fail session)
        { before.setStage session .idle with
          telemetry := fun eventId => (before.telemetry eventId).rollback session }
  | abandoned {session : Fin connections} {request : Request} {insertedIds : List Uuid}
      (stage : before.stages session = .evaluating request insertedIds) :
      Transition before (.failAfterCommit session)
        { before.setStage session .idle with
          ledger.abandoned := before.ledger.abandoned ++ insertedIds }
  | registered (battery : Battery) :
      Transition before (.register battery)
        { before with batteries := before.batteries.insertIgnore battery }
  | otherStored {reading : Telemetry}
      (free : (before.telemetry reading.eventId).pending = none)
      (absent : (before.telemetry reading.eventId).committed = none) :
      Transition before (.otherStores reading)
        { before with
          telemetry := Function.update before.telemetry reading.eventId
            (Cell.settled (some reading))
          ledger.otherRows := before.ledger.otherRows ++ [reading.eventId] }

theorem insertRow_cases {session : Fin connections} (done : before.insertRow session = some after) :
    Transition before (.insertRow session) after := by
  unfold insertRow at done
  split at done
  · next request event todo insertedIds stage =>
      dsimp only at done
      split at done
      · cases done
      · next free =>
          split at done
          · obtain rfl := Option.some.inj done
            exact .skipped stage
          · next absent =>
              obtain rfl := Option.some.inj done
              exact .inserted stage (by simpa using free) absent
  · cases done

theorem commit_cases {session : Fin connections} (done : before.commit session = some after) :
    Transition before (.commit session) after := by
  unfold commit at done
  split at done
  · next stage =>
      obtain rfl := Option.some.inj done
      exact .stored stage
  · next stage =>
      obtain rfl := Option.some.inj done
      exact .evaluated stage
  · cases done

theorem fail_cases {session : Fin connections} (done : before.fail session = some after) :
    Transition before (.fail session) after := by
  unfold fail at done
  split at done
  · next stage =>
      obtain rfl := Option.some.inj done
      exact .dropped stage
  · next stage =>
      obtain rfl := Option.some.inj done
      exact .rolledBack stage
  · cases done

theorem transition_of_step (step : Step before move after) : Transition before move after := by
  cases move with
  | receive session request =>
      replace step : before.receive session request = some after := step
      unfold receive at step
      split at step
      · next stage =>
          obtain rfl := Option.some.inj step
          exact .received stage
      · cases step
  | lookup session =>
      replace step : before.lookup session = some after := step
      unfold lookup at step
      split at step
      · next stage =>
          split at step
          · obtain rfl := Option.some.inj step
            exact .found stage
          · obtain rfl := Option.some.inj step
            exact .refused stage
      · cases step
  | insertRow session => exact insertRow_cases step
  | commit session => exact commit_cases step
  | count session =>
      replace step : before.count session = some after := step
      unfold count at step
      split at step
      · next stage =>
          obtain rfl := Option.some.inj step
          exact .counted stage
      · cases step
  | fail session => exact fail_cases step
  | failAfterCommit session =>
      replace step : before.failAfterCommit session = some after := step
      unfold failAfterCommit at step
      split at step
      · next stage =>
          obtain rfl := Option.some.inj step
          exact .abandoned stage
      · cases step
  | register battery =>
      obtain rfl := Option.some.inj step
      exact .registered battery
  | otherStores reading =>
      replace step : before.otherStores reading = some after := step
      unfold otherStores at step
      dsimp only at step
      split at step
      · next room =>
          obtain rfl := Option.some.inj step
          exact .otherStored room.1 room.2
      · cases step

/-! ### The counters in balance -/

/-- Every row this process has committed is counted as inserted, waits for its request to
count it, or was abandoned; and the counters say how many were counted. -/
structure Balanced (process : IngestionProcess connections) : Prop where
  rows : (process.ledger.ownRows : Multiset Uuid) = process.ledger.countedInserted +
    (∑ session, (process.stages session).stored) + process.ledger.abandoned
  inserted : process.metrics.inserted = process.ledger.countedInserted.length
  duplicates : process.metrics.duplicates = process.ledger.countedDuplicate.length
  wellFormed : ∀ session, (process.stages session).WellFormed

/-- How the stage of one request shows in the total. -/
theorem stored_update {session : Fin connections} {stage : Stage}
    (stages : after.stages = Function.update before.stages session stage) :
    (∑ other, (after.stages other).stored) + (before.stages session).stored =
      (∑ other, (before.stages other).stored) + stage.stored := by
  rw [stages]
  exact sum_update Stage.stored ..

theorem stored_setStage (process : IngestionProcess connections) (session : Fin connections)
    (stage : Stage) :
    (∑ other, ((process.setStage session stage).stages other).stored) +
        (process.stages session).stored =
      (∑ other, (process.stages other).stored) + stage.stored :=
  stored_update rfl

theorem wellFormed_update {session : Fin connections} {stage : Stage} (balanced : Balanced before)
    (stages : after.stages = Function.update before.stages session stage)
    (wellFormed : stage.WellFormed) (other : Fin connections) :
    (after.stages other).WellFormed := by
  rw [stages]
  exact forall_update Stage.WellFormed balanced.wellFormed wellFormed other

/-- The next event of a batch inserts its own id or nothing. -/
theorem Stage.WellFormed.next {request : Request} {event : TelemetryEvent}
    {todo : List TelemetryEvent} {insertedIds more : List Uuid}
    (wellFormed : (Stage.inserting request (event :: todo) insertedIds).WellFormed)
    (own : more.Sublist [event.eventId]) :
    (Stage.inserting request todo (insertedIds ++ more)).WellFormed := by
  obtain ⟨done, split, some⟩ := wellFormed
  refine ⟨done ++ [event], ?_, ?_⟩
  · rw [split, List.append_assoc, List.singleton_append]
  · rw [List.map_append]
    exact some.append own

/-- A move of one request that commits and counts nothing. -/
theorem Balanced.quiet {session : Fin connections} {old new : Stage} (balanced : Balanced before)
    (stage : before.stages session = old)
    (stages : after.stages = Function.update before.stages session new)
    (same : old.stored = new.stored) (wellFormed : new.WellFormed)
    (ledger : after.ledger = before.ledger)
    (inserted : after.metrics.inserted = before.metrics.inserted)
    (duplicates : after.metrics.duplicates = before.metrics.duplicates) :
    Balanced after where
  rows := by
    have moved := stored_update stages
    rw [stage, same] at moved
    rw [ledger, balanced.rows, add_right_cancel moved]
  inserted := by rw [inserted, ledger, balanced.inserted]
  duplicates := by rw [duplicates, ledger, balanced.duplicates]
  wellFormed := wellFormed_update balanced stages wellFormed

theorem balanced_step (balanced : Balanced before) (transition : Transition before move after) :
    Balanced after := by
  cases transition with
  | received stage => exact balanced.quiet stage rfl rfl trivial rfl rfl rfl
  | found stage => exact balanced.quiet stage rfl rfl ⟨[], rfl, List.nil_sublist _⟩ rfl rfl rfl
  | refused stage => exact balanced.quiet stage rfl rfl trivial rfl rfl rfl
  | @skipped session request event todo insertedIds stage =>
      have wellFormed := balanced.wellFormed session
      rw [stage] at wellFormed
      have next := Stage.WellFormed.next wellFormed (List.nil_sublist [event.eventId])
      rw [List.append_nil] at next
      exact balanced.quiet stage rfl rfl next rfl rfl rfl
  | @inserted session request event todo insertedIds stage free absent =>
      have wellFormed := balanced.wellFormed session
      rw [stage] at wellFormed
      have next := Stage.WellFormed.next wellFormed (List.Sublist.refl [event.eventId])
      exact balanced.quiet stage rfl rfl next rfl rfl rfl
  | @stored session request insertedIds stage =>
      have wellFormed := balanced.wellFormed session
      have moved := stored_setStage before session (request.afterCommit insertedIds)
      have nothing : (Stage.inserting request [] insertedIds).stored = 0 := rfl
      rw [stage, nothing, add_zero, request.stored_afterCommit] at moved
      rw [stage] at wellFormed
      obtain ⟨done, split, some⟩ := wellFormed
      rw [List.append_nil] at split
      refine ⟨?_, balanced.inserted, balanced.duplicates,
        wellFormed_update balanced rfl (Request.wellFormed_afterCommit (split ▸ some))⟩
      change ((before.ledger.ownRows ++ insertedIds : List Uuid) : Multiset Uuid) =
        before.ledger.countedInserted +
          (∑ other, ((before.setStage session (request.afterCommit insertedIds)).stages
            other).stored) + before.ledger.abandoned
      rw [moved, ← Multiset.coe_add, balanced.rows]
      abel
  | @evaluated session request insertedIds stage =>
      have wellFormed := balanced.wellFormed session
      rw [stage] at wellFormed
      exact balanced.quiet stage rfl rfl wellFormed.2 rfl rfl rfl
  | @counted session request insertedIds stage =>
      have wellFormed := balanced.wellFormed session
      have moved := stored_setStage before session .idle
      have waiting : (Stage.counting request insertedIds).stored = insertedIds := rfl
      have nothing : Stage.idle.stored = 0 := rfl
      rw [stage, waiting, nothing, add_zero] at moved
      rw [stage] at wellFormed
      refine ⟨?_, ?_, ?_, wellFormed_update balanced rfl trivial⟩
      · change (before.ledger.ownRows : Multiset Uuid) =
          ((before.ledger.countedInserted ++ insertedIds : List Uuid) : Multiset Uuid) +
            (∑ other, ((before.setStage session .idle).stages other).stored) +
            before.ledger.abandoned
        rw [balanced.rows, ← moved, ← Multiset.coe_add]
        abel
      · rw [Request.counts_eq wellFormed, balanced.inserted, List.length_append]
      · rw [Request.counts_eq wellFormed, balanced.duplicates, List.length_append]
  | dropped stage => exact balanced.quiet stage rfl rfl trivial rfl rfl rfl
  | rolledBack stage => exact balanced.quiet stage rfl rfl trivial rfl rfl rfl
  | @abandoned session request insertedIds stage =>
      have moved := stored_setStage before session .idle
      have waiting : (Stage.evaluating request insertedIds).stored = insertedIds := rfl
      have nothing : Stage.idle.stored = 0 := rfl
      rw [stage, waiting, nothing, add_zero] at moved
      refine ⟨?_, balanced.inserted, balanced.duplicates,
        wellFormed_update balanced rfl trivial⟩
      change (before.ledger.ownRows : Multiset Uuid) = before.ledger.countedInserted +
          (∑ other, ((before.setStage session .idle).stages other).stored) +
          ((before.ledger.abandoned ++ insertedIds : List Uuid) : Multiset Uuid)
      rw [balanced.rows, ← moved, ← Multiset.coe_add]
      abel
  | registered => exact { balanced with }
  | otherStored => exact { balanced with }

/-- Rows have been abandoned exactly if a batch has failed after its first commit. -/
theorem abandoned_of_run (balanced : Balanced before) (none : before.ledger.abandoned = [])
    (run : Trace Step before moves after) :
    Balanced after ∧
      (after.ledger.abandoned = [] ↔ ∀ move ∈ moves, move.isFailAfterCommit = false) := by
  refine run.invariant (fun moves process => Balanced process ∧
    (process.ledger.abandoned = [] ↔ ∀ move ∈ moves, move.isFailAfterCommit = false))
    ⟨balanced, by simp [none]⟩ ?_
  rintro moves process move next ⟨balanced, lossless⟩ step
  have transition := transition_of_step step
  refine ⟨balanced_step balanced transition, ?_⟩
  rw [List.forall_mem_append, List.forall_mem_singleton, ← lossless]
  cases transition with
  | @abandoned session request insertedIds stage =>
      have wellFormed := balanced.wellFormed session
      rw [stage] at wellFormed
      simp [Move.isFailAfterCommit, wellFormed.1]
  | _ => simp [Move.isFailAfterCommit, setStage]

/-! ### The rows -/

/-- The ledger is about the table: what is uncommitted belongs to the insert of a
request, and the committed rows are the distinct ones of this process and the others. -/
structure Stored (process : IngestionProcess connections) : Prop where
  uncommitted : ∀ session eventId, eventId ∈ (process.stages session).uncommitted ↔
    ∃ row, (process.telemetry eventId).pending = some (session.val, row)
  fresh : ∀ eventId, (process.telemetry eventId).pending ≠ none →
    (process.telemetry eventId).committed = none
  distinct : ∀ session, (process.stages session).uncommitted.Nodup
  committed : ∀ eventId, (process.telemetry eventId).committed ≠ none ↔
    eventId ∈ process.ledger.ownRows ∨ eventId ∈ process.ledger.otherRows
  ownRows : process.ledger.ownRows.Nodup
  disjoint : ∀ eventId ∈ process.ledger.ownRows, eventId ∉ process.ledger.otherRows

/-- A move that leaves the table alone. -/
theorem Stored.quiet {session : Fin connections} {old new : Stage} (stored : Stored before)
    (stage : before.stages session = old)
    (stages : after.stages = Function.update before.stages session new)
    (same : new.uncommitted = old.uncommitted)
    (telemetry : after.telemetry = before.telemetry)
    (ownRows : after.ledger.ownRows = before.ledger.ownRows)
    (otherRows : after.ledger.otherRows = before.ledger.otherRows) : Stored after := by
  have stagesSame : ∀ other, (after.stages other).uncommitted =
      (before.stages other).uncommitted := by
    intro other
    rw [stages]
    by_cases own : other = session
    · subst own
      rw [Function.update_self, same, stage]
    · rw [Function.update_of_ne own]
  constructor
  · intro other eventId
    rw [stagesSame, telemetry]
    exact stored.uncommitted other eventId
  · rw [telemetry]
    exact stored.fresh
  · intro other
    rw [stagesSame]
    exact stored.distinct other
  · rw [telemetry, ownRows, otherRows]
    exact stored.committed
  · rw [ownRows]
    exact stored.ownRows
  · rw [ownRows, otherRows]
    exact stored.disjoint

/-- A commit and a rollback leave the uncommitted rows of the other requests. -/
theorem Stored.uncommitted_after {session : Fin connections} {stage : Stage}
    (stored : Stored before) (empty : stage.uncommitted = []) {telemetry : Uuid → Cell Telemetry}
    (left : ∀ eventId holder row, (telemetry eventId).pending = some (holder, row) ↔
      (before.telemetry eventId).pending = some (holder, row) ∧ holder ≠ session.val)
    (other : Fin connections) (eventId : Uuid) :
    eventId ∈ ((before.setStage session stage).stages other).uncommitted ↔
      ∃ row, (telemetry eventId).pending = some (other.val, row) := by
  simp only [left]
  change eventId ∈ (Function.update before.stages session stage other).uncommitted ↔ _
  by_cases own : other = session
  · subst own
    rw [Function.update_self, empty]
    simp
  · rw [Function.update_of_ne own, stored.uncommitted]
    simp [Fin.val_ne_of_ne own]

theorem Stored.distinct_after {session : Fin connections} {stage : Stage}
    (stored : Stored before) (distinct : stage.uncommitted.Nodup) (other : Fin connections) :
    ((before.setStage session stage).stages other).uncommitted.Nodup :=
  forall_update (fun stage : Stage => stage.uncommitted.Nodup) stored.distinct distinct other

theorem Stored.rolledBack {session : Fin connections} (stored : Stored before) :
    Stored { before.setStage session .idle with
      telemetry := fun eventId => (before.telemetry eventId).rollback session } where
  uncommitted := stored.uncommitted_after rfl fun _ _ _ => Cell.pending_rollback
  fresh eventId pending := by
    rw [Cell.committed_rollback]
    obtain ⟨⟨holder, row⟩, held⟩ := Option.ne_none_iff_exists'.mp pending
    exact stored.fresh eventId (by rw [(Cell.pending_rollback.mp held).1]; nofun)
  distinct := stored.distinct_after List.nodup_nil
  committed eventId := by
    rw [Cell.committed_rollback]
    exact stored.committed eventId
  ownRows := stored.ownRows
  disjoint := stored.disjoint

theorem Stored.commit {session : Fin connections} {request : Request} {insertedIds : List Uuid}
    (stored : Stored before) (stage : before.stages session = .inserting request [] insertedIds) :
    Stored { before.setStage session (request.afterCommit insertedIds) with
      telemetry := fun eventId => (before.telemetry eventId).commit session
      ledger.ownRows := before.ledger.ownRows ++ insertedIds } := by
  have mine : ∀ eventId, eventId ∈ insertedIds ↔
      ∃ row, (before.telemetry eventId).pending = some (session.val, row) := by
    intro eventId
    rw [← stored.uncommitted session eventId, stage]
    rfl
  have new : ∀ eventId ∈ insertedIds,
      ¬(eventId ∈ before.ledger.ownRows ∨ eventId ∈ before.ledger.otherRows) := by
    intro eventId isNew isStored
    obtain ⟨row, pending⟩ := (mine eventId).mp isNew
    exact (stored.committed eventId).mpr isStored
      (stored.fresh eventId (by rw [pending]; nofun))
  have distinct : insertedIds.Nodup := by
    have uncommitted := stored.distinct session
    rwa [stage] at uncommitted
  have empty := request.uncommitted_afterCommit insertedIds
  refine ⟨stored.uncommitted_after empty fun _ _ _ => Cell.pending_commit, ?_,
    stored.distinct_after (by rw [empty]; exact List.nodup_nil), ?_, ?_, ?_⟩
  · intro eventId pending
    obtain ⟨⟨holder, row⟩, held⟩ := Option.ne_none_iff_exists'.mp pending
    obtain ⟨held, different⟩ := Cell.pending_commit.mp held
    have notMine : ∀ row, (before.telemetry eventId).pending ≠ some (session.val, row) := by
      intro other isHeld
      rw [held] at isHeld
      exact different (Prod.mk.inj (Option.some.inj isHeld)).1
    change ((before.telemetry eventId).commit session).committed = none
    rw [Cell.commit_of_not_holder notMine]
    exact stored.fresh eventId (by rw [held]; nofun)
  · intro eventId
    change ((before.telemetry eventId).commit session).committed ≠ none ↔
      eventId ∈ before.ledger.ownRows ++ insertedIds ∨ eventId ∈ before.ledger.otherRows
    rw [List.mem_append, or_right_comm, ← stored.committed]
    by_cases isNew : eventId ∈ insertedIds
    · obtain ⟨row, held⟩ := (mine eventId).mp isNew
      rw [Cell.commit_of_holder held]
      simp [Cell.settled, isNew]
    · have notMine : ∀ row, (before.telemetry eventId).pending ≠ some (session.val, row) :=
        fun row held => isNew ((mine eventId).mpr ⟨row, held⟩)
      rw [Cell.commit_of_not_holder notMine]
      simp [isNew]
  · refine List.nodup_append'.mpr ⟨stored.ownRows, distinct, ?_⟩
    exact fun eventId isOwn isNew => new eventId isNew (.inl isOwn)
  · intro eventId isOwn isOther
    rcases List.mem_append.mp isOwn with wasOwn | isNew
    · exact stored.disjoint eventId wasOwn isOther
    · exact new eventId isNew (.inr isOther)

/-- A new row is nobody's yet. -/
theorem Stored.insert {session : Fin connections} {request : Request} {event : TelemetryEvent}
    {todo : List TelemetryEvent} {insertedIds : List Uuid} (stored : Stored before)
    (stage : before.stages session = .inserting request (event :: todo) insertedIds)
    (free : (before.telemetry event.eventId).lockedAgainst session = false)
    (absent : (before.telemetry event.eventId).view session = none) :
    Stored { before.setStage session (.inserting request todo (insertedIds ++ [event.eventId])) with
      telemetry := Function.update before.telemetry event.eventId
        ((before.telemetry event.eventId).write session event.toTelemetry) } := by
  obtain ⟨noPending, noCommitted⟩ := Cell.vacant_of_view free absent
  have new : ∀ other, event.eventId ∉ (before.stages other).uncommitted := by
    intro other isUncommitted
    obtain ⟨row, pending⟩ := (stored.uncommitted other event.eventId).mp isUncommitted
    cases noPending.symm.trans pending
  have mine : (before.stages session).uncommitted = insertedIds := by
    rw [stage]
    rfl
  have distinct : (Stage.inserting request todo
      (insertedIds ++ [event.eventId])).uncommitted.Nodup := by
    refine List.nodup_append'.mpr ⟨mine ▸ stored.distinct session, List.nodup_singleton _, ?_⟩
    intro eventId isOld isNew
    rw [List.mem_singleton.mp isNew, ← mine] at isOld
    exact new session isOld
  refine ⟨?_, ?_, stored.distinct_after distinct, ?_, stored.ownRows, stored.disjoint⟩
  · intro other eventId
    change eventId ∈ (Function.update before.stages session (Stage.inserting request todo
        (insertedIds ++ [event.eventId])) other).uncommitted ↔
      ∃ row, (Function.update before.telemetry event.eventId
        ((before.telemetry event.eventId).write session event.toTelemetry) eventId).pending =
          some (other.val, row)
    by_cases own : other = session
    · subst own
      rw [Function.update_self]
      change eventId ∈ insertedIds ++ [event.eventId] ↔ _
      rw [List.mem_append, List.mem_singleton, ← mine]
      by_cases same : eventId = event.eventId
      · subst same
        simp [Cell.write]
      · rw [Function.update_of_ne same, ← stored.uncommitted, or_iff_left same]
    · rw [Function.update_of_ne own]
      by_cases same : eventId = event.eventId
      · subst same
        simp [Cell.write, new other, Fin.val_ne_of_ne (Ne.symm own)]
      · rw [Function.update_of_ne same, stored.uncommitted]
  · intro eventId
    change (Function.update before.telemetry event.eventId _ eventId).pending ≠ none →
      (Function.update before.telemetry event.eventId _ eventId).committed = none
    by_cases same : eventId = event.eventId
    · subst same
      rw [Function.update_self]
      exact fun _ => noCommitted
    · rw [Function.update_of_ne same]
      exact stored.fresh eventId
  · intro eventId
    change (Function.update before.telemetry event.eventId _ eventId).committed ≠ none ↔
      eventId ∈ before.ledger.ownRows ∨ eventId ∈ before.ledger.otherRows
    rw [← stored.committed eventId]
    by_cases same : eventId = event.eventId
    · subst same
      rw [Function.update_self]
      rfl
    · rw [Function.update_of_ne same]

/-- A row of another process is not one of this process. -/
theorem Stored.otherStored {reading : Telemetry} (stored : Stored before)
    (free : (before.telemetry reading.eventId).pending = none)
    (absent : (before.telemetry reading.eventId).committed = none) :
    Stored { before with
      telemetry := Function.update before.telemetry reading.eventId (Cell.settled (some reading))
      ledger.otherRows := before.ledger.otherRows ++ [reading.eventId] } := by
  have pendingSame : ∀ eventId, (Function.update before.telemetry reading.eventId
      (Cell.settled (some reading)) eventId).pending = (before.telemetry eventId).pending := by
    intro eventId
    by_cases same : eventId = reading.eventId
    · rw [same, Function.update_self, free]
      rfl
    · rw [Function.update_of_ne same]
  refine ⟨?_, ?_, stored.distinct, ?_, stored.ownRows, ?_⟩
  · intro session eventId
    change _ ↔ ∃ row, (Function.update before.telemetry reading.eventId _ eventId).pending = _
    rw [pendingSame]
    exact stored.uncommitted session eventId
  · intro eventId pending
    change (Function.update before.telemetry reading.eventId _ eventId).pending ≠ none at pending
    rw [pendingSame] at pending
    have apart : eventId ≠ reading.eventId := by
      rintro rfl
      exact pending free
    change (Function.update before.telemetry reading.eventId _ eventId).committed = none
    rw [Function.update_of_ne apart]
    exact stored.fresh eventId pending
  · intro eventId
    change (Function.update before.telemetry reading.eventId _ eventId).committed ≠ none ↔
      eventId ∈ before.ledger.ownRows ∨ eventId ∈ before.ledger.otherRows ++ [reading.eventId]
    rw [List.mem_append, List.mem_singleton, ← or_assoc, ← stored.committed]
    by_cases same : eventId = reading.eventId
    · rw [same, Function.update_self]
      simp [Cell.settled]
    · rw [Function.update_of_ne same, or_iff_left same]
  · intro eventId isOwn isOther
    rcases List.mem_append.mp isOther with wasOther | isNew
    · exact stored.disjoint eventId isOwn wasOther
    · rw [List.mem_singleton.mp isNew] at isOwn
      exact (stored.committed reading.eventId).mpr (.inl isOwn) absent

theorem stored_step (stored : Stored before) (transition : Transition before move after) :
    Stored after := by
  cases transition with
  | received stage => exact stored.quiet stage rfl rfl rfl rfl rfl
  | found stage => exact stored.quiet stage rfl rfl rfl rfl rfl
  | refused stage => exact stored.quiet stage rfl rfl rfl rfl rfl
  | skipped stage => exact stored.quiet stage rfl rfl rfl rfl rfl
  | inserted stage free absent => exact stored.insert stage free absent
  | stored stage => exact stored.commit stage
  | evaluated stage => exact stored.quiet stage rfl rfl rfl rfl rfl
  | counted stage => exact stored.quiet stage rfl rfl rfl rfl rfl
  | dropped stage => exact stored.quiet stage rfl rfl rfl rfl rfl
  | rolledBack => exact stored.rolledBack
  | abandoned stage => exact stored.quiet stage rfl rfl rfl rfl rfl
  | registered => exact { stored with }
  | otherStored free absent => exact stored.otherStored free absent

theorem balanced_start (batteries : Table Battery Battery.batteryId)
    (telemetry : Table Telemetry Telemetry.eventId) :
    Balanced (start batteries telemetry : IngestionProcess connections) where
  rows := by simp [start, Stage.stored]
  inserted := rfl
  duplicates := rfl
  wellFormed _ := trivial

theorem stored_start (batteries : Table Battery Battery.batteryId)
    (telemetry : Table Telemetry Telemetry.eventId) :
    Stored (start batteries telemetry : IngestionProcess connections) where
  uncommitted session eventId := by simp [start, Stage.uncommitted, Cell.settled]
  fresh eventId pending := absurd rfl pending
  distinct _ := List.nodup_nil
  committed eventId := by
    change telemetry.lookup eventId ≠ none ↔
      eventId ∈ [] ∨ eventId ∈ telemetry.rows.map Telemetry.eventId
    rw [Ne, telemetry.lookup_none_iff]
    simp
  ownRows := List.nodup_nil
  disjoint eventId isOwn := by cases isOwn

/-! ### The counters and the rows -/

/-- The rows that this process has committed: distinct ones, and of the committed rows
all but those that others have stored. -/
def OwnRowsAre (process : IngestionProcess connections) (rows : List Uuid) : Prop :=
  rows.Nodup ∧ ∀ eventId, eventId ∈ rows ↔
    (process.telemetry eventId).committed ≠ none ∧ eventId ∉ process.ledger.otherRows

/-- As many rows are counted as inserted as this process has committed, and no row of a
request that then failed is counted as a duplicate without being counted as inserted. -/
def CountersMatch (process : IngestionProcess connections) : Prop :=
  process.metrics.inserted = process.ledger.ownRows.length ∧
    ∀ eventId ∈ process.ledger.abandoned, eventId ∈ process.ledger.countedDuplicate →
      eventId ∈ process.ledger.countedInserted

/-- Whenever no request is in progress, the counters match the rows exactly if no batch
has failed between its two commits. -/
theorem countersMatch_iff (batteries : Table Battery Battery.batteryId)
    (telemetry : Table Telemetry Telemetry.eventId)
    (run : Trace Step (start batteries telemetry) moves process) (quiescent : process.Quiescent) :
    OwnRowsAre process process.ledger.ownRows ∧
      (CountersMatch process ↔ ∀ move ∈ moves, move.isFailAfterCommit = false) := by
  have stored : Stored process :=
    run.invariant (fun _ => Stored) (stored_start batteries telemetry)
      fun _ _ _ _ stored step => stored_step stored (transition_of_step step)
  obtain ⟨balanced, lossless⟩ :=
    abandoned_of_run (balanced_start batteries telemetry) rfl run
  refine ⟨⟨stored.ownRows, fun eventId => ?_⟩, ?_⟩
  · rw [stored.committed, or_and_right, and_not_self_iff, or_false]
    exact ⟨fun isOwn => ⟨isOwn, stored.disjoint eventId isOwn⟩, And.left⟩
  · have nothing : (∑ session, (process.stages session).stored) = 0 :=
      Finset.sum_eq_zero fun session _ => Stage.stored_of_isIdle (quiescent session)
    have lengths := congrArg Multiset.card balanced.rows
    rw [nothing, add_zero, Multiset.card_add, Multiset.coe_card, Multiset.coe_card,
      Multiset.coe_card] at lengths
    rw [← lossless]
    constructor
    · rintro ⟨inserted, -⟩
      rw [balanced.inserted, lengths] at inserted
      exact List.length_eq_zero_iff.mp (by omega)
    · intro none
      refine ⟨?_, fun eventId isAbandoned => ?_⟩
      · rw [balanced.inserted, lengths, none, List.length_nil, Nat.add_zero]
      · rw [none] at isAbandoned
        cases isAbandoned

/-- A batch that repeats its first reading. -/
def repeatingRequest : Request :=
  .batch
    { events := [sampleEvent 1 0 50, sampleEvent 2 1000000 49, sampleEvent 1 0 50]
      nonempty := by decide }

/-- A batch of a reading that another process has stored, and of one that nobody has. -/
def overlappingRequest : Request :=
  .batch { events := [sampleEvent 3 2000000 48, sampleEvent 4 3000000 47], nonempty := by decide }

/-- While the first batch is inserted, its second reading is sent alone, too, and waits.  The
other batch fails before its commit, and is sent again after another process has stored one of
its readings. -/
def sampleCounted : List (Move 3) :=
  [.receive 0 repeatingRequest, .lookup 0, .insertRow 0, .insertRow 0,
    .receive 1 (.single (sampleEvent 2 1000000 49)), .lookup 1,
    .receive 2 overlappingRequest, .lookup 2, .insertRow 2,
    .insertRow 0, .commit 0, .insertRow 1, .commit 0, .commit 1, .fail 2, .count 1, .count 0,
    .otherStores (sampleEvent 3 2000000 48).toTelemetry,
    .receive 2 overlappingRequest, .lookup 2, .insertRow 2, .insertRow 2, .commit 2, .commit 2,
    .count 2]

/-- Of eight readings received, three are stored and three are duplicates; the two of the
request that failed are neither. -/
theorem sample_countersMatch_iff :
    ∃ process, play perform sampleCounted (start sampleBatteries Table.empty) = some process ∧
      process.metrics = { received := 8, inserted := 3, duplicates := 3 } ∧
      process.ledger.ownRows = [1, 2, 4] ∧ OwnRowsAre process process.ledger.ownRows ∧
      CountersMatch process := by
  have played : (play perform sampleCounted (start sampleBatteries Table.empty)).map
      (fun process => (decide process.Quiescent, process.metrics, process.ledger.ownRows)) =
        some (true, { received := 8, inserted := 3, duplicates := 3 }, [1, 2, 4]) ∧
      ∀ move ∈ sampleCounted, move.isFailAfterCommit = false := by
    decide +kernel
  obtain ⟨played, unbroken⟩ := played
  obtain ⟨process, reached, state⟩ := Option.map_eq_some_iff.mp played
  simp only [Prod.mk.injEq] at state
  obtain ⟨quiescent, metrics, rows⟩ := state
  obtain ⟨ownRows, exactly⟩ := countersMatch_iff sampleBatteries Table.empty
    (trace_of_play perform reached) (of_decide_eq_true quiescent)
  exact ⟨process, reached, metrics, rows, ownRows, exactly.mpr unbroken⟩

/-- A batch of one reading. -/
def sampleRequest : Request := .batch { events := [sampleEvent 1 0 50], nonempty := by decide }

/-- The rule evaluation of the batch fails, and it is sent again. -/
def sampleRetried : List (Move 1) :=
  [.receive 0 sampleRequest, .lookup 0, .insertRow 0, .commit 0,
    .failAfterCommit 0, .receive 0 sampleRequest, .lookup 0,
    .insertRow 0, .commit 0, .count 0]

/-- After the retry one row is stored, none is counted as inserted, and the row is
counted as a duplicate. -/
theorem failed_rules_break_counters :
    ∃ process, Trace Step (start sampleBatteries Table.empty) sampleRetried process ∧
      process.Quiescent ∧
      process.metrics = { received := 2, inserted := 0, duplicates := 1 } ∧
      process.ledger =
        { ownRows := [1], otherRows := [], abandoned := [1], countedInserted := []
          countedDuplicate := [1] } ∧
      ¬CountersMatch process := by
  have played : (play perform sampleRetried (start sampleBatteries Table.empty)).map
      (fun process => (decide process.Quiescent, process.metrics, process.ledger)) =
        some (true, { received := 2, inserted := 0, duplicates := 1 },
          { ownRows := [1], otherRows := [], abandoned := [1], countedInserted := []
            countedDuplicate := [1] }) := by
    decide +kernel
  obtain ⟨process, reached, state⟩ := Option.map_eq_some_iff.mp played
  obtain ⟨quiescent, rest⟩ := Prod.mk.inj state
  obtain ⟨metrics, ledger⟩ := Prod.mk.inj rest
  refine ⟨process, trace_of_play perform reached, of_decide_eq_true quiescent, metrics, ledger, ?_⟩
  intro matching
  have inserted := matching.1
  rw [metrics, ledger] at inserted
  cases inserted

end IngestionProcess

end VoltStream.Backend
