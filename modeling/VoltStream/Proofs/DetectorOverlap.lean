/-
Module: VoltStream.Proofs.DetectorOverlap
Purpose: One iteration of the offline detector overlapping with any number of
  single-event requests: what is enough for no battery to be left with an open
  `DEVICE_OFFLINE` alert and another status than `OFFLINE`.
Trusted boundary: none
Main exports: detectorOverlap, RecoveredInGap, RecheckedAfter, Server.Overlapping,
  quiet_detectorOverlap, overlapping_ofDatabase, offlineAlertsSound_of_rechecked
-/
import VoltStream.Proofs.LatestVersions
import VoltStream.Proofs.OfflineAgreement

namespace VoltStream.Backend

open Relational

/-- Session 0 runs an iteration of the detector, the others a request each. -/
def detectorOverlap (settings : Settings) (clock : DetectorClock)
    (batteries : Table Battery Battery.batteryId)
    (requests : List (List Telemetry × TelemetryEvent)) : SessionId → List Statement
  | 0 => detectorIteration clock
  | session + 1 =>
      match requests[session]? with
      | some request => singleIngestion settings request.1 batteries request.2
      | none => []

/-- The iteration has marked the battery. -/
def MarkedIn (labels : List Label) (batteryId : BatteryId) : Prop :=
  ∃ ids, (0, .marked ids) ∈ labels ∧ batteryId ∈ ids

/-- The iteration has committed twice. -/
def CommittedTwice (labels : List Label) : Prop :=
  InOrder [(0, .committed), (0, .committed)] labels

/-- After the iteration's first commit a request has refreshed the battery's
row. -/
def RecoveredInGap (labels : List Label) (batteryId : BatteryId) : Prop :=
  ∃ session row, row.batteryId = batteryId ∧
    InOrder [(0, .committed), (session, .stored row true)] labels

/-- After the iteration's second commit a request has looked for an offline alert
of the battery. -/
def RecheckedAfter (labels : List Label) (batteryId : BatteryId) : Prop :=
  ∃ session resolvedAt,
    InOrder
      [(0, .committed), (0, .committed),
        (session, .selected batteryId .deviceOffline resolvedAt)]
      labels

/-- What the code of a request consists of. -/
def Statement.Ingests : Statement → Prop
  | .upsertCurrentState row => row.status ≠ .offline
  | .alert (.resolveAlertIfActive _ _ _) | .commit => True
  | .alert (.createOrRetainAlert request) => request.alertType ≠ .deviceOffline
  | _ => False

section Labels

variable {labels : List Label} {session : SessionId} {event : Event} {batteryId : BatteryId}

theorem MarkedIn.concat (marked : MarkedIn labels batteryId) (label : Label) :
    MarkedIn (labels ++ [label]) batteryId := by
  obtain ⟨ids, member, listed⟩ := marked
  exact ⟨ids, List.mem_append_left _ member, listed⟩

theorem markedIn_concat (unmarking : ∀ ids, (session, event) ≠ (0, .marked ids)) :
    MarkedIn (labels ++ [(session, event)]) batteryId ↔ MarkedIn labels batteryId := by
  constructor
  · rintro ⟨ids, member, listed⟩
    rcases List.mem_append.mp member with old | new
    · exact ⟨ids, old, listed⟩
    · exact absurd (List.mem_singleton.mp new).symm (unmarking ids)
  · exact fun marked => marked.concat _

theorem committedTwice_concat (uncommitting : (session, event) ≠ (0, .committed)) :
    CommittedTwice (labels ++ [(session, event)]) ↔ CommittedTwice labels := by
  rw [CommittedTwice, inOrder_pair_concat, CommittedTwice, or_iff_left_iff_imp]
  exact fun last => absurd last.2.symm uncommitting

theorem RecoveredInGap.concat (recovered : RecoveredInGap labels batteryId) (label : Label) :
    RecoveredInGap (labels ++ [label]) batteryId := by
  obtain ⟨other, row, battery, order⟩ := recovered
  exact ⟨other, row, battery, inOrder_pair_concat.mpr (Or.inl order)⟩

theorem recheckedAfter_concat :
    RecheckedAfter (labels ++ [(session, event)]) batteryId ↔
      RecheckedAfter labels batteryId ∨
        CommittedTwice labels ∧
          ∃ resolvedAt, event = .selected batteryId .deviceOffline resolvedAt := by
  constructor
  · rintro ⟨other, resolvedAt, order⟩
    rcases (@inOrder_concat Label [(0, .committed), (0, .committed)] labels
      (other, .selected batteryId .deviceOffline resolvedAt) (session, event)).mp order with
        earlier | ⟨twice, last⟩
    · exact Or.inl ⟨other, resolvedAt, earlier⟩
    · exact Or.inr ⟨twice, resolvedAt, (Prod.mk.inj last).2.symm⟩
  · rintro (⟨other, resolvedAt, order⟩ | ⟨twice, resolvedAt, rfl⟩)
    · exact ⟨other, resolvedAt, order.trans (List.sublist_append_left _ _)⟩
    · exact ⟨session, resolvedAt, (@inOrder_concat Label [(0, .committed), (0, .committed)] labels
        (session, .selected batteryId .deviceOffline resolvedAt) _).mpr (Or.inr ⟨twice, rfl⟩)⟩

theorem RecheckedAfter.committedTwice (rechecked : RecheckedAfter labels batteryId) :
    CommittedTwice labels := by
  obtain ⟨other, resolvedAt, order⟩ := rechecked
  have start : List.Sublist [((0, .committed) : Label), (0, .committed)]
      [(0, .committed), (0, .committed), (other, .selected batteryId .deviceOffline resolvedAt)] :=
    List.sublist_append_left _ _
  exact start.trans order

end Labels

namespace Server

variable {settings : Settings} {server after : Server} {session : SessionId} {event : Event}
  {labels : List Label} {clock : DetectorClock} {batteryId : BatteryId}

/-- The detector holds the lock of the battery's row. -/
def DetectorHolds (server : Server) (batteryId : BatteryId) : Prop :=
  ∃ row, (server.currentState batteryId).pending = some (0, row)

/-- The statements of the second transaction for these batteries. -/
def raiseStatements (settings : Settings) (clock : DetectorClock) (ids : List BatteryId) :
    List Statement :=
  (deviceOfflineCalls settings clock.alertNow ids).map .alert ++ [.commit]

/-- How far the iteration has come. -/
inductive Detecting (settings : Settings) (clock : DetectorClock) (labels : List Label)
    (server : Server) : Prop where
  | waiting (code : (server.sessions 0).todo = [.selectStale clock])
      (unmarked : ∀ batteryId, ¬ MarkedIn labels batteryId) (uncommitted : (0, .committed) ∉ labels)
      (unstarted : ∀ event, (0, event) ∉ labels)
  | idle (code : (server.sessions 0).todo = [.commit])
      (unmarked : ∀ batteryId, ¬ MarkedIn labels batteryId) (uncommitted : (0, .committed) ∉ labels)
  | locked (ids : List BatteryId)
      (code : (server.sessions 0).todo =
        .markOffline ids :: .commit :: raiseStatements settings clock ids)
      (unmarked : ∀ batteryId, ¬ MarkedIn labels batteryId) (uncommitted : (0, .committed) ∉ labels)
      (holds : ∀ batteryId ∈ ids, server.DetectorHolds batteryId)
  | marked (ids : List BatteryId)
      (code : (server.sessions 0).todo = .commit :: raiseStatements settings clock ids)
      (marks : ∀ batteryId, MarkedIn labels batteryId ↔ batteryId ∈ ids)
      (uncommitted : (0, .committed) ∉ labels)
      (holds : ∀ batteryId ∈ ids, server.DetectorHolds batteryId)
  | raising (ids : List BatteryId)
      (code : (server.sessions 0).todo = raiseStatements settings clock ids)
      (marks : ∀ batteryId ∈ ids, MarkedIn labels batteryId) (once : (0, .committed) ∈ labels)
      (notTwice : ¬ CommittedTwice labels)
  | ended (code : (server.sessions 0).todo = [])
      (committed : ∀ batteryId, MarkedIn labels batteryId → (0, .committed) ∈ labels)

theorem not_committedTwice_of_uncommitted (uncommitted : (0, .committed) ∉ labels) :
    ¬ CommittedTwice labels :=
  fun twice => uncommitted (twice.subset List.mem_cons_self)

/-- Before its end the iteration has not committed twice. -/
theorem Detecting.finished_of_twice (detecting : server.Detecting settings clock labels)
    (twice : CommittedTwice labels) : server.Finished 0 := by
  cases detecting with
  | waiting _ _ uncommitted => exact absurd twice (not_committedTwice_of_uncommitted uncommitted)
  | idle _ _ uncommitted => exact absurd twice (not_committedTwice_of_uncommitted uncommitted)
  | locked _ _ _ uncommitted => exact absurd twice (not_committedTwice_of_uncommitted uncommitted)
  | marked _ _ _ uncommitted => exact absurd twice (not_committedTwice_of_uncommitted uncommitted)
  | raising _ _ _ _ notTwice => exact absurd twice notTwice
  | ended code _ => exact code

/-- Nobody stores a row the iteration has marked before its first commit. -/
theorem Detecting.committed_of_stored {row : BatteryCurrentState} {wasAdmitted : Bool}
    (detecting : server.Detecting settings clock labels)
    (effect : server.Effect settings session (.stored row wasAdmitted) after)
    (other : session ≠ 0) (isMarked : MarkedIn labels row.batteryId) :
    (0, .committed) ∈ labels := by
  cases detecting with
  | waiting _ unmarked => exact absurd isMarked (unmarked _)
  | idle _ unmarked => exact absurd isMarked (unmarked _)
  | locked _ _ unmarked => exact absurd isMarked (unmarked _)
  | marked ids _ marks _ holds =>
      obtain ⟨version, held⟩ := holds _ ((marks _).mp isMarked)
      cases effect with
      | stored code free => exact absurd (Cell.holder_of_free free held).symm other
  | raising _ _ _ once => exact once
  | ended _ committed => exact committed _ isMarked

/-- The other sessions do not move the iteration. -/
theorem Detecting.step_of_ne (detecting : server.Detecting settings clock labels)
    (proceeds : event.Proceeds) (effect : server.Effect settings session event after)
    (notMarked : ∀ ids, event ≠ .marked ids) (other : session ≠ 0) :
    after.Detecting settings clock (labels ++ [(session, event)]) := by
  have sameCode : after.sessions 0 = server.sessions 0 := effect.sessions_of_ne other.symm
  have sameMarks : ∀ batteryId, MarkedIn (labels ++ [(session, event)]) batteryId ↔
      MarkedIn labels batteryId :=
    fun batteryId => markedIn_concat fun ids same => other (Prod.mk.inj same).1
  have sameCommit : (0, Event.committed) ∈ labels ++ [(session, event)] ↔
      (0, Event.committed) ∈ labels := by
    rw [List.mem_append, List.mem_singleton, or_iff_left_iff_imp]
    exact fun same => absurd (Prod.mk.inj same).1.symm other
  have stillHeld : ∀ batteryId, server.DetectorHolds batteryId → after.DetectorHolds batteryId := by
    rintro batteryId ⟨row, held⟩
    exact ⟨row, effect.state_held proceeds notMarked held other.symm⟩
  cases detecting with
  | waiting code unmarked uncommitted unstarted =>
      apply Detecting.waiting (by rw [sameCode, code])
      · simpa only [sameMarks] using unmarked
      · rwa [sameCommit]
      · intro own member
        rcases List.mem_append.mp member with old | new
        · exact unstarted own old
        · exact other (Prod.mk.inj (List.mem_singleton.mp new)).1.symm
  | idle code unmarked uncommitted =>
      apply Detecting.idle (by rw [sameCode, code])
      · simpa only [sameMarks] using unmarked
      · rwa [sameCommit]
  | locked ids code unmarked uncommitted holds =>
      apply Detecting.locked ids (by rw [sameCode, code])
      · simpa only [sameMarks] using unmarked
      · rwa [sameCommit]
      · exact fun batteryId listed => stillHeld batteryId (holds batteryId listed)
  | marked ids code marks uncommitted holds =>
      apply Detecting.marked ids (by rw [sameCode, code])
      · simpa only [sameMarks] using marks
      · rwa [sameCommit]
      · exact fun batteryId listed => stillHeld batteryId (holds batteryId listed)
  | raising ids code marks once notTwice =>
      apply Detecting.raising ids (by rw [sameCode, code])
      · simpa only [sameMarks] using marks
      · rwa [sameCommit]
      · rwa [committedTwice_concat fun same => other (Prod.mk.inj same).1]
  | ended code committed =>
      apply Detecting.ended (by rw [sameCode, code])
      simpa only [sameMarks, sameCommit] using committed

/-- Writing the rows it sees, the detector holds their locks. -/
theorem holds_writeRows {change : BatteryCurrentState → BatteryCurrentState}
    {ids : List BatteryId} {row : BatteryCurrentState} (listed : batteryId ∈ ids)
    (seen : (server.currentState batteryId).view 0 = some row) :
    (server.writeRows 0 change ids).DetectorHolds batteryId := by
  refine ⟨change row, ?_⟩
  simp only [writeRows, seen, if_pos listed, Cell.write]

theorem DetectorHolds.seen (holds : server.DetectorHolds batteryId) :
    ∃ row, (server.currentState batteryId).view 0 = some row := by
  obtain ⟨row, held⟩ := holds
  refine ⟨row, ?_⟩
  rw [Cell.view, Cell.outcome_of_pending held, if_pos (decide_eq_true rfl)]

/-- A step that is not its commit leaves the iteration uncommitted. -/
theorem uncommitted_concat (notCommit : event ≠ .committed)
    (uncommitted : (0, Event.committed) ∉ labels) :
    (0, Event.committed) ∉ labels ++ [(0, event)] := by
  intro member
  rcases List.mem_append.mp member with old | new
  · exact uncommitted old
  · exact notCommit (Prod.mk.inj (List.mem_singleton.mp new)).2.symm

/-- The selection locks the stale rows, or finds none and is about to commit. -/
theorem Detecting.of_selected {ids : List BatteryId}
    (effect : server.Effect settings 0 (.lockedStale ids) after)
    (code : (server.sessions 0).todo = [.selectStale clock])
    (unmarked : ∀ batteryId, ¬ MarkedIn labels batteryId)
    (uncommitted : (0, .committed) ∉ labels) :
    after.Detecting settings clock (labels ++ [(0, .lockedStale ids)]) := by
  have marks : ∀ batteryId, ¬ MarkedIn (labels ++ [(0, .lockedStale ids)]) batteryId := by
    intro batteryId
    rw [markedIn_concat fun others same => by cases same]
    exact unmarked batteryId
  have notCommit : Event.lockedStale ids ≠ .committed := by simp
  have commits := uncommitted_concat notCommit uncommitted
  cases effect with
  | @lockedStale own todo ownCode =>
      obtain ⟨sameClock, rfl⟩ := List.cons.inj (ownCode.symm.trans code)
      obtain rfl := Statement.selectStale.inj sameClock
      generalize isList : server.staleUnlocked settings own.cutoffNow 0 = ids at marks commits ⊢
      by_cases empty : ids = []
      · apply Detecting.idle _ marks commits
        simp [resume, detectorContinuation, empty]
      · apply Detecting.locked ids _ marks commits
        · intro batteryId listed
          have found := (List.mem_filter.mp (isList ▸ listed)).2
          simp only [Bool.and_eq_true] at found
          obtain ⟨row, seen, -⟩ := (Option.any_eq_true _ _).mp found.2
          exact holds_writeRows listed seen
        · simp [resume, detectorContinuation, empty, raiseStatements]

/-- Marking the locked rows keeps their locks. -/
theorem Detecting.of_marking {ids : List BatteryId}
    (effect : server.Effect settings 0 (.marked ids) after)
    (code : (server.sessions 0).todo =
      .markOffline ids :: .commit :: raiseStatements settings clock ids)
    (unmarked : ∀ batteryId, ¬ MarkedIn labels batteryId)
    (uncommitted : (0, .committed) ∉ labels)
    (holds : ∀ batteryId ∈ ids, server.DetectorHolds batteryId) :
    after.Detecting settings clock (labels ++ [(0, .marked ids)]) := by
  cases effect with
  | marked ownCode =>
      obtain ⟨-, rfl⟩ := List.cons.inj (ownCode.symm.trans code)
      apply Detecting.marked ids (by simp [resume])
      · intro batteryId
        constructor
        · rintro ⟨others, member, listed⟩
          rcases List.mem_append.mp member with old | new
          · exact absurd ⟨others, old, listed⟩ (unmarked batteryId)
          · obtain ⟨-, same⟩ := Prod.mk.inj (List.mem_singleton.mp new)
            exact Event.marked.inj same ▸ listed
        · exact fun listed => ⟨ids, List.mem_append_right _ List.mem_cons_self, listed⟩
      · exact uncommitted_concat (by simp) uncommitted
      · intro batteryId listed
        obtain ⟨row, seen⟩ := (holds batteryId listed).seen
        exact holds_writeRows listed seen

/-- Its first commit starts the second transaction. -/
theorem Detecting.of_first_commit {ids : List BatteryId}
    (effect : server.Effect settings 0 .committed after)
    (code : (server.sessions 0).todo = .commit :: raiseStatements settings clock ids)
    (marks : ∀ batteryId ∈ ids, MarkedIn labels batteryId)
    (uncommitted : (0, .committed) ∉ labels) :
    after.Detecting settings clock (labels ++ [(0, .committed)]) := by
  cases effect with
  | committed ownCode =>
      obtain ⟨-, rfl⟩ := List.cons.inj (ownCode.symm.trans code)
      apply Detecting.raising ids (by simp [commit])
      · exact fun batteryId listed => (marks batteryId listed).concat _
      · exact List.mem_append_right _ List.mem_cons_self
      · intro twice
        rcases inOrder_pair_concat.mp twice with earlier | ⟨once, -⟩
        · exact not_committedTwice_of_uncommitted uncommitted earlier
        · exact uncommitted once

/-- Its last commit ends the iteration. -/
theorem Detecting.of_last_commit (effect : server.Effect settings 0 .committed after)
    (code : (server.sessions 0).todo = [.commit]) :
    after.Detecting settings clock (labels ++ [(0, .committed)]) := by
  cases effect with
  | committed ownCode =>
      obtain ⟨-, rfl⟩ := List.cons.inj (ownCode.symm.trans code)
      apply Detecting.ended (by simp [commit])
      exact fun _ _ => List.mem_append_right _ List.mem_cons_self

/-- The iteration itself moves on by one statement. -/
theorem Detecting.step_own (detecting : server.Detecting settings clock labels)
    (proceeds : event.Proceeds) (effect : server.Effect settings 0 event after)
    (clean : (server.sessions 0).dirty = []) :
    after.Detecting settings clock (labels ++ [(0, event)]) := by
  cases detecting with
  | waiting code unmarked uncommitted =>
      obtain ⟨ids, rfl⟩ := effect.yields proceeds clean code
      exact .of_selected effect code unmarked uncommitted
  | idle code unmarked uncommitted =>
      obtain rfl := effect.yields proceeds clean code
      exact .of_last_commit effect code
  | locked ids code unmarked uncommitted holds =>
      obtain rfl := effect.yields proceeds clean code
      exact .of_marking effect code unmarked uncommitted holds
  | marked ids code marks uncommitted holds =>
      obtain rfl := effect.yields proceeds clean code
      exact .of_first_commit effect code (fun batteryId => (marks batteryId).mpr) uncommitted
  | raising ids code marks once notTwice =>
      cases ids with
      | nil =>
          obtain rfl := effect.yields proceeds clean code
          exact .of_last_commit effect code
      | cons first rest =>
          obtain rfl := effect.yields proceeds clean code
          rw [List.forall_mem_cons] at marks
          apply Detecting.raising rest
          · cases effect with
            | raised ownCode =>
                obtain ⟨-, rfl⟩ := List.cons.inj (ownCode.symm.trans code)
                simp [resume, raiseStatements, deviceOfflineCalls]
          · exact fun batteryId listed => (marks.2 batteryId listed).concat _
          · exact List.mem_append_left _ once
          · rwa [committedTwice_concat (by simp [AlertCall.event])]
  | ended code committed =>
      rcases effect.todo proceeds with ⟨_, _, -, due, -⟩ | ⟨statement, todo, other, -⟩
      · rw [clean] at due
        cases due
      · rw [code] at other
        cases other

/-- An alert the iteration raises is for a battery it has marked, between its two commits. -/
theorem Detecting.marked_of_raised (detecting : server.Detecting settings clock labels)
    {request : AlertRequest} (effect : server.Effect settings 0 (.raised request) after)
    (clean : (server.sessions 0).dirty = []) :
    MarkedIn labels request.batteryId ∧ request.alertType = .deviceOffline ∧
      (0, .committed) ∈ labels ∧ ¬ CommittedTwice labels := by
  have proceeds : (Event.raised request).Proceeds := trivial
  cases detecting with
  | waiting code => obtain ⟨_, impossible⟩ := effect.yields proceeds clean code; cases impossible
  | idle code => cases effect.yields proceeds clean code
  | locked _ code => cases effect.yields proceeds clean code
  | marked _ code => cases effect.yields proceeds clean code
  | raising ids code marks once notTwice =>
      cases ids with
      | nil => cases effect.yields proceeds clean code
      | cons first rest =>
          obtain rfl := Event.raised.inj (effect.yields proceeds clean code)
          exact ⟨marks first List.mem_cons_self, rfl, once, notTwice⟩
  | ended code =>
      cases effect with
      | raised ownCode => cases ownCode.symm.trans code

/-- The iteration marks once, rows whose locks it holds, and has all their alerts still to
raise. -/
theorem Detecting.of_marked (detecting : server.Detecting settings clock labels)
    {ids : List BatteryId} (effect : server.Effect settings 0 (.marked ids) after)
    (clean : (server.sessions 0).dirty = []) :
    (server.sessions 0).todo =
        .markOffline ids :: .commit :: raiseStatements settings clock ids ∧
      (0, .committed) ∉ labels ∧ ∀ batteryId ∈ ids, server.DetectorHolds batteryId := by
  have proceeds : (Event.marked ids).Proceeds := trivial
  cases detecting with
  | waiting code => obtain ⟨_, impossible⟩ := effect.yields proceeds clean code; cases impossible
  | idle code => cases effect.yields proceeds clean code
  | locked others code unmarked uncommitted holds =>
      obtain rfl := Event.marked.inj (effect.yields proceeds clean code)
      exact ⟨code, uncommitted, holds⟩
  | marked _ code => cases effect.yields proceeds clean code
  | raising ids code =>
      cases ids with
      | nil => cases effect.yields proceeds clean code
      | cons first rest => cases effect.yields proceeds clean code
  | ended code =>
      cases effect with
      | marked ownCode => cases ownCode.symm.trans code

/-- The iteration stores, selects and flushes nothing. -/
theorem Detecting.own_event (detecting : server.Detecting settings clock labels)
    (proceeds : event.Proceeds) (effect : server.Effect settings 0 event after)
    (clean : (server.sessions 0).dirty = []) :
    (∀ row wasAdmitted, event ≠ .stored row wasAdmitted) ∧
      (∀ battery type resolvedAt, event ≠ .selected battery type resolvedAt) ∧
      ∀ alertId resolvedAt, event ≠ .flushed alertId resolvedAt := by
  cases detecting with
  | waiting code =>
      obtain ⟨ids, rfl⟩ := effect.yields proceeds clean code
      simp
  | idle code =>
      obtain rfl := effect.yields proceeds clean code
      simp
  | locked ids code =>
      obtain rfl := effect.yields proceeds clean code
      simp
  | marked ids code =>
      obtain rfl := effect.yields proceeds clean code
      simp
  | raising ids code =>
      cases ids with
      | nil =>
          obtain rfl := effect.yields proceeds clean code
          simp
      | cons first rest =>
          obtain rfl := effect.yields proceeds clean code
          simp [AlertCall.event]
  | ended code =>
      rcases effect.todo proceeds with ⟨_, _, -, due, -⟩ | ⟨statement, todo, other, -⟩
      · rw [clean] at due
        cases due
      · rw [code] at other
        cases other

/-- In its newest version the battery's row, if there is one, shows `OFFLINE`. -/
def ShowsOffline (server : Server) (batteryId : BatteryId) : Prop :=
  ∀ row, server.latestState batteryId = some row → row.status = .offline

/-- The session has still to look for the battery's offline alert, or to flush the resolution
of the open one. -/
def RecoveringBy (server : Server) (session : SessionId) (batteryId : BatteryId) : Prop :=
  (∃ resolvedAt, .alert (.resolveAlertIfActive batteryId .deviceOffline resolvedAt) ∈
      (server.sessions session).todo) ∨
    ∃ entry ∈ (server.sessions session).dirty, server.OpenAt entry.1 batteryId .deviceOffline

/-- Some request has. -/
def Recovering (server : Server) (batteryId : BatteryId) : Prop :=
  ∃ session, session ≠ 0 ∧ server.RecoveringBy session batteryId

/-- The state of an overlap.  `explained` is what the claim rests on: an open
offline alert goes with the status, is about to be resolved, or was raised for a
battery that had recovered in the gap and has not been looked at since. -/
structure Overlapping (settings : Settings) (clock : DetectorClock) (labels : List Label)
    (server : Server) : Prop where
  detecting : server.Detecting settings clock labels
  clean : (server.sessions 0).dirty = []
  ingests : ∀ session, session ≠ 0 → ∀ statement ∈ (server.sessions session).todo,
    statement.Ingests
  rechecks : ∀ session, session ≠ 0 → ∀ early row late,
    (server.sessions session).todo = early ++ .upsertCurrentState row :: late →
      ∃ resolvedAt, .alert (.resolveAlertIfActive row.batteryId .deviceOffline resolvedAt) ∈ late
  commitsLast : ∀ session, session ≠ 0 → ∀ early late,
    (server.sessions session).todo = early ++ .commit :: late → late = []
  writesResolved : ∀ session alertId alert,
    (server.alerts.cells alertId).pending = some (session, alert) → session ≠ 0 →
      alert.alertType = .deviceOffline → alert.resolved = true
  raisesMarked : ∀ alertId alert, (server.alerts.cells alertId).pending = some (0, alert) →
    MarkedIn labels alert.batteryId
  shows : ∀ batteryId, MarkedIn labels batteryId →
    server.ShowsOffline batteryId ∨ RecoveredInGap labels batteryId
  explained : ∀ batteryId, server.LatestOpen batteryId .deviceOffline →
    server.ShowsOffline batteryId ∨ server.Recovering batteryId ∨
      MarkedIn labels batteryId ∧ RecoveredInGap labels batteryId ∧
        ¬ RecheckedAfter labels batteryId

/-- A request marks nothing and raises no offline alert. -/
theorem Overlapping.request_event (state : server.Overlapping settings clock labels)
    (proceeds : event.Proceeds) (effect : server.Effect settings session event after)
    (other : session ≠ 0) :
    (∀ ids, event ≠ .marked ids) ∧
      ∀ request, event = .raised request → request.alertType ≠ .deviceOffline := by
  rcases effect.todo proceeds with ⟨_, _, rfl, -⟩ | ⟨statement, todo, code, yields, -⟩
  · simp
  have ingests := state.ingests session other statement (code ▸ List.mem_cons_self)
  cases statement with
  | upsertCurrentState row =>
      obtain ⟨_, rfl⟩ := yields
      simp
  | alert call =>
      obtain rfl := yields
      cases call with
      | createOrRetainAlert request =>
          refine ⟨by simp [AlertCall.event], ?_⟩
          rintro _ ⟨⟩
          exact ingests
      | resolveAlertIfActive battery type resolvedAt => simp [AlertCall.event]
  | commit =>
      obtain rfl := yields
      simp
  | getAlert => exact ingests.elim
  | selectStale => exact ingests.elim
  | markOffline => exact ingests.elim

/-- While an alert is open, its resolution stays under way, unless the query for
it is what happens. -/
theorem Effect.recovering (proceeds : event.Proceeds)
    (sound : server.alerts.Sound Alert.indexEntry)
    (effect : server.Effect settings session event after) {holder : SessionId}
    (notSelected : holder = session →
      ∀ resolvedAt, event ≠ .selected batteryId .deviceOffline resolvedAt)
    (isOpen : after.LatestOpen batteryId .deviceOffline)
    (recovering : server.RecoveringBy holder batteryId) : after.RecoveringBy holder batteryId := by
  obtain ⟨resolvedAt, toCome⟩ | ⟨entry, due, entryOpen⟩ := recovering
  · refine Or.inl ⟨resolvedAt, ?_⟩
    by_cases own : holder = session
    swap
    · rwa [effect.sessions_of_ne own]
    subst own
    rcases effect.todo proceeds with
      ⟨_, _, -, -, same⟩ | ⟨statement, todo, code, yields, rest⟩
    · rwa [same]
    rw [code] at toCome
    rcases List.mem_cons.mp toCome with rfl | later
    · exact absurd yields (notSelected rfl resolvedAt)
    · rcases rest with ⟨rest, -⟩ | ⟨_, -, rest⟩
      · rwa [rest]
      · rw [rest]
        exact List.mem_append_right _ later
  · -- The alert is open afterwards, so it is not the one that is flushed.
    have unflushed : ∀ flushed resolvedAt, event = .flushed flushed resolvedAt →
        entry.1 ≠ flushed := by
      rintro flushed resolvedAt rfl same
      exact ((effect.latestOpen_flushed sound).mp isOpen).2 (same ▸ entryOpen)
    refine Or.inr ⟨entry, ?_, ?_⟩
    · by_cases own : holder = session
      swap
      · rwa [effect.sessions_of_ne own]
      subst own
      rcases effect.dirty proceeds with
        same | ⟨_, _, _, _, -, -, -, grown⟩ | ⟨flushed, isFlush, shrunk⟩
      · rwa [same]
      · rw [grown]
        exact List.mem_append_left _ due
      · rw [shrunk]
        refine (List.mem_erase_of_ne ?_).mpr due
        exact fun same => unflushed _ _ isFlush (congrArg Prod.fst same)
    · rcases Event.alert_cases event with ⟨request, rfl⟩ | ⟨flushed, resolvedAt, rfl⟩ | ⟨one, two⟩
      · exact effect.openAt_raised sound entryOpen
      · exact effect.openAt_flushed.mpr ⟨unflushed _ _ rfl, entryOpen⟩
      · exact (effect.openAt_kept proceeds one two).mpr entryOpen

/-- A query for the battery's offline alert finds the open one, unless the
iteration has raised it and not committed yet. -/
theorem Overlapping.selected (state : server.Overlapping settings clock labels)
    (sound : server.alerts.Sound Alert.indexEntry) (quiet : server.Quiet) {resolvedAt : Timestamp}
    (effect : server.Effect settings session (.selected batteryId .deviceOffline resolvedAt) after)
    (isOpen : server.LatestOpen batteryId .deviceOffline) :
    after.RecoveringBy session batteryId ∨
      MarkedIn labels batteryId ∧ ¬ CommittedTwice labels := by
  have proceeds : (Event.selected batteryId .deviceOffline resolvedAt).Proceeds := trivial
  obtain ⟨opened, latest, isLatest, battery, type, unresolved⟩ := isOpen
  by_cases visible : (server.alerts.cells opened).view session = some latest
  · refine Or.inl (Or.inr ⟨(opened, resolvedAt), ?_, ?_⟩)
    · have key : latest.indexEntry = some (batteryId, .deviceOffline) :=
        Alert.indexEntry_eq_some_iff.mpr ⟨battery, type, unresolved⟩
      cases effect with
      | selectedNone code absent =>
          apply absurd key
          simpa [visible] using absent opened
      | @selectedSome _ _ _ _ found alert code seen foundOpen =>
          have same : opened = found := by
            apply sound.unique (fun other => other = session) opened found
              (batteryId, .deviceOffline)
            · rw [← Cell.view, visible, Option.bind_some, key]
            · rw [← Cell.view, seen, Option.bind_some, Alert.indexEntry_eq_some_iff.mpr foundOpen]
          simp [resume, same]
    · exact (effect.openAt_kept proceeds (by simp) (by simp)).mpr
        ⟨latest, isLatest, battery, type, unresolved⟩
  · cases held : (server.alerts.cells opened).pending with
    | none =>
        rw [latestAlert, Cell.outcome_of_not_pending held] at isLatest
        rw [Cell.view, Cell.outcome_of_not_pending held] at visible
        exact absurd isLatest visible
    | some holding =>
        obtain ⟨holder, version⟩ := holding
        rw [latestAlert, Cell.outcome_of_pending held, if_pos rfl, Option.some.injEq] at isLatest
        subst isLatest
        by_cases detector : holder = 0
        · subst detector
          refine Or.inr ⟨battery ▸ state.raisesMarked opened version held, fun twice => ?_⟩
          exact quiet.alerts 0 (state.detecting.finished_of_twice twice) opened version held
        · rw [state.writesResolved holder opened version held detector type] at unresolved
          cases unresolved

section Step

variable (state : server.Overlapping settings clock labels)
  (sound : server.alerts.Sound Alert.indexEntry) (proceeds : event.Proceeds)
  (effect : server.Effect settings session event after)

include state proceeds effect

theorem Overlapping.detecting_step :
    after.Detecting settings clock (labels ++ [(session, event)]) := by
  by_cases own : session = 0
  · subst own
    exact state.detecting.step_own proceeds effect state.clean
  · exact state.detecting.step_of_ne proceeds effect (state.request_event proceeds effect own).1 own

theorem Overlapping.clean_step : (after.sessions 0).dirty = [] := by
  rw [List.eq_nil_iff_forall_not_mem]
  intro entry member
  rcases effect.mem_dirty proceeds member with old | ⟨rfl, battery, type, -, isEvent, -⟩
  · rw [state.clean] at old
    cases old
  · exact (state.detecting.own_event proceeds effect state.clean).2.1 battery type entry.2 isEvent

/-- What is left of a request's code was there before. -/
theorem Overlapping.todo_step (other : session ≠ 0) :
    ∃ done, (server.sessions session).todo = done ++ (after.sessions session).todo := by
  rcases effect.todo proceeds with ⟨_, _, -, -, same⟩ | ⟨statement, todo, code, -, rest⟩
  · exact ⟨[], same.symm⟩
  · rcases rest with ⟨rest, -⟩ | ⟨_, rfl, -⟩
    · exact ⟨[statement], by rw [code, rest, List.singleton_append]⟩
    · have ingests : (Statement.selectStale _).Ingests :=
        state.ingests session other _ (code ▸ List.mem_cons_self)
      exact ingests.elim

theorem Overlapping.ingests_step (holder : SessionId) (other : holder ≠ 0) :
    ∀ statement ∈ (after.sessions holder).todo, statement.Ingests := by
  intro statement member
  apply state.ingests holder other
  by_cases own : holder = session
  · subst own
    obtain ⟨done, before⟩ := state.todo_step proceeds effect other
    rw [before]
    exact List.mem_append_right _ member
  · rwa [effect.sessions_of_ne own] at member

theorem Overlapping.rechecks_step (holder : SessionId) (other : holder ≠ 0)
    (early : List Statement) (row : BatteryCurrentState) (late : List Statement)
    (code : (after.sessions holder).todo = early ++ .upsertCurrentState row :: late) :
    ∃ resolvedAt,
      .alert (.resolveAlertIfActive row.batteryId .deviceOffline resolvedAt) ∈ late := by
  by_cases own : holder = session
  · subst own
    obtain ⟨done, before⟩ := state.todo_step proceeds effect other
    apply state.rechecks holder other (done ++ early) row late
    rw [before, code, List.append_assoc]
  · rw [effect.sessions_of_ne own] at code
    exact state.rechecks holder other early row late code

theorem Overlapping.commitsLast_step (holder : SessionId) (other : holder ≠ 0)
    (early late : List Statement)
    (code : (after.sessions holder).todo = early ++ .commit :: late) : late = [] := by
  by_cases own : holder = session
  · subst own
    obtain ⟨done, before⟩ := state.todo_step proceeds effect other
    apply state.commitsLast holder other (done ++ early) late
    rw [before, code, List.append_assoc]
  · rw [effect.sessions_of_ne own] at code
    exact state.commitsLast holder other early late code

theorem Overlapping.writesResolved_step (holder : SessionId) (alertId : Uuid) (alert : Alert)
    (held : (after.alerts.cells alertId).pending = some (holder, alert)) (other : holder ≠ 0)
    (type : alert.alertType = .deviceOffline) : alert.resolved = true := by
  rcases effect.alert_pending proceeds held with ⟨old, -⟩ |
    ⟨rfl, ⟨request, isEvent, isOpen⟩ | ⟨_, _, -, -, rfl⟩⟩
  · exact state.writesResolved holder alertId alert old other type
  · exact absurd (isOpen.2.1.symm.trans type)
      ((state.request_event proceeds effect other).2 request isEvent)
  · rfl

theorem Overlapping.raisesMarked_step (alertId : Uuid) (alert : Alert)
    (held : (after.alerts.cells alertId).pending = some (0, alert)) :
    MarkedIn (labels ++ [(session, event)]) alert.batteryId := by
  apply MarkedIn.concat
  rcases effect.alert_pending proceeds held with ⟨old, -⟩ |
    ⟨rfl, ⟨request, rfl, isOpen⟩ | ⟨resolvedAt, _, isEvent, -⟩⟩
  · exact state.raisesMarked alertId alert old
  · rw [isOpen.1]
    exact (state.detecting.marked_of_raised effect state.clean).1
  · exact absurd isEvent
      ((state.detecting.own_event proceeds effect state.clean).2.2 alertId resolvedAt)

theorem Overlapping.showsOffline_of_marked {ids : List BatteryId} (isEvent : event = .marked ids)
    (listed : batteryId ∈ ids) : after.ShowsOffline batteryId := by
  subst isEvent
  have own : session = 0 := by
    by_contra other
    exact (state.request_event proceeds effect other).1 ids rfl
  subst own
  obtain ⟨row, seen⟩ := ((state.detecting.of_marked effect state.clean).2.2 batteryId listed).seen
  intro newest isNewest
  rw [effect.latestState_marked listed seen, Option.some.injEq] at isNewest
  rw [← isNewest]
  rfl

/-- `OFFLINE` stays in the newest version unless a request refreshes the row. -/
theorem Overlapping.showsOffline_step (before : server.ShowsOffline batteryId) :
    after.ShowsOffline batteryId ∨ ∃ row, event = .stored row true ∧ row.batteryId = batteryId := by
  have same : after.latestState batteryId = server.latestState batteryId →
      after.ShowsOffline batteryId := by
    intro kept row isRow
    exact before row (kept ▸ isRow)
  cases event with
  | stored row wasAdmitted =>
      by_cases hit : batteryId = row.batteryId ∧ wasAdmitted = true
      · obtain ⟨rfl, rfl⟩ := hit
        exact Or.inr ⟨row, rfl, rfl⟩
      · apply Or.inl ∘ same
        rw [effect.latestState_stored, if_neg hit]
  | marked ids =>
      by_cases listed : batteryId ∈ ids
      · exact Or.inl (state.showsOffline_of_marked proceeds effect rfl listed)
      · exact Or.inl (same (effect.latestState_unmarked listed))
  | _ => exact Or.inl (same (effect.latestState_kept proceeds (by simp) (by simp) batteryId))

/-- A request that refreshes a row has still to look for its offline alert. -/
theorem Overlapping.recovering_of_stored {row : BatteryCurrentState} {wasAdmitted : Bool}
    (isEvent : event = .stored row wasAdmitted) :
    session ≠ 0 ∧ after.RecoveringBy session row.batteryId := by
  subst isEvent
  have other : session ≠ 0 := by
    rintro rfl
    exact (state.detecting.own_event proceeds effect state.clean).1 row wasAdmitted rfl
  refine ⟨other, Or.inl ?_⟩
  cases effect with
  | stored code free =>
      obtain ⟨resolvedAt, toCome⟩ := state.rechecks session other [] row _ code
      exact ⟨resolvedAt, by simpa [resume] using toCome⟩

theorem Overlapping.shows_step (isMarked : MarkedIn (labels ++ [(session, event)]) batteryId) :
    after.ShowsOffline batteryId ∨ RecoveredInGap (labels ++ [(session, event)]) batteryId := by
  by_cases marking : ∃ ids, event = .marked ids ∧ batteryId ∈ ids
  · obtain ⟨ids, isEvent, listed⟩ := marking
    exact Or.inl (state.showsOffline_of_marked proceeds effect isEvent listed)
  have before : MarkedIn labels batteryId := by
    obtain ⟨ids, member, listed⟩ := isMarked
    rcases List.mem_append.mp member with old | new
    · exact ⟨ids, old, listed⟩
    · exact absurd ⟨ids, (Prod.mk.inj (List.mem_singleton.mp new)).2.symm, listed⟩ marking
  rcases state.shows batteryId before with shows | recovered
  · rcases state.showsOffline_step proceeds effect shows with still | ⟨row, rfl, rfl⟩
    · exact Or.inl still
    · have other := (state.recovering_of_stored proceeds effect rfl).1
      have once := state.detecting.committed_of_stored effect other before
      exact Or.inr ⟨session, row, rfl, inOrder_pair_concat.mpr (Or.inr ⟨once, rfl⟩)⟩
  · exact Or.inr (recovered.concat _)

/-- A marked battery is accounted for as long as the iteration has not committed
twice. -/
theorem Overlapping.explained_of_marked (isMarked : MarkedIn labels batteryId)
    (notTwice : ¬ CommittedTwice labels) :
    after.ShowsOffline batteryId ∨ after.Recovering batteryId ∨
      MarkedIn (labels ++ [(session, event)]) batteryId ∧
        RecoveredInGap (labels ++ [(session, event)]) batteryId ∧
        ¬ RecheckedAfter (labels ++ [(session, event)]) batteryId := by
  rcases state.shows_step proceeds effect (isMarked.concat _) with shows | recovered
  · exact Or.inl shows
  · refine Or.inr (Or.inr ⟨isMarked.concat _, recovered, ?_⟩)
    rw [recheckedAfter_concat]
    rintro (rechecked | ⟨twice, -⟩)
    · exact notTwice rechecked.committedTwice
    · exact notTwice twice

theorem Overlapping.explained_step (sound : server.alerts.Sound Alert.indexEntry)
    (quiet : server.Quiet) (isOpen : after.LatestOpen batteryId .deviceOffline) :
    after.ShowsOffline batteryId ∨ after.Recovering batteryId ∨
      MarkedIn (labels ++ [(session, event)]) batteryId ∧
        RecoveredInGap (labels ++ [(session, event)]) batteryId ∧
        ¬ RecheckedAfter (labels ++ [(session, event)]) batteryId := by
  by_cases selects : ∃ resolvedAt, event = .selected batteryId .deviceOffline resolvedAt
  · obtain ⟨resolvedAt, rfl⟩ := selects
    have other : session ≠ 0 := by
      rintro rfl
      exact (state.detecting.own_event proceeds effect state.clean).2.1 _ _ _ rfl
    have before := (effect.latestOpen_kept proceeds (by simp) (by simp)).mp isOpen
    rcases state.selected sound quiet effect before with recovering | ⟨isMarked, notTwice⟩
    · exact Or.inr (Or.inl ⟨session, other, recovering⟩)
    · exact state.explained_of_marked proceeds effect isMarked notTwice
  by_cases raises : ∃ request : AlertRequest, event = .raised request ∧
      request.batteryId = batteryId ∧ request.alertType = .deviceOffline
  · obtain ⟨request, rfl, rfl, type⟩ := raises
    have own : session = 0 := by
      by_contra other
      exact (state.request_event proceeds effect other).2 request rfl type
    subst own
    obtain ⟨isMarked, -, -, notTwice⟩ := state.detecting.marked_of_raised effect state.clean
    exact state.explained_of_marked proceeds effect isMarked notTwice
  obtain ⟨opened, openAt⟩ := isOpen
  have before : server.LatestOpen batteryId .deviceOffline :=
    ⟨opened, effect.openAt_back proceeds sound
      (fun request isEvent key => raises ⟨request, isEvent, key⟩) openAt⟩
  rcases state.explained batteryId before with shows | recovering | ⟨isMarked, recovered, unchecked⟩
  · rcases state.showsOffline_step proceeds effect shows with still | ⟨row, isEvent, rfl⟩
    · exact Or.inl still
    · exact Or.inr (Or.inl ⟨session, state.recovering_of_stored proceeds effect isEvent⟩)
  · obtain ⟨holder, other, recovering⟩ := recovering
    exact Or.inr (Or.inl ⟨holder, other, effect.recovering proceeds sound
      (fun _ resolvedAt isEvent => selects ⟨resolvedAt, isEvent⟩) ⟨opened, openAt⟩ recovering⟩)
  · refine Or.inr (Or.inr ⟨isMarked.concat _, recovered.concat _, ?_⟩)
    rw [recheckedAfter_concat]
    rintro (rechecked | ⟨-, query⟩)
    · exact unchecked rechecked
    · exact selects query

theorem Overlapping.step (sound : server.alerts.Sound Alert.indexEntry) (quiet : server.Quiet) :
    after.Overlapping settings clock (labels ++ [(session, event)]) where
  detecting := state.detecting_step proceeds effect
  clean := state.clean_step proceeds effect
  ingests := state.ingests_step proceeds effect
  rechecks := state.rechecks_step proceeds effect
  commitsLast := state.commitsLast_step proceeds effect
  writesResolved := state.writesResolved_step proceeds effect
  raisesMarked := state.raisesMarked_step proceeds effect
  shows _ isMarked := state.shows_step proceeds effect isMarked
  explained _ isOpen := state.explained_step proceeds effect sound quiet isOpen

end Step

end Server

/-! ### Whole runs -/

section Runs

variable {settings : Settings} {clock : DetectorClock} {db : Database}
  {batteries : Table Battery Battery.batteryId} {telemetry : List Telemetry}
  {event : TelemetryEvent} {requests : List (List Telemetry × TelemetryEvent)}

/-- A rule pass raises no offline alert. -/
theorem alertType_of_rulePassCalls {latest : List TelemetryEvent} {request : AlertRequest}
    (made : .createOrRetainAlert request ∈ rulePassCalls settings telemetry batteries latest) :
    request.alertType ≠ .deviceOffline := by
  rcases List.mem_append.mp made with inRules | inResolves
  · obtain ⟨other, -, inOther⟩ := List.mem_flatMap.mp inRules
    exact (evaluateRulesForEvent_key inOther).2
  · obtain ⟨other, -, impossible⟩ := List.mem_map.mp inResolves
    cases impossible

theorem singleIngestion_ingests {statement : Statement}
    (member : statement ∈ singleIngestion settings telemetry batteries event) :
    statement.Ingests := by
  simp only [singleIngestion, List.mem_append, List.mem_singleton, List.mem_map] at member
  rcases member with (rfl | ⟨call, made, rfl⟩) | rfl
  · intro offline
    cases offline
  · cases call with
    | createOrRetainAlert request => exact alertType_of_rulePassCalls made
    | resolveAlertIfActive => trivial
  · trivial

/-- After its upsert a request looks for the offline alert of its battery. -/
theorem singleIngestion_rechecks {early late : List Statement} {row : BatteryCurrentState}
    (split : singleIngestion settings telemetry batteries event =
      early ++ .upsertCurrentState row :: late) :
    ∃ resolvedAt,
      .alert (.resolveAlertIfActive row.batteryId .deviceOffline resolvedAt) ∈ late := by
  rw [singleIngestion, List.append_assoc, List.singleton_append] at split
  cases early with
  | nil =>
      obtain ⟨same, rfl⟩ := List.cons.inj split
      obtain rfl := Statement.upsertCurrentState.inj same
      have latest : event ∈ sortedLatest [event] := by
        have only := sortedLatest_filter [event] event.batteryId
        rw [newestEvent_singleton, if_pos rfl, Option.toList_some] at only
        have listed := List.mem_singleton_self event
        rw [← only] at listed
        exact (List.mem_filter.mp listed).1
      refine ⟨event.timestamp, List.mem_append_left _ (List.mem_map_of_mem ?_)⟩
      exact List.mem_append_right _ (List.mem_map.mpr ⟨event, latest, rfl⟩)
  | cons first rest =>
      -- The upsert is the request's first statement and its only one.
      have inRest : Statement.upsertCurrentState row ∈
          (rulePassCalls settings telemetry batteries (sortedLatest [event])).map Statement.alert ++
            [.commit] := by
        rw [(List.cons.inj split).2]
        exact List.mem_append_right _ List.mem_cons_self
      simp at inRest

/-- A request commits once. -/
theorem singleIngestion_commitsLast {early late : List Statement}
    (split : singleIngestion settings telemetry batteries event = early ++ .commit :: late) :
    late = [] := by
  cases late.eq_nil_or_concat with
  | inl empty => exact empty
  | inr more =>
      obtain ⟨before, last, rfl⟩ := more
      rw [singleIngestion, List.concat_eq_append, ← List.cons_append, ← List.append_assoc] at split
      have inCalls : Statement.commit ∈ [.upsertCurrentState event.toCurrentState] ++
          (rulePassCalls settings telemetry batteries (sortedLatest [event])).map
            Statement.alert := by
        rw [(List.append_inj' split rfl).1]
        exact List.mem_append_right _ List.mem_cons_self
      simp at inCalls

theorem detectorOverlap_cases (settings : Settings) (clock : DetectorClock)
    (batteries : Table Battery Battery.batteryId)
    (requests : List (List Telemetry × TelemetryEvent)) {session : SessionId}
    (other : session ≠ 0) :
    detectorOverlap settings clock batteries requests session = [] ∨
      ∃ telemetry event, detectorOverlap settings clock batteries requests session =
        singleIngestion settings telemetry batteries event := by
  cases session with
  | zero => exact absurd rfl other
  | succ session =>
      simp only [detectorOverlap]
      split
      · exact Or.inr ⟨_, _, rfl⟩
      · exact Or.inl rfl

theorem quiet_detectorOverlap :
    (Server.ofDatabase db (detectorOverlap settings clock batteries requests)).Quiet := by
  apply Server.quiet_ofDatabase
  · intro session alertId now
    by_cases own : session = 0
    · subst own
      simp [detectorOverlap, detectorIteration]
    · rcases detectorOverlap_cases settings clock batteries requests own with
        empty | ⟨telemetry, event, code⟩
      · simp [empty]
      · rw [code]
        exact fun member => singleIngestion_ingests member
  · intro session early last split
    by_cases own : session = 0
    · subst own
      have whole : [] ++ [Statement.selectStale clock] = early ++ [last] := split
      obtain rfl := List.singleton_inj.mp (List.append_inj' whole rfl).2
      trivial
    · rcases detectorOverlap_cases settings clock batteries requests own with
        empty | ⟨telemetry, event, code⟩
      · simp [empty] at split
      · rw [code] at split
        obtain rfl := List.singleton_inj.mp (List.append_inj' split rfl).2
        trivial

end Runs

/-- Of what is committed: no battery has an open offline alert while its status is
another than `OFFLINE`. -/
def Server.OfflineAlertsSound (server : Server) : Prop :=
  ∀ batteryId row, (server.currentState batteryId).committed = some row →
    server.CommittedOpen batteryId .deviceOffline → row.status = .offline

section Runs

variable {settings : Settings} {clock : DetectorClock} {db : Database}
  {requests : List (List Telemetry × TelemetryEvent)}

/-- An overlap starts as one. -/
theorem overlapping_ofDatabase (sound : db.OfflineAlertsSound) :
    (Server.ofDatabase db (detectorOverlap settings clock db.batteries requests)).Overlapping
      settings clock [] where
  detecting := .waiting rfl (by rintro batteryId ⟨ids, ⟨⟩, -⟩) List.not_mem_nil
    fun _ => List.not_mem_nil
  clean := rfl
  ingests session other statement member := by
    rcases detectorOverlap_cases settings clock db.batteries requests other with
      empty | ⟨telemetry, event, code⟩
    · rw [Server.todo_ofDatabase, empty] at member
      cases member
    · rw [Server.todo_ofDatabase, code] at member
      exact singleIngestion_ingests member
  rechecks session other early row late split := by
    rcases detectorOverlap_cases settings clock db.batteries requests other with
      empty | ⟨telemetry, event, code⟩
    · simp [empty] at split
    · rw [Server.todo_ofDatabase, code] at split
      exact singleIngestion_rechecks split
  commitsLast session other early late split := by
    rcases detectorOverlap_cases settings clock db.batteries requests other with
      empty | ⟨telemetry, event, code⟩
    · simp [empty] at split
    · rw [Server.todo_ofDatabase, code] at split
      exact singleIngestion_commitsLast split
  writesResolved _ _ _ held := by cases held
  raisesMarked _ _ held := by cases held
  shows batteryId isMarked := by
    obtain ⟨ids, ⟨⟩, -⟩ := isMarked
  explained batteryId isOpen := by
    refine Or.inl fun row isRow => sound batteryId row isRow fun none => ?_
    obtain ⟨alertId, alert, present, open'⟩ := isOpen
    exact db.alerts.getUnresolvedAlert_none_iff.mp none alert
      (db.alerts.table.lookup_some_iff.mp present).1 open'

end Runs

/-- No battery is left with an open offline alert and another status than `OFFLINE`, provided
that every battery the iteration has marked and a request has refreshed after the
iteration's first commit is looked at by a request after the second one. -/
theorem offlineAlertsSound_of_rechecked (settings : Settings) (clock : DetectorClock)
    (db : Database) (sound : db.OfflineAlertsSound)
    (requests : List (List Telemetry × TelemetryEvent)) {labels : List Label} {last : Server}
    (run : Trace (Server.Step settings)
      (Server.ofDatabase db (detectorOverlap settings clock db.batteries requests)) labels last)
    (completed : ∀ label ∈ labels, label.2 ≠ .failed) (finished : ∀ session, last.Finished session)
    (rechecked : ∀ batteryId, MarkedIn labels batteryId → RecoveredInGap labels batteryId →
      RecheckedAfter labels batteryId) :
    last.OfflineAlertsSound := by
  obtain ⟨quiet, state⟩ := Server.completed_run_induction
    (fun labels server => server.Overlapping settings clock labels) run completed
    (Server.sound_ofDatabase db _) (Server.follows_ofDatabase db _) quiet_detectorOverlap
    (overlapping_ofDatabase sound)
    (fun _ _ _ _ _ sound _ quiet proceeds state effect => state.step proceeds effect sound quiet)
  intro batteryId row committed isOpen
  rcases state.explained batteryId ((quiet.committedOpen_iff finished).mp isOpen) with
    shows | ⟨session, -, ⟨_, toCome⟩ | ⟨entry, due, -⟩⟩ | ⟨isMarked, recovered, unchecked⟩
  · exact shows row ((quiet.latestState_of_finished finished batteryId).trans committed)
  · rw [finished session] at toCome
    cases toCome
  · rw [quiet.clean session (finished session)] at due
    cases due
  · exact absurd (rechecked batteryId isMarked recovered) unchecked

end VoltStream.Backend
