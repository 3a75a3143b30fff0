/-
Module: VoltStream.Proofs.DetectorGap
Purpose: Which batteries one iteration of the offline detector, overlapping with any number of
  single-event requests, leaves with an open `DEVICE_OFFLINE` alert and another status than
  `OFFLINE`: those that it has marked, that have recovered before it raises their alerts, and
  that nobody looks at afterwards.
Trusted boundary: none
Main exports: Server.UnseenAt, Server.Tracked, offline_alerts_sound_after_overlap,
  recovery_in_the_gap
-/
import VoltStream.Proofs.DetectorOverlap

namespace VoltStream.Backend

open Relational

theorem CommittedTwice.concat {labels : List Label} (twice : CommittedTwice labels)
    (label : Label) : CommittedTwice (labels ++ [label]) :=
  inOrder_pair_concat.mpr (Or.inl twice)

namespace Server

variable {settings : Settings} {server after : Server} {session : SessionId} {event : Event}
  {labels : List Label} {clock : DetectorClock} {batteryId : BatteryId} {alertId : Uuid}

/-- The iteration has still to raise the battery's alert. -/
def ToRaise (server : Server) (batteryId : BatteryId) : Prop :=
  ∃ request : AlertRequest, .alert (.createOrRetainAlert request) ∈ (server.sessions 0).todo ∧
    request.batteryId = batteryId ∧ request.alertType = .deviceOffline

/-- In its newest version the battery's row shows another status than `OFFLINE`. -/
def ShowsReported (server : Server) (batteryId : BatteryId) : Prop :=
  ∃ row, server.latestState batteryId = some row ∧ row.status ≠ .offline

/-- The alert that the iteration has raised for the battery, which no session has loaded:
before the iteration's second commit nobody else sees it. -/
structure UnseenAt (labels : List Label) (server : Server) (alertId : Uuid)
    (batteryId : BatteryId) : Prop where
  isOpen : server.OpenAt alertId batteryId .deviceOffline
  unloaded : ∀ session, ∀ entry ∈ (server.sessions session).dirty, entry.1 ≠ alertId
  once : (0, .committed) ∈ labels
  hidden : ¬ CommittedTwice labels → (server.alerts.cells alertId).committed = none ∧
    ∃ alert, (server.alerts.cells alertId).pending = some (0, alert)

/-- The state of an overlap, with what becomes of the batteries that the iteration chooses. -/
structure Tracked (settings : Settings) (clock : DetectorClock) (labels : List Label)
    (server : Server) : Prop where
  overlapping : server.Overlapping settings clock labels
  loaded : ∀ session, ∀ entry ∈ (server.sessions session).dirty,
    ∃ alert, server.latestAlert entry.1 = some alert
  recovered : ∀ batteryId, RecoveredInGap labels batteryId → server.ShowsReported batteryId
  unstarted : (∀ event, (0, event) ∉ labels) → ∀ batteryId,
    server.LatestOpen batteryId .deviceOffline →
      (∀ row, (server.currentState batteryId).committed = some row → row.status = .offline) ∧
        ∀ holder row, (server.currentState batteryId).pending = some (holder, row) →
          server.RecoveringBy holder batteryId
  chosen : ∀ batteryId, server.ToRaise batteryId ∨ MarkedIn labels batteryId →
    RecheckedAfter labels batteryId ∨ (∃ alertId, server.UnseenAt labels alertId batteryId) ∨
      server.ToRaise batteryId ∧ ¬ server.LatestOpen batteryId .deviceOffline

/-- A row is only touched by an upsert of it, by a commit and by the detector. -/
theorem Effect.currentState_cases (proceeds : event.Proceeds)
    (effect : server.Effect settings session event after) (batteryId : BatteryId) :
    (∃ row wasAdmitted, event = .stored row wasAdmitted ∧ row.batteryId = batteryId) ∨
      event = .committed ∧ after.currentState batteryId =
        (server.currentState batteryId).commit session ∨
      (∃ ids, event = .lockedStale ids ∨ event = .marked ids) ∨
      after.currentState batteryId = server.currentState batteryId := by
  cases effect with
  | @stored row =>
      by_cases same : row.batteryId = batteryId
      · exact Or.inl ⟨row, _, rfl, same⟩
      · refine Or.inr (Or.inr (Or.inr ?_))
        simp only [resume, storeRow, Function.update_of_ne (Ne.symm same)]
  | committed => exact Or.inr (Or.inl ⟨rfl, rfl⟩)
  | lockedStale => exact Or.inr (Or.inr (Or.inl ⟨_, Or.inl rfl⟩))
  | marked => exact Or.inr (Or.inr (Or.inl ⟨_, Or.inr rfl⟩))
  | fetchedOpen => exact proceeds.elim
  | fetchedDone => exact proceeds.elim
  | failed => exact proceeds.elim
  | _ => exact Or.inr (Or.inr (Or.inr rfl))

section Step

variable (tracked : server.Tracked settings clock labels)
  (sound : server.alerts.Sound Alert.indexEntry) (proceeds : event.Proceeds)
  (effect : server.Effect settings session event after)

include tracked sound proceeds effect

theorem Tracked.loaded_step (holder : SessionId) {entry : Uuid × Timestamp}
    (due : entry ∈ (after.sessions holder).dirty) :
    ∃ alert, after.latestAlert entry.1 = some alert := by
  have before : ∃ alert, server.latestAlert entry.1 = some alert := by
    rcases effect.mem_dirty proceeds due with old | ⟨-, _, _, _, -, seen, -⟩
    · exact tracked.loaded holder entry old
    · exact latestAlert_of_seen seen
  obtain ⟨alert, present⟩ := before
  obtain ⟨new, isNew, -⟩ := effect.latestAlert_present proceeds sound present
  exact ⟨new, isNew⟩

omit tracked sound in
/-- What a request writes shows the status that was reported. -/
theorem Overlapping.showsReported_of_stored (state : server.Overlapping settings clock labels)
    {row : BatteryCurrentState} (isEvent : event = .stored row true) :
    after.ShowsReported row.batteryId := by
  have other := (state.recovering_of_stored proceeds effect isEvent).1
  subst isEvent
  have ingests : (Statement.upsertCurrentState row).Ingests := by
    rcases effect.todo proceeds with ⟨_, _, isFlush, -⟩ | ⟨statement, todo, code, yields, -⟩
    · cases isFlush
    · cases statement with
      | upsertCurrentState written =>
          obtain ⟨_, same⟩ := yields
          cases same
          exact state.ingests session other _ (code ▸ List.mem_cons_self)
      | alert call => cases call <;> cases yields
      | selectStale => obtain ⟨_, same⟩ := yields; cases same
      | _ => cases yields
  exact ⟨row, by rw [effect.latestState_stored, if_pos ⟨rfl, rfl⟩], ingests⟩

omit sound in
theorem Tracked.recovered_step
    (recovered : RecoveredInGap (labels ++ [(session, event)]) batteryId) :
    after.ShowsReported batteryId := by
  have state := tracked.overlapping
  obtain ⟨holder, row, isBattery, order⟩ := recovered
  rcases inOrder_pair_concat.mp order with earlier | ⟨-, isLast⟩
  · obtain ⟨latest, isLatest, reported⟩ :=
      tracked.recovered batteryId ⟨holder, row, isBattery, earlier⟩
    have kept : after.latestState batteryId = server.latestState batteryId →
        after.ShowsReported batteryId :=
      fun same => ⟨latest, same.trans isLatest, reported⟩
    cases event with
    | stored stored wasAdmitted =>
        by_cases hit : batteryId = stored.batteryId ∧ wasAdmitted = true
        · obtain ⟨rfl, rfl⟩ := hit
          exact state.showsReported_of_stored proceeds effect rfl
        · exact kept (by rw [effect.latestState_stored, if_neg hit])
    | marked ids =>
        -- The iteration marks before its first commit.
        have own : session = 0 := by
          by_contra other
          exact (state.request_event proceeds effect other).1 ids rfl
        subst own
        exact absurd (earlier.subset List.mem_cons_self)
          (state.detecting.of_marked effect state.clean).2.1
    | _ => exact kept (effect.latestState_kept proceeds (by simp) (by simp) batteryId)
  · obtain ⟨rfl, rfl⟩ := Prod.mk.inj isLast
    exact isBattery ▸ state.showsReported_of_stored proceeds effect rfl

/-- An open offline alert was open before, unless the iteration raises it. -/
theorem Tracked.latestOpen_back
    (notRaised : ∀ request : AlertRequest, session = 0 → event = .raised request →
      request.batteryId ≠ batteryId)
    (isOpen : after.LatestOpen batteryId .deviceOffline) :
    server.LatestOpen batteryId .deviceOffline := by
  obtain ⟨opened, openAt⟩ := isOpen
  refine ⟨opened, effect.openAt_back proceeds sound ?_ openAt⟩
  rintro request isEvent ⟨isBattery, type⟩
  by_cases own : session = 0
  · exact notRaised request own isEvent isBattery
  · exact (tracked.overlapping.request_event proceeds effect own).2 request isEvent type

/-- Before the iteration starts: an open alert goes with the committed status, and whoever
has written the row resolves it before the commit. -/
theorem Tracked.unstarted_step (quiet : server.Quiet)
    (unstarted : ∀ own, (0, own) ∉ labels ++ [(session, event)])
    (isOpen : after.LatestOpen batteryId .deviceOffline) :
    (∀ row, (after.currentState batteryId).committed = some row → row.status = .offline) ∧
      ∀ holder row, (after.currentState batteryId).pending = some (holder, row) →
        after.RecoveringBy holder batteryId := by
  have state := tracked.overlapping
  have other : session ≠ 0 := by
    rintro rfl
    exact unstarted event (List.mem_append_right _ List.mem_cons_self)
  have before : ∀ own, (0, own) ∉ labels :=
    fun own member => unstarted own (List.mem_append_left _ member)
  have wasOpen := tracked.latestOpen_back sound proceeds effect
    (fun _ own => absurd own other) isOpen
  obtain ⟨shows, holders⟩ := tracked.unstarted before batteryId wasOpen
  have still : ∀ holder row, (server.currentState batteryId).pending = some (holder, row) →
      after.RecoveringBy holder batteryId := by
    intro holder row held
    by_cases selects : holder = session ∧
        ∃ resolvedAt, event = .selected batteryId .deviceOffline resolvedAt
    · obtain ⟨rfl, resolvedAt, rfl⟩ := selects
      rcases state.selected sound quiet effect wasOpen with recovering | ⟨⟨ids, marked, -⟩, -⟩
      · exact recovering
      · exact absurd marked (before _)
    · exact effect.recovering proceeds sound
        (fun own resolvedAt isEvent => selects ⟨own, resolvedAt, isEvent⟩) isOpen
        (holders holder row held)
  rcases effect.currentState_cases proceeds batteryId with
    ⟨row, wasAdmitted, isEvent, rfl⟩ | ⟨rfl, same⟩ | ⟨ids, isEvent⟩ | same
  · have recovering := (state.recovering_of_stored proceeds effect isEvent).2
    subst isEvent
    cases effect with
    | stored code free =>
        simp only [resume, storeRow, Function.update_self, Cell.write]
        refine ⟨shows, fun holder written held => ?_⟩
        obtain ⟨rfl, -⟩ := Prod.mk.inj (Option.some.inj held)
        exact recovering
  · -- Whoever commits has nothing left to resolve, and so has not written the row.
    have idle : ∀ row, (server.currentState batteryId).pending ≠ some (session, row) := by
      intro row held
      cases effect with
      | committed code clean =>
          obtain rfl := state.commitsLast session other [] _ code
          rcases holders session row held with ⟨resolvedAt, toCome⟩ | ⟨entry, due, -⟩
          · rw [code] at toCome
            simp at toCome
          · rw [clean] at due
            cases due
    rw [same, Cell.commit_of_not_holder idle]
    exact ⟨shows, still⟩
  · exfalso
    rcases isEvent with rfl | rfl
    · cases effect with
      | lockedStale code =>
          have ingests := state.ingests session other _ (code ▸ List.mem_cons_self)
          exact ingests.elim
    · exact (state.request_event proceeds effect other).1 ids rfl
  · rw [same]
    exact ⟨shows, still⟩

omit tracked in
/-- The other sessions leave the alert of the iteration as it is, and its own first commit is
over. -/
theorem UnseenAt.hidden_step (unseen : server.UnseenAt labels alertId batteryId)
    (notTwice : ¬ CommittedTwice (labels ++ [(session, event)])) :
    (after.alerts.cells alertId).committed = none ∧
      ∃ alert, (after.alerts.cells alertId).pending = some (0, alert) := by
  obtain ⟨absent, alert, held⟩ := unseen.hidden fun twice => notTwice (twice.concat _)
  cases effect with
  | @raised _ _ written version code calm places =>
      by_cases same : alertId = written
      · subst same
        obtain rfl := Cell.holder_of_free (places.free sound) held
        simpa [resume, Heap.write, Cell.write] using absent
      · simpa only [resume, Heap.write, Function.update_of_ne same] using ⟨absent, alert, held⟩
  | flushed due =>
      have different := (unseen.unloaded session _ due).symm
      simpa only [resume, Heap.write, Function.update_of_ne different] using ⟨absent, alert, held⟩
  | committed =>
      have other : 0 ≠ session := by
        rintro rfl
        exact notTwice (inOrder_pair_concat.mpr (Or.inr ⟨unseen.once, rfl⟩))
      have idle : ∀ version, (server.alerts.cells alertId).pending ≠ some (session, version) := by
        intro version own
        exact other (Prod.mk.inj (Option.some.inj (held.symm.trans own))).1
      simp only [Server.commit, Heap.commit, Cell.commit_of_not_holder idle]
      exact ⟨absent, alert, held⟩
  | fetchedOpen => exact proceeds.elim
  | fetchedDone => exact proceeds.elim
  | failed => exact proceeds.elim
  | _ => exact ⟨absent, alert, held⟩

/-- The alert stays unseen until a session looks for it after the second commit. -/
theorem Tracked.unseen_step (follows : server.alerts.Follows Alert.Evolves)
    (unseen : server.UnseenAt labels alertId batteryId) :
    RecheckedAfter (labels ++ [(session, event)]) batteryId ∨
      after.UnseenAt (labels ++ [(session, event)]) alertId batteryId := by
  have state := tracked.overlapping
  by_cases rechecks : CommittedTwice labels ∧
      ∃ resolvedAt, event = .selected batteryId .deviceOffline resolvedAt
  · exact Or.inl (recheckedAfter_concat.mpr (Or.inr rechecks))
  refine Or.inr ⟨?_, fun holder entry due same => ?_, List.mem_append_left _ unseen.once,
    fun notTwice => unseen.hidden_step sound proceeds effect notTwice⟩
  · rcases Event.alert_cases event with ⟨request, rfl⟩ | ⟨flushed, resolvedAt, rfl⟩ | ⟨one, two⟩
    · exact effect.openAt_raised sound unseen.isOpen
    · have different := unseen.unloaded session _ effect.flushed_dirty.1
      exact effect.openAt_flushed.mpr ⟨different.symm, unseen.isOpen⟩
    · exact (effect.openAt_kept proceeds one two).mpr unseen.isOpen
  · rcases effect.mem_dirty proceeds due with
      old | ⟨rfl, battery, type, seen, isEvent, sees, isOpen⟩
    · exact unseen.unloaded holder entry old same
    · -- What the session sees of the alert is its own battery's, and is committed.
      rw [same] at sees
      obtain ⟨latest, isLatest, latestBattery, latestType, -⟩ := unseen.isOpen
      obtain ⟨sameBattery, sameType⟩ := same_incident_of_seen follows sees isLatest
      obtain rfl := isOpen.1.symm.trans (sameBattery.symm.trans latestBattery)
      obtain rfl := isOpen.2.1.symm.trans (sameType.symm.trans latestType)
      obtain ⟨absent, alert, held⟩ := unseen.hidden fun twice => rechecks ⟨twice, _, isEvent⟩
      have other : 0 ≠ holder := by
        rintro rfl
        exact (state.detecting.own_event proceeds effect state.clean).2.1 _ _ _ isEvent
      have idle : ∀ version, (server.alerts.cells alertId).pending ≠ some (holder, version) := by
        intro version own
        exact other (Prod.mk.inj (Option.some.inj (held.symm.trans own))).1
      rw [Cell.view_of_not_holder idle, absent] at sees
      cases sees

omit proceeds in
/-- The iteration raises a new alert for a battery that has no open one. -/
theorem Tracked.unseen_of_raised {request : AlertRequest} (isEvent : event = .raised request)
    (type : request.alertType = .deviceOffline)
    (closed : ¬ server.LatestOpen request.batteryId .deviceOffline) :
    ∃ alertId, after.UnseenAt (labels ++ [(session, event)]) alertId request.batteryId := by
  subst isEvent
  have state := tracked.overlapping
  have proceeds : (Event.raised request).Proceeds := trivial
  have own : session = 0 := by
    by_contra other
    exact (state.request_event proceeds effect other).2 request rfl type
  subst own
  have once := (state.detecting.marked_of_raised effect state.clean).2.2.1
  cases effect with
  | @raised _ _ written version code calm places isOpen =>
      cases places with
      | retained free seen keyed =>
          have wasOpen := Alert.indexEntry_eq_some_iff.mp keyed
          rw [type] at wasOpen
          exact absurd ⟨_, _, (latestAlert_of_free free).trans seen, wasOpen⟩ closed
      | inserted absent =>
          have undrawn := sound.drawn server.alerts.size le_rfl
          have free : (server.alerts.cells server.alerts.size).lockedAgainst 0 = false := by
            rw [undrawn]
            rfl
          have latest := (latestAlert_write free (request.toAlert server.alerts.size)
            server.alerts.size).trans (if_pos rfl)
          rw [type] at isOpen
          refine ⟨server.alerts.size, ⟨_, latest, isOpen⟩, fun holder entry due same => ?_,
            List.mem_append_left _ once, fun _ => ⟨?_, ?_⟩⟩
          · have before : entry ∈ (server.sessions holder).dirty := by
              by_cases own : holder = 0
              · subst own
                simpa [resume] using due
              · simpa [resume, own] using due
            obtain ⟨alert, present⟩ := tracked.loaded holder entry before
            rw [latestAlert, same, undrawn] at present
            cases present
          · simp [resume, Heap.write, Cell.write, undrawn, Cell.settled]
          · exact ⟨request.toAlert server.alerts.size, by simp [resume, Heap.write, Cell.write]⟩

omit tracked sound in
/-- Nothing but the raising takes the call away. -/
theorem ToRaise.step (toRaise : server.ToRaise batteryId)
    (notRaised : ∀ request : AlertRequest, event = .raised request →
      ¬ (request.batteryId = batteryId ∧ request.alertType = .deviceOffline)) :
    after.ToRaise batteryId := by
  obtain ⟨request, toCome, isKey⟩ := toRaise
  refine ⟨request, ?_, isKey⟩
  by_cases own : session = 0
  swap
  · rwa [effect.sessions_of_ne (Ne.symm own)]
  subst own
  rcases effect.todo proceeds with ⟨_, _, -, -, same⟩ | ⟨statement, todo, code, yields, rest⟩
  · rwa [same]
  rw [code] at toCome
  rcases List.mem_cons.mp toCome with rfl | later
  · exact absurd isKey (notRaised request yields)
  · rcases rest with ⟨rest, -⟩ | ⟨_, -, rest⟩
    · rwa [rest]
    · rw [rest]
      exact List.mem_append_right _ later

omit sound in
/-- A battery that the iteration chooses has no open offline alert. -/
theorem Tracked.closed_of_selected (toRaise : after.ToRaise batteryId)
    (before : ¬ server.ToRaise batteryId) : ¬ after.LatestOpen batteryId .deviceOffline := by
  have state := tracked.overlapping
  obtain ⟨request, toCome, isBattery, type⟩ := toRaise
  have own : session = 0 := by
    by_contra other
    rw [effect.sessions_of_ne (Ne.symm other)] at toCome
    exact before ⟨request, toCome, isBattery, type⟩
  subst own
  have notFlushed : ∀ alertId resolvedAt, event ≠ .flushed alertId resolvedAt :=
    (state.detecting.own_event proceeds effect state.clean).2.2
  rcases effect.todo proceeds with ⟨_, _, isFlush, -⟩ | ⟨statement, todo, code, yields, rest⟩
  · exact absurd isFlush (notFlushed _ _)
  rcases rest with ⟨rest, -⟩ | ⟨own, rfl, rest⟩
  · rw [rest] at toCome
    exact absurd ⟨request, code ▸ List.mem_cons_of_mem _ toCome, isBattery, type⟩ before
  obtain ⟨ids, rfl⟩ := yields
  cases state.detecting with
  | waiting waits unmarked uncommitted unstarted =>
      obtain ⟨-, rfl⟩ := List.cons.inj (code.symm.trans waits)
      have listed : batteryId ∈ server.staleUnlocked settings own.cutoffNow 0 := by
        rw [rest, List.append_nil, detectorContinuation] at toCome
        split at toCome
        · simp at toCome
        · simp only [List.mem_append, List.mem_cons, List.mem_map, List.not_mem_nil, or_false,
            deviceOfflineCalls, reduceCtorEq, false_or, or_false] at toCome
          obtain ⟨call, ⟨found, inIds, rfl⟩, same⟩ := toCome
          cases same
          exact isBattery ▸ inIds
      rw [effect.latestOpen_kept proceeds (by simp) (by simp)]
      intro isOpen
      obtain ⟨shows, holders⟩ := tracked.unstarted unstarted batteryId isOpen
      have stale := (List.mem_filter.mp listed).2
      rw [Bool.and_eq_true, Bool.not_eq_true', Option.any_eq_true] at stale
      obtain ⟨free, row, seen, isStale⟩ := stale
      have idle : ∀ written, (server.currentState batteryId).pending ≠ some (0, written) := by
        intro written held
        rcases holders 0 written held with ⟨resolvedAt, query⟩ | ⟨entry, due, -⟩
        · rw [waits] at query
          simp at query
        · rw [state.clean] at due
          cases due
      rw [Cell.view_of_not_holder idle] at seen
      exact (of_decide_eq_true isStale).1 (shows row seen)
  | idle waits => cases code.symm.trans waits
  | locked _ waits => cases code.symm.trans waits
  | marked _ waits => cases code.symm.trans waits
  | raising ids waits =>
      cases ids <;> cases code.symm.trans waits
  | ended waits => cases code.symm.trans waits

/-- What becomes of a battery that the iteration has chosen. -/
theorem Tracked.chosen_step (follows : server.alerts.Follows Alert.Evolves)
    (isChosen : after.ToRaise batteryId ∨ MarkedIn (labels ++ [(session, event)]) batteryId) :
    RecheckedAfter (labels ++ [(session, event)]) batteryId ∨
      (∃ alertId, after.UnseenAt (labels ++ [(session, event)]) alertId batteryId) ∨
      after.ToRaise batteryId ∧ ¬ after.LatestOpen batteryId .deviceOffline := by
  have state := tracked.overlapping
  by_cases before : server.ToRaise batteryId ∨ MarkedIn labels batteryId
  · rcases tracked.chosen batteryId before with rechecked | ⟨alertId, unseen⟩ | ⟨toRaise, closed⟩
    · exact Or.inl (recheckedAfter_concat.mpr (Or.inl rechecked))
    · rcases tracked.unseen_step sound proceeds effect follows unseen with rechecked | still
      · exact Or.inl rechecked
      · exact Or.inr (Or.inl ⟨alertId, still⟩)
    · by_cases raises : ∃ request : AlertRequest, event = .raised request ∧
          request.batteryId = batteryId ∧ request.alertType = .deviceOffline
      · obtain ⟨request, isEvent, rfl, type⟩ := raises
        exact Or.inr (Or.inl (tracked.unseen_of_raised sound effect isEvent type closed))
      · refine Or.inr (Or.inr ⟨toRaise.step proceeds effect fun request isEvent key =>
          raises ⟨request, isEvent, key⟩, fun isOpen => closed ?_⟩)
        obtain ⟨opened, openAt⟩ := isOpen
        exact ⟨opened, effect.openAt_back proceeds sound
          (fun request isEvent key => raises ⟨request, isEvent, key⟩) openAt⟩
  · obtain ⟨notToRaise, unmarked⟩ := not_or.mp before
    have toRaise : after.ToRaise batteryId := by
      rcases isChosen with toRaise | ⟨ids, member, listed⟩
      · exact toRaise
      · rcases List.mem_append.mp member with old | new
        · exact absurd ⟨ids, old, listed⟩ unmarked
        · -- What the iteration marks it has still to raise.
          obtain ⟨rfl, rfl⟩ := Prod.mk.inj (List.mem_singleton.mp new)
          have code := (state.detecting.of_marked effect state.clean).1
          refine absurd ⟨deviceOfflineRequest settings clock.alertNow batteryId, ?_, rfl, rfl⟩
            notToRaise
          rw [code, raiseStatements, deviceOfflineCalls, List.map_map]
          exact List.mem_cons_of_mem _ (List.mem_cons_of_mem _ (List.mem_append_left _
            (List.mem_map_of_mem listed)))
    exact Or.inr (Or.inr ⟨toRaise, tracked.closed_of_selected proceeds effect toRaise notToRaise⟩)

theorem Tracked.step (follows : server.alerts.Follows Alert.Evolves) (quiet : server.Quiet) :
    after.Tracked settings clock (labels ++ [(session, event)]) where
  overlapping := tracked.overlapping.step proceeds effect sound quiet
  loaded holder _ due := tracked.loaded_step sound proceeds effect holder due
  recovered _ recovered := tracked.recovered_step proceeds effect recovered
  unstarted unstarted _ isOpen :=
    tracked.unstarted_step sound proceeds effect quiet unstarted isOpen
  chosen _ isChosen := tracked.chosen_step sound proceeds effect follows isChosen

end Step

end Server

/-! ### Whole runs -/

theorem tracked_ofDatabase {settings : Settings} {clock : DetectorClock} {db : Database}
    {requests : List (List Telemetry × TelemetryEvent)} (sound : db.OfflineAlertsSound) :
    (Server.ofDatabase db (detectorOverlap settings clock db.batteries requests)).Tracked
      settings clock [] where
  overlapping := overlapping_ofDatabase sound
  loaded _ _ due := by cases due
  recovered _ recovered := by
    obtain ⟨_, _, -, order⟩ := recovered
    cases order
  unstarted _ batteryId isOpen := by
    refine ⟨fun row isRow => sound batteryId row isRow fun none => ?_,
      fun _ _ held => by cases held⟩
    obtain ⟨alertId, alert, present, open'⟩ := isOpen
    exact db.alerts.getUnresolvedAlert_none_iff.mp none alert
      (db.alerts.table.lookup_some_iff.mp present).1 open'
  chosen _ isChosen := by
    rcases isChosen with ⟨request, toCome, -⟩ | ⟨_, ⟨⟩, -⟩
    simp [Server.todo_ofDatabase, detectorOverlap, detectorIteration] at toCome

/-- One iteration of the detector and any number of requests, in every
interleaving that ends with all of them finished without error: no battery is
left with an open offline alert and another status than `OFFLINE`, exactly if
every battery the iteration has marked and a request has refreshed after the
iteration's first commit is looked at by a request after the second one. -/
theorem offline_alerts_sound_after_overlap (settings : Settings) (clock : DetectorClock)
    (db : Database) (sound : db.OfflineAlertsSound)
    (requests : List (List Telemetry × TelemetryEvent)) {labels : List Label} {last : Server}
    (run : Trace (Server.Step settings)
      (Server.ofDatabase db (detectorOverlap settings clock db.batteries requests)) labels last)
    (completed : ∀ label ∈ labels, label.2 ≠ .failed)
    (finished : ∀ session, last.Finished session) :
    last.OfflineAlertsSound ↔
      ∀ batteryId, MarkedIn labels batteryId → RecoveredInGap labels batteryId →
        RecheckedAfter labels batteryId := by
  constructor
  · intro alertsSound batteryId isMarked recovered
    obtain ⟨quiet, tracked⟩ := Server.completed_run_induction
      (fun labels server => server.Tracked settings clock labels) run completed
      (Server.sound_ofDatabase db _) (Server.follows_ofDatabase db _) quiet_detectorOverlap
      (tracked_ofDatabase sound)
      (fun _ _ _ _ _ sound follows quiet proceeds tracked effect =>
        tracked.step sound proceeds effect follows quiet)
    rcases tracked.chosen batteryId (Or.inr isMarked) with
      rechecked | ⟨alertId, unseen⟩ | ⟨⟨request, toCome, -⟩, -⟩
    · exact rechecked
    · obtain ⟨row, isRow, reported⟩ := tracked.recovered batteryId recovered
      rw [quiet.latestState_of_finished finished] at isRow
      exact absurd (alertsSound batteryId row isRow
        ((quiet.committedOpen_iff finished).mpr ⟨alertId, unseen.isOpen⟩)) reported
    · rw [finished 0] at toCome
      cases toCome
  · exact offlineAlertsSound_of_rechecked settings clock db sound requests run completed finished

/-! ### A recovery in the gap -/

/-- One battery that has reported once, a minute ago. -/
def reportedOnce : Database :=
  (Database.registered sampleBatteries).ingest Settings.default (.single (sampleEvent 1 0 50))

def minuteClock : DetectorClock := { cutoffNow := 60000000, alertNow := 60000000 }

theorem reportedOnce_sound : reportedOnce.OfflineAlertsSound := by
  apply offlineAlertsSound_ingest
  intro batteryId row isRow
  simp [Database.registered, Database.currentState] at isRow

/-- Readings that arrive one and two seconds after the iteration has started. -/
def firstReport : List Telemetry × TelemetryEvent := ([], sampleEvent 2 61000000 50)
def secondReport : List Telemetry × TelemetryEvent := ([], sampleEvent 3 62000000 50)

/-- The first request runs between the two transactions of the iteration. -/
def inTheGap : List (SessionId × Action) :=
  List.replicate 3 (0, .proceed) ++ List.replicate 6 (1, .proceed) ++ List.replicate 2 (0, .proceed)

/-- The second request runs after the iteration and resolves the alert. -/
def afterwards : List (SessionId × Action) :=
  List.replicate 5 (2, .proceed) ++ [(2, .flush 0 62000000), (2, .proceed)]

/-- Whether all requests are over can be checked on the sessions that have
code. -/
theorem finished_detectorOverlap {settings : Settings} {clock : DetectorClock} {db : Database}
    {requests : List (List Telemetry × TelemetryEvent)} {labels : List Label} {last : Server}
    (run : Trace (Server.Step settings)
      (Server.ofDatabase db (detectorOverlap settings clock db.batteries requests)) labels last)
    (completed : ∀ label ∈ labels, label.2 ≠ .failed)
    (finished : ∀ session ∈ List.range (requests.length + 1), (last.sessions session).todo = [])
    (session : SessionId) : last.Finished session := by
  by_cases within : session < requests.length + 1
  · exact finished session (List.mem_range.mpr within)
  · apply Server.finished_of_empty run completed quiet_detectorOverlap
    cases session with
    | zero => exact absurd (Nat.succ_pos _) within
    | succ session =>
        have beyond : requests.length ≤ session := Nat.le_of_succ_le_succ (not_lt.mp within)
        simp only [detectorOverlap, List.getElem?_eq_none beyond]

/-- The batteries an event marks. -/
def Event.markedIds : Event → List BatteryId
  | .marked ids => ids
  | _ => []

/-- The battery recovers in the gap, is looked at again afterwards, and ends
without an open alert. -/
theorem rechecked_overlap_sound :
    ∃ labels last, Server.play Settings.default (inTheGap ++ afterwards)
        (Server.ofDatabase reportedOnce (detectorOverlap Settings.default minuteClock
          reportedOnce.batteries [firstReport, secondReport])) = some (labels, last) ∧
      MarkedIn labels sampleBatteryId ∧ last.OfflineAlertsSound := by
  have plays : ((Server.play Settings.default (inTheGap ++ afterwards)
      (Server.ofDatabase reportedOnce (detectorOverlap Settings.default minuteClock
        reportedOnce.batteries [firstReport, secondReport]))).map
          fun (played : List Label × Server) =>
      decide ((∀ label ∈ played.1, label.2 ≠ .failed) ∧
        (∀ session ∈ List.range 3, (played.2.sessions session).todo = []) ∧
        (∀ label ∈ played.1, ∀ batteryId ∈ label.2.markedIds, batteryId = sampleBatteryId) ∧
        (0, Event.marked [sampleBatteryId]) ∈ played.1 ∧
        [(0, Event.committed), (0, .committed),
          (2, .selected sampleBatteryId .deviceOffline 62000000)].Sublist played.1)) =
      some true := by decide +kernel
  obtain ⟨⟨labels, last⟩, played, observed⟩ := Option.map_eq_some_iff.mp plays
  obtain ⟨completed, finished, only, marks, order⟩ := of_decide_eq_true observed
  have run := Server.trace_of_play played
  refine ⟨labels, last, played, ⟨_, marks, List.mem_singleton_self _⟩, ?_⟩
  apply (offline_alerts_sound_after_overlap Settings.default minuteClock reportedOnce
    reportedOnce_sound [firstReport, secondReport] run completed
    (finished_detectorOverlap run completed finished)).mpr
  rintro batteryId ⟨ids, member, listed⟩ -
  obtain rfl := only _ member batteryId listed
  exact ⟨2, 62000000, order⟩

/-- Without the second request the alert stays open although the battery has
reported. -/
theorem recovery_in_the_gap :
    ¬ ∀ (db : Database) (requests : List (List Telemetry × TelemetryEvent)) (labels : List Label)
        (last : Server), db.OfflineAlertsSound →
      (∀ request ∈ requests, ∀ row, db.currentState request.2.batteryId = some row →
        row.lastSeen < request.2.timestamp) →
      Trace (Server.Step Settings.default)
        (Server.ofDatabase db (detectorOverlap Settings.default minuteClock db.batteries requests))
        labels last →
      (∀ label ∈ labels, label.2 ≠ .failed) → (∀ session, last.Finished session) →
        last.OfflineAlertsSound := by
  intro sound
  have plays : ((Server.play Settings.default inTheGap
      (Server.ofDatabase reportedOnce (detectorOverlap Settings.default minuteClock
        reportedOnce.batteries [firstReport]))).map fun (played : List Label × Server) =>
      decide ((∀ label ∈ played.1, label.2 ≠ .failed) ∧
        (∀ session ∈ List.range 2, (played.2.sessions session).todo = []) ∧
        (played.2.currentState sampleBatteryId).committed.map BatteryCurrentState.status =
          some (.reported .discharging) ∧
        (played.2.alerts.cells 0).committed.map
            (fun alert => decide (alert.OpenFor sampleBatteryId .deviceOffline)) = some true)) =
      some true := by decide +kernel
  obtain ⟨⟨labels, last⟩, played, observed⟩ := Option.map_eq_some_iff.mp plays
  obtain ⟨completed, finished, status, alertOpen⟩ := of_decide_eq_true observed
  obtain ⟨row, isRow, isStatus⟩ := Option.map_eq_some_iff.mp status
  obtain ⟨alert, committed, isOpen⟩ := Option.map_eq_some_iff.mp alertOpen
  have run := Server.trace_of_play played
  have newer : ∀ request ∈ [firstReport], ∀ row,
      reportedOnce.currentState request.2.batteryId = some row →
        row.lastSeen < request.2.timestamp := by
    intro request member row isRow
    obtain rfl := List.mem_singleton.mp member
    have stored : (reportedOnce.currentState firstReport.2.batteryId).all
        (fun row => decide (row.lastSeen < firstReport.2.timestamp)) = true := by decide +kernel
    rw [isRow] at stored
    exact of_decide_eq_true stored
  have offline := sound reportedOnce [firstReport] labels last reportedOnce_sound newer run
    completed (finished_detectorOverlap run completed finished) sampleBatteryId row isRow
    ⟨0, alert, committed, of_decide_eq_true isOpen⟩
  rw [isStatus] at offline
  cases offline

end VoltStream.Backend
