/-
Module: VoltStream.Proofs.LatestVersions
Purpose: The newest version of every row, committed or not: what each event of a
  session does to it, and why it is what is committed once every session has
  run its code to the end.
Trusted boundary: none
Main exports: Server.latestAlert, Server.LatestOpen, Server.Concerns,
  Effect.latestOpen_raised, Effect.latestOpen_flushed, Server.Quiet
-/
import VoltStream.Proofs.AlertInterleaving

namespace VoltStream.Backend

open Relational

/-- The event neither rolls a transaction back nor ends a session early. -/
def Event.Proceeds : Event → Prop
  | .fetched _ _ | .refused _ | .failed => False
  | _ => True

/-- A statement a session's code may end with. -/
def Statement.Ends : Statement → Prop
  | .commit | .selectStale _ => True
  | _ => False

/-- The event that carries a call out; for a resolver, its query. -/
def AlertCall.event : AlertCall → Event
  | .createOrRetainAlert request => .raised request
  | .resolveAlertIfActive batteryId alertType resolvedAt => .selected batteryId alertType resolvedAt

theorem AlertCall.event_injective : Function.Injective AlertCall.event := by
  intro first second same
  cases first <;> cases second <;> simp_all [event]

/-- The event is one of carrying the statement out. -/
def Statement.Yields (event : Event) : Statement → Prop
  | .upsertCurrentState row => ∃ wasAdmitted, event = .stored row wasAdmitted
  | .alert call => event = call.event
  | .getAlert alertId now => event = .fetched alertId now
  | .selectStale _ => ∃ ids, event = .lockedStale ids
  | .markOffline ids => event = .marked ids
  | .commit => event = .committed

namespace Server

/-- The newest version of an alert: what is left if every open transaction
commits. -/
def latestAlert (server : Server) (alertId : Uuid) : Option Alert :=
  (server.alerts.cells alertId).outcome fun _ => true

/-- The newest version of a current-state row. -/
def latestState (server : Server) (batteryId : BatteryId) : Option BatteryCurrentState :=
  (server.currentState batteryId).outcome fun _ => true

/-- In its newest version the alert is one of this battery and type. -/
def Concerns (server : Server) (alertId : Uuid) (batteryId : BatteryId) (alertType : AlertType) :
    Prop :=
  ∃ alert, server.latestAlert alertId = some alert ∧ alert.batteryId = batteryId ∧
    alert.alertType = alertType

/-- In its newest version the alert is the unresolved one of this battery and
type. -/
def OpenAt (server : Server) (alertId : Uuid) (batteryId : BatteryId) (alertType : AlertType) :
    Prop :=
  ∃ alert, server.latestAlert alertId = some alert ∧ alert.OpenFor batteryId alertType

/-- Some alert is open for this battery and type in its newest version. -/
def LatestOpen (server : Server) (batteryId : BatteryId) (alertType : AlertType) : Prop :=
  ∃ alertId, server.OpenAt alertId batteryId alertType

variable {settings : Settings} {server after : Server} {session : SessionId} {event : Event}
  {batteryId : BatteryId} {alertType : AlertType} {alertId : Uuid}

theorem OpenAt.concerns (isOpen : server.OpenAt alertId batteryId alertType) :
    server.Concerns alertId batteryId alertType := by
  obtain ⟨alert, latest, battery, type, -⟩ := isOpen
  exact ⟨alert, latest, battery, type⟩

/-- The index admits one open alert. -/
theorem OpenAt.unique (sound : server.alerts.Sound Alert.indexEntry) {other : Uuid}
    (one : server.OpenAt alertId batteryId alertType)
    (two : server.OpenAt other batteryId alertType) : alertId = other := by
  obtain ⟨first, firstLatest, firstOpen⟩ := one
  obtain ⟨second, secondLatest, secondOpen⟩ := two
  rw [latestAlert] at firstLatest secondLatest
  apply sound.unique (fun _ => true) alertId other (batteryId, alertType)
  · rw [firstLatest, Option.bind_some, Alert.indexEntry_eq_some_iff.mpr firstOpen]
  · rw [secondLatest, Option.bind_some, Alert.indexEntry_eq_some_iff.mpr secondOpen]

/-- Whoever may write the row sees its newest version. -/
theorem latestAlert_of_free (free : (server.alerts.cells alertId).lockedAgainst session = false) :
    server.latestAlert alertId = (server.alerts.cells alertId).view session :=
  Cell.outcome_eq_view free rfl

/-- What anyone sees has a newest version. -/
theorem latestAlert_of_seen {alert : Alert}
    (seen : (server.alerts.cells alertId).view session = some alert) :
    ∃ latest, server.latestAlert alertId = some latest := by
  unfold latestAlert Cell.outcome
  cases held : (server.alerts.cells alertId).pending with
  | none =>
      rw [Cell.view, Cell.outcome_of_not_pending held] at seen
      exact ⟨alert, seen⟩
  | some holding => exact ⟨holding.2, rfl⟩

/-- Every version of an alert is one of the same battery and type. -/
theorem same_incident_of_seen (follows : server.alerts.Follows Alert.Evolves) {seen latest : Alert}
    (isSeen : (server.alerts.cells alertId).view session = some seen)
    (isLatest : server.latestAlert alertId = some latest) :
    latest.batteryId = seen.batteryId ∧ latest.alertType = seen.alertType := by
  cases held : (server.alerts.cells alertId).pending with
  | none =>
      rw [Cell.view, Cell.outcome_of_not_pending held] at isSeen
      rw [latestAlert, Cell.outcome_of_not_pending held, isSeen] at isLatest
      obtain rfl := Option.some.inj isLatest
      exact ⟨rfl, rfl⟩
  | some holding =>
      obtain ⟨holder, version⟩ := holding
      have whole := isLatest
      rw [Cell.view, Cell.outcome_of_pending held] at isSeen
      rw [latestAlert, Cell.outcome_of_pending held, if_pos rfl] at isLatest
      split at isSeen
      · obtain rfl := Option.some.inj (isSeen.symm.trans isLatest)
        exact ⟨rfl, rfl⟩
      · have evolves := follows alertId _ seen latest isSeen whole
        exact ⟨evolves.batteryId, evolves.alertType⟩

/-! ### Alerts -/

/-- Where an upsert writes, nothing was or the open alert of its key. -/
theorem latestAlert_of_raises {request : AlertRequest} {alert old : Alert}
    (sound : server.alerts.Sound Alert.indexEntry)
    (places : server.RaisesAt session request alertId alert)
    (latest : server.latestAlert alertId = some old) :
    old.OpenFor request.batteryId request.alertType := by
  cases places with
  | retained free seen keyed =>
      rw [latestAlert_of_free free, seen, Option.some.injEq] at latest
      rw [← latest]
      exact Alert.indexEntry_eq_some_iff.mp keyed
  | inserted absent =>
      rw [latestAlert, sound.drawn _ le_rfl] at latest
      cases latest

theorem latestAlert_write (free : (server.alerts.cells alertId).lockedAgainst session = false)
    (alert : Alert) (other : Uuid) :
    ((server.alerts.write session alertId alert).cells other).outcome (fun _ => true) =
      if other = alertId then some alert else server.latestAlert other := by
  rw [Heap.outcome_write free, latestAlert]
  simp

/-- An upsert leaves an open alert of its key. -/
theorem Effect.latestAlert_raised {request : AlertRequest}
    (sound : server.alerts.Sound Alert.indexEntry)
    (effect : server.Effect settings session (.raised request) after) :
    ∃ alertId alert, alert.OpenFor request.batteryId request.alertType ∧
      (∀ old, server.latestAlert alertId = some old →
        old.OpenFor request.batteryId request.alertType) ∧
      ∀ other, after.latestAlert other =
        if other = alertId then some alert else server.latestAlert other := by
  cases effect with
  | raised code calm places isOpen =>
      exact ⟨_, _, isOpen, fun _ => latestAlert_of_raises sound places,
        latestAlert_write (places.free sound) _⟩

/-- A resolver's `UPDATE` resolves the newest version of its alert. -/
theorem Effect.latestAlert_flushed {resolvedAt : Timestamp}
    (effect : server.Effect settings session (.flushed alertId resolvedAt) after) (other : Uuid) :
    after.latestAlert other =
      if other = alertId then (server.latestAlert alertId).map (Alert.resolve resolvedAt)
      else server.latestAlert other := by
  cases effect with
  | flushed due free seen =>
      rw [latestAlert_of_free free, seen]
      exact latestAlert_write free _ other
  | flushedNone due free gone =>
      split
      · rename_i same
        rw [latestAlert_of_free free, gone, same]
        exact (latestAlert_of_free free).trans gone
      · rfl

/-- No other event touches the newest version of an alert. -/
theorem Effect.latestAlert_kept (proceeds : event.Proceeds)
    (effect : server.Effect settings session event after)
    (notRaised : ∀ request, event ≠ .raised request)
    (notFlushed : ∀ alertId resolvedAt, event ≠ .flushed alertId resolvedAt) (other : Uuid) :
    after.latestAlert other = server.latestAlert other := by
  cases effect with
  | stored => rfl
  | raised => exact absurd rfl (notRaised _)
  | selectedNone => rfl
  | selectedSome => rfl
  | fetchedOpen => exact proceeds.elim
  | fetchedDone => exact proceeds.elim
  | lockedStale => rfl
  | marked => rfl
  | flushed => exact absurd rfl (notFlushed _ _)
  | flushedNone => exact absurd rfl (notFlushed _ _)
  | committed =>
      simp only [latestAlert, Server.commit, Heap.commit, Cell.outcome_commit, Bool.or_true]
  | failed => exact proceeds.elim

/-- The three ways in which an event bears on the alerts. -/
theorem Event.alert_cases (event : Event) :
    (∃ request, event = .raised request) ∨
      (∃ alertId resolvedAt, event = .flushed alertId resolvedAt) ∨
      ((∀ request, event ≠ .raised request) ∧
        ∀ alertId resolvedAt, event ≠ .flushed alertId resolvedAt) := by
  cases event <;> simp

/-- An alert that is there stays, and stays one of its battery and type. -/
theorem Effect.latestAlert_present (proceeds : event.Proceeds)
    (sound : server.alerts.Sound Alert.indexEntry)
    (effect : server.Effect settings session event after) {old : Alert}
    (present : server.latestAlert alertId = some old) :
    ∃ new, after.latestAlert alertId = some new ∧ new.batteryId = old.batteryId ∧
      new.alertType = old.alertType := by
  rcases Event.alert_cases event with ⟨request, rfl⟩ | ⟨flushed, resolvedAt, rfl⟩ | ⟨one, two⟩
  · obtain ⟨raised, alert, isOpen, wasOpen, latest⟩ := effect.latestAlert_raised sound
    rw [latest]
    split
    · rename_i same
      obtain ⟨battery, type, -⟩ := wasOpen old (same ▸ present)
      exact ⟨alert, rfl, isOpen.1.trans battery.symm, isOpen.2.1.trans type.symm⟩
    · exact ⟨old, present, rfl, rfl⟩
  · rw [effect.latestAlert_flushed]
    split
    · rename_i same
      rw [← same, present]
      exact ⟨_, rfl, rfl, rfl⟩
    · exact ⟨old, present, rfl, rfl⟩
  · rw [effect.latestAlert_kept proceeds one two]
    exact ⟨old, present, rfl, rfl⟩

theorem Effect.concerns (proceeds : event.Proceeds)
    (sound : server.alerts.Sound Alert.indexEntry)
    (effect : server.Effect settings session event after)
    (before : server.Concerns alertId batteryId alertType) :
    after.Concerns alertId batteryId alertType := by
  obtain ⟨old, present, battery, type⟩ := before
  obtain ⟨new, latest, sameBattery, sameType⟩ := effect.latestAlert_present proceeds sound present
  exact ⟨new, latest, sameBattery.trans battery, sameType.trans type⟩

/-- An alert that was there before concerns what it concerned before. -/
theorem Effect.concerns_of_present (proceeds : event.Proceeds)
    (sound : server.alerts.Sound Alert.indexEntry)
    (effect : server.Effect settings session event after) {old : Alert}
    (present : server.latestAlert alertId = some old)
    (later : after.Concerns alertId batteryId alertType) :
    server.Concerns alertId batteryId alertType := by
  obtain ⟨new, latest, sameBattery, sameType⟩ := effect.latestAlert_present proceeds sound present
  obtain ⟨other, otherLatest, battery, type⟩ := later
  obtain rfl := Option.some.inj (latest.symm.trans otherLatest)
  exact ⟨old, present, sameBattery.symm.trans battery, sameType.symm.trans type⟩

/-- Only an upsert for a battery and type brings a new alert of them. -/
theorem Effect.concerns_back (proceeds : event.Proceeds)
    (sound : server.alerts.Sound Alert.indexEntry)
    (effect : server.Effect settings session event after)
    (notRaised : ∀ request, event = .raised request →
      ¬ (request.batteryId = batteryId ∧ request.alertType = alertType))
    (later : after.Concerns alertId batteryId alertType) :
    server.Concerns alertId batteryId alertType := by
  cases present : server.latestAlert alertId with
  | some old => exact effect.concerns_of_present proceeds sound present later
  | none =>
      obtain ⟨new, latest, battery, type⟩ := later
      rcases Event.alert_cases event with ⟨request, rfl⟩ | ⟨flushed, resolvedAt, rfl⟩ | ⟨one, two⟩
      · obtain ⟨raised, alert, isOpen, -, write⟩ := effect.latestAlert_raised sound
        rw [write] at latest
        split at latest
        · obtain rfl := Option.some.inj latest
          exact absurd ⟨isOpen.1.symm.trans battery, isOpen.2.1.symm.trans type⟩
            (notRaised request rfl)
        · exact absurd latest (by simp [present])
      · rw [effect.latestAlert_flushed] at latest
        split at latest
        · rename_i same
          rw [← same, present] at latest
          cases latest
        · exact absurd latest (by simp [present])
      · rw [effect.latestAlert_kept proceeds one two, present] at latest
        cases latest

/-- Only an upsert for the key opens an alert of it. -/
theorem Effect.openAt_back (proceeds : event.Proceeds)
    (sound : server.alerts.Sound Alert.indexEntry)
    (effect : server.Effect settings session event after)
    (notRaised : ∀ request, event = .raised request →
      ¬ (request.batteryId = batteryId ∧ request.alertType = alertType))
    (later : after.OpenAt alertId batteryId alertType) :
    server.OpenAt alertId batteryId alertType := by
  obtain ⟨new, latest, isOpen⟩ := later
  rcases Event.alert_cases event with ⟨request, rfl⟩ | ⟨flushed, resolvedAt, rfl⟩ | ⟨one, two⟩
  · obtain ⟨raised, alert, alertOpen, -, write⟩ := effect.latestAlert_raised sound
    rw [write] at latest
    split at latest
    · obtain rfl := Option.some.inj latest
      exact absurd ⟨alertOpen.1.symm.trans isOpen.1, alertOpen.2.1.symm.trans isOpen.2.1⟩
        (notRaised request rfl)
    · exact ⟨new, latest, isOpen⟩
  · rw [effect.latestAlert_flushed] at latest
    split at latest
    · obtain ⟨old, -, rfl⟩ := Option.map_eq_some_iff.mp latest
      cases isOpen.2.2
    · exact ⟨new, latest, isOpen⟩
  · rw [effect.latestAlert_kept proceeds one two] at latest
    exact ⟨new, latest, isOpen⟩

/-- An upsert opens its own key and leaves open what is open. -/
theorem Effect.openAt_raised {request : AlertRequest}
    (sound : server.alerts.Sound Alert.indexEntry)
    (effect : server.Effect settings session (.raised request) after)
    (before : server.OpenAt alertId batteryId alertType) :
    after.OpenAt alertId batteryId alertType := by
  obtain ⟨raised, alert, isOpen, wasOpen, latest⟩ := effect.latestAlert_raised sound
  obtain ⟨old, present, oldOpen⟩ := before
  unfold OpenAt
  rw [latest]
  split
  · rename_i same
    obtain ⟨battery, type, -⟩ := wasOpen old (same ▸ present)
    refine ⟨alert, rfl, ?_, ?_, isOpen.2.2⟩
    · exact isOpen.1.trans (battery.symm.trans oldOpen.1)
    · exact isOpen.2.1.trans (type.symm.trans oldOpen.2.1)
  · exact ⟨old, present, oldOpen⟩

theorem Effect.latestOpen_raised {request : AlertRequest}
    (sound : server.alerts.Sound Alert.indexEntry)
    (effect : server.Effect settings session (.raised request) after) :
    after.LatestOpen batteryId alertType ↔
      (request.batteryId = batteryId ∧ request.alertType = alertType) ∨
        server.LatestOpen batteryId alertType := by
  constructor
  · rintro ⟨opened, new, latest, battery, type, unresolved⟩
    obtain ⟨raised, alert, isOpen, -, write⟩ := effect.latestAlert_raised sound
    rw [write] at latest
    split at latest
    · obtain rfl := Option.some.inj latest
      exact Or.inl ⟨isOpen.1.symm.trans battery, isOpen.2.1.symm.trans type⟩
    · exact Or.inr ⟨opened, new, latest, battery, type, unresolved⟩
  · rintro (⟨rfl, rfl⟩ | ⟨opened, isOpen⟩)
    · obtain ⟨raised, alert, isOpen, -, write⟩ := effect.latestAlert_raised sound
      exact ⟨raised, alert, by rw [write, if_pos rfl], isOpen⟩
    · exact ⟨opened, effect.openAt_raised sound isOpen⟩

/-- A resolver's `UPDATE` closes its alert and nothing else. -/
theorem Effect.openAt_flushed {flushed : Uuid} {resolvedAt : Timestamp}
    (effect : server.Effect settings session (.flushed flushed resolvedAt) after) :
    after.OpenAt alertId batteryId alertType ↔
      alertId ≠ flushed ∧ server.OpenAt alertId batteryId alertType := by
  unfold OpenAt
  rw [effect.latestAlert_flushed]
  split
  · rename_i same
    subst same
    simp only [ne_eq, not_true_eq_false, false_and, iff_false]
    rintro ⟨new, latest, -, -, unresolved⟩
    obtain ⟨old, -, rfl⟩ := Option.map_eq_some_iff.mp latest
    cases unresolved
  · rename_i different
    simp [different]

theorem Effect.latestOpen_flushed {flushed : Uuid} {resolvedAt : Timestamp}
    (sound : server.alerts.Sound Alert.indexEntry)
    (effect : server.Effect settings session (.flushed flushed resolvedAt) after) :
    after.LatestOpen batteryId alertType ↔
      server.LatestOpen batteryId alertType ∧ ¬ server.OpenAt flushed batteryId alertType := by
  constructor
  · rintro ⟨opened, isOpen⟩
    obtain ⟨different, wasOpen⟩ := effect.openAt_flushed.mp isOpen
    exact ⟨⟨opened, wasOpen⟩, fun same => different (wasOpen.unique sound same)⟩
  · rintro ⟨⟨opened, isOpen⟩, closed⟩
    refine ⟨opened, effect.openAt_flushed.mpr ⟨?_, isOpen⟩⟩
    rintro rfl
    exact closed isOpen

theorem Effect.openAt_kept (proceeds : event.Proceeds)
    (effect : server.Effect settings session event after)
    (notRaised : ∀ request, event ≠ .raised request)
    (notFlushed : ∀ alertId resolvedAt, event ≠ .flushed alertId resolvedAt) :
    after.OpenAt alertId batteryId alertType ↔ server.OpenAt alertId batteryId alertType := by
  unfold OpenAt
  rw [effect.latestAlert_kept proceeds notRaised notFlushed]

theorem Effect.latestOpen_kept (proceeds : event.Proceeds)
    (effect : server.Effect settings session event after)
    (notRaised : ∀ request, event ≠ .raised request)
    (notFlushed : ∀ alertId resolvedAt, event ≠ .flushed alertId resolvedAt) :
    after.LatestOpen batteryId alertType ↔ server.LatestOpen batteryId alertType :=
  exists_congr fun _ => effect.openAt_kept proceeds notRaised notFlushed

/-! ### Current-state rows -/

/-- An upsert replaces the newest version of its row exactly if it is admitted. -/
theorem Effect.latestState_stored {row : BatteryCurrentState} {wasAdmitted : Bool}
    (effect : server.Effect settings session (.stored row wasAdmitted) after)
    (batteryId : BatteryId) :
    after.latestState batteryId =
      if batteryId = row.batteryId ∧ wasAdmitted = true then some row
      else server.latestState batteryId := by
  cases effect with
  | stored code free =>
      by_cases same : batteryId = row.batteryId
      · subst same
        have latest : server.latestState row.batteryId =
            (server.currentState row.batteryId).view session := Cell.outcome_eq_view free rfl
        rw [latest]
        simp only [latestState, resume, storeRow, Function.update_self, Cell.outcome_write free,
          if_true, true_and]
        cases (server.currentState row.batteryId).view session with
        | none => rfl
        | some old =>
            simp only [absorb, admitted]
            exact apply_ite some _ row old
      · rw [if_neg fun both => same both.1]
        simp only [latestState, resume, storeRow, Function.update_of_ne same]

/-- Marking sets the rows that the session sees. -/
theorem Effect.latestState_marked {ids : List BatteryId}
    (effect : server.Effect settings session (.marked ids) after) {row : BatteryCurrentState}
    (listed : batteryId ∈ ids)
    (seen : (server.currentState batteryId).view session = some row) :
    after.latestState batteryId = some row.markOffline := by
  cases effect with
  | marked =>
      simp only [latestState, resume, writeRows, seen, if_pos listed, Cell.write]
      rfl

theorem Effect.latestState_unmarked {ids : List BatteryId}
    (effect : server.Effect settings session (.marked ids) after) (unlisted : batteryId ∉ ids) :
    after.latestState batteryId = server.latestState batteryId := by
  cases effect with
  | marked =>
      simp only [latestState, resume, writeRows, if_neg unlisted]
      split <;> rfl

/-- No other event touches the newest version of a current-state row: locking it
writes what is there. -/
theorem Effect.latestState_kept (proceeds : event.Proceeds)
    (effect : server.Effect settings session event after)
    (notStored : ∀ row wasAdmitted, event ≠ .stored row wasAdmitted)
    (notMarked : ∀ ids, event ≠ .marked ids) (batteryId : BatteryId) :
    after.latestState batteryId = server.latestState batteryId := by
  cases effect with
  | stored => exact absurd rfl (notStored _ _)
  | raised => rfl
  | selectedNone => rfl
  | selectedSome => rfl
  | fetchedOpen => exact proceeds.elim
  | fetchedDone => exact proceeds.elim
  | lockedStale =>
      simp only [latestState, resume, writeRows]
      split
      · rename_i row seen
        split
        · rename_i listed
          obtain ⟨-, stale⟩ := List.mem_filter.mp listed
          simp only [Bool.and_eq_true, Bool.not_eq_true'] at stale
          rw [Cell.outcome_write stale.1, if_pos rfl, Cell.outcome_eq_view stale.1 rfl, seen, id]
        · rfl
      · rfl
  | marked => exact absurd rfl (notMarked _)
  | flushed => rfl
  | flushedNone => rfl
  | committed => simp only [latestState, Server.commit, Cell.outcome_commit, Bool.or_true]
  | failed => exact proceeds.elim

/-- A row lock holds until its session ends its transaction. -/
theorem Effect.state_held (proceeds : event.Proceeds)
    (effect : server.Effect settings session event after) (notMarked : ∀ ids, event ≠ .marked ids)
    {holder : SessionId} {row : BatteryCurrentState}
    (held : (server.currentState batteryId).pending = some (holder, row))
    (other : holder ≠ session) :
    (after.currentState batteryId).pending = some (holder, row) := by
  have locked : (server.currentState batteryId).lockedAgainst session = true := by
    simpa [Cell.lockedAgainst, held] using other
  cases effect with
  | @stored written _ code free =>
      have different : batteryId ≠ written.batteryId := by
        rintro rfl
        rw [locked] at free
        cases free
      simpa only [resume, storeRow, Function.update_of_ne different] using held
  | raised => exact held
  | selectedNone => exact held
  | selectedSome => exact held
  | fetchedOpen => exact proceeds.elim
  | fetchedDone => exact proceeds.elim
  | lockedStale =>
      have unlisted : ∀ clock : DetectorClock,
          batteryId ∉ server.staleUnlocked settings clock.cutoffNow session := by
        intro clock listed
        have stale := (List.mem_filter.mp listed).2
        simp [locked] at stale
      simp only [resume, writeRows, if_neg (unlisted _)]
      split <;> exact held
  | marked => exact absurd rfl (notMarked _)
  | flushed => exact held
  | flushedNone => exact held
  | committed => exact Cell.pending_commit.mpr ⟨held, other⟩
  | failed => exact proceeds.elim

/-! ### Sessions that are over -/

/-- No session resolves by hand, every session's code ends with a commit (or with
the query that appends one), and a session that is over has nothing left to
flush or to commit. -/
structure Quiet (server : Server) : Prop where
  automatic : ∀ session alertId now, .getAlert alertId now ∉ (server.sessions session).todo
  ends : ∀ session early last, (server.sessions session).todo = early ++ [last] → last.Ends
  clean : ∀ session, server.Finished session → (server.sessions session).dirty = []
  alerts : ∀ session, server.Finished session → ∀ alertId alert,
    (server.alerts.cells alertId).pending ≠ some (session, alert)
  states : ∀ session, server.Finished session → ∀ batteryId row,
    (server.currentState batteryId).pending ≠ some (session, row)

/-- A step leaves the other sessions where they are. -/
theorem Effect.sessions_of_ne (effect : server.Effect settings session event after)
    {other : SessionId} (different : other ≠ session) :
    after.sessions other = server.sessions other := by
  cases effect <;> simp [Server.resume, Server.rollback, Server.commit, Server.storeRow,
    Server.writeRows, different]

theorem pending_write {written : Uuid} {version alert : Alert} {holder : SessionId}
    (held : ((server.alerts.write session written version).cells alertId).pending =
      some (holder, alert)) :
    (holder = session ∧ alertId = written ∧ alert = version) ∨
      (server.alerts.cells alertId).pending = some (holder, alert) := by
  by_cases same : alertId = written
  · subst same
    simp only [Heap.write, Function.update_self, Cell.write, Option.some.injEq,
      Prod.mk.injEq] at held
    exact Or.inl ⟨held.1.symm, rfl, held.2.symm⟩
  · simp only [Heap.write, Function.update_of_ne same] at held
    exact Or.inr held

/-- A new uncommitted version of an alert is the stepping session's, raised or
resolved by it; a commit leaves the session none. -/
theorem Effect.alert_pending (proceeds : event.Proceeds)
    (effect : server.Effect settings session event after) {holder : SessionId} {alert : Alert}
    (held : (after.alerts.cells alertId).pending = some (holder, alert)) :
    (server.alerts.cells alertId).pending = some (holder, alert) ∧
        (event = .committed → holder ≠ session) ∨
      holder = session ∧
        ((∃ request, event = .raised request ∧
            alert.OpenFor request.batteryId request.alertType) ∨
          ∃ resolvedAt seen, event = .flushed alertId resolvedAt ∧
            server.latestAlert alertId = some seen ∧ alert = seen.resolve resolvedAt) := by
  cases effect with
  | stored => exact Or.inl ⟨held, by simp⟩
  | raised code calm places isOpen =>
      rcases pending_write held with ⟨own, -, rfl⟩ | old
      · exact Or.inr ⟨own, Or.inl ⟨_, rfl, isOpen⟩⟩
      · exact Or.inl ⟨old, by simp⟩
  | selectedNone => exact Or.inl ⟨held, by simp⟩
  | selectedSome => exact Or.inl ⟨held, by simp⟩
  | fetchedOpen => exact proceeds.elim
  | fetchedDone => exact proceeds.elim
  | lockedStale => exact Or.inl ⟨held, by simp⟩
  | marked => exact Or.inl ⟨held, by simp⟩
  | flushed due free seen =>
      rcases pending_write held with ⟨own, rfl, rfl⟩ | old
      · exact Or.inr ⟨own, Or.inr ⟨_, _, rfl, (latestAlert_of_free free).trans seen, rfl⟩⟩
      · exact Or.inl ⟨old, by simp⟩
  | flushedNone => exact Or.inl ⟨held, by simp⟩
  | committed =>
      obtain ⟨old, different⟩ := Cell.pending_commit.mp held
      exact Or.inl ⟨old, fun _ => different⟩
  | failed => exact proceeds.elim

theorem pending_writeRows {change : BatteryCurrentState → BatteryCurrentState}
    {ids : List BatteryId} {holder : SessionId} {row : BatteryCurrentState}
    (held : ((server.writeRows session change ids).currentState batteryId).pending =
      some (holder, row)) :
    holder = session ∨ (server.currentState batteryId).pending = some (holder, row) := by
  simp only [writeRows] at held
  split at held
  · split at held
    · simp only [Cell.write, Option.some.injEq, Prod.mk.injEq] at held
      exact Or.inl held.1.symm
    · exact Or.inr held
  · exact Or.inr held

theorem pending_storeRow {stored row : BatteryCurrentState} {holder : SessionId}
    (held : ((server.storeRow session stored).currentState batteryId).pending =
      some (holder, row)) :
    holder = session ∨ (server.currentState batteryId).pending = some (holder, row) := by
  by_cases same : batteryId = stored.batteryId
  · subst same
    simp only [storeRow, Function.update_self, Cell.write, Option.some.injEq,
      Prod.mk.injEq] at held
    exact Or.inl held.1.symm
  · simp only [storeRow, Function.update_of_ne same] at held
    exact Or.inr held

/-- An entry that is due was due before, or is an alert the session has just
selected as open. -/
theorem Effect.mem_dirty (proceeds : event.Proceeds)
    (effect : server.Effect settings session event after) {holder : SessionId}
    {entry : Uuid × Timestamp} (member : entry ∈ (after.sessions holder).dirty) :
    entry ∈ (server.sessions holder).dirty ∨
      holder = session ∧ ∃ battery type seen, event = .selected battery type entry.2 ∧
        (server.alerts.cells entry.1).view session = some seen ∧ seen.OpenFor battery type := by
  by_cases own : holder = session
  swap
  · rw [effect.sessions_of_ne own] at member
    exact Or.inl member
  subst own
  cases effect with
  | stored => exact Or.inl (by simpa [resume, storeRow] using member)
  | raised => exact Or.inl (by simpa [resume] using member)
  | selectedNone => exact Or.inl (by simpa [resume] using member)
  | selectedSome code seen isOpen =>
      simp only [resume, Function.update_self, List.mem_append, List.mem_singleton] at member
      rcases member with old | rfl
      · exact Or.inl old
      · exact Or.inr ⟨rfl, _, _, _, rfl, seen, isOpen⟩
  | fetchedOpen => exact proceeds.elim
  | fetchedDone => exact proceeds.elim
  | lockedStale => exact Or.inl (by simpa [resume, writeRows] using member)
  | marked => exact Or.inl (by simpa [resume, writeRows] using member)
  | flushed =>
      simp only [resume, Function.update_self] at member
      exact Or.inl (List.mem_of_mem_erase member)
  | flushedNone =>
      simp only [resume, Function.update_self] at member
      exact Or.inl (List.mem_of_mem_erase member)
  | committed => simp [commit] at member
  | failed => exact proceeds.elim

/-- The list only changes by a selection or a flush. -/
theorem Effect.dirty (proceeds : event.Proceeds)
    (effect : server.Effect settings session event after) :
    (after.sessions session).dirty = (server.sessions session).dirty ∨
      (∃ battery type entry seen, event = .selected battery type entry.2 ∧
        (server.alerts.cells entry.1).view session = some seen ∧ seen.OpenFor battery type ∧
        (after.sessions session).dirty = (server.sessions session).dirty ++ [entry]) ∨
      ∃ entry : Uuid × Timestamp, event = .flushed entry.1 entry.2 ∧
        (after.sessions session).dirty = (server.sessions session).dirty.erase entry := by
  cases effect with
  | stored => exact Or.inl (by simp [resume, storeRow])
  | raised => exact Or.inl (by simp [resume])
  | selectedNone => exact Or.inl (by simp [resume])
  | @selectedSome _ _ resolvedAt _ alertId _ _ seen isOpen =>
      exact Or.inr (Or.inl ⟨_, _, (alertId, resolvedAt), _, rfl, seen, isOpen, by simp [resume]⟩)
  | fetchedOpen => exact proceeds.elim
  | fetchedDone => exact proceeds.elim
  | lockedStale => exact Or.inl (by simp [resume, writeRows])
  | marked => exact Or.inl (by simp [resume, writeRows])
  | @flushed alertId resolvedAt =>
      exact Or.inr (Or.inr ⟨(alertId, resolvedAt), rfl, by simp [resume]⟩)
  | @flushedNone alertId resolvedAt =>
      exact Or.inr (Or.inr ⟨(alertId, resolvedAt), rfl, by simp [resume]⟩)
  | committed code clean => exact Or.inl (by simp [commit, clean])
  | failed => exact proceeds.elim

/-- A flush is of an entry that is due and takes it off the list. -/
theorem Effect.flushed_dirty {resolvedAt : Timestamp}
    (effect : server.Effect settings session (.flushed alertId resolvedAt) after) :
    (alertId, resolvedAt) ∈ (server.sessions session).dirty ∧
      (after.sessions session).dirty =
        (server.sessions session).dirty.erase (alertId, resolvedAt) := by
  cases effect with
  | flushed due => exact ⟨due, by simp [resume]⟩
  | flushedNone due => exact ⟨due, by simp [resume]⟩

/-- A new uncommitted current-state row is the stepping session's, and a commit
leaves it none. -/
theorem Effect.state_pending (proceeds : event.Proceeds)
    (effect : server.Effect settings session event after) {holder : SessionId}
    {row : BatteryCurrentState}
    (held : (after.currentState batteryId).pending = some (holder, row)) :
    (holder = session ∧ event ≠ .committed) ∨
      (server.currentState batteryId).pending = some (holder, row) ∧
        (event = .committed → holder ≠ session) := by
  have notCommit : holder = session ∨ (server.currentState batteryId).pending = some (holder, row) →
      event ≠ .committed → (holder = session ∧ event ≠ .committed) ∨
        (server.currentState batteryId).pending = some (holder, row) ∧
          (event = .committed → holder ≠ session) := by
    rintro (own | old) different
    · exact Or.inl ⟨own, different⟩
    · exact Or.inr ⟨old, fun same => absurd same different⟩
  cases effect with
  | stored => exact notCommit (pending_storeRow held) (by simp)
  | raised => exact notCommit (Or.inr held) (by simp)
  | selectedNone => exact notCommit (Or.inr held) (by simp)
  | selectedSome => exact notCommit (Or.inr held) (by simp)
  | fetchedOpen => exact proceeds.elim
  | fetchedDone => exact proceeds.elim
  | lockedStale => exact notCommit (pending_writeRows held) (by simp)
  | marked => exact notCommit (pending_writeRows held) (by simp)
  | flushed => exact notCommit (Or.inr held) (by simp)
  | flushedNone => exact notCommit (Or.inr held) (by simp)
  | committed =>
      obtain ⟨old, different⟩ := Cell.pending_commit.mp held
      exact Or.inr ⟨old, fun _ => different⟩
  | failed => exact proceeds.elim

/-- What a step leaves of its session's code. -/
theorem Effect.todo (proceeds : event.Proceeds)
    (effect : server.Effect settings session event after) :
    (∃ alertId resolvedAt, event = .flushed alertId resolvedAt ∧
        (alertId, resolvedAt) ∈ (server.sessions session).dirty ∧
        (after.sessions session).todo = (server.sessions session).todo) ∨
      ∃ statement todo, (server.sessions session).todo = statement :: todo ∧
        statement.Yields event ∧
        ((after.sessions session).todo = todo ∧ (∀ clock, statement ≠ .selectStale clock) ∨
          ∃ clock, statement = .selectStale clock ∧
            (after.sessions session).todo = detectorContinuation settings clock
              (server.staleUnlocked settings clock.cutoffNow session) ++ todo) := by
  cases effect with
  | stored code => exact Or.inr ⟨_, _, code, ⟨_, rfl⟩, Or.inl (by simp [resume])⟩
  | raised code => exact Or.inr ⟨_, _, code, rfl, Or.inl (by simp [resume])⟩
  | selectedNone code => exact Or.inr ⟨_, _, code, rfl, Or.inl (by simp [resume])⟩
  | selectedSome code => exact Or.inr ⟨_, _, code, rfl, Or.inl (by simp [resume])⟩
  | fetchedOpen => exact proceeds.elim
  | fetchedDone => exact proceeds.elim
  | lockedStale code =>
      exact Or.inr ⟨_, _, code, ⟨_, rfl⟩, Or.inr ⟨_, rfl, by simp [resume]⟩⟩
  | marked code => exact Or.inr ⟨_, _, code, rfl, Or.inl (by simp [resume])⟩
  | flushed due => exact Or.inl ⟨_, _, rfl, due, by simp [resume]⟩
  | flushedNone due => exact Or.inl ⟨_, _, rfl, due, by simp [resume]⟩
  | committed code => exact Or.inr ⟨_, _, code, rfl, Or.inl (by simp [commit])⟩
  | failed => exact proceeds.elim

/-- With nothing to flush a step carries out the next statement. -/
theorem Effect.yields (proceeds : event.Proceeds)
    (effect : server.Effect settings session event after)
    (clean : (server.sessions session).dirty = []) {statement : Statement} {todo : List Statement}
    (code : (server.sessions session).todo = statement :: todo) : statement.Yields event := by
  rcases effect.todo proceeds with ⟨_, _, -, due, -⟩ | ⟨first, rest, head, yields, -⟩
  · rw [clean] at due
    cases due
  · obtain ⟨rfl, -⟩ := List.cons.inj (code.symm.trans head)
    exact yields

theorem detectorContinuation_ends (settings : Settings) (clock : DetectorClock)
    (ids : List BatteryId) :
    ∃ early, detectorContinuation settings clock ids = early ++ [.commit] := by
  unfold detectorContinuation
  split
  · exact ⟨[], rfl⟩
  · exact ⟨_, rfl⟩

theorem not_mem_detectorContinuation (settings : Settings) (clock : DetectorClock)
    (ids : List BatteryId) (alertId : Uuid) (now : Timestamp) :
    .getAlert alertId now ∉ detectorContinuation settings clock ids := by
  unfold detectorContinuation
  split <;> simp

/-- Without manual resolutions a step that is no failure proceeds. -/
theorem Effect.proceeds (quiet : server.Quiet)
    (effect : server.Effect settings session event after) (running : event ≠ .failed) :
    event.Proceeds := by
  cases effect with
  | fetchedOpen code => exact absurd (code ▸ List.mem_cons_self) (quiet.automatic session _ _)
  | fetchedDone code => exact absurd (code ▸ List.mem_cons_self) (quiet.automatic session _ _)
  | failed => exact running rfl
  | _ => trivial

/-- The code a step leaves still ends as it should. -/
theorem Effect.ends (proceeds : event.Proceeds)
    (effect : server.Effect settings session event after)
    (ends : ∀ early last, (server.sessions session).todo = early ++ [last] → last.Ends)
    {early : List Statement} {last : Statement}
    (left : (after.sessions session).todo = early ++ [last]) : last.Ends := by
  rcases effect.todo proceeds with ⟨_, _, -, -, same⟩ | ⟨statement, todo, code, -, rest⟩
  · exact ends early last (same.symm.trans left)
  · rcases rest with ⟨rest, -⟩ | ⟨clock, rfl, rest⟩
    · apply ends (statement :: early) last
      rw [code, ← rest, left, List.cons_append]
    · rw [rest] at left
      rcases todo.eq_nil_or_concat with rfl | ⟨before, final, rfl⟩
      · obtain ⟨begun, closing⟩ := detectorContinuation_ends settings clock
          (server.staleUnlocked settings clock.cutoffNow session)
        rw [closing, List.append_nil] at left
        obtain rfl := List.singleton_inj.mp (List.append_inj' left rfl).2
        trivial
      · apply ends (.selectStale clock :: before) last
        rw [code, List.concat_eq_append, ← List.cons_append]
        rw [List.concat_eq_append, ← List.append_assoc] at left
        rw [(List.append_inj' left rfl).2]

/-- A session finishes with a commit. -/
theorem Effect.finishes (proceeds : event.Proceeds) (quiet : server.Quiet)
    (effect : server.Effect settings session event after) (finished : after.Finished session) :
    event = .committed := by
  rcases effect.todo proceeds with ⟨_, _, -, due, same⟩ | ⟨statement, todo, code, yields, rest⟩
  · rw [quiet.clean session (same.symm.trans finished)] at due
    cases due
  · rcases rest with ⟨rest, notSelect⟩ | ⟨clock, -, rest⟩
    · have last : statement.Ends := by
        apply quiet.ends session []
        rw [code, ← rest, finished, List.nil_append]
      cases statement with
      | commit => exact yields
      | selectStale clock => exact absurd rfl (notSelect clock)
      | upsertCurrentState => exact last.elim
      | alert => exact last.elim
      | getAlert => exact last.elim
      | markOffline => exact last.elim
    · obtain ⟨begun, closing⟩ := detectorContinuation_ends settings clock
        (server.staleUnlocked settings clock.cutoffNow session)
      rw [Finished, rest, closing] at finished
      simp at finished

/-- A session that is over takes no further step. -/
theorem Effect.not_finished (proceeds : event.Proceeds) (quiet : server.Quiet)
    (effect : server.Effect settings session event after) : ¬ server.Finished session := by
  intro finished
  rcases effect.todo proceeds with ⟨_, _, -, due, -⟩ | ⟨statement, todo, code, -⟩
  · rw [quiet.clean session finished] at due
    cases due
  · rw [finished] at code
    cases code

theorem Effect.finished_kept (proceeds : event.Proceeds) (quiet : server.Quiet)
    (effect : server.Effect settings session event after) {other : SessionId}
    (finished : server.Finished other) : after.Finished other := by
  have different : other ≠ session := by
    rintro rfl
    exact effect.not_finished proceeds quiet finished
  rw [Finished, effect.sessions_of_ne different]
  exact finished

/-- Steps keep the server quiet. -/
theorem Effect.quiet (proceeds : event.Proceeds)
    (effect : server.Effect settings session event after) (quiet : server.Quiet) :
    after.Quiet where
  automatic other alertId now member := by
    by_cases own : other = session
    · subst own
      apply quiet.automatic other alertId now
      rcases effect.todo proceeds with ⟨_, _, -, -, same⟩ | ⟨statement, todo, code, -, rest⟩
      · exact same ▸ member
      · rw [code]
        apply List.mem_cons_of_mem
        rcases rest with ⟨rest, -⟩ | ⟨clock, -, rest⟩
        · exact rest ▸ member
        · rw [rest] at member
          rcases List.mem_append.mp member with inserted | old
          · exact absurd inserted (not_mem_detectorContinuation settings clock _ alertId now)
          · exact old
    · rw [effect.sessions_of_ne own] at member
      exact quiet.automatic other alertId now member
  ends other early last left := by
    by_cases own : other = session
    · subst own
      exact effect.ends proceeds (quiet.ends other) left
    · rw [effect.sessions_of_ne own] at left
      exact quiet.ends other early last left
  clean other finished := by
    by_cases own : other = session
    · subst own
      obtain rfl := effect.finishes proceeds quiet finished
      cases effect with
      | committed => simp [commit]
    · rw [Finished, effect.sessions_of_ne own] at finished
      rw [effect.sessions_of_ne own]
      exact quiet.clean other finished
  alerts other finished alertId alert held := by
    by_cases own : other = session
    · subst own
      have commits := effect.finishes proceeds quiet finished
      rcases effect.alert_pending proceeds held with ⟨-, different⟩ |
        ⟨-, ⟨_, raises, -⟩ | ⟨_, _, flushes, -⟩⟩
      · exact different commits rfl
      · cases commits.symm.trans raises
      · cases commits.symm.trans flushes
    · rw [Finished, effect.sessions_of_ne own] at finished
      rcases effect.alert_pending proceeds held with ⟨old, -⟩ | ⟨same, -⟩
      · exact quiet.alerts other finished alertId alert old
      · exact own same
  states other finished batteryId row held := by
    by_cases own : other = session
    · subst own
      have commits := effect.finishes proceeds quiet finished
      rcases effect.state_pending proceeds held with ⟨-, open'⟩ | ⟨-, different⟩
      · exact open' commits
      · exact different commits rfl
    · rw [Finished, effect.sessions_of_ne own] at finished
      rcases effect.state_pending proceeds held with ⟨same, -⟩ | ⟨old, -⟩
      · exact own same
      · exact quiet.states other finished batteryId row old

@[simp] theorem todo_ofDatabase (db : Database) (programs : SessionId → List Statement)
    (session : SessionId) :
    ((ofDatabase db programs).sessions session).todo = programs session := rfl

/-- A server at rest is quiet if the code of its sessions ends as it should. -/
theorem quiet_ofDatabase {db : Database} {programs : SessionId → List Statement}
    (automatic : ∀ session alertId now, .getAlert alertId now ∉ programs session)
    (ends : ∀ session early last, programs session = early ++ [last] → last.Ends) :
    (ofDatabase db programs).Quiet where
  automatic := automatic
  ends := ends
  clean _ _ := rfl
  alerts _ _ _ _ held := by cases held
  states _ _ _ _ held := by cases held

/-- Induction over the interleavings of sessions none of which fails. -/
theorem completed_run_induction (Good : List Label → Server → Prop) {first last : Server}
    {labels : List Label} (run : Trace (Step settings) first labels last)
    (completed : ∀ label ∈ labels, label.2 ≠ .failed)
    (sound : first.alerts.Sound Alert.indexEntry) (follows : first.alerts.Follows Alert.Evolves)
    (quiet : first.Quiet) (start : Good [] first)
    (kept : ∀ labels server session event after, server.alerts.Sound Alert.indexEntry →
      server.alerts.Follows Alert.Evolves → server.Quiet → event.Proceeds → Good labels server →
      server.Effect settings session event after → Good (labels ++ [(session, event)]) after) :
    last.Quiet ∧ Good labels last := by
  obtain ⟨-, reached⟩ := run_induction
    (fun labels server => (∀ label ∈ labels, label.2 ≠ .failed) →
      server.alerts.Follows Alert.Evolves ∧ server.Quiet ∧ Good labels server)
    run sound (fun _ => ⟨follows, quiet, start⟩)
    (by
      intro labels server session event after sound ih effect running
      obtain ⟨follows, quiet, good⟩ := ih fun label member =>
        running label (List.mem_append_left _ member)
      have proceeds := effect.proceeds quiet
        (running (session, event) (List.mem_append_right _ List.mem_cons_self))
      exact ⟨effect.follows sound follows, effect.quiet proceeds quiet,
        kept labels server session event after sound follows quiet proceeds good effect⟩)
  exact (reached completed).2

/-- At rest every version is the committed one. -/
theorem follows_ofDatabase (db : Database) (programs : SessionId → List Statement) :
    (ofDatabase db programs).alerts.Follows Alert.Evolves := by
  intro alertId commits old new present left
  obtain rfl := Option.some.inj (present.symm.trans left)
  exact .refl old

/-- A session without code is over in every completed run. -/
theorem finished_of_empty {db : Database} {programs : SessionId → List Statement} {last : Server}
    {labels : List Label} (run : Trace (Step settings) (ofDatabase db programs) labels last)
    (completed : ∀ label ∈ labels, label.2 ≠ .failed) (quiet : (ofDatabase db programs).Quiet)
    {session : SessionId} (empty : programs session = []) : last.Finished session :=
  (completed_run_induction (fun _ server => server.Finished session) run completed
    (sound_ofDatabase db programs) (follows_ofDatabase db programs) quiet empty
    (fun _ _ _ _ _ _ _ quiet proceeds finished effect =>
      effect.finished_kept proceeds quiet finished)).2

/-- Once every session is over, the newest versions are the committed ones. -/
theorem Quiet.latestAlert_of_finished (quiet : server.Quiet)
    (finished : ∀ session, server.Finished session) (alertId : Uuid) :
    server.latestAlert alertId = (server.alerts.cells alertId).committed := by
  cases held : (server.alerts.cells alertId).pending with
  | none => exact Cell.outcome_of_not_pending held _
  | some holding => exact absurd held (quiet.alerts _ (finished _) alertId holding.2)

theorem Quiet.latestState_of_finished (quiet : server.Quiet)
    (finished : ∀ session, server.Finished session) (batteryId : BatteryId) :
    server.latestState batteryId = (server.currentState batteryId).committed := by
  cases held : (server.currentState batteryId).pending with
  | none => exact Cell.outcome_of_not_pending held _
  | some holding => exact absurd held (quiet.states _ (finished _) batteryId holding.2)

theorem Quiet.committedOpen_iff (quiet : server.Quiet)
    (finished : ∀ session, server.Finished session) :
    server.CommittedOpen batteryId alertType ↔ server.LatestOpen batteryId alertType := by
  simp only [CommittedOpen, LatestOpen, OpenAt, quiet.latestAlert_of_finished finished]

end Server

end VoltStream.Backend
