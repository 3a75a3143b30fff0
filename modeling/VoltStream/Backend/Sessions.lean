/-
Module: VoltStream.Backend.Sessions
Purpose: The backend under concurrency: sessions whose single statements,
  flushes and commits interleave at READ COMMITTED over the current-state and
  alert tables.
Trusted boundary: human-reviewed spec of the transaction boundaries of
  `telemetry_service.py`, `offline_detector.py`, `alert_service.py` and of the
  ORM's unit of work
Main exports: Statement, Session, Server, Server.perform, Server.Step,
  singleIngestion, batchIngestion, detectorIteration, manualResolution,
  Server.ofDatabase, Server.play
-/
import VoltStream.Relational.ReadCommitted
import VoltStream.Relational.Run
import VoltStream.Backend.OfflineDetection

namespace VoltStream.Backend

open Relational

/-- The entry of an alert in `ux_alerts_battery_id_alert_type_unresolved`, the
partial unique index over the unresolved rows. -/
def Alert.indexEntry (alert : Alert) : Option (BatteryId × AlertType) :=
  if alert.resolved then none else some (alert.batteryId, alert.alertType)

/-- What a session's code asks of the database, one statement or commit at a
time.  The current-state upsert takes its row locks one by one in sorted
order, so each of its rows is a statement of its own. -/
inductive Statement where
  | upsertCurrentState (row : BatteryCurrentState)
  | alert (call : AlertCall)
  | getAlert (alertId : Uuid) (now : Timestamp)
  | selectStale (clock : DetectorClock)
  | markOffline (ids : List BatteryId)
  | commit
deriving Repr, DecidableEq

/-- A session: the statements still to come, and the resolutions set on loaded
alert objects that the unit of work has not flushed yet. -/
structure Session where
  todo : List Statement
  dirty : List (Uuid × Timestamp)
deriving Repr, DecidableEq

structure Server where
  batteryIds : List BatteryId
  currentState : BatteryId → Cell BatteryCurrentState
  alerts : Heap Alert
  sessions : SessionId → Session

/-- What happens next in a session: its next statement, the flush of one of its
pending resolutions, or a failure. -/
inductive Action where
  | proceed
  | flush (alertId : Uuid) (resolvedAt : Timestamp)
  | fail
deriving Repr, DecidableEq

/-- What has happened in a session. -/
inductive Event where
  | stored (row : BatteryCurrentState) (admitted : Bool)
  | raised (request : AlertRequest)
  | selected (batteryId : BatteryId) (alertType : AlertType) (resolvedAt : Timestamp)
  | fetched (alertId : Uuid) (now : Timestamp)
  | lockedStale (ids : List BatteryId)
  | marked (ids : List BatteryId)
  | flushed (alertId : Uuid) (resolvedAt : Timestamp)
  | committed
  | refused (request : AlertRequest)
  | failed
deriving Repr, DecidableEq

abbrev Label := SessionId × Event

/-- The guard of the current-state upsert: no row yet, or one that is not newer. -/
def admitted (found : Option BatteryCurrentState) (row : BatteryCurrentState) : Bool :=
  match found with
  | none => true
  | some old => notNewer BatteryCurrentState.lastSeen old row

namespace Server

/-- The session goes on with these statements and pending resolutions. -/
def resume (session : SessionId) (todo : List Statement) (dirty : List (Uuid × Timestamp))
    (server : Server) : Server :=
  { server with
    sessions := Function.update server.sessions session { todo := todo, dirty := dirty } }

/-- One row of `_upsert_current_state`.  The conflicting row is locked even when
the guard refuses the new values. -/
def storeRow (session : SessionId) (row : BatteryCurrentState) (server : Server) : Server :=
  let cell := server.currentState row.batteryId
  { server with
    currentState := Function.update server.currentState row.batteryId
      (cell.write session
        (absorb (notNewer BatteryCurrentState.lastSeen) (cell.view session) row)) }

/-- The rows `SELECT ... FOR UPDATE SKIP LOCKED` returns. -/
def staleUnlocked (settings : Settings) (now : Timestamp) (session : SessionId)
    (server : Server) : List BatteryId :=
  server.batteryIds.filter fun batteryId =>
    let cell := server.currentState batteryId
    !cell.lockedAgainst session &&
      (cell.view session).any fun row => decide (row.Stale settings now)

/-- Write every listed row, changed by `change`. -/
def writeRows (session : SessionId) (change : BatteryCurrentState → BatteryCurrentState)
    (ids : List BatteryId) (server : Server) : Server :=
  { server with
    currentState := fun batteryId =>
      let cell := server.currentState batteryId
      match cell.view session with
      | some row => if batteryId ∈ ids then cell.write session (change row) else cell
      | none => cell }

/-- The rest of an iteration once the stale rows are locked: mark them, commit,
raise their alerts, commit. -/
def detectorContinuation (settings : Settings) (clock : DetectorClock) (ids : List BatteryId) :
    List Statement :=
  if ids = [] then [.commit]
  else
    [.markOffline ids, .commit] ++ (deviceOfflineCalls settings clock.alertNow ids).map .alert ++
      [.commit]

/-- The transaction of the session commits. -/
def commit (session : SessionId) (todo : List Statement) (server : Server) : Server :=
  { server with
    currentState := fun batteryId => (server.currentState batteryId).commit session
    alerts := server.alerts.commit session
    sessions := Function.update server.sessions session { todo := todo, dirty := [] } }

/-- The session fails: its transaction is rolled back and its code ends. -/
def rollback (session : SessionId) (server : Server) : Server :=
  { server with
    currentState := fun batteryId => (server.currentState batteryId).rollback session
    alerts := server.alerts.rollback session
    sessions := Function.update server.sessions session { todo := [], dirty := [] } }

/-- One statement of a session, `todo` being what follows it.  `none` means that
it waits for another transaction. -/
def execute (settings : Settings) (session : SessionId) (todo : List Statement)
    (server : Server) : Statement → Option (Event × Server)
  | .upsertCurrentState row =>
      let cell := server.currentState row.batteryId
      if cell.lockedAgainst session then none
      else
        some (.stored row (admitted (cell.view session) row),
          (server.storeRow session row).resume session todo (server.sessions session).dirty)
  | .alert (.createOrRetainAlert request) =>
      match server.alerts.upsert Alert.indexEntry session (request.batteryId, request.alertType)
          request.toAlert request.retain with
      | .waits => none
      | .refused => some (.refused request, server.rollback session)
      | .done alerts =>
          some (.raised request,
            { server with alerts := alerts }.resume session todo (server.sessions session).dirty)
  | .alert (.resolveAlertIfActive batteryId alertType resolvedAt) =>
      let dirty := (server.sessions session).dirty
      match server.alerts.find Alert.indexEntry session (batteryId, alertType) with
      | none => some (.selected batteryId alertType resolvedAt, server.resume session todo dirty)
      | some (alertId, _) =>
          some (.selected batteryId alertType resolvedAt,
            server.resume session todo (dirty ++ [(alertId, resolvedAt)]))
  | .getAlert alertId now =>
      let dirty := (server.sessions session).dirty
      match (server.alerts.cells alertId).view session with
      | none => some (.fetched alertId now, server.rollback session)
      | some alert =>
          if alert.resolved then some (.fetched alertId now, server.rollback session)
          else
            some (.fetched alertId now, server.resume session todo (dirty ++ [(alertId, now)]))
  | .selectStale clock =>
      let ids := server.staleUnlocked settings clock.cutoffNow session
      some (.lockedStale ids,
        (server.writeRows session id ids).resume session
          (detectorContinuation settings clock ids ++ todo) (server.sessions session).dirty)
  | .markOffline ids =>
      some (.marked ids,
        (server.writeRows session BatteryCurrentState.markOffline ids).resume session todo
          (server.sessions session).dirty)
  | .commit =>
      if (server.sessions session).dirty = [] then some (.committed, server.commit session todo)
      else none

/-- One action of a session; `none` when it cannot be taken now. -/
def perform (settings : Settings) (session : SessionId) (server : Server) :
    Action → Option (Event × Server)
  | .proceed =>
      match (server.sessions session).todo with
      | [] => none
      | statement :: todo => server.execute settings session todo statement
  | .flush alertId resolvedAt =>
      let state := server.sessions session
      if (alertId, resolvedAt) ∈ state.dirty then
        match server.alerts.update Alert.indexEntry session alertId (Alert.resolve resolvedAt) with
        | .done alerts =>
            some (.flushed alertId resolvedAt,
              { server with alerts := alerts }.resume session state.todo
                (state.dirty.erase (alertId, resolvedAt)))
        | _ => none
      else none
  | .fail => some (.failed, server.rollback session)

/-- A step of the whole server: some session does something. -/
def Step (settings : Settings) (before : Server) (label : Label) (after : Server) : Prop :=
  ∃ action, before.perform settings label.1 action = some (label.2, after)

/-- The server at rest over a database, with the code each session will run. -/
def ofDatabase (db : Database) (programs : SessionId → List Statement) : Server where
  batteryIds := (db.batteries.rows.map Battery.batteryId).insertionSort (· ≤ ·)
  currentState batteryId := Cell.settled (db.currentState batteryId)
  alerts :=
    { cells := fun alertId => Cell.settled (db.alerts.table.lookup alertId)
      size := db.alerts.nextAlertId }
  sessions session := { todo := programs session, dirty := [] }

/-- The session has run its code to the end. -/
def Finished (server : Server) (session : SessionId) : Prop :=
  (server.sessions session).todo = []

/-- The committed alert is the unresolved one of its battery and type. -/
def CommittedOpen (server : Server) (batteryId : BatteryId) (alertType : AlertType) : Prop :=
  ∃ alertId alert, (server.alerts.cells alertId).committed = some alert ∧
    alert.OpenFor batteryId alertType

/-- Run a schedule. -/
def play (settings : Settings) : List (SessionId × Action) → Server → Option (List Label × Server)
  | [], server => some ([], server)
  | (session, action) :: rest, server =>
      (server.perform settings session action).bind fun taken =>
        (play settings rest taken.2).map fun played => ((session, taken.1) :: played.1, played.2)

/-- What a schedule plays is a run. -/
theorem trace_of_play {settings : Settings} {schedule : List (SessionId × Action)}
    {first last : Server} {labels : List Label}
    (played : play settings schedule first = some (labels, last)) :
    Trace (Step settings) first labels last := by
  induction schedule generalizing first labels with
  | nil =>
      cases played
      exact .nil last
  | cons turn rest ih =>
      obtain ⟨session, action⟩ := turn
      obtain ⟨⟨event, next⟩, performed, continued⟩ := Option.bind_eq_some_iff.mp played
      obtain ⟨⟨later, final⟩, playedRest, same⟩ := Option.map_eq_some_iff.mp continued
      cases same
      have one : Trace (Step settings) first ([] ++ [(session, event)]) next :=
        .snoc (.nil first) ⟨action, performed⟩
      exact one.append (ih playedRest)

end Server

/-! ### The code of the sessions

`telemetry` is what the rapid-discharge query of the request reads. -/

/-- `ingest_telemetry_event` for a newly stored event: one transaction. -/
def singleIngestion (settings : Settings) (telemetry : List Telemetry)
    (batteries : Table Battery Battery.batteryId) (event : TelemetryEvent) : List Statement :=
  [.upsertCurrentState event.toCurrentState] ++
    (rulePassCalls settings telemetry batteries (sortedLatest [event])).map .alert ++ [.commit]

/-- `ingest_telemetry_batch` for the newly stored events: the storage commits
before the rule pass starts. -/
def batchIngestion (settings : Settings) (telemetry : List Telemetry)
    (batteries : Table Battery Battery.batteryId) (events : List TelemetryEvent) :
    List Statement :=
  (sortedLatest events).map (fun event => .upsertCurrentState event.toCurrentState) ++ [.commit] ++
    (rulePassCalls settings telemetry batteries (sortedLatest events)).map .alert ++ [.commit]

/-- One iteration of `run_offline_detection_loop`. -/
def detectorIteration (clock : DetectorClock) : List Statement := [.selectStale clock]

/-- `resolve_alert`. -/
def manualResolution (alertId : Uuid) (now : Timestamp) : List Statement :=
  [.getAlert alertId now, .commit]

end VoltStream.Backend
