/-
Module: VoltStream.Backend.OfflineDetection
Purpose: The background offline detector: one iteration marks stale batteries
  and, in a second transaction, raises their alerts; it may be interrupted at
  any statement of the second transaction.
Trusted boundary: human-reviewed spec of `offline_detection_service.py` and the
  loop body of `offline_detector.py`
Main exports: markStaleBatteriesOffline, deviceOfflineRequest, Interruption,
  offlineDetectionIteration, interruptedIteration, Activity, Step, Database.step
-/
import VoltStream.Backend.Ingestion

namespace VoltStream.Backend

open Relational

/-- The predicate of the detector's `SELECT ... FOR UPDATE`: not already marked
and last seen strictly before the cutoff. -/
def BatteryCurrentState.Stale (settings : Settings) (now : Timestamp)
    (row : BatteryCurrentState) : Prop :=
  row.status ≠ .offline ∧ row.lastSeen < now - settings.offlineThreshold

instance (settings : Settings) (now : Timestamp) (row : BatteryCurrentState) :
    Decidable (row.Stale settings now) :=
  inferInstanceAs (Decidable (_ ∧ _))

def BatteryCurrentState.markOffline (row : BatteryCurrentState) : BatteryCurrentState :=
  { row with status := .offline }

@[simp] theorem BatteryCurrentState.markOffline_batteryId (row : BatteryCurrentState) :
    row.markOffline.batteryId = row.batteryId := rfl

/-- Ids of the stale rows, `ORDER BY battery_id`. -/
def staleIds (settings : Settings) (now : Timestamp)
    (currentState : Table BatteryCurrentState BatteryCurrentState.batteryId) : List BatteryId :=
  ((currentState.rows.filter fun row => row.Stale settings now).map
    BatteryCurrentState.batteryId).insertionSort (· ≤ ·)

/-- `UPDATE battery_current_state SET status = 'OFFLINE' WHERE battery_id IN ...`. -/
def markOfflineAll (ids : List BatteryId)
    (currentState : Table BatteryCurrentState BatteryCurrentState.batteryId) :
    Table BatteryCurrentState BatteryCurrentState.batteryId :=
  ids.foldl
    (fun table batteryId => table.modify batteryId BatteryCurrentState.markOffline
      BatteryCurrentState.markOffline_batteryId)
    currentState

/-- `mark_stale_batteries_offline` at server clock `now`, with no row locked by
anyone else: the newly marked ids and the committed database. -/
def markStaleBatteriesOffline (settings : Settings) (now : Timestamp) (db : Database) :
    List BatteryId × Database :=
  let ids := staleIds settings now db.batteryCurrentState
  (ids, { db with batteryCurrentState := markOfflineAll ids db.batteryCurrentState })

/-- The alert the loop raises for a battery it has just marked. -/
def deviceOfflineRequest (settings : Settings) (now : Timestamp) (batteryId : BatteryId) :
    AlertRequest where
  batteryId := batteryId
  alertType := .deviceOffline
  severity := .warning
  message := s!"{batteryId} has not reported telemetry in over " ++
    s!"{formatFixed 0 settings.offlineThresholdSeconds} seconds"
  measuredValue := none
  thresholdValue := some settings.offlineThresholdSeconds
  timestamp := now

/-- The second transaction of an iteration, statement by statement. -/
def deviceOfflineCalls (settings : Settings) (now : Timestamp) (ids : List BatteryId) :
    List AlertCall :=
  ids.map fun batteryId => .createOrRetainAlert (deviceOfflineRequest settings now batteryId)

/-- The two server-clock readings of one iteration: the cutoff is computed from
the first, the alerts are stamped with the second. -/
structure DetectorClock where
  cutoffNow : Timestamp
  alertNow : Timestamp
deriving Repr, DecidableEq

/-- One complete iteration of `run_offline_detection_loop`. -/
def offlineDetectionIteration (settings : Settings) (clock : DetectorClock) (db : Database) :
    Database :=
  let (newlyOfflineIds, marked) := markStaleBatteriesOffline settings clock.cutoffNow db
  { marked with
    alerts := AlertCall.runAll (deviceOfflineCalls settings clock.alertNow newlyOfflineIds)
      marked.alerts }

/-- Where the second transaction fails: while or before executing its
`statement`-th call, or at the final commit. -/
inductive Interruption where
  | atStatement (statement : Nat)
  | atFinalCommit
deriving Repr, DecidableEq

/-- The session of the second transaction: what is committed, and what the
transaction itself sees. -/
structure AlertSession where
  committed : Alerts
  working : Alerts

namespace AlertSession

def begin (alerts : Alerts) : AlertSession := { committed := alerts, working := alerts }

def execute (session : AlertSession) (call : AlertCall) : AlertSession :=
  { session with working := call.run session.working }

/-- Leaving the session block on an exception discards the uncommitted work;
ids already drawn stay drawn. -/
def rollback (session : AlertSession) : Alerts :=
  { session.committed with
    nextAlertId := max session.committed.nextAlertId session.working.nextAlertId
    idsDrawn := fun alert member =>
      lt_of_lt_of_le (session.committed.idsDrawn alert member) (le_max_left _ _) }

@[simp] theorem rollback_rows (session : AlertSession) :
    session.rollback.rows = session.committed.rows := rfl

end AlertSession

/-- The calls that have been executed when the interruption strikes. -/
def Interruption.executed (interruption : Interruption) (calls : List AlertCall) :
    List AlertCall :=
  match interruption with
  | .atStatement statement => calls.take statement
  | .atFinalCommit => calls

/-- An iteration that fails after its first commit: the marks stay, the alerts
of the second transaction are rolled back, and the loop swallows the
exception. -/
def interruptedIteration (settings : Settings) (clock : DetectorClock)
    (interruption : Interruption) (db : Database) : Database :=
  let (newlyOfflineIds, marked) := markStaleBatteriesOffline settings clock.cutoffNow db
  let calls := deviceOfflineCalls settings clock.alertNow newlyOfflineIds
  let session := (interruption.executed calls).foldl AlertSession.execute
    (AlertSession.begin marked.alerts)
  { marked with alerts := session.rollback }

/-- What the backend does on its own account: a complete request or a complete
detector iteration. -/
inductive Activity where
  | ingest (request : Request)
  | detect (clock : DetectorClock)

def Database.act (settings : Settings) (db : Database) : Activity → Database
  | .ingest request => db.ingest settings request
  | .detect clock => offlineDetectionIteration settings clock db

/-- A complete step: an activity, or the manual resolution of an alert. -/
inductive Step where
  | activity (activity : Activity)
  | resolve (now : Timestamp) (alertId : Uuid)

/-- One complete step; an unknown alert id leaves the database as it was. -/
def Database.step (settings : Settings) (db : Database) : Step → Database
  | .activity activity => db.act settings activity
  | .resolve now alertId =>
      match resolveAlert now alertId db.alerts with
      | .ok (_, alerts) => { db with alerts := alerts }
      | .error _ => db

theorem currentState_step_resolve {settings : Settings} {db : Database} {now : Timestamp}
    (alertId : Uuid) (batteryId : BatteryId) :
    (db.step settings (.resolve now alertId)).currentState batteryId =
      db.currentState batteryId := by
  simp only [Database.step]
  split <;> rfl

end VoltStream.Backend
