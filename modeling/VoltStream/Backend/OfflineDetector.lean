/-
Module: VoltStream.Backend.OfflineDetector
Purpose: The loop of the offline detector with a clock: it sleeps, selects, marks and
  raises, while other transactions commit, rows are locked, iterations fail and the process
  is restarted.
Trusted boundary: human-reviewed spec of `run_offline_detection_loop` of
  `app/services/offline_detector.py`, of `mark_stale_batteries_offline` of
  `app/services/offline_detection_service.py` with its `SKIP LOCKED`, and of `asyncio.sleep`
Main exports: unlockedStaleIds, markUnlockedOffline, DetectorSettings, DetectorPhase,
  OfflineDetector, OfflineDetector.Move, OfflineDetector.perform, OfflineDetector.Step,
  OfflineDetector.start
-/
import VoltStream.Backend.FleetSummary

namespace VoltStream.Backend

open Relational

/-- The ids of the stale rows that nobody else has locked: `SKIP LOCKED`. -/
def unlockedStaleIds (settings : Settings) (now : Timestamp) (locked : List BatteryId)
    (currentState : Table BatteryCurrentState BatteryCurrentState.batteryId) : List BatteryId :=
  (staleIds settings now currentState).filter fun batteryId => batteryId ∉ locked

/-- `mark_stale_batteries_offline`, with the cutoff computed at `now`, while others have the
rows of some batteries locked. -/
def markUnlockedOffline (settings : Settings) (now : Timestamp) (locked : List BatteryId)
    (db : Database) : List BatteryId × Database :=
  let ids := unlockedStaleIds settings now locked db.batteryCurrentState
  (ids, { db with batteryCurrentState := markOfflineAll ids db.batteryCurrentState })

/-- The settings that the loop reads. -/
structure DetectorSettings extends Settings where
  offlineDetectionIntervalSeconds : ℚ

/-- The defaults of `Settings` in `app/core/config.py`. -/
def DetectorSettings.default : DetectorSettings where
  toSettings := .default
  offlineDetectionIntervalSeconds := 5

/-- How long the loop sleeps; `asyncio.sleep` does not wait for a time that is not positive. -/
def DetectorSettings.interval (settings : DetectorSettings) : Int :=
  max 0 (timedelta settings.offlineDetectionIntervalSeconds)

/-- Where `run_offline_detection_loop` is: in its sleep, in the transaction that marks, with
the clock reading behind its cutoff, or in the transaction that raises the alerts, with the
clock reading that stamps them. -/
inductive DetectorPhase where
  | asleep
  | selecting (cutoffNow : Timestamp)
  | raising (ids : List BatteryId) (alertNow : Timestamp)
deriving Repr, DecidableEq

/-- The loop and its database, with a clock.  `wake` is when the last sleep was to end. -/
structure OfflineDetector where
  now : Timestamp
  wake : Timestamp
  phase : DetectorPhase
  db : Database

namespace OfflineDetector

/-- The task has just been created, over a fleet that has never reported. -/
def start (now : Timestamp) (batteries : Table Battery Battery.batteryId) : OfflineDetector where
  now := now
  wake := now
  phase := .asleep
  db := .registered batteries

/-- What can happen between two transactions. -/
inductive Move where
  | wait (later : Timestamp)
  | commit (writes : List Write)
  | wake
  | mark (locked : List BatteryId)
  | raise
  | fail (interruption : Interruption)
  | restart (interruption : Interruption)

/-- Only the loop itself marks batteries offline. -/
def isForeign : Write → Bool
  | .markOffline _ => false
  | _ => true

variable (settings : DetectorSettings) (state : OfflineDetector)

/-- `asyncio.sleep` at the end of an iteration, however it ended. -/
def sleep : OfflineDetector :=
  { state with wake := state.now + settings.interval, phase := .asleep }

/-- The database once the open transaction is rolled back: a selection leaves no trace, and
of the alerts only the ids stay drawn. -/
def rolledBack (interruption : Interruption) : Database :=
  match state.phase with
  | .raising ids alertNow =>
      let calls := deviceOfflineCalls settings.toSettings alertNow ids
      let session := (interruption.executed calls).foldl AlertSession.execute
        (AlertSession.begin state.db.alerts)
      { state.db with alerts := session.rollback }
  | _ => state.db

/-- What a move does, if it is possible.  An iteration that marks no battery raises nothing;
one that fails is swallowed, and a restarted process begins with an iteration. -/
def perform : Move → Option OfflineDetector
  | .wait later => if state.now ≤ later then some { state with now := later } else none
  | .commit writes =>
      if writes.all isForeign then some { state with db := state.db.commit writes } else none
  | .wake =>
      match state.phase with
      | .asleep =>
          if state.wake ≤ state.now then some { state with phase := .selecting state.now } else none
      | _ => none
  | .mark locked =>
      match state.phase with
      | .selecting cutoffNow =>
          let (newlyOfflineIds, marked) :=
            markUnlockedOffline settings.toSettings cutoffNow locked state.db
          if newlyOfflineIds = [] then some (sleep settings { state with db := marked })
          else some { state with db := marked, phase := .raising newlyOfflineIds state.now }
      | _ => none
  | .raise =>
      match state.phase with
      | .raising ids alertNow =>
          let alerts := AlertCall.runAll (deviceOfflineCalls settings.toSettings alertNow ids)
            state.db.alerts
          some (sleep settings { state with db := { state.db with alerts := alerts } })
      | _ => none
  | .fail interruption =>
      match state.phase with
      | .asleep => none
      | _ => some (sleep settings { state with db := state.rolledBack settings interruption })
  | .restart interruption =>
      some
        { state with
          wake := state.now
          phase := .asleep
          db := state.rolledBack settings interruption }

/-- `perform` as a relation. -/
def Step (before : OfflineDetector) (move : Move) (after : OfflineDetector) : Prop :=
  before.perform settings move = some after

end OfflineDetector

end VoltStream.Backend
