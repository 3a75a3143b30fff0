/-
Module: VoltStream.Backend.CheckedIngestion
Purpose: Ingestion with the arithmetic that it does on timestamps as they were written,
  which can leave the range of `datetime` in the middle of a request.
Trusted boundary: human-reviewed spec of `_evaluate_rapid_discharge` in
  `anomaly_detection_service.py` and of the commits in `telemetry_service.py`
Main exports: ReceivedEvent, IngestionError, checkedWindowStart,
  evaluateRulesForEventsChecked, ReceivedRequest, Database.ingestChecked
-/
import VoltStream.Backend.Datetime
import VoltStream.Backend.Prediction

namespace VoltStream.Backend

open Relational

/-- A `TelemetryEvent` with its `timestamp` as it was written; the event proper has the
instant. -/
structure ReceivedEvent where
  event : TelemetryEvent
  written : AwareDatetime
  sameInstant : written.instant = event.timestamp

/-- What may leave an ingestion function: an `APIError`, an error of the arithmetic, or one
of the driver, for a value that it cannot encode. -/
inductive IngestionError where
  | apiError (error : APIError)
  | arithmeticError (error : ArithmeticError)
  | driverError
deriving Repr, DecidableEq

/-- The reduction of `_upsert_current_state`, over the events as they were written. -/
def sortedLatestReceived (events : List ReceivedEvent) : List ReceivedEvent :=
  let latest : Table ReceivedEvent fun received => received.event.batteryId :=
    Table.empty.putAll (notNewer fun received => received.event.timestamp) events
  latest.rows.insertionSort fun first second => first.event.batteryId ≤ second.event.batteryId

section Checked

variable (settings : Settings) (binds : AwareDatetime → Bool)

/-- `timestamp - window` in `_evaluate_rapid_discharge`, which is then bound in a query;
`binds` says what the driver can encode. -/
def checkedWindowStart (timestamp : AwareDatetime) : Except IngestionError AwareDatetime :=
  match checkedTimedelta settings.rapidDischargeWindowMinutes with
  | .error error => .error (.arithmeticError error)
  | .ok window =>
      match timestamp.minus window with
      | .error error => .error (.arithmeticError error)
      | .ok cutoff => if binds cutoff then .ok cutoff else .error .driverError

/-- One turn of the loop in `evaluate_rules_for_events`.  What the rules in front of an
error have done is rolled back with it. -/
def evaluateRulesForEventChecked (telemetry : List Telemetry)
    (batteriesById : Table Battery Battery.batteryId) (received : ReceivedEvent) :
    Except IngestionError (List AlertCall) :=
  match batteriesById.lookup received.event.batteryId with
  | none => .ok []
  | some battery =>
      match checkedWindowStart settings binds received.written with
      | .error error => .error error
      | .ok _ => .ok (evaluateRules settings telemetry battery received.event)

/-- `evaluate_rules_for_events`, up to the first error. -/
def evaluateRulesForEventsChecked (telemetry : List Telemetry)
    (batteriesById : Table Battery Battery.batteryId) :
    List ReceivedEvent → Except IngestionError (List AlertCall)
  | [] => .ok []
  | received :: rest =>
      match evaluateRulesForEventChecked settings binds telemetry batteriesById received with
      | .error error => .error error
      | .ok calls =>
          match evaluateRulesForEventsChecked telemetry batteriesById rest with
          | .error error => .error error
          | .ok later => .ok (calls ++ later)

/-- `_evaluate_rules_and_resolve_offline`. -/
def evaluateRulesAndResolveOfflineChecked (telemetry : List Telemetry)
    (batteriesById : Table Battery Battery.batteryId) (latest : List ReceivedEvent)
    (alerts : Alerts) : Except IngestionError Alerts :=
  match evaluateRulesForEventsChecked settings binds telemetry batteriesById latest with
  | .error error => .error error
  | .ok calls =>
      .ok (AlertCall.runAll (calls ++ latest.map fun received =>
        .resolveAlertIfActive received.event.batteryId .deviceOffline received.event.timestamp)
          alerts)

/-- `ingest_telemetry_event`: what it returns or raises, and the database after it.  There
is one commit, at the end. -/
def ingestTelemetryEventChecked (received : ReceivedEvent) (db : Database) :
    Except IngestionError Bool × Database :=
  match db.batteries.lookup received.event.batteryId with
  | none => (.error (.apiError (batteryNotFound received.event.batteryId)), db)
  | some _ =>
      if binds received.written = false then (.error .driverError, db)
      else
        let readings := [received.event.toTelemetry]
        let stored := { db with telemetry := db.telemetry.insertAll readings }
        if db.telemetry.returning readings ≠ [] then
          let current := (upsertCurrentState db.batteryCurrentState [received.event]).2
          match evaluateRulesAndResolveOfflineChecked settings binds stored.telemetry.rows
              db.batteries (sortedLatestReceived [received]) db.alerts with
          | .error error => (.error error, db)
          | .ok alerts =>
              (.ok true, { stored with batteryCurrentState := current, alerts := alerts })
        else (.ok false, stored)

/-- The `APIError` of a batch that names unknown batteries. -/
def unknownBatteries (missing : List BatteryId) : APIError where
  statusCode := 404
  code := "BATTERY_NOT_FOUND"
  message := "Unknown battery_id(s): " ++ ", ".intercalate missing

/-- `ingest_telemetry_batch`.  Telemetry and current state are committed before the rules
are evaluated, and stay if that fails. -/
def ingestTelemetryBatchChecked (batch : List ReceivedEvent) (db : Database) :
    Except IngestionError (Nat × Nat) × Database :=
  let events := batch.map ReceivedEvent.event
  let missing := missingIds db.batteries events
  if missing ≠ [] then (.error (.apiError (unknownBatteries missing)), db)
  else if batch.any fun received => binds received.written = false then
    (.error .driverError, db)
  else
    let readings := events.map TelemetryEvent.toTelemetry
    let insertedIds := db.telemetry.returning readings
    let counts := (insertedIds.length, events.length - insertedIds.length)
    let stored := { db with telemetry := db.telemetry.insertAll readings }
    if insertedIds ≠ [] then
      let accepted := batch.filter fun received => received.event.eventId ∈ insertedIds
      let committed := { stored with
        batteryCurrentState :=
          (upsertCurrentState db.batteryCurrentState (accepted.map ReceivedEvent.event)).2 }
      match evaluateRulesAndResolveOfflineChecked settings binds committed.telemetry.rows
          db.batteries (sortedLatestReceived accepted) db.alerts with
      | .error error => (.error error, committed)
      | .ok alerts => (.ok counts, { committed with alerts := alerts })
    else (.ok counts, stored)

end Checked

/-- A request of either endpoint, with its timestamps as they were written. -/
inductive ReceivedRequest where
  | single (received : ReceivedEvent)
  | batch (received : List ReceivedEvent) (nonempty : received ≠ [])

namespace ReceivedRequest

def received : ReceivedRequest → List ReceivedEvent
  | .single event => [event]
  | .batch events _ => events

/-- The request with instants for timestamps. -/
def plain : ReceivedRequest → Request
  | .single received => .single received.event
  | .batch received nonempty =>
      .batch
        { events := received.map ReceivedEvent.event
          nonempty := fun none => nonempty (List.map_eq_nil_iff.mp none) }

end ReceivedRequest

/-- One request: whether it returns, and the database after it. -/
def Database.ingestChecked (settings : Settings) (binds : AwareDatetime → Bool) (db : Database) :
    ReceivedRequest → Except IngestionError Unit × Database
  | .single received =>
      let (outcome, after) := ingestTelemetryEventChecked settings binds received db
      (outcome.map fun _ => (), after)
  | .batch received _ =>
      let (outcome, after) := ingestTelemetryBatchChecked settings binds received db
      (outcome.map fun _ => (), after)

end VoltStream.Backend
