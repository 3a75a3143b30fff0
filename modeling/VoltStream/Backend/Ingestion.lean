/-
Module: VoltStream.Backend.Ingestion
Purpose: Single and batch telemetry ingestion: storage, current-state upkeep and
  the rule pass, over the whole database.  Timestamps are instants here, on which no
  arithmetic fails; the errors of `datetime` are in `Backend.CheckedIngestion`.
Trusted boundary: human-reviewed spec of `telemetry_service.py`
Main exports: Database, upsertCurrentState, evaluateRulesAndResolveOffline,
  ingestTelemetryEvent, ingestTelemetryBatch, Request, Database.ingest
-/
import VoltStream.Backend.Rules

namespace VoltStream.Backend

open Relational

structure Database where
  batteries : Table Battery Battery.batteryId
  telemetry : Table Telemetry Telemetry.eventId
  batteryCurrentState : Table BatteryCurrentState BatteryCurrentState.batteryId
  alerts : Alerts

/-- A database in which batteries are registered and nothing has been reported. -/
def Database.registered (batteries : Table Battery Battery.batteryId) : Database where
  batteries := batteries
  telemetry := Table.empty
  batteryCurrentState := Table.empty
  alerts := Alerts.empty

/-- The current-state row of one battery, if it has reported. -/
def Database.currentState (db : Database) (batteryId : BatteryId) : Option BatteryCurrentState :=
  db.batteryCurrentState.lookup batteryId

/-- The unresolved alert of one battery and type. -/
def Database.openAlert (db : Database) (batteryId : BatteryId) (alertType : AlertType) :
    Option Alert :=
  db.alerts.getUnresolvedAlert batteryId alertType

/-- The reduction of `_upsert_current_state`: one newest event per battery, a
later one winning a tie. -/
def latestPerBattery (events : List TelemetryEvent) :
    Table TelemetryEvent TelemetryEvent.batteryId :=
  Table.empty.putAll (notNewer TelemetryEvent.timestamp) events

/-- `dict(sorted(latest_per_battery.items()))`. -/
def sortedLatest (events : List TelemetryEvent) : List TelemetryEvent :=
  (latestPerBattery events).rows.insertionSort fun first second =>
    first.batteryId ≤ second.batteryId

/-- `_upsert_current_state`: the returned reduction and the table after the
multi-row upsert guarded by `last_seen <= excluded.last_seen`. -/
def upsertCurrentState
    (currentState : Table BatteryCurrentState BatteryCurrentState.batteryId)
    (events : List TelemetryEvent) :
    List TelemetryEvent × Table BatteryCurrentState BatteryCurrentState.batteryId :=
  let latest := sortedLatest events
  (latest, currentState.putAll (notNewer BatteryCurrentState.lastSeen)
    (latest.map TelemetryEvent.toCurrentState))

/-- The helper calls of one rule pass: the rules of every event, then the
`DEVICE_OFFLINE` resolution of every battery. -/
def rulePassCalls (settings : Settings) (telemetry : List Telemetry)
    (batteriesById : Table Battery Battery.batteryId) (latest : List TelemetryEvent) :
    List AlertCall :=
  evaluateRulesForEvents settings telemetry batteriesById latest ++
    latest.map fun event =>
      .resolveAlertIfActive event.batteryId .deviceOffline event.timestamp

/-- `_evaluate_rules_and_resolve_offline`. -/
def evaluateRulesAndResolveOffline (settings : Settings) (telemetry : List Telemetry)
    (batteriesById : Table Battery Battery.batteryId) (latest : List TelemetryEvent)
    (alerts : Alerts) : Alerts :=
  AlertCall.runAll (rulePassCalls settings telemetry batteriesById latest) alerts

/-- What both paths do with newly accepted events once they are stored. -/
def Database.applyAccepted (settings : Settings) (db : Database)
    (events : List TelemetryEvent) : Database :=
  let (latest, currentState) := upsertCurrentState db.batteryCurrentState events
  { db with
    batteryCurrentState := currentState
    alerts := evaluateRulesAndResolveOffline settings db.telemetry.rows db.batteries latest
      db.alerts }

/-- `ingest_telemetry_event`: whether a row was created, and the database after
the commit. -/
def ingestTelemetryEvent (settings : Settings) (event : TelemetryEvent) (db : Database) :
    Except APIError (Bool × Database) :=
  match db.batteries.lookup event.batteryId with
  | none =>
      .error
        { statusCode := 404
          code := "BATTERY_NOT_FOUND"
          message := s!"Battery {event.batteryId} was not found" }
  | some _ =>
      let created := (db.telemetry.returning [event.toTelemetry]) ≠ []
      let stored := { db with telemetry := db.telemetry.insertAll [event.toTelemetry] }
      if created then .ok (true, stored.applyAccepted settings [event])
      else .ok (false, stored)

/-- `TelemetryBatchRequest`: at least one event. -/
structure TelemetryBatchRequest where
  events : List TelemetryEvent
  nonempty : events ≠ []

/-- The sorted `battery_id`s of a batch that are not registered. -/
def missingIds (batteries : Table Battery Battery.batteryId) (events : List TelemetryEvent) :
    List BatteryId :=
  ((events.map TelemetryEvent.batteryId).dedup.filter fun batteryId =>
    batteries.lookup batteryId = none).insertionSort (· ≤ ·)

/-- `ingest_telemetry_batch`: the counts `(inserted, duplicates)` and the
database after the second commit.  `newly_inserted_events` selects the events
of the batch by id, not by position. -/
def ingestTelemetryBatch (settings : Settings) (batch : TelemetryBatchRequest) (db : Database) :
    Except APIError ((Nat × Nat) × Database) :=
  let missing := missingIds db.batteries batch.events
  if missing ≠ [] then
    let joined := ", ".intercalate missing
    .error
      { statusCode := 404
        code := "BATTERY_NOT_FOUND"
        message := s!"Unknown battery_id(s): {joined}" }
  else
    let readings := batch.events.map TelemetryEvent.toTelemetry
    let insertedIds := db.telemetry.returning readings
    let inserted := insertedIds.length
    let stored := { db with telemetry := db.telemetry.insertAll readings }
    let newlyInsertedEvents := batch.events.filter fun event => event.eventId ∈ insertedIds
    let after :=
      if insertedIds ≠ [] then stored.applyAccepted settings newlyInsertedEvents else stored
    .ok ((inserted, batch.events.length - inserted), after)

/-- An ingestion request of either endpoint. -/
inductive Request where
  | single (event : TelemetryEvent)
  | batch (batch : TelemetryBatchRequest)

namespace Request

def events : Request → List TelemetryEvent
  | .single event => [event]
  | .batch request => request.events

end Request

/-- One complete request.  A refused one leaves the database as it was. -/
def Database.ingest (settings : Settings) (db : Database) : Request → Database
  | .single event =>
      match ingestTelemetryEvent settings event db with
      | .ok (_, after) => after
      | .error _ => db
  | .batch request =>
      match ingestTelemetryBatch settings request db with
      | .ok (_, after) => after
      | .error _ => db

/-! ### A concrete fleet

One registered battery and its readings, on which the runs below are evaluated. -/

def sampleBatteryId : BatteryId := "BAT-000001"

def sampleBatteries : Table Battery Battery.batteryId where
  rows :=
    [{ batteryId := sampleBatteryId
       capacityKwh := 10
       maxPowerKw := 5
       nominalVoltage := 48
       latitude := none
       longitude := none
       installationDate := none
       profileType := .residential
       createdAt := 0 }]
  primaryKey := by decide

/-- A reading of the sample battery with this many percent of charge, a hundred
at most, and its expected voltage for half charge. -/
def sampleEvent (eventId : Uuid) (timestamp : Timestamp) (percent : Nat) : TelemetryEvent where
  eventId := eventId
  batteryId := sampleBatteryId
  timestamp := timestamp
  stateOfCharge := (min percent 100 : Nat)
  voltage := 48
  current := 5
  powerKw := 1
  temperatureC := 25
  healthPercent := 100
  status := .discharging
  stateOfChargeBounds := ⟨Nat.cast_nonneg _, Nat.cast_le_ofNat.mpr (Nat.min_le_right ..)⟩
  voltageBounds := by decide
  currentBounds := by decide
  powerKwBounds := by decide
  temperatureCBounds := by decide
  healthPercentBounds := by decide

end VoltStream.Backend
