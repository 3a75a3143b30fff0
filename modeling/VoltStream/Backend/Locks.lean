/-
Module: VoltStream.Backend.Locks
Purpose: The exclusive row locks that the backend's writers take, transaction by
  transaction in the order of their statements.
Trusted boundary: human-reviewed spec of the statement order of
  `telemetry_service.py`, `anomaly_detection_service.py`,
  `offline_detection_service.py`, `offline_detector.py` and `alert_service.py`
Main exports: Resource, AlertCall.demand, rulePassDemands, Writer,
  Writer.eventIds, Writer.transactions
-/
import VoltStream.Relational.LockOrder
import VoltStream.Backend.OfflineDetection

namespace VoltStream.Backend

open Relational

/-- A row, or the index entry of one, that only one transaction can hold. -/
inductive Resource where
  | telemetry (eventId : Uuid)
  | currentState (batteryId : BatteryId)
  | alert (batteryId : BatteryId) (alertType : AlertType)
deriving Repr, DecidableEq

/-- The ids of an insert in list order.  A repeated id conflicts with what the
same statement has inserted or found at its first place, so it locks nothing. -/
def firstOccurrences (ids : List Uuid) : List Uuid := ids.reverse.dedup.reverse

/-- The telemetry rows of an `INSERT ... ON CONFLICT DO NOTHING`: a stored one is
not locked, an uncommitted one is waited for. -/
def telemetryDemands (ids : List Uuid) : List (Demand Resource) :=
  (firstOccurrences ids).map fun eventId => { resource := .telemetry eventId, mode := .maybe }

/-- The rows of `_upsert_current_state`; a refused row is locked as well. -/
def currentStateDemands (latest : List TelemetryEvent) : List (Demand Resource) :=
  latest.map fun event => { resource := .currentState event.batteryId, mode := .always }

/-- A helper call.  The upsert locks its row at once.  A resolution only sets the
loaded object, if there is one; the autoflush in front of the next statement, or
the commit, writes the row. -/
def AlertCall.demand (call : AlertCall) : Demand Resource :=
  { resource := .alert call.key.1 call.key.2
    mode :=
      match call with
      | .createOrRetainAlert _ => .always
      | .resolveAlertIfActive _ _ _ => .maybe }

/-- `_evaluate_rules_and_resolve_offline`; `telemetry` is what the query of the
rapid-discharge rule reads when it comes to an event. -/
def rulePassDemands (settings : Settings) (telemetry : TelemetryEvent → List Telemetry)
    (batteries : Table Battery Battery.batteryId) (latest : List TelemetryEvent) :
    List (Demand Resource) :=
  ((latest.flatMap fun event =>
      evaluateRulesForEvent settings (telemetry event) batteries event) ++
    latest.map fun event =>
      AlertCall.resolveAlertIfActive event.batteryId .deviceOffline event.timestamp).map
    AlertCall.demand

/-- A writer, with what it reads on its way: whether a single event is new, which
events of a batch are, the telemetry its rules see, the table a detector's
`SELECT` sees. -/
inductive Writer where
  | single (event : TelemetryEvent) (created : Bool)
      (telemetry : TelemetryEvent → List Telemetry)
  | batch (events accepted : List TelemetryEvent)
      (telemetry : TelemetryEvent → List Telemetry)
  | detector (now : Timestamp)
      (currentState : Table BatteryCurrentState BatteryCurrentState.batteryId)
  | manual (batteryId : BatteryId) (alertType : AlertType)
  | idle

namespace Writer

/-- The `event_id` list of an ingestion request. -/
def eventIds : Writer → List Uuid
  | .single event _ _ => [event.eventId]
  | .batch events _ _ => events.map TelemetryEvent.eventId
  | .detector _ _ => []
  | .manual _ _ => []
  | .idle => []

/-- The demands of a writer, one list for each transaction.  The detector raises
alerts for those of the stale batteries that it could lock. -/
def transactions (settings : Settings) (batteries : Table Battery Battery.batteryId) :
    Writer → List (List (Demand Resource))
  | .single event created telemetry =>
      let stored := telemetryDemands [event.eventId]
      if created then
        let latest := sortedLatest [event]
        [stored ++ currentStateDemands latest ++
          rulePassDemands settings telemetry batteries latest]
      else [stored]
  | .batch events accepted telemetry =>
      let latest := sortedLatest accepted
      [telemetryDemands (events.map TelemetryEvent.eventId) ++ currentStateDemands latest,
        rulePassDemands settings telemetry batteries latest]
  | .detector now currentState =>
      let ids := staleIds settings now currentState
      [ids.map fun batteryId => { resource := .currentState batteryId, mode := .unlessHeld },
        ids.map fun batteryId => { resource := .alert batteryId .deviceOffline, mode := .maybe }]
  | .manual batteryId alertType => [[{ resource := .alert batteryId alertType, mode := .maybe }]]
  | .idle => []

end Writer

end VoltStream.Backend
