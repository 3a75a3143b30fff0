/-
Module: VoltStream.Backend.Schema
Purpose: The backend's data model: the validated telemetry event, the rows of
  the four tables, the alert vocabulary and the settings.
Trusted boundary: human-reviewed spec of `app/models`, `app/schemas/telemetry.py`
  and `app/core/config.py`
Main exports: TelemetryEvent, Telemetry, BatteryCurrentState, Battery, Alert,
  AlertType, Severity, TieOrder, Settings, timedelta, timedeltaMinutes, hourOfDay
-/
import VoltStream.Numeric.Double
import VoltStream.Relational.Table

namespace VoltStream.Backend

open Relational Numeric

/-!
Identifiers are opaque: the code only compares UUIDs for equality, and battery
ids for equality and order.  Timestamps are timezone-aware instants, compared
as instants, so they are microseconds of one clock.  The `Double` columns hold
finite readings, modelled as exact rationals.
-/

/-- `uuid.UUID`, of which only the identity matters. -/
abbrev Uuid := Nat

abbrev BatteryId := String

/-- An instant in microseconds, the resolution of `datetime` and `timestamptz`. -/
abbrev Timestamp := Int

/-- `datetime.timedelta(seconds=...)`, which rounds a fraction of a microsecond half to even. -/
def timedelta (seconds : ℚ) : Int := roundHalfEven (seconds * 1000000)

/-- `datetime.timedelta(minutes=...)`. -/
def timedeltaMinutes (minutes : ℚ) : Int := timedelta (minutes * 60)

/-- The `hour` of an instant in UTC, counted from a midnight. -/
def hourOfDay (timestamp : Timestamp) : Int := timestamp / timedeltaMinutes 60 % 24

/-- `TelemetryStatus`: `OFFLINE` is deliberately not a value a producer sends. -/
inductive TelemetryStatus where
  | charging
  | discharging
  | idle
  | fault
deriving Repr, Inhabited, DecidableEq

/-- The `status` column of `battery_current_state`: a reported status, or the
`OFFLINE_STATUS` written by the offline detector. -/
inductive BatteryStatus where
  | reported (status : TelemetryStatus)
  | offline
deriving Repr, Inhabited, DecidableEq

def minPlausibleVoltage : ℚ := 0
def maxPlausibleVoltage : ℚ := 1000
def minPlausibleCurrentA : ℚ := -10000
def maxPlausibleCurrentA : ℚ := 10000
def minPlausiblePowerKw : ℚ := -1000
def maxPlausiblePowerKw : ℚ := 1000
def minPlausibleTemperatureC : ℚ := -40
def maxPlausibleTemperatureC : ℚ := 100

/-- `TelemetryEvent`: the numeric bounds of the schema are fields, so only an
event the schema lets through can be built. -/
structure TelemetryEvent where
  eventId : Uuid
  batteryId : BatteryId
  timestamp : Timestamp
  stateOfCharge : ℚ
  voltage : ℚ
  current : ℚ
  powerKw : ℚ
  temperatureC : ℚ
  healthPercent : ℚ
  status : TelemetryStatus
  stateOfChargeBounds : 0 ≤ stateOfCharge ∧ stateOfCharge ≤ 100
  voltageBounds : minPlausibleVoltage ≤ voltage ∧ voltage ≤ maxPlausibleVoltage
  currentBounds : minPlausibleCurrentA ≤ current ∧ current ≤ maxPlausibleCurrentA
  powerKwBounds : minPlausiblePowerKw ≤ powerKw ∧ powerKw ≤ maxPlausiblePowerKw
  temperatureCBounds :
    minPlausibleTemperatureC ≤ temperatureC ∧ temperatureC ≤ maxPlausibleTemperatureC
  healthPercentBounds : 0 ≤ healthPercent ∧ healthPercent ≤ 100
deriving DecidableEq

/-- A row of the `telemetry` table. -/
structure Telemetry where
  eventId : Uuid
  batteryId : BatteryId
  timestamp : Timestamp
  stateOfCharge : ℚ
  voltage : ℚ
  current : ℚ
  powerKw : ℚ
  temperatureC : ℚ
  healthPercent : ℚ
  status : TelemetryStatus
deriving Repr, DecidableEq

/-- The `VALUES` row both ingestion paths insert for an event. -/
def TelemetryEvent.toTelemetry (event : TelemetryEvent) : Telemetry where
  eventId := event.eventId
  batteryId := event.batteryId
  timestamp := event.timestamp
  stateOfCharge := event.stateOfCharge
  voltage := event.voltage
  current := event.current
  powerKw := event.powerKw
  temperatureC := event.temperatureC
  healthPercent := event.healthPercent
  status := event.status

/-- A row of the `battery_current_state` table. -/
structure BatteryCurrentState where
  batteryId : BatteryId
  lastSeen : Timestamp
  stateOfCharge : ℚ
  temperatureC : ℚ
  powerKw : ℚ
  healthPercent : ℚ
  status : BatteryStatus
deriving Repr, DecidableEq

/-- The current-state row a stored reading stands for. -/
def Telemetry.toCurrentState (reading : Telemetry) : BatteryCurrentState where
  batteryId := reading.batteryId
  lastSeen := reading.timestamp
  stateOfCharge := reading.stateOfCharge
  temperatureC := reading.temperatureC
  powerKw := reading.powerKw
  healthPercent := reading.healthPercent
  status := .reported reading.status

/-- The `VALUES` row `_upsert_current_state` builds for an event. -/
def TelemetryEvent.toCurrentState (event : TelemetryEvent) : BatteryCurrentState where
  batteryId := event.batteryId
  lastSeen := event.timestamp
  stateOfCharge := event.stateOfCharge
  temperatureC := event.temperatureC
  powerKw := event.powerKw
  healthPercent := event.healthPercent
  status := .reported event.status

@[simp] theorem TelemetryEvent.toTelemetry_eventId (event : TelemetryEvent) :
    event.toTelemetry.eventId = event.eventId := rfl

inductive ProfileType where
  | residential
  | solar
  | commercial
  | faulty
deriving Repr, Inhabited, DecidableEq

/-- A row of the `batteries` table; `installationDate` is a day number. -/
structure Battery where
  batteryId : BatteryId
  capacityKwh : ℚ
  maxPowerKw : ℚ
  nominalVoltage : ℚ
  latitude : Option ℚ
  longitude : Option ℚ
  installationDate : Option Int
  profileType : ProfileType
  createdAt : Timestamp
deriving Repr, DecidableEq

inductive AlertType where
  | lowSoc
  | highTemperature
  | rapidDischarge
  | voltageAnomaly
  | deviceOffline
deriving Repr, Inhabited, DecidableEq

inductive Severity where
  | warning
  | critical
deriving Repr, Inhabited, DecidableEq

/-- `severity.lower()`, as the alert texts print it. -/
def Severity.lower : Severity → String
  | .warning => "warning"
  | .critical => "critical"

/-- A row of the `alerts` table. -/
structure Alert where
  alertId : Uuid
  batteryId : BatteryId
  timestamp : Timestamp
  alertType : AlertType
  severity : Severity
  message : String
  measuredValue : Option ℚ
  thresholdValue : Option ℚ
  resolved : Bool
  resolvedAt : Option Timestamp
deriving Repr, DecidableEq

/-- `APIError`: a business-rule rejection that reaches the client. -/
structure APIError where
  statusCode : Nat
  code : String
  message : String
deriving Repr, DecidableEq

/-- How the database goes through readings.  `ORDER BY timestamp` leaves the order of readings
with one timestamp to it. -/
structure TieOrder where
  arrange : List Telemetry → List Telemetry
  perm : ∀ readings, (arrange readings).Perm readings

/-- The order of an index scan, backwards: of one timestamp, what was stored last comes first. -/
def TieOrder.indexScan : TieOrder where
  arrange := List.reverse
  perm := List.reverse_perm

/-- The settings the modelled functions read, and with them the one choice that the database
behind these functions has. -/
structure Settings where
  offlineThresholdSeconds : ℚ
  lowSocWarningPercent : ℚ
  lowSocCriticalPercent : ℚ
  highTemperatureWarningC : ℚ
  highTemperatureCriticalC : ℚ
  rapidDischargeWindowMinutes : ℚ
  rapidDischargeWarningPercentagePoints : ℚ
  rapidDischargeCriticalPercentagePoints : ℚ
  voltageAnomalyWarningPercent : ℚ
  voltageAnomalyCriticalPercent : ℚ
  tieOrder : TieOrder

/-- The defaults of `Settings` in `app/core/config.py`. -/
def Settings.default : Settings where
  offlineThresholdSeconds := 10
  lowSocWarningPercent := 20
  lowSocCriticalPercent := 10
  highTemperatureWarningC := 50
  highTemperatureCriticalC := 55
  rapidDischargeWindowMinutes := 5
  rapidDischargeWarningPercentagePoints := 5
  rapidDischargeCriticalPercentagePoints := 10
  voltageAnomalyWarningPercent := 15 / 2
  voltageAnomalyCriticalPercent := 25 / 2
  tieOrder := .indexScan

/-- The age from which a silent battery counts as stale. -/
def Settings.offlineThreshold (settings : Settings) : Int :=
  timedelta settings.offlineThresholdSeconds

/-- The rolling window of the rapid-discharge rule. -/
def Settings.rapidDischargeWindow (settings : Settings) : Int :=
  timedelta (settings.rapidDischargeWindowMinutes * 60)

end VoltStream.Backend
