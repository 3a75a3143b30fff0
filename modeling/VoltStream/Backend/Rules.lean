/-
Module: VoltStream.Backend.Rules
Purpose: The four telemetry-triggered anomaly rules.  Each rule turns a reading
  into at most one call of the shared alert helpers.
Trusted boundary: human-reviewed spec of `anomaly_detection_service.py`
Main exports: lowSocGrade, highTemperatureGrade, voltageAnomalyGrade,
  rapidDischargeGrade, evaluateRulesForEvents
-/
import VoltStream.Relational.Newest
import VoltStream.Backend.AlertStore

namespace VoltStream.Backend

open Relational Numeric

/-- Python's `f"{value:.nf}"`: the exact value rounded half to even. -/
def formatFixed (decimals : Nat) (value : ℚ) : String :=
  let scaled := (roundHalfEven (|value| * 10 ^ decimals)).toNat
  let sign := if value < 0 then "-" else ""
  let whole := toString (scaled / 10 ^ decimals)
  if decimals = 0 then sign ++ whole
  else
    let fraction := toString (scaled % 10 ^ decimals)
    sign ++ whole ++ "." ++ "".pushn '0' (decimals - fraction.length) ++ fraction

/-- A severity with the threshold that was crossed, or `none` when the
condition does not hold. -/
abbrev Grade := Option (Severity × ℚ)

/-- The two-step ladder every rule climbs: critical is tried first. -/
def graded (atCritical atWarning : Prop) [Decidable atCritical] [Decidable atWarning]
    (criticalThreshold warningThreshold : ℚ) : Grade :=
  if atCritical then some (.critical, criticalThreshold)
  else if atWarning then some (.warning, warningThreshold)
  else none

/-- The one helper call a graded rule makes. -/
def settle (batteryId : BatteryId) (alertType : AlertType) (timestamp : Timestamp)
    (measuredValue : ℚ) (message : Severity → ℚ → String) : Grade → AlertCall
  | none => .resolveAlertIfActive batteryId alertType timestamp
  | some (severity, threshold) =>
      .createOrRetainAlert
        { batteryId := batteryId
          alertType := alertType
          severity := severity
          message := message severity threshold
          measuredValue := some measuredValue
          thresholdValue := some threshold
          timestamp := timestamp }

@[simp] theorem settle_key (batteryId : BatteryId) (alertType : AlertType) (timestamp : Timestamp)
    (measuredValue : ℚ) (message : Severity → ℚ → String) (grade : Grade) :
    (settle batteryId alertType timestamp measuredValue message grade).key =
      (batteryId, alertType) := by
  cases grade <;> rfl

@[simp] theorem settle_timestamp (batteryId : BatteryId) (alertType : AlertType)
    (timestamp : Timestamp) (measuredValue : ℚ) (message : Severity → ℚ → String) (grade : Grade) :
    (settle batteryId alertType timestamp measuredValue message grade).timestamp = timestamp := by
  cases grade <;> rfl

section Rules

variable (settings : Settings)

def lowSocGrade (stateOfCharge : ℚ) : Grade :=
  graded (stateOfCharge ≤ settings.lowSocCriticalPercent)
    (stateOfCharge ≤ settings.lowSocWarningPercent)
    settings.lowSocCriticalPercent settings.lowSocWarningPercent

/-- `_evaluate_low_soc`. -/
def evaluateLowSoc (batteryId : BatteryId) (stateOfCharge : ℚ) (timestamp : Timestamp) :
    AlertCall :=
  settle batteryId .lowSoc timestamp stateOfCharge
    (fun severity threshold =>
      s!"{batteryId} state of charge is {formatFixed 1 stateOfCharge}%, at or below the " ++
        s!"{severity.lower} threshold of {formatFixed 1 threshold}%")
    (lowSocGrade settings stateOfCharge)

def highTemperatureGrade (temperatureC : ℚ) : Grade :=
  graded (settings.highTemperatureCriticalC ≤ temperatureC)
    (settings.highTemperatureWarningC ≤ temperatureC)
    settings.highTemperatureCriticalC settings.highTemperatureWarningC

/-- `_evaluate_high_temperature`. -/
def evaluateHighTemperature (batteryId : BatteryId) (temperatureC : ℚ) (timestamp : Timestamp) :
    AlertCall :=
  settle batteryId .highTemperature timestamp temperatureC
    (fun severity threshold =>
      s!"{batteryId} temperature is {formatFixed 1 temperatureC}°C, at or above the " ++
        s!"{severity.lower} threshold of {formatFixed 1 threshold}°C")
    (highTemperatureGrade settings temperatureC)

/-- The simplified expected-voltage model. -/
def expectedVoltage (nominalVoltage stateOfCharge : ℚ) : ℚ :=
  nominalVoltage * (9 / 10 + 2 / 10 * (stateOfCharge / 100))

def deviationPercent (voltage expected : ℚ) : ℚ := |voltage - expected| / expected * 100

def voltageAnomalyGrade (deviation : ℚ) : Grade :=
  graded (settings.voltageAnomalyCriticalPercent ≤ deviation)
    (settings.voltageAnomalyWarningPercent ≤ deviation)
    settings.voltageAnomalyCriticalPercent settings.voltageAnomalyWarningPercent

/-- `_evaluate_voltage_anomaly`: a misconfigured battery is skipped, which
neither raises nor resolves anything. -/
def evaluateVoltageAnomaly (batteryId : BatteryId) (voltage stateOfCharge nominalVoltage : ℚ)
    (timestamp : Timestamp) : Option AlertCall :=
  let expected := expectedVoltage nominalVoltage stateOfCharge
  if expected ≤ 0 then none
  else
    let deviation := deviationPercent voltage expected
    some <| settle batteryId .voltageAnomaly timestamp deviation
      (fun severity threshold =>
        s!"{batteryId} voltage {formatFixed 2 voltage}V deviates {formatFixed 1 deviation}% " ++
          s!"from the expected {formatFixed 2 expected}V, at or above the {severity.lower} " ++
          s!"threshold of {formatFixed 1 threshold}%")
      (voltageAnomalyGrade settings deviation)

/-- `_get_soc_at_or_before`: the newest stored reading at or before the cutoff.
`ORDER BY timestamp DESC LIMIT 1` leaves it to the database which of several readings with one
timestamp that is. -/
def getSocAtOrBefore (telemetry : List Telemetry) (batteryId : BatteryId) (cutoff : Timestamp) :
    Option ℚ :=
  let candidates := telemetry.filter fun reading =>
    reading.batteryId = batteryId ∧ reading.timestamp ≤ cutoff
  (newestFrom Telemetry.timestamp none (settings.tieOrder.arrange candidates)).map
    Telemetry.stateOfCharge

def rapidDischargeGrade (decline : ℚ) : Grade :=
  graded (settings.rapidDischargeCriticalPercentagePoints ≤ decline)
    (settings.rapidDischargeWarningPercentagePoints ≤ decline)
    settings.rapidDischargeCriticalPercentagePoints settings.rapidDischargeWarningPercentagePoints

/-- `_evaluate_rapid_discharge`: without a reading old enough to compare with,
nothing is raised or resolved. -/
def evaluateRapidDischarge (telemetry : List Telemetry) (batteryId : BatteryId)
    (stateOfCharge : ℚ) (timestamp : Timestamp) : Option AlertCall :=
  match getSocAtOrBefore settings telemetry batteryId
      (timestamp - settings.rapidDischargeWindow) with
  | none => none
  | some socAtWindowStart =>
      let decline := socAtWindowStart - stateOfCharge
      some <| settle batteryId .rapidDischarge timestamp decline
        (fun severity threshold =>
          s!"{batteryId} SOC dropped {formatFixed 1 decline} percentage points in the last " ++
            s!"{formatFixed 0 settings.rapidDischargeWindowMinutes} minutes, at or above the " ++
            s!"{severity.lower} threshold of {formatFixed 1 threshold}pp")
        (rapidDischargeGrade settings decline)

/-- The helper calls of the four rules for one event, in the order they run. -/
def evaluateRules (telemetry : List Telemetry) (battery : Battery) (event : TelemetryEvent) :
    List AlertCall :=
  [evaluateLowSoc settings event.batteryId event.stateOfCharge event.timestamp,
    evaluateHighTemperature settings event.batteryId event.temperatureC event.timestamp] ++
  (evaluateVoltageAnomaly settings event.batteryId event.voltage event.stateOfCharge
    battery.nominalVoltage event.timestamp).toList ++
  (evaluateRapidDischarge settings telemetry event.batteryId event.stateOfCharge
    event.timestamp).toList

/-- One turn of the loop in `evaluate_rules_for_events`: an event of an unknown
battery is passed over. -/
def evaluateRulesForEvent (telemetry : List Telemetry)
    (batteriesById : Table Battery Battery.batteryId) (event : TelemetryEvent) :
    List AlertCall :=
  match batteriesById.lookup event.batteryId with
  | none => []
  | some battery => evaluateRules settings telemetry battery event

/-- `evaluate_rules_for_events`. -/
def evaluateRulesForEvents (telemetry : List Telemetry)
    (batteriesById : Table Battery Battery.batteryId) (events : List TelemetryEvent) :
    List AlertCall :=
  events.flatMap (evaluateRulesForEvent settings telemetry batteriesById)

end Rules

end VoltStream.Backend
