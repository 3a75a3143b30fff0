/-
Module: VoltStream.Backend.Prediction
Purpose: What the prediction endpoint feeds to a loaded model: the telemetry it
  queries, and the live features that it computes from it.
Trusted boundary: human-reviewed spec of `app/services/live_features.py`, of
  `_ml_prediction_could_apply` and `_attempt_ml_prediction` in
  `app/services/prediction_service.py`, `get_battery_telemetry_history` in
  `app/services/telemetry_service.py` and of `get_battery_prediction_endpoint`
  in `app/api/batteries.py`
Main exports: PriorReading, LiveFeatureRow, computeLiveFeatures,
  getBatteryTelemetryHistory, PredictionInput, PredictionInput.modelFeatures,
  predictionInput, servedFeatures
-/
import VoltStream.Relational.Window
import VoltStream.Backend.Ingestion

namespace VoltStream.Backend

open Relational

/-! ### Live features -/

structure LiveFeatureRow where
  stateOfCharge : ℚ
  powerKw : ℚ
  temperatureC : ℚ
  healthPercent : ℚ
  capacityKwh : ℚ
  rollingPower5m : ℚ
  rollingPower15m : ℚ
  socChange5m : ℚ
  hourOfDay : Int
  profileType : ProfileType
deriving Repr, DecidableEq

/-- `_PriorReading`, which is also an entry of the `history` argument. -/
structure PriorReading where
  timestamp : Timestamp
  stateOfCharge : ℚ
  powerKw : ℚ
deriving Repr, DecidableEq

namespace Live

def rollingWindow5mMinutes : ℚ := 5
def rollingWindow15mMinutes : ℚ := 15

/-- `_rolling_power_mean`. -/
def rollingPowerMean (prior : List PriorReading) (asOf : Timestamp)
    (currentPowerKw minutes : ℚ) : ℚ :=
  let cutoff := asOf - timedeltaMinutes minutes
  let window := prior.filter fun reading => cutoff < reading.timestamp ∧ reading.timestamp < asOf
  mean (window.map PriorReading.powerKw ++ [currentPowerKw])

/-- `_soc_change`; `max` takes the first of several newest readings. -/
def socChange (prior : List PriorReading) (asOf : Timestamp) (currentSoc minutes : ℚ) :
    Option ℚ :=
  let cutoff := asOf - timedeltaMinutes minutes
  let candidates := prior.filter fun reading => reading.timestamp ≤ cutoff
  (newestFrom PriorReading.timestamp none candidates.reverse).map fun reference =>
    currentSoc - reference.stateOfCharge

end Live

/-- `compute_live_features`. -/
def computeLiveFeatures (history : List PriorReading) (asOf : Timestamp)
    (currentSoc currentPowerKw temperatureC healthPercent capacityKwh : ℚ)
    (profileType : ProfileType) : Option LiveFeatureRow :=
  match Live.socChange history asOf currentSoc Live.rollingWindow5mMinutes with
  | none => none
  | some socChange5m =>
      some
        { stateOfCharge := currentSoc
          powerKw := currentPowerKw
          temperatureC := temperatureC
          healthPercent := healthPercent
          capacityKwh := capacityKwh
          rollingPower5m :=
            Live.rollingPowerMean history asOf currentPowerKw Live.rollingWindow5mMinutes
          rollingPower15m :=
            Live.rollingPowerMean history asOf currentPowerKw Live.rollingWindow15mMinutes
          socChange5m := socChange5m
          hourOfDay := hourOfDay asOf
          profileType := profileType }

/-! ### The prediction service -/

/-- The arguments of `compute_prediction` that lead to the model. -/
structure PredictionInput where
  capacityKwh : Option ℚ
  stateOfCharge : Option ℚ
  powerKw : Option ℚ
  status : Option BatteryStatus
  temperatureC : Option ℚ
  healthPercent : Option ℚ
  profileType : Option ProfileType
  asOf : Option Timestamp
  history : List PriorReading
  criticalSocPercent : ℚ

namespace PredictionInput

variable (input : PredictionInput)

/-- `_ml_prediction_could_apply`. -/
def mlPredictionCouldApply : Bool :=
  match input.stateOfCharge with
  | none => false
  | some stateOfCharge =>
      input.status = some (.reported .discharging) ∧ input.criticalSocPercent < stateOfCharge

/-- The features that `_attempt_ml_prediction` has in hand when it calls `predict`,
with a model loaded.  Without a power or an instant it has raised before. -/
def modelFeatures : Option LiveFeatureRow :=
  match input.capacityKwh, input.profileType with
  | some capacityKwh, some profileType =>
      if input.mlPredictionCouldApply then
        match input.stateOfCharge, input.powerKw, input.asOf with
        | some stateOfCharge, some powerKw, some asOf =>
            computeLiveFeatures input.history asOf stateOfCharge powerKw
              (input.temperatureC.getD 25) (input.healthPercent.getD 100) capacityKwh profileType
        | _, _, _ => none
      else none
  | _, _ => none

end PredictionInput

/-! ### The endpoint -/

/-- `_PREDICTION_HISTORY_LOOKBACK_MINUTES`. -/
def predictionHistoryLookbackMinutes : ℚ := 20

/-- `_PREDICTION_HISTORY_ROW_LIMIT`. -/
def predictionHistoryRowLimit : Nat := 2000

def batteryNotFound (batteryId : BatteryId) : APIError where
  statusCode := 404
  code := "BATTERY_NOT_FOUND"
  message := s!"Battery {batteryId} was not found"

/-- `get_battery_telemetry_history`: newest first, at most `limit`. -/
def getBatteryTelemetryHistory (db : Database) (batteryId : BatteryId)
    (start stop : Option Timestamp) (limit : Nat) : Except APIError (List Telemetry) :=
  match db.batteries.lookup batteryId with
  | none => .error (batteryNotFound batteryId)
  | some _ =>
      let rows := db.telemetry.rows.filter fun reading =>
        reading.batteryId = batteryId ∧ (∀ bound ∈ start, bound ≤ reading.timestamp) ∧
          ∀ bound ∈ stop, reading.timestamp ≤ bound
      .ok ((List.insertionSort (fun first second => second.timestamp ≤ first.timestamp) rows).take
        limit)

/-- What `get_battery_prediction_endpoint` passes to `compute_prediction`. -/
def predictionInput (criticalSocPercent : ℚ) (db : Database) (batteryId : BatteryId) :
    Except APIError PredictionInput :=
  match db.batteries.lookup batteryId with
  | none => .error (batteryNotFound batteryId)
  | some battery =>
      match db.currentState batteryId with
      | none =>
          .ok
            { capacityKwh := some battery.capacityKwh
              stateOfCharge := none
              powerKw := none
              status := none
              temperatureC := none
              healthPercent := none
              profileType := some battery.profileType
              asOf := none
              history := []
              criticalSocPercent := criticalSocPercent }
      | some currentState => do
          let asOf := currentState.lastSeen
          let rows ← getBatteryTelemetryHistory db batteryId
            (some (asOf - timedeltaMinutes predictionHistoryLookbackMinutes)) (some asOf)
            predictionHistoryRowLimit
          let history := (rows.filter fun row => row.timestamp < asOf).map fun row =>
            { timestamp := row.timestamp
              stateOfCharge := row.stateOfCharge
              powerKw := row.powerKw }
          return {
            capacityKwh := some battery.capacityKwh
            stateOfCharge := some currentState.stateOfCharge
            powerKw := some currentState.powerKw
            status := some currentState.status
            temperatureC := some currentState.temperatureC
            healthPercent := some currentState.healthPercent
            profileType := some battery.profileType
            asOf := some asOf
            history := history
            criticalSocPercent := criticalSocPercent }

/-- The feature vector that the endpoint feeds to a loaded model, `none` if it feeds
it nothing. -/
def servedFeatures (criticalSocPercent : ℚ) (db : Database) (batteryId : BatteryId) :
    Option LiveFeatureRow :=
  match predictionInput criticalSocPercent db batteryId with
  | .ok input => input.modelFeatures
  | .error _ => none

end VoltStream.Backend
