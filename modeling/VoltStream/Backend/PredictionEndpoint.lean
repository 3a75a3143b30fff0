/-
Module: VoltStream.Backend.PredictionEndpoint
Purpose: The prediction endpoint, with the arithmetic on datetimes around the prediction.
  What the database driver reads and binds is a parameter, and so is rounding.
Trusted boundary: human-reviewed spec of `get_battery_prediction_endpoint` in
  `app/api/batteries.py` and of `PredictionResponse` in `app/schemas/prediction.py`
Main exports: PredictionSettings, EndpointError, PredictionResponse, Driver,
  predictedCriticalTimestamp, predictionHistory, predictionArguments,
  getBatteryPredictionEndpoint
-/
import VoltStream.Backend.PredictionService

namespace VoltStream.Backend

/-- The settings of the prediction. -/
structure PredictionSettings where
  criticalSocPercent : ℚ
  minDischargePowerKw : ℚ

/-- Their defaults in `app/core/config.py`. -/
def PredictionSettings.default : PredictionSettings where
  criticalSocPercent := 20
  minDischargePowerKw := 1 / 10

/-- What may leave the endpoint: an `APIError`, an error of the arithmetic, one of the driver,
or the `TypeError` of a comparison between a naive datetime and one that is not. -/
inductive EndpointError where
  | apiError (error : APIError)
  | arithmeticError (error : ArithmeticError)
  | driverError
  | typeError
deriving Repr, DecidableEq

structure PredictionResponse where
  batteryId : BatteryId
  currentSoc : Option ℚ
  criticalSoc : ℚ
  predictionAvailable : Bool
  predictedMinutesToCritical : Option ℚ
  predictedCriticalTimestamp : Option AwareDatetime
  predictionMethod : Option PredictionMethod
  modelVersion : Option String
  reason : Option PredictionReason
deriving DecidableEq

/-- What the database driver makes of a `timestamptz` value, and of a `datetime` that is bound
in a query; `none` where it raises. -/
structure Driver where
  decode : Timestamp → Option ReadDatetime
  encode : ReadDatetime → Option Timestamp

/-- `as_of + timedelta(minutes=predicted_minutes_to_critical)`. -/
def predictedCriticalTimestamp (round : ℚ → ℚ) (asOf : AwareDatetime) (minutes : ℚ) :
    Except ArithmeticError AwareDatetime :=
  let delta := floatTimedelta round minutes
  if InTimedeltaRange delta then asOf.plus delta else .error .overflowError

/-- The timestamp of a response, of which there is none without a reading or without
minutes. -/
def responseTimestamp (round : ℚ → ℚ) : Option AwareDatetime → Option ℚ →
    Except ArithmeticError (Option AwareDatetime)
  | some asOf, some minutes => (predictedCriticalTimestamp round asOf minutes).map some
  | _, _ => .ok none

section Endpoint

variable (settings : PredictionSettings)

/-- The arguments for a battery that has not reported. -/
def unreportedArguments (battery : Battery) : PredictionArguments where
  capacityKwh := some battery.capacityKwh
  stateOfCharge := none
  powerKw := none
  status := none
  temperatureC := none
  healthPercent := none
  profileType := some battery.profileType
  asOf := none
  history := []
  criticalSocPercent := settings.criticalSocPercent
  minDischargePowerKw := settings.minDischargePowerKw

/-- The arguments for a current state, with the telemetry strictly before it. -/
def reportedArguments (battery : Battery) (currentState : BatteryCurrentState)
    (asOf : AwareDatetime) (history : List PriorReading) : PredictionArguments where
  capacityKwh := some battery.capacityKwh
  stateOfCharge := some currentState.stateOfCharge
  powerKw := some currentState.powerKw
  status := some currentState.status
  temperatureC := some currentState.temperatureC
  healthPercent := some currentState.healthPercent
  profileType := some battery.profileType
  asOf := some asOf
  history := history
  criticalSocPercent := settings.criticalSocPercent
  minDischargePowerKw := settings.minDischargePowerKw

end Endpoint

section Endpoint

variable (driver : Driver)

/-- The rows of a query, with their timestamps as the driver returns them. -/
def readRows : List Telemetry → Except EndpointError (List (ReadDatetime × Telemetry))
  | [] => .ok []
  | row :: rest =>
      match driver.decode row.timestamp, readRows rest with
      | some timestamp, .ok read => .ok ((timestamp, row) :: read)
      | none, _ => .error .driverError
      | some _, .error error => .error error

/-- The comprehension over the rows. -/
def historyBefore (asOf : ReadDatetime) :
    List (ReadDatetime × Telemetry) → Except EndpointError (List PriorReading)
  | [] => .ok []
  | (timestamp, row) :: rest =>
      match timestamp.less asOf, historyBefore asOf rest with
      | some before, .ok history =>
          let reading :=
            { timestamp := timestamp.clock.instant
              stateOfCharge := row.stateOfCharge
              powerKw := row.powerKw }
          .ok (if before then reading :: history else history)
      | none, _ => .error .typeError
      | some _, .error error => .error error

/-- The endpoint from `as_of` to the history. -/
def predictionHistory (db : Database) (batteryId : BatteryId) (asOf : ReadDatetime) :
    Except EndpointError (List PriorReading) :=
  match asOf.minus (timedeltaMinutes predictionHistoryLookbackMinutes) with
  | .error error => .error (.arithmeticError error)
  | .ok start =>
      match driver.encode start with
      | none => .error .driverError
      | some first =>
          match driver.encode asOf with
          | none => .error .driverError
          | some last =>
              match getBatteryTelemetryHistory db batteryId (some first) (some last)
                  predictionHistoryRowLimit with
              | .error error => .error (.apiError error)
              | .ok telemetryRows =>
                  match readRows driver telemetryRows with
                  | .error error => .error error
                  | .ok read => historyBefore asOf read

variable (settings : PredictionSettings)

/-- The endpoint up to its call of `compute_prediction`. -/
def predictionArguments (db : Database) (batteryId : BatteryId) :
    Except EndpointError PredictionArguments :=
  match db.batteries.lookup batteryId with
  | none => .error (.apiError (batteryNotFound batteryId))
  | some battery =>
      match db.currentState batteryId with
      | none => .ok (unreportedArguments settings battery)
      | some currentState =>
          match driver.decode currentState.lastSeen with
          | none => .error .driverError
          | some asOf =>
              match predictionHistory driver db batteryId asOf with
              | .error error => .error error
              | .ok history =>
                  .ok (reportedArguments settings battery currentState asOf.clock history)

/-- The response to a result.  A naive timestamp stands in it with its clock. -/
def PredictionResult.response (result : PredictionResult) (batteryId : BatteryId)
    (currentSoc : Option ℚ) (predictedCriticalTimestamp : Option AwareDatetime) :
    PredictionResponse where
  batteryId := batteryId
  currentSoc := currentSoc
  criticalSoc := settings.criticalSocPercent
  predictionAvailable := result.predictionAvailable
  predictedMinutesToCritical := result.predictedMinutesToCritical
  predictedCriticalTimestamp := predictedCriticalTimestamp
  predictionMethod := result.predictionMethod
  modelVersion := result.modelVersion
  reason := result.reason

/-- The endpoint from its call of `compute_prediction` on. -/
def predictFor (round : ℚ → ℚ) (loaded : Option LoadedModel) (batteryId : BatteryId)
    (arguments : PredictionArguments) : Except ArithmeticError PredictionResponse :=
  match computePrediction round loaded arguments with
  | .error error => .error error
  | .ok result =>
      match responseTimestamp round arguments.asOf result.predictedMinutesToCritical with
      | .error error => .error error
      | .ok predictedCriticalTimestamp =>
          .ok (result.response settings batteryId arguments.stateOfCharge
            predictedCriticalTimestamp)

/-- `get_battery_prediction_endpoint`. -/
def getBatteryPredictionEndpoint (round : ℚ → ℚ) (loaded : Option LoadedModel) (db : Database)
    (batteryId : BatteryId) : Except EndpointError PredictionResponse :=
  match predictionArguments driver settings db batteryId with
  | .error error => .error error
  | .ok arguments =>
      match predictFor settings round loaded batteryId arguments with
      | .error error => .error (.arithmeticError error)
      | .ok response => .ok response

end Endpoint

end VoltStream.Backend
