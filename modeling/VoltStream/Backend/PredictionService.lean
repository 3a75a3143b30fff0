/-
Module: VoltStream.Backend.PredictionService
Purpose: The two methods of depletion prediction: the physics baseline, and a loaded
  model in front of it.  How the arithmetic on floats rounds is a parameter.
Trusted boundary: human-reviewed spec of `app/services/prediction_service.py` and of
  what may be raised in `app/services/live_features.py`
Main exports: PredictionReason, PredictionMethod, BaselinePredictionResult,
  computeBaselinePrediction, computeLiveFeaturesChecked, LoadedModel, PredictionArguments,
  PredictionResult, computePrediction
-/
import VoltStream.Backend.Datetime
import VoltStream.Backend.Prediction

namespace VoltStream.Backend

open Relational

/-! ### The physics baseline -/

/-- The `REASON_` constants. -/
inductive PredictionReason where
  | noCurrentState
  | notDischarging
  | alreadyAtOrBelowCritical
  | dischargeRateTooLow
deriving Repr, DecidableEq

def PredictionReason.text : PredictionReason → String
  | .noCurrentState => "no_current_state"
  | .notDischarging => "battery_not_discharging"
  | .alreadyAtOrBelowCritical => "already_at_or_below_critical_soc"
  | .dischargeRateTooLow => "discharge_rate_too_low"

/-- The `PREDICTION_METHOD_` constants. -/
inductive PredictionMethod where
  | baseline
  | ml
deriving Repr, DecidableEq

def PredictionMethod.text : PredictionMethod → String
  | .baseline => "baseline"
  | .ml => "ml"

structure BaselinePredictionResult where
  predictionAvailable : Bool
  predictedMinutesToCritical : Option ℚ
  predictionMethod : Option PredictionMethod
  modelVersion : Option String
  reason : Option PredictionReason
deriving Repr, DecidableEq

/-- No prediction, with its reason. -/
def BaselinePredictionResult.unavailable (reason : PredictionReason) :
    BaselinePredictionResult where
  predictionAvailable := false
  predictedMinutesToCritical := none
  predictionMethod := none
  modelVersion := none
  reason := some reason

/-- A prediction of the baseline. -/
def BaselinePredictionResult.minutes (minutesRemaining : ℚ) : BaselinePredictionResult where
  predictionAvailable := true
  predictedMinutesToCritical := some minutesRemaining
  predictionMethod := some .baseline
  modelVersion := none
  reason := none

section Baseline

variable (round : ℚ → ℚ)

/-- The time until the charge is critical, at this power, with each operation rounded. -/
def minutesRemaining (capacityKwh stateOfCharge powerKw criticalSocPercent : ℚ) : ℚ :=
  let usableEnergyKwh :=
    round (capacityKwh * round (round (stateOfCharge - criticalSocPercent) / 100))
  let hoursRemaining := round (usableEnergyKwh / |powerKw|)
  round (hoursRemaining * 60)

/-- `compute_baseline_prediction`. -/
def computeBaselinePrediction (capacityKwh stateOfCharge powerKw : Option ℚ)
    (status : Option BatteryStatus) (criticalSocPercent minDischargePowerKw : ℚ) :
    Except ArithmeticError BaselinePredictionResult :=
  match capacityKwh, stateOfCharge, powerKw, status with
  | some capacityKwh, some stateOfCharge, some powerKw, some status =>
      if status ≠ .reported .discharging then .ok (.unavailable .notDischarging)
      else if stateOfCharge ≤ criticalSocPercent then
        .ok (.unavailable .alreadyAtOrBelowCritical)
      else if |powerKw| < minDischargePowerKw then .ok (.unavailable .dischargeRateTooLow)
      else if |powerKw| = 0 then .error .zeroDivisionError
      else
        .ok (.minutes
          (minutesRemaining round capacityKwh stateOfCharge powerKw criticalSocPercent))
  | _, _, _, _ => .ok (.unavailable .noCurrentState)

/-- The baseline is sure to have an answer: the only other outcome is a division by a
power of zero, which the minimum lets through if it is not positive. -/
theorem computeBaselinePrediction_available {capacityKwh stateOfCharge powerKw : ℚ}
    {criticalSocPercent minDischargePowerKw : ℚ} (above : criticalSocPercent < stateOfCharge)
    (enough : minDischargePowerKw ≤ |powerKw|) (moves : powerKw ≠ 0) :
    computeBaselinePrediction round (some capacityKwh) (some stateOfCharge) (some powerKw)
        (some (.reported .discharging)) criticalSocPercent minDischargePowerKw =
      .ok (.minutes
        (minutesRemaining round capacityKwh stateOfCharge powerKw criticalSocPercent)) := by
  simp [computeBaselinePrediction, not_le.mpr above, not_lt.mpr enough, moves]

end Baseline

/-! ### Live features, with what their computation may raise -/

/-- What may be raised between the history and the answer of a model. -/
inductive InferenceError where
  | arithmeticError (error : ArithmeticError)
  | typeError
deriving Repr, DecidableEq

namespace Live

/-- `_rolling_power_mean`, of which the cutoff may be out of range. -/
def rollingPowerMeanChecked (prior : List PriorReading) (asOf : AwareDatetime)
    (currentPowerKw minutes : ℚ) : Except InferenceError ℚ :=
  match asOf.minus (timedeltaMinutes minutes) with
  | .error error => .error (.arithmeticError error)
  | .ok cutoff =>
      let window := prior.filter fun reading =>
        cutoff.instant < reading.timestamp ∧ reading.timestamp < asOf.instant
      .ok (mean (window.map PriorReading.powerKw ++ [currentPowerKw]))

/-- `_soc_change`, likewise. -/
def socChangeChecked (prior : List PriorReading) (asOf : AwareDatetime)
    (currentSoc minutes : ℚ) : Except InferenceError (Option ℚ) :=
  match asOf.minus (timedeltaMinutes minutes) with
  | .error error => .error (.arithmeticError error)
  | .ok cutoff =>
      let candidates := prior.filter fun reading => reading.timestamp ≤ cutoff.instant
      .ok ((newestFrom PriorReading.timestamp none candidates.reverse).map fun reference =>
        currentSoc - reference.stateOfCharge)

end Live

/-- `compute_live_features` as it is called, with an instant and a power that may be
missing. -/
def computeLiveFeaturesChecked (history : List PriorReading) (asOf : Option AwareDatetime)
    (currentSoc : ℚ) (currentPowerKw : Option ℚ) (temperatureC healthPercent capacityKwh : ℚ)
    (profileType : ProfileType) : Except InferenceError (Option LiveFeatureRow) :=
  match asOf with
  | none => .error .typeError
  | some asOf =>
      match Live.socChangeChecked history asOf currentSoc Live.rollingWindow5mMinutes with
      | .error error => .error error
      | .ok none => .ok none
      | .ok (some socChange5m) =>
          match currentPowerKw with
          -- The sum over the window does not take a `None`.
          | none => .error .typeError
          | some powerKw => do
              let rollingPower5m ←
                Live.rollingPowerMeanChecked history asOf powerKw Live.rollingWindow5mMinutes
              let rollingPower15m ←
                Live.rollingPowerMeanChecked history asOf powerKw Live.rollingWindow15mMinutes
              return some
                { stateOfCharge := currentSoc
                  powerKw := powerKw
                  temperatureC := temperatureC
                  healthPercent := healthPercent
                  capacityKwh := capacityKwh
                  rollingPower5m := rollingPower5m
                  rollingPower15m := rollingPower15m
                  socChange5m := socChange5m
                  hourOfDay := asOf.hour
                  profileType := profileType }

/-! ### A loaded model in front of the baseline -/

/-- `LoadedModel`: what `pipeline.predict` answers for one row, `none` where it raises, and
the version in the metadata. -/
structure LoadedModel where
  predict : LiveFeatureRow → Option ℚ
  modelVersion : Option String

/-- The arguments of `compute_prediction`. -/
structure PredictionArguments where
  capacityKwh : Option ℚ
  stateOfCharge : Option ℚ
  powerKw : Option ℚ
  status : Option BatteryStatus
  temperatureC : Option ℚ
  healthPercent : Option ℚ
  profileType : Option ProfileType
  asOf : Option AwareDatetime
  history : List PriorReading
  criticalSocPercent : ℚ
  minDischargePowerKw : ℚ

namespace PredictionArguments

variable (arguments : PredictionArguments)

/-- The arguments that lead to the model, with an instant for `as_of`. -/
def input : PredictionInput where
  capacityKwh := arguments.capacityKwh
  stateOfCharge := arguments.stateOfCharge
  powerKw := arguments.powerKw
  status := arguments.status
  temperatureC := arguments.temperatureC
  healthPercent := arguments.healthPercent
  profileType := arguments.profileType
  asOf := arguments.asOf.map AwareDatetime.instant
  history := arguments.history
  criticalSocPercent := arguments.criticalSocPercent

/-- The baseline on the same arguments. -/
def baseline (round : ℚ → ℚ) : Except ArithmeticError BaselinePredictionResult :=
  computeBaselinePrediction round arguments.capacityKwh arguments.stateOfCharge arguments.powerKw
    arguments.status arguments.criticalSocPercent arguments.minDischargePowerKw

/-- The call of `compute_live_features`, with the defaults for what a battery does not
report. -/
def liveFeatures (stateOfCharge capacityKwh : ℚ) (profileType : ProfileType) :
    Except InferenceError (Option LiveFeatureRow) :=
  computeLiveFeaturesChecked arguments.history arguments.asOf stateOfCharge arguments.powerKw
    (arguments.temperatureC.getD 25) (arguments.healthPercent.getD 100) capacityKwh profileType

end PredictionArguments

/-- `_attempt_ml_prediction`: every exception becomes `none`. -/
def attemptMlPrediction (loaded : LoadedModel) (arguments : PredictionArguments)
    (stateOfCharge capacityKwh : ℚ) (profileType : ProfileType) : Option ℚ :=
  match arguments.liveFeatures stateOfCharge capacityKwh profileType with
  | .error _ => none
  | .ok none => none
  | .ok (some features) => loaded.predict features

structure PredictionResult where
  predictionAvailable : Bool
  predictedMinutesToCritical : Option ℚ
  predictionMethod : Option PredictionMethod
  modelVersion : Option String
  reason : Option PredictionReason
deriving Repr, DecidableEq

/-- The result for an answer of the model. -/
def LoadedModel.result (loaded : LoadedModel) (minutes : ℚ) : PredictionResult where
  predictionAvailable := true
  predictedMinutesToCritical := some minutes
  predictionMethod := some .ml
  modelVersion := loaded.modelVersion
  reason := none

/-- The baseline's result, field by field. -/
def BaselinePredictionResult.served (baseline : BaselinePredictionResult) :
    PredictionResult where
  predictionAvailable := baseline.predictionAvailable
  predictedMinutesToCritical := baseline.predictedMinutesToCritical
  predictionMethod := baseline.predictionMethod
  modelVersion := baseline.modelVersion
  reason := baseline.reason

/-- The first half of `compute_prediction`: a result, if the model comes to one. -/
def mlPrediction (loaded : Option LoadedModel) (arguments : PredictionArguments) :
    Option PredictionResult :=
  match loaded, arguments.capacityKwh, arguments.profileType, arguments.stateOfCharge with
  | some loaded, some capacityKwh, some profileType, some stateOfCharge =>
      if arguments.input.mlPredictionCouldApply then
        (attemptMlPrediction loaded arguments stateOfCharge capacityKwh profileType).map
          loaded.result
      else none
  | _, _, _, _ => none

/-- `compute_prediction`: only the baseline's division can raise. -/
def computePrediction (round : ℚ → ℚ) (loaded : Option LoadedModel)
    (arguments : PredictionArguments) : Except ArithmeticError PredictionResult :=
  match mlPrediction loaded arguments with
  | some result => .ok result
  | none => (arguments.baseline round).map BaselinePredictionResult.served

end VoltStream.Backend
