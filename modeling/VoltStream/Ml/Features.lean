/-
Module: VoltStream.Ml.Features
Purpose: The feature vector that training computes for the last reading of a
  battery's history.
Trusted boundary: human-reviewed spec of `ml/features.py`
Main exports: FeatureRow, rollingPowerMean, socChange, computeFeaturesForPoint
-/
import VoltStream.Relational.Window
import VoltStream.Backend.Schema

namespace VoltStream.Ml

open Relational Backend

/-- `FeatureRow`; `none` is the NaN of a `soc_change_5m` without a reference. -/
structure FeatureRow where
  stateOfCharge : ℚ
  powerKw : ℚ
  temperatureC : ℚ
  healthPercent : ℚ
  capacityKwh : ℚ
  rollingPower5m : ℚ
  rollingPower15m : ℚ
  socChange5m : Option ℚ
  hourOfDay : Int
  profileType : ProfileType
deriving Repr, DecidableEq

def rollingWindow5mMinutes : ℚ := 5
def rollingWindow15mMinutes : ℚ := 15
def maxHistoryWindowMinutes : ℚ := 15

/-- `_rolling_power_mean`. -/
def rollingPowerMean (history : List Telemetry) (asOf : Timestamp) (minutes : ℚ) : ℚ :=
  let cutoff := asOf - timedeltaMinutes minutes
  let window := history.filter fun reading =>
    cutoff < reading.timestamp ∧ reading.timestamp ≤ asOf
  mean (window.map Telemetry.powerKw)

/-- `_soc_change`. -/
def socChange (history : List Telemetry) (asOf : Timestamp) (currentSoc minutes : ℚ) :
    Option ℚ :=
  let cutoff := asOf - timedeltaMinutes minutes
  let prior := history.filter fun reading => reading.timestamp ≤ cutoff
  prior.getLast?.map fun reference => currentSoc - reference.stateOfCharge

/-- `compute_features_for_point`; `none` is the `IndexError` of an empty history. -/
def computeFeaturesForPoint (history : List Telemetry) (capacityKwh : ℚ)
    (profileType : ProfileType) : Option FeatureRow :=
  history.getLast?.map fun current =>
    let asOf := current.timestamp
    { stateOfCharge := current.stateOfCharge
      powerKw := current.powerKw
      temperatureC := current.temperatureC
      healthPercent := current.healthPercent
      capacityKwh := capacityKwh
      rollingPower5m := rollingPowerMean history asOf rollingWindow5mMinutes
      rollingPower15m := rollingPowerMean history asOf rollingWindow15mMinutes
      socChange5m := socChange history asOf current.stateOfCharge rollingWindow5mMinutes
      hourOfDay := hourOfDay asOf
      profileType := profileType }

end VoltStream.Ml
