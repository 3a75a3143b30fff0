/-
Module: VoltStream.Ml.Training
Purpose: From the dataset to the model that is saved: the chronological split, the physics
  baseline and the metrics that score it, the candidates fitted and scored beside it, and the
  artifact of the best of them.
Trusted boundary: human-reviewed spec of `ml/evaluation/baseline.py`,
  `ml/evaluation/metrics.py`, `chronological_split` in `ml/training/evaluate_baseline.py`,
  `ml/training/train_models.py` and `ml/training/persist_model.py`; the estimators, the
  square root and the rounding of a product are parameters
Main exports: chronologicalSplit, predictMinutesToCritical, meanAbsoluteError,
  rootMeanSquaredError, Scores, Candidate, ModelName, Pipeline, evaluateBaselineOn,
  fitCandidateModels, evaluateModels, selectBestModel, Artifact, persistSelectedModel
-/
import VoltStream.Ml.Dataset
import VoltStream.Relational.Least

namespace VoltStream.Ml

open Relational Backend

/-! ### The split -/

/-- `TRAIN_FRACTION`, the double next to 0.8. -/
def trainFraction : ℚ := 3602879701896397 / 2 ^ 52

/-- `chronological_split`: the product of the length with the fraction is rounded before
`int` cuts it off, and the sort is stable. -/
def chronologicalSplit (round : ℚ → ℚ) (dataset : List TrainingRow) :
    List TrainingRow × List TrainingRow :=
  let dataset := List.insertionSort (fun first second => first.timestamp ≤ second.timestamp)
    dataset
  let splitIndex := ⌊round (dataset.length * trainFraction)⌋.toNat
  (dataset.take splitIndex, dataset.drop splitIndex)

/-! ### The baseline and the metrics -/

/-- The `MIN_DISCHARGE_POWER_KW` of training. -/
def minDischargePowerKw : ℚ := 1 / 10

/-- `predict_minutes_to_critical` for one row; `none` is NaN. -/
def predictMinutesToCritical (stateOfCharge powerKw capacityKwh : ℚ) : Option ℚ :=
  let usableEnergyKwh := capacityKwh * ((stateOfCharge - criticalSocPercent) / 100)
  let minutesRemaining := usableEnergyKwh / |powerKw| * 60
  if |powerKw| < minDischargePowerKw then none else some minutesRemaining

/-- `np.mean`, which is NaN without values. -/
def meanOf (values : List ℚ) : Option ℚ := if values = [] then none else some (mean values)

def meanAbsoluteError (actual predicted : List ℚ) : Option ℚ :=
  meanOf (List.zipWith (fun one other => |one - other|) actual predicted)

/-- `root_mean_squared_error`, with what `np.sqrt` gives. -/
def rootMeanSquaredError (sqrt : ℚ → ℚ) (actual predicted : List ℚ) : Option ℚ :=
  (meanOf (List.zipWith (fun one other => (one - other) ^ 2) actual predicted)).map sqrt

/-- An entry of `results`. -/
structure Scores where
  maeMinutes : Option ℚ
  rmseMinutes : Option ℚ
  scoredRows : Nat
deriving Repr, DecidableEq

/-- The scores of these answers. -/
def Scores.of (sqrt : ℚ → ℚ) (actual predicted : List ℚ) : Scores where
  maeMinutes := meanAbsoluteError actual predicted
  rmseMinutes := rootMeanSquaredError sqrt actual predicted
  scoredRows := actual.length

/-- `<` on the keys `(mae_minutes, rmse_minutes)`: the first component that differs decides,
and NaN differs from everything and is less than nothing. -/
def Scores.before (first second : Scores) : Bool :=
  match first.maeMinutes, second.maeMinutes with
  | some mae, some otherMae =>
      if mae = otherMae then
        match first.rmseMinutes, second.rmseMinutes with
        | some rmse, some otherRmse => rmse < otherRmse
        | _, _ => false
      else mae < otherMae
  | _, _ => false

/-! ### Candidates -/

/-- The keys of `build_candidate_models`. -/
inductive Candidate where
  | linearRegression
  | randomForest
  | histGradientBoosting
deriving Repr, DecidableEq

/-- In the order in which the models are built. -/
def buildCandidateModels : List Candidate :=
  [.linearRegression, .randomForest, .histGradientBoosting]

def Candidate.text : Candidate → String
  | .linearRegression => "linear_regression"
  | .randomForest => "random_forest"
  | .histGradientBoosting => "hist_gradient_boosting"

/-- The keys of `results`. -/
inductive ModelName where
  | baseline
  | candidate (name : Candidate)
deriving Repr, DecidableEq

/-- A fitted pipeline: what `predict` answers for these rows, one number each, or `none`
where it raises. -/
structure Pipeline where
  predict : List FeatureRow → Option (List ℚ)
  length_predict : ∀ rows answers, predict rows = some answers → answers.length = rows.length

section Selection

variable (fit : Candidate → List (FeatureRow × ℚ) → Option Pipeline) (sqrt : ℚ → ℚ)
  (train test : List TrainingRow)

/-- The baseline's answer to a row. -/
def TrainingRow.baseline (row : TrainingRow) : Option ℚ :=
  predictMinutesToCritical row.features.stateOfCharge row.features.powerKw
    row.features.capacityKwh

/-- `evaluate_baseline_on`: the rows that the baseline has an answer to. -/
def evaluateBaselineOn : Scores :=
  let scorable := test.filterMap fun row =>
    row.baseline.map fun predicted => (row.minutesToCritical, predicted)
  .of sqrt (scorable.map Prod.fst) (scorable.map Prod.snd)

/-- `fit_candidate_models`; `none` is an exception of a `fit`. -/
def fitCandidateModels : Option (List (Candidate × Pipeline)) :=
  buildCandidateModels.mapM fun name =>
    (fit name (train.map fun row => (row.features, row.minutesToCritical))).map fun pipeline =>
      (name, pipeline)

/-- The entry of a fitted model in `results`. -/
def evaluateModel (fitted : Candidate × Pipeline) : Option (ModelName × Scores) :=
  (fitted.2.predict (test.map TrainingRow.features)).map fun predicted =>
    (.candidate fitted.1, .of sqrt (test.map TrainingRow.minutesToCritical) predicted)

/-- `evaluate_models`, with the entries in their order. -/
def evaluateModels (fitted : List (Candidate × Pipeline)) : Option (List (ModelName × Scores)) :=
  (fitted.mapM (evaluateModel sqrt test)).map fun results =>
    (.baseline, evaluateBaselineOn sqrt test) :: results

/-- `select_best_model`, with the entry of the model that it names; `min` raises if there
are none. -/
def selectBestModel : List (ModelName × Scores) → Option (ModelName × Scores)
  | [] => none
  | first :: rest => some (least (fun one other => one.2.before other.2) first rest)

/-! ### The artifact -/

/-- What `build_artifact_metadata` records. -/
structure ArtifactMetadata where
  modelVersion : String
  algorithm : String
  features : List String
  trainedAt : Timestamp
  mae : Option ℚ
  rmse : Option ℚ
  criticalSocPercent : ℚ
  featureVersion : String
deriving Repr, DecidableEq

/-- The fields of `FeatureRow`. -/
def featureColumns : List String :=
  ["state_of_charge", "power_kw", "temperature_c", "health_percent", "capacity_kwh",
    "rolling_power_5m", "rolling_power_15m", "soc_change_5m", "hour_of_day", "profile_type"]

def buildArtifactMetadata (algorithm : Candidate) (mae rmse : Option ℚ)
    (trainedAt : Timestamp) : ArtifactMetadata where
  modelVersion := "v1"
  algorithm := algorithm.text
  features := featureColumns
  trainedAt := trainedAt
  mae := mae
  rmse := rmse
  criticalSocPercent := criticalSocPercent
  featureVersion := "v1"

/-- What `save_model_artifact` dumps into the file. -/
structure Artifact where
  pipeline : Pipeline
  metadata : ArtifactMetadata

/-- `persist_selected_model`, up to the dump: `none` if it raises, else the artifact to be
dumped, if any. -/
def persistSelectedModel (trainedAt : Timestamp) : Option (Option Artifact) := do
  let fitted ← fitCandidateModels fit train
  let results ← evaluateModels sqrt test fitted
  let winner ← selectBestModel results
  match winner.1 with
  | .baseline => some none
  | .candidate name =>
      let pipeline ← fitted.lookup name
      some (some
        { pipeline := pipeline
          metadata := buildArtifactMetadata name winner.2.maeMinutes winner.2.rmseMinutes
            trainedAt })

end Selection

end VoltStream.Ml
