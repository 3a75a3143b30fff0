/-
Module: VoltStream.Backend.ModelRegistry
Purpose: The model that a backend process serves: training runs that save an artifact, and
  processes that load it as they start.
Trusted boundary: human-reviewed spec of `app/services/model_registry.py`, of the start in
  `app/main.py`'s `lifespan` and of the dump in `ml/training/persist_model.py`; a file that
  is not written to its end does not load
Main exports: ArtifactFile, loadModelArtifact, Deployment, DeploymentMove, Deployment.perform,
  Deployment.Step, Deployment.start
-/
import VoltStream.Backend.PredictionService
import VoltStream.Ml.Training
import VoltStream.Relational.Run

namespace VoltStream.Backend

open Ml (Artifact Candidate FeatureRow Pipeline TrainingRow persistSelectedModel)

/-- The row of the frame that `_attempt_ml_prediction` makes. -/
def LiveFeatureRow.toFeatureRow (features : LiveFeatureRow) : FeatureRow where
  stateOfCharge := features.stateOfCharge
  powerKw := features.powerKw
  temperatureC := features.temperatureC
  healthPercent := features.healthPercent
  capacityKwh := features.capacityKwh
  rollingPower5m := features.rollingPower5m
  rollingPower15m := features.rollingPower15m
  socChange5m := some features.socChange5m
  hourOfDay := features.hourOfDay
  profileType := features.profileType

/-- What `joblib.load` gives for the artifact: the prediction is `predict(row)[0]`. -/
def loadedModel (artifact : Artifact) : LoadedModel where
  predict := fun features =>
    (artifact.pipeline.predict [features.toFeatureRow]).bind List.head?
  modelVersion := some artifact.metadata.modelVersion

/-- What is at `MODEL_ARTIFACT_PATH`. -/
inductive ArtifactFile where
  | absent
  | incomplete
  | whole (artifact : Artifact)

/-- `load_model_artifact`. -/
def loadModelArtifact : ArtifactFile → Option LoadedModel
  | .absent => none
  | .incomplete => none
  | .whole artifact => some (loadedModel artifact)

/-- The file, the artifact that a training run is dumping into it, and what the backend
process has loaded, if there is one. -/
structure Deployment where
  file : ArtifactFile
  dumping : Option Artifact
  process : Option (Option LoadedModel)

inductive DeploymentMove where
  | train (train test : List TrainingRow) (trainedAt : Timestamp)
  | dumped
  | killed
  | startUp
  | shutDown

namespace Deployment

variable (fit : Candidate → List (FeatureRow × ℚ) → Option Pipeline) (sqrt : ℚ → ℚ)

/-- A step, if it is possible. -/
def perform (deployment : Deployment) : DeploymentMove → Option Deployment
  | .train train test trainedAt =>
      match deployment.dumping with
      | some _ => none
      | none =>
          match persistSelectedModel fit sqrt train test trainedAt with
          | some (some artifact) =>
              -- opening the file for writing empties it
              some { deployment with file := .incomplete, dumping := some artifact }
          | some none => some deployment
          | none => some deployment
  | .dumped =>
      deployment.dumping.map fun artifact =>
        { deployment with file := .whole artifact, dumping := none }
  | .killed =>
      deployment.dumping.map fun _ => { deployment with dumping := none }
  | .startUp =>
      match deployment.process with
      | some _ => none
      | none => some { deployment with process := some (loadModelArtifact deployment.file) }
  | .shutDown =>
      deployment.process.map fun _ => { deployment with process := none }

def Step (before : Deployment) (move : DeploymentMove) (after : Deployment) : Prop :=
  before.perform fit sqrt move = some after

/-- No model has been saved, and nothing runs. -/
def start : Deployment where
  file := .absent
  dumping := none
  process := none

end Deployment

end VoltStream.Backend
