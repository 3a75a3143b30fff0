/-
Module: VoltStream.Proofs.ServedModel
Purpose: Where a prediction of a backend process comes from, over every run of training runs
  and processes: from the model that did best in the last training run that saved one.
Trusted boundary: human-reviewed statement of which artifact that is (`lastSaved`) and of
  what is measured of it (`MeasuredBest`)
Main exports: Scores.before_iff, selectBestModel_spec, MeasuredBest,
  measuredBest_of_persistSelectedModel, lastSaved, lastSaved_inv, Recorded, recorded_of_run,
  served_model
-/
import VoltStream.Backend.ModelRegistry
import VoltStream.Proofs.ConservativePrediction

namespace VoltStream.Ml

open Relational Backend

/-- A loop over a list comes to an end exactly if every turn gives something, and then it
gives these things in order. -/
theorem mapM_eq_some_iff {α β : Type*} {turn : α → Option β} {items : List α} {results : List β} :
    items.mapM turn = some results ↔ items.map turn = results.map some := by
  induction items generalizing results with
  | nil => cases results <;> simp
  | cons first rest ih =>
      rw [List.mapM_cons, List.map_cons]
      cases turn first <;> cases hrest : rest.mapM turn <;> cases results <;> simp_all

theorem mem_mapM_iff {α β : Type*} {turn : α → Option β} {items : List α} {results : List β}
    (ran : items.mapM turn = some results) {result : β} :
    result ∈ results ↔ ∃ item ∈ items, turn item = some result := by
  rw [← List.mem_map, mapM_eq_some_iff.mp ran, List.mem_map]
  exact ⟨fun isResult => ⟨result, isResult, rfl⟩, fun ⟨same, isSame, equal⟩ =>
    Option.some.inj equal ▸ isSame⟩

/-! ### Selection -/

/-- Less, by a number and not by NaN, or the same and less in the second place. -/
theorem Scores.before_iff {first second : Scores} :
    first.before second = true ↔
      ∃ mae otherMae, first.maeMinutes = some mae ∧ second.maeMinutes = some otherMae ∧
        (mae < otherMae ∨ mae = otherMae ∧ ∃ rmse otherRmse,
          first.rmseMinutes = some rmse ∧ second.rmseMinutes = some otherRmse ∧
            rmse < otherRmse) := by
  unfold Scores.before
  cases first.maeMinutes <;> cases second.maeMinutes
  case some.some mae otherMae =>
    by_cases same : mae = otherMae
    · subst same
      cases first.rmseMinutes <;> cases second.rmseMinutes <;> simp
    · simp [same]
  all_goals simp

theorem Scores.before_trans (one two three : Scores) (first : one.before two = true)
    (second : two.before three = true) : one.before three = true := by
  rw [Scores.before_iff] at first second ⊢
  obtain ⟨mae, middleMae, isMae, isMiddle, less⟩ := first
  obtain ⟨sameMae, lastMae, isSame, isLast, further⟩ := second
  obtain rfl := Option.some.inj (isMiddle.symm.trans isSame)
  refine ⟨mae, lastMae, isMae, isLast, ?_⟩
  rcases less with less | ⟨rfl, rmse, middleRmse, isRmse, isMiddleRmse, lessRmse⟩
  · rcases further with further | ⟨rfl, -⟩
    · exact .inl (less.trans further)
    · exact .inl less
  · rcases further with further | ⟨rfl, sameRmse, lastRmse, isSameRmse, isLastRmse, furtherRmse⟩
    · exact .inl further
    · obtain rfl := Option.some.inj (isMiddleRmse.symm.trans isSameRmse)
      exact .inr ⟨rfl, rmse, lastRmse, isRmse, isLastRmse, lessRmse.trans furtherRmse⟩

theorem Scores.before_irrefl (scores : Scores) : scores.before scores = false := by
  refine Bool.eq_false_of_not_eq_true fun isBefore => ?_
  obtain ⟨mae, same, isMae, isSame, less⟩ := Scores.before_iff.mp isBefore
  obtain rfl := Option.some.inj (isMae.symm.trans isSame)
  rcases less with less | ⟨-, rmse, sameRmse, isRmse, isSameRmse, less⟩
  · exact lt_irrefl _ less
  · obtain rfl := Option.some.inj (isRmse.symm.trans isSameRmse)
    exact lt_irrefl _ less

/-- The model that is selected is one of them, none is better, and it is the first one unless
it is better than that. -/
theorem selectBestModel_spec {first winner : ModelName × Scores}
    {rest : List (ModelName × Scores)} (selected : selectBestModel (first :: rest) = some winner) :
    winner ∈ first :: rest ∧ (winner = first ∨ winner.2.before first.2 = true) ∧
      ∀ other ∈ first :: rest, other.2.before winner.2 = false := by
  obtain rfl := Option.some.inj selected
  have transitive : ∀ one two three : ModelName × Scores, one.2.before two.2 = true →
      two.2.before three.2 = true → one.2.before three.2 = true := fun one two three =>
    Scores.before_trans one.2 two.2 three.2
  exact ⟨least_mem _ first rest, least_eq_or_before transitive first rest,
    not_before_least transitive (fun one => one.2.before_irrefl) first rest⟩

section Selection

variable (fit : Candidate → List (FeatureRow × ℚ) → Option Pipeline) (sqrt : ℚ → ℚ)
  (train test : List TrainingRow)

/-- Fitted on `train`, this pipeline answers `test` with these scores. -/
def Measured (name : Candidate) (pipeline : Pipeline) (scores : Scores) : Prop :=
  fit name (train.map fun row => (row.features, row.minutesToCritical)) = some pipeline ∧
    ∃ answers, pipeline.predict (test.map TrainingRow.features) = some answers ∧
      scores = .of sqrt (test.map TrainingRow.minutesToCritical) answers

/-- The artifact is that of a candidate, with its scores on `test`, which are better than the
baseline's there, and no candidate's are better. -/
def MeasuredBest (artifact : Artifact) : Prop :=
  ∃ name scores, Measured fit sqrt train test name artifact.pipeline scores ∧
    artifact.metadata.algorithm = name.text ∧ artifact.metadata.mae = scores.maeMinutes ∧
    artifact.metadata.rmse = scores.rmseMinutes ∧
    scores.before (evaluateBaselineOn sqrt test) = true ∧
    ∀ other pipeline otherScores, Measured fit sqrt train test other pipeline otherScores →
      otherScores.before scores = false

variable {fit sqrt train test}

theorem mem_buildCandidateModels (name : Candidate) : name ∈ buildCandidateModels := by
  cases name <;> decide

/-- The pipelines of `fitted` are those that the candidates are fitted to. -/
theorem mem_fitted_iff {fitted : List (Candidate × Pipeline)}
    (isFitted : fitCandidateModels fit train = some fitted) {name : Candidate}
    {pipeline : Pipeline} :
    (name, pipeline) ∈ fitted ↔
      fit name (train.map fun row => (row.features, row.minutesToCritical)) = some pipeline := by
  rw [mem_mapM_iff isFitted]
  constructor
  · rintro ⟨other, -, isEntry⟩
    obtain ⟨found, fits, same⟩ := Option.map_eq_some_iff.mp isEntry
    obtain ⟨rfl, rfl⟩ := Prod.mk.inj same
    exact fits
  · intro fits
    exact ⟨name, mem_buildCandidateModels name, by rw [fits, Option.map_some]⟩

/-- The entries of `results` for the candidates are their scores. -/
theorem mem_evaluated_iff {fitted : List (Candidate × Pipeline)}
    (isFitted : fitCandidateModels fit train = some fitted) {evaluated : List (ModelName × Scores)}
    (isEvaluated : fitted.mapM (evaluateModel sqrt test) = some evaluated)
    {entry : ModelName × Scores} :
    entry ∈ evaluated ↔
      ∃ name pipeline, entry.1 = .candidate name ∧
        Measured fit sqrt train test name pipeline entry.2 := by
  rw [mem_mapM_iff isEvaluated]
  constructor
  · rintro ⟨⟨name, pipeline⟩, isPipeline, isEntry⟩
    obtain ⟨answers, answered, rfl⟩ := Option.map_eq_some_iff.mp isEntry
    exact ⟨name, pipeline, rfl, (mem_fitted_iff isFitted).mp isPipeline, answers, answered, rfl⟩
  · rintro ⟨name, pipeline, isName, fits, answers, answered, isScores⟩
    refine ⟨(name, pipeline), (mem_fitted_iff isFitted).mpr fits, ?_⟩
    rw [evaluateModel, answered, Option.map_some, ← isName, ← isScores]

theorem measuredBest_of_persistSelectedModel {trainedAt : Timestamp} {artifact : Artifact}
    (saved : persistSelectedModel fit sqrt train test trainedAt = some (some artifact)) :
    MeasuredBest fit sqrt train test artifact := by
  obtain ⟨fitted, isFitted, saved⟩ := Option.bind_eq_some_iff.mp saved
  obtain ⟨results, isResults, saved⟩ := Option.bind_eq_some_iff.mp saved
  obtain ⟨⟨name, scores⟩, isWinner, saved⟩ := Option.bind_eq_some_iff.mp saved
  obtain ⟨evaluated, isEvaluated, rfl⟩ := Option.map_eq_some_iff.mp isResults
  obtain ⟨isEntry, better, best⟩ := selectBestModel_spec isWinner
  cases name with
  | baseline => exact absurd (Option.some.inj saved) nofun
  | candidate name =>
      obtain ⟨pipeline, isPipeline, isArtifact⟩ := Option.bind_eq_some_iff.mp saved
      obtain rfl := Option.some.inj (Option.some.inj isArtifact)
      have isBetter : scores.before (evaluateBaselineOn sqrt test) = true :=
        better.resolve_left fun same => absurd (congrArg Prod.fst same) nofun
      have inEvaluated : (ModelName.candidate name, scores) ∈ evaluated :=
        (List.mem_cons.mp isEntry).resolve_left fun same => absurd (congrArg Prod.fst same) nofun
      obtain ⟨same, found, isName, measured⟩ := (mem_evaluated_iff isFitted isEvaluated).mp
        inEvaluated
      obtain rfl := ModelName.candidate.inj isName
      have inFitted : (name, pipeline) ∈ fitted := by
        obtain ⟨before, after, rfl, -⟩ := List.lookup_eq_some_iff.mp isPipeline
        exact List.mem_append_right _ List.mem_cons_self
      have fits := (mem_fitted_iff isFitted).mp inFitted
      obtain rfl : found = pipeline := Option.some.inj (measured.1.symm.trans fits)
      refine ⟨name, scores, measured, rfl, rfl, rfl, isBetter, ?_⟩
      intro other otherPipeline otherScores otherMeasured
      exact best (.candidate other, otherScores) (List.mem_cons_of_mem _
        ((mem_evaluated_iff isFitted isEvaluated).mpr ⟨other, otherPipeline, rfl, otherMeasured⟩))

end Selection

end VoltStream.Ml

namespace VoltStream.Backend

open Relational Ml

/-! ### Training runs and processes -/

section Serving

variable (fit : Candidate → List (FeatureRow × ℚ) → Option Pipeline) (sqrt : ℚ → ℚ)

/-- The artifact that a training run has to save. -/
def DeploymentMove.saves : DeploymentMove → Option Artifact
  | .train trainRows testRows trainedAt =>
      (persistSelectedModel fit sqrt trainRows testRows trainedAt).join
  | _ => none

def DeploymentMove.isDumped : DeploymentMove → Bool
  | .dumped => true
  | _ => false

/-- Back from the newest of these moves, after a dump or before one. -/
def savedSince : Bool → List DeploymentMove → Option Artifact
  | _, [] => none
  | finished, move :: earlier =>
      match move.saves fit sqrt with
      | some artifact => if finished then some artifact else none
      | none => savedSince (finished || move.isDumped) earlier

/-- The artifact of the last training run that had one to save, if it has been dumped since. -/
def lastSaved (moves : List DeploymentMove) : Option Artifact :=
  savedSince fit sqrt false moves.reverse

variable {fit sqrt}

theorem savedSince_concat (finished : Bool) (moves : List DeploymentMove) (move : DeploymentMove) :
    savedSince fit sqrt finished (moves ++ [move]).reverse =
      match move.saves fit sqrt with
      | some artifact => if finished then some artifact else none
      | none => savedSince fit sqrt (finished || move.isDumped) moves.reverse := by
  rw [List.reverse_append]
  rfl

theorem savedSince_inv {finished : Bool} {moves : List DeploymentMove} {artifact : Artifact}
    (saved : savedSince fit sqrt finished moves.reverse = some artifact) :
    ∃ early train test trainedAt late, moves = early ++ .train train test trainedAt :: late ∧
      persistSelectedModel fit sqrt train test trainedAt = some (some artifact) ∧
      (finished = true ∨ .dumped ∈ late) ∧ ∀ move ∈ late, move.saves fit sqrt = none := by
  induction moves using List.reverseRecOn generalizing finished with
  | nil => exact absurd saved nofun
  | append_singleton moves move ih =>
      rw [savedSince_concat] at saved
      cases saves : move.saves fit sqrt with
      | some found =>
          rw [saves] at saved
          obtain ⟨isFinished, isFound⟩ := Option.ite_none_right_eq_some.mp saved
          obtain rfl := Option.some.inj isFound
          cases move with
          | train train test trainedAt =>
              exact ⟨moves, train, test, trainedAt, [], rfl, Option.join_eq_some_iff.mp saves,
                .inl isFinished, List.forall_mem_nil _⟩
          | _ => exact absurd saves nofun
      | none =>
          rw [saves] at saved
          obtain ⟨early, train, test, trainedAt, late, rfl, persisted, dumped, silent⟩ := ih saved
          refine ⟨early, train, test, trainedAt, late ++ [move], by simp, persisted, ?_, ?_⟩
          · rcases dumped with finished | inLate
            · rcases Bool.or_eq_true_iff.mp finished with finished | isDumped
              · exact .inl finished
              · cases move with
                | dumped => exact .inr (by simp)
                | _ => exact absurd isDumped nofun
            · exact .inr (List.mem_append_left _ inLate)
          · exact List.forall_mem_append.mpr ⟨silent, List.forall_mem_singleton.mpr saves⟩

/-- What it means to be saved last. -/
theorem lastSaved_inv {moves : List DeploymentMove} {artifact : Artifact}
    (saved : lastSaved fit sqrt moves = some artifact) :
    ∃ early train test trainedAt late, moves = early ++ .train train test trainedAt :: late ∧
      persistSelectedModel fit sqrt train test trainedAt = some (some artifact) ∧
      .dumped ∈ late ∧ ∀ move ∈ late, move.saves fit sqrt = none := by
  obtain ⟨early, train, test, trainedAt, late, isMoves, persisted, dumped, silent⟩ :=
    savedSince_inv saved
  exact ⟨early, train, test, trainedAt, late, isMoves, persisted,
    dumped.resolve_left Bool.false_ne_true, silent⟩

/-- What a state records of the moves that led to it: the file has what was saved last, and
a process has loaded what the file had as it started. -/
structure Recorded (fit : Candidate → List (FeatureRow × ℚ) → Option Pipeline) (sqrt : ℚ → ℚ)
    (moves : List DeploymentMove) (deployment : Deployment) : Prop where
  file : loadModelArtifact deployment.file = (lastSaved fit sqrt moves).map loadedModel
  dumping : ∀ artifact ∈ deployment.dumping,
    savedSince fit sqrt true moves.reverse = some artifact
  process : ∀ loaded ∈ deployment.process, ∃ early late, moves = early ++ .startUp :: late ∧
    .startUp ∉ late ∧ loaded = (lastSaved fit sqrt early).map loadedModel

theorem savedSince_concat_of_quiet {finished : Bool} {moves : List DeploymentMove}
    {move : DeploymentMove} (silent : move.saves fit sqrt = none)
    (notDumped : move.isDumped = false) :
    savedSince fit sqrt finished (moves ++ [move]).reverse =
      savedSince fit sqrt finished moves.reverse := by
  rw [savedSince_concat, silent, notDumped, Bool.or_false]

/-- What a process loaded it goes on serving. -/
theorem Recorded.process_concat {moves : List DeploymentMove} {deployment : Deployment}
    (recorded : Recorded fit sqrt moves deployment) {move : DeploymentMove}
    (notStart : move ≠ .startUp) :
    ∀ loaded ∈ deployment.process, ∃ early late, moves ++ [move] = early ++ .startUp :: late ∧
      .startUp ∉ late ∧ loaded = (lastSaved fit sqrt early).map loadedModel := by
  intro loaded isLoaded
  obtain ⟨early, late, rfl, since, same⟩ := recorded.process loaded isLoaded
  refine ⟨early, late ++ [move], by simp, fun inLate => ?_, same⟩
  rcases List.mem_append.mp inLate with before | isMove
  · exact since before
  · exact notStart (List.mem_singleton.mp isMove).symm

/-- A move that saves nothing, and does not end a dump. -/
theorem Recorded.quiet {moves : List DeploymentMove} {deployment : Deployment}
    (recorded : Recorded fit sqrt moves deployment) {move : DeploymentMove}
    (silent : move.saves fit sqrt = none) (notDumped : move.isDumped = false)
    (notStart : move ≠ .startUp) : Recorded fit sqrt (moves ++ [move]) deployment where
  file := by rw [lastSaved, savedSince_concat_of_quiet silent notDumped, recorded.file, lastSaved]
  dumping := by
    rw [savedSince_concat_of_quiet silent notDumped]
    exact recorded.dumping
  process := recorded.process_concat notStart

theorem Recorded.train {moves : List DeploymentMove} {state after : Deployment}
    (recorded : Recorded fit sqrt moves state) {train test : List TrainingRow}
    {trainedAt : Timestamp}
    (step : Deployment.Step fit sqrt state (.train train test trainedAt) after) :
    Recorded fit sqrt (moves ++ [.train train test trainedAt]) after := by
  have isSaved : (DeploymentMove.train train test trainedAt).saves fit sqrt =
      (persistSelectedModel fit sqrt train test trainedAt).join := rfl
  simp only [Deployment.Step, Deployment.perform] at step
  split at step
  · exact absurd step nofun
  · split at step
    · next artifact persisted =>
        obtain rfl := Option.some.inj step
        rw [persisted] at isSaved
        refine ⟨?_, ?_, recorded.process_concat nofun⟩
        · rw [lastSaved, savedSince_concat, isSaved]
          rfl
        · rw [savedSince_concat, isSaved]
          exact fun found isFound => isFound
    · next persisted =>
        obtain rfl := Option.some.inj step
        rw [persisted] at isSaved
        exact recorded.quiet isSaved rfl nofun
    · next persisted =>
        obtain rfl := Option.some.inj step
        rw [persisted] at isSaved
        exact recorded.quiet isSaved rfl nofun

theorem recorded_of_run {moves : List DeploymentMove} {deployment : Deployment}
    (run : Trace (Deployment.Step fit sqrt) Deployment.start moves deployment) :
    Recorded fit sqrt moves deployment := by
  refine run.invariant (Recorded fit sqrt) ⟨rfl, nofun, nofun⟩ ?_
  intro moves state move after recorded step
  cases move with
  | train train test trainedAt => exact recorded.train step
  | dumped =>
      obtain ⟨artifact, isDumping, rfl⟩ := Option.map_eq_some_iff.mp step
      refine ⟨?_, nofun, recorded.process_concat nofun⟩
      have saved : lastSaved fit sqrt (moves ++ [.dumped]) = some artifact := by
        rw [lastSaved, savedSince_concat]
        exact recorded.dumping artifact isDumping
      rw [saved]
      rfl
  | killed =>
      obtain ⟨artifact, -, rfl⟩ := Option.map_eq_some_iff.mp step
      have silent : DeploymentMove.killed.saves fit sqrt = none := rfl
      have same := recorded.quiet silent rfl nofun
      exact ⟨same.file, nofun, same.process⟩
  | startUp =>
      simp only [Deployment.Step, Deployment.perform] at step
      split at step
      · exact absurd step nofun
      · obtain rfl := Option.some.inj step
        have silent : DeploymentMove.startUp.saves fit sqrt = none := rfl
        refine ⟨?_, ?_, ?_⟩
        · rw [lastSaved, savedSince_concat_of_quiet silent rfl]
          exact recorded.file
        · rw [savedSince_concat_of_quiet silent rfl]
          exact recorded.dumping
        · intro loaded isLoaded
          refine ⟨moves, [], rfl, List.not_mem_nil, ?_⟩
          rw [← recorded.file, Option.some.inj isLoaded]
  | shutDown =>
      obtain ⟨loaded, -, rfl⟩ := Option.map_eq_some_iff.mp step
      have silent : DeploymentMove.shutDown.saves fit sqrt = none := rfl
      have same := recorded.quiet silent rfl nofun
      exact ⟨same.file, same.dumping, nofun⟩

/-- What a process answers that has loaded this, after these moves. -/
structure ServesBest (fit : Candidate → List (FeatureRow × ℚ) → Option Pipeline) (sqrt : ℚ → ℚ)
    (moves : List DeploymentMove) (loaded : Option LoadedModel) : Prop where
  best : ∀ artifact ∈ lastSaved fit sqrt moves, ∃ train test trainedAt,
    .train train test trainedAt ∈ moves ∧ MeasuredBest fit sqrt train test artifact
  answers : ∀ round arguments result, computePrediction round loaded arguments = .ok result →
    result.predictionMethod = some .ml → ∃ artifact ∈ lastSaved fit sqrt moves,
      result.modelVersion = some artifact.metadata.modelVersion ∧
        ∃ minutes, MlAnswers (loadedModel artifact) arguments minutes ∧
          result.predictedMinutesToCritical = some minutes
  fallsBack : lastSaved fit sqrt moves = none → ∀ round arguments,
    computePrediction round loaded arguments =
      (arguments.baseline round).map BaselinePredictionResult.served

theorem servesBest_of_lastSaved (fit : Candidate → List (FeatureRow × ℚ) → Option Pipeline)
    (sqrt : ℚ → ℚ) (moves : List DeploymentMove) :
    ServesBest fit sqrt moves ((lastSaved fit sqrt moves).map loadedModel) where
  best := by
    intro artifact saved
    obtain ⟨early, train, test, trainedAt, late, rfl, persisted, -⟩ := lastSaved_inv saved
    exact ⟨train, test, trainedAt, by simp, measuredBest_of_persistSelectedModel persisted⟩
  answers := by
    intro round arguments result ok ml
    rcases computePrediction_inv ok with
      ⟨model, isLoaded, minutes, answers, rfl⟩ | ⟨-, baseline, isBaseline, rfl⟩
    · obtain ⟨artifact, saved, rfl⟩ := Option.map_eq_some_iff.mp isLoaded
      exact ⟨artifact, saved, rfl, minutes, answers, rfl⟩
    · exact absurd ml (baseline_predictionMethod isBaseline)
  fallsBack := by
    intro nothing round arguments
    rw [nothing]
    exact computePrediction_of_silent nofun

/-- Over every run of training runs, kills, and starts and ends of the backend: a process
serves the model that the last training run had saved before the process started, if that
run was done saving it; the baseline's later victories withdraw nothing.  That model did
best of the candidates in its training run, and better than the baseline. -/
theorem served_model {moves : List DeploymentMove} {deployment : Deployment}
    (run : Trace (Deployment.Step fit sqrt) Deployment.start moves deployment)
    {loaded : Option LoadedModel} (up : deployment.process = some loaded) :
    ∃ early late, moves = early ++ .startUp :: late ∧ .startUp ∉ late ∧
      loaded = (lastSaved fit sqrt early).map loadedModel ∧ ServesBest fit sqrt early loaded := by
  obtain ⟨early, late, isMoves, since, same⟩ := (recorded_of_run run).process loaded up
  exact ⟨early, late, isMoves, since, same, same ▸ servesBest_of_lastSaved fit sqrt early⟩

end Serving

/-- Fitted to one value, every estimator answers with that value. -/
def fitToMean (_ : Candidate) (rows : List (FeatureRow × ℚ)) : Option Pipeline :=
  some
    { predict := fun asked => some (asked.map fun _ => mean (rows.map Prod.snd))
      length_predict := by
        rintro asked answers isAnswers
        obtain rfl := Option.some.inj isAnswers
        exact List.length_map _ }

/-- The square root of squares. -/
def squareRoot (value : ℚ) : ℚ := Nat.sqrt value.num.toNat / Nat.sqrt value.den

/-- Ten minutes, where the baseline says two hours. -/
def tenMinutes : TrainingRow where
  batteryId := sampleBatteryId
  timestamp := 0
  features :=
    { stateOfCharge := 60
      powerKw := -2
      temperatureC := 25
      healthPercent := 100
      capacityKwh := 10
      rollingPower5m := -2
      rollingPower15m := -2
      socChange5m := some (-1)
      hourOfDay := 0
      profileType := .residential }
  minutesToCritical := 10

/-- A first training run is killed in its dump, a process that starts then has no model, and a
second run saves one before the next process starts. -/
def trainAndServe : List DeploymentMove :=
  [.train [tenMinutes] [tenMinutes] 0, .killed, .startUp, .shutDown,
    .train [tenMinutes] [tenMinutes] 1, .dumped, .startUp]

theorem sample_served_model : ∃ deployment loaded,
    Trace (Deployment.Step fitToMean squareRoot) Deployment.start trainAndServe deployment ∧
    deployment.process = some (some loaded) ∧
    ∃ early late, trainAndServe = early ++ .startUp :: late ∧ .startUp ∉ late ∧
      some loaded = (lastSaved fitToMean squareRoot early).map loadedModel ∧
      ServesBest fitToMean squareRoot early (some loaded) := by
  have played : (play (Deployment.perform fitToMean squareRoot) trainAndServe
      Deployment.start).map (fun last => last.process.map Option.isSome) = some (some true) := by
    decide +kernel
  obtain ⟨deployment, isLast, isUp⟩ := Option.map_eq_some_iff.mp played
  obtain ⟨process, up, isSome⟩ := Option.map_eq_some_iff.mp isUp
  obtain ⟨loaded, rfl⟩ := Option.isSome_iff_exists.mp isSome
  have run := trace_of_play (Deployment.perform fitToMean squareRoot) isLast
  exact ⟨deployment, loaded, run, up, served_model run up⟩

end VoltStream.Backend
