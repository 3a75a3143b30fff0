/-
Module: VoltStream.Proofs.ConservativePrediction
Purpose: A loaded model in front of the baseline adds predictions, and takes none away.
Trusted boundary: none
Main exports: computeBaselinePrediction_ok_iff, computeLiveFeaturesChecked_of_inUtc,
  MlAnswers, mlPrediction_eq_some_iff, computePrediction_ok_iff, DividesByZero,
  ConservativeExtension, conservativeExtension_iff
-/
import VoltStream.Backend.PredictionService

namespace VoltStream.Backend

open Relational

/-! ### The baseline -/

/-- The baseline raises for a power of zero, where the configured minimum lets it through. -/
theorem computeBaselinePrediction_ok_iff (round : ℚ → ℚ)
    (capacityKwh stateOfCharge powerKw : Option ℚ) (status : Option BatteryStatus)
    (criticalSocPercent minDischargePowerKw : ℚ) :
    (∃ baseline, computeBaselinePrediction round capacityKwh stateOfCharge powerKw status
        criticalSocPercent minDischargePowerKw = .ok baseline) ↔
      ¬ (capacityKwh ≠ none ∧ (∃ percent ∈ stateOfCharge, criticalSocPercent < percent) ∧
        powerKw = some 0 ∧ status = some (.reported .discharging) ∧
          minDischargePowerKw ≤ 0) := by
  cases capacityKwh with
  | none => simp [computeBaselinePrediction]
  | some capacityKwh =>
  cases stateOfCharge with
  | none => simp [computeBaselinePrediction]
  | some percent =>
  cases powerKw with
  | none => simp [computeBaselinePrediction]
  | some powerKw =>
  cases status with
  | none => simp [computeBaselinePrediction]
  | some status =>
      simp only [computeBaselinePrediction]
      split_ifs with other atOrBelow tooLow zero
      · simp [other]
      · simp [atOrBelow]
      · refine iff_of_true ⟨_, rfl⟩ ?_
        rintro ⟨-, -, noPower, -, minimum⟩
        rw [Option.some_inj.mp noPower, abs_zero] at tooLow
        linarith
      · have minimum : minDischargePowerKw ≤ 0 := zero ▸ not_lt.mp tooLow
        simp [not_not.mp other, not_le.mp atOrBelow, abs_eq_zero.mp zero, minimum]
      · refine iff_of_true ⟨_, rfl⟩ ?_
        rintro ⟨-, -, noPower, -, -⟩
        apply zero
        rw [Option.some_inj.mp noPower, abs_zero]

/-- The baseline gives a reason, or it predicts for a battery that discharges, above the
critical charge and with a power that is not zero. -/
theorem computeBaselinePrediction_inv {round : ℚ → ℚ}
    {capacityKwh stateOfCharge powerKw : Option ℚ} {status : Option BatteryStatus}
    {criticalSocPercent minDischargePowerKw : ℚ}
    {baseline : BaselinePredictionResult}
    (ok : computeBaselinePrediction round capacityKwh stateOfCharge powerKw status
      criticalSocPercent minDischargePowerKw = .ok baseline) :
    (∃ reason, baseline = .unavailable reason) ∨
      ∃ capacity percent power, capacityKwh = some capacity ∧ stateOfCharge = some percent ∧
        powerKw = some power ∧ status = some (.reported .discharging) ∧
        criticalSocPercent < percent ∧ minDischargePowerKw ≤ |power| ∧ power ≠ 0 ∧
        baseline = .minutes (minutesRemaining round capacity percent power criticalSocPercent) := by
  unfold computeBaselinePrediction at ok
  split at ok
  · next capacity percent power status =>
    split_ifs at ok with other atOrBelow tooLow zero
    · exact .inl ⟨_, (Except.ok.inj ok).symm⟩
    · exact .inl ⟨_, (Except.ok.inj ok).symm⟩
    · exact .inl ⟨_, (Except.ok.inj ok).symm⟩
    · refine .inr ⟨capacity, percent, power, rfl, rfl, rfl, ?_, not_le.mp atOrBelow,
        not_lt.mp tooLow, fun stands => zero (abs_eq_zero.mpr stands), (Except.ok.inj ok).symm⟩
      rw [not_not.mp other]
  · exact .inl ⟨_, (Except.ok.inj ok).symm⟩

/-! ### Live features -/

section LiveFeatures

variable {asOf : AwareDatetime}

theorem minus_ok_of_le {early late : Int} (reaches : datetimeMin + late ≤ asOf.wall)
    (shorter : early ≤ late) (forward : 0 ≤ early) :
    ∃ cutoff, asOf.minus early = .ok cutoff := by
  refine (AwareDatetime.plus_eq_ok_iff asOf (-early)).mpr ⟨?_, ?_⟩
  · linarith
  · have := asOf.wallBounds.2
    linarith

theorem rollingPowerMeanChecked_eq {cutoff : AwareDatetime} {minutes : ℚ}
    (ok : asOf.minus (timedeltaMinutes minutes) = .ok cutoff) (prior : List PriorReading)
    (currentPowerKw : ℚ) :
    Live.rollingPowerMeanChecked prior asOf currentPowerKw minutes =
      .ok (Live.rollingPowerMean prior asOf.instant currentPowerKw minutes) := by
  rw [Live.rollingPowerMeanChecked, ok, Live.rollingPowerMean,
    ← AwareDatetime.minus_instant ok]

theorem socChangeChecked_eq {cutoff : AwareDatetime} {minutes : ℚ}
    (ok : asOf.minus (timedeltaMinutes minutes) = .ok cutoff) (prior : List PriorReading)
    (currentSoc : ℚ) :
    Live.socChangeChecked prior asOf currentSoc minutes =
      .ok (Live.socChange prior asOf.instant currentSoc minutes) := by
  rw [Live.socChangeChecked, ok, Live.socChange, ← AwareDatetime.minus_instant ok]

/-- With a power, and a time in UTC that has a quarter of an hour before it, the computation
of the features raises nothing. -/
theorem computeLiveFeaturesChecked_of_inUtc (inUtc : asOf.utcoffset = 0)
    (reaches : datetimeMin + timedeltaMinutes Live.rollingWindow15mMinutes ≤ asOf.wall)
    (history : List PriorReading)
    (currentSoc currentPowerKw temperatureC healthPercent capacityKwh : ℚ)
    (profileType : ProfileType) :
    computeLiveFeaturesChecked history (some asOf) currentSoc (some currentPowerKw) temperatureC
        healthPercent capacityKwh profileType =
      .ok (computeLiveFeatures history asOf.instant currentSoc currentPowerKw temperatureC
        healthPercent capacityKwh profileType) := by
  obtain ⟨cutoff5m, ok5m⟩ : ∃ cutoff, asOf.minus
      (timedeltaMinutes Live.rollingWindow5mMinutes) = .ok cutoff :=
    minus_ok_of_le reaches (by decide +kernel) (by decide +kernel)
  obtain ⟨cutoff15m, ok15m⟩ : ∃ cutoff, asOf.minus
      (timedeltaMinutes Live.rollingWindow15mMinutes) = .ok cutoff :=
    minus_ok_of_le reaches le_rfl (by decide +kernel)
  have sameHour : asOf.hour = hourOfDay asOf.instant := by
    rw [AwareDatetime.hour, AwareDatetime.instant, inUtc, sub_zero]
  rw [computeLiveFeaturesChecked, computeLiveFeatures, socChangeChecked_eq ok5m]
  cases Live.socChange history asOf.instant currentSoc Live.rollingWindow5mMinutes with
  | none => rfl
  | some socChange5m =>
      simp only [rollingPowerMeanChecked_eq ok5m, rollingPowerMeanChecked_eq ok15m, sameHour]
      rfl

end LiveFeatures

/-! ### The model -/

section Model

variable {arguments : PredictionArguments}

/-- The state in which a model is asked, apart from its features. -/
structure MlEligible (arguments : PredictionArguments) (percent power capacity : ℚ)
    (profile : ProfileType) : Prop where
  capacityKwh : arguments.capacityKwh = some capacity
  profileType : arguments.profileType = some profile
  stateOfCharge : arguments.stateOfCharge = some percent
  powerKw : arguments.powerKw = some power
  discharging : arguments.status = some (.reported .discharging)
  aboveCritical : arguments.criticalSocPercent < percent

/-- The model is asked for a row of features, and answers with this many minutes. -/
def MlAnswers (model : LoadedModel) (arguments : PredictionArguments) (minutes : ℚ) : Prop :=
  ∃ percent power capacity profile features,
    MlEligible arguments percent power capacity profile ∧
      arguments.liveFeatures percent capacity profile = .ok (some features) ∧
      model.predict features = some minutes

theorem mlPredictionCouldApply_iff {stateOfCharge : ℚ}
    (present : arguments.stateOfCharge = some stateOfCharge) :
    arguments.input.mlPredictionCouldApply = true ↔
      arguments.status = some (.reported .discharging) ∧
        arguments.criticalSocPercent < stateOfCharge := by
  simp [PredictionInput.mlPredictionCouldApply, PredictionArguments.input, present]

/-- Without a power there are no features: their computation raises, or the history is too
short in the first place. -/
theorem powerKw_of_liveFeatures {stateOfCharge capacityKwh : ℚ} {profileType : ProfileType}
    {features : LiveFeatureRow}
    (row : arguments.liveFeatures stateOfCharge capacityKwh profileType = .ok (some features)) :
    ∃ powerKw, arguments.powerKw = some powerKw := by
  cases power : arguments.powerKw with
  | some powerKw => exact ⟨powerKw, rfl⟩
  | none =>
      unfold PredictionArguments.liveFeatures computeLiveFeaturesChecked at row
      rw [power] at row
      split at row
      · cases row
      · split at row <;> cases row

/-- In UTC and away from the start of the calendar, the features are those over instants. -/
theorem liveFeatures_eq_modelFeatures {percent power capacity : ℚ} {profile : ProfileType}
    {asOf : AwareDatetime} (eligible : MlEligible arguments percent power capacity profile)
    (isAsOf : arguments.asOf = some asOf) (inUtc : asOf.utcoffset = 0)
    (reaches : datetimeMin + timedeltaMinutes Live.rollingWindow15mMinutes ≤ asOf.wall) :
    arguments.liveFeatures percent capacity profile = .ok arguments.input.modelFeatures := by
  have applies := (mlPredictionCouldApply_iff eligible.stateOfCharge).mpr
    ⟨eligible.discharging, eligible.aboveCritical⟩
  rw [PredictionArguments.liveFeatures, isAsOf, eligible.powerKw,
    computeLiveFeaturesChecked_of_inUtc inUtc reaches]
  simp only [PredictionInput.modelFeatures, if_pos applies]
  simp only [PredictionArguments.input, eligible.capacityKwh, eligible.profileType,
    eligible.stateOfCharge, eligible.powerKw, isAsOf, Option.map_some]

theorem mlPrediction_eq_some_iff {loaded : Option LoadedModel} {result : PredictionResult} :
    mlPrediction loaded arguments = some result ↔
      ∃ model ∈ loaded, ∃ minutes, MlAnswers model arguments minutes ∧
        result = model.result minutes := by
  constructor
  · intro isResult
    unfold mlPrediction at isResult
    split at isResult
    · next model capacityKwh profileType stateOfCharge capacity profile percent =>
      split_ifs at isResult with applies
      obtain ⟨minutes, attempt, isMl⟩ := Option.map_eq_some_iff.mp isResult
      unfold attemptMlPrediction at attempt
      split at attempt
      · cases attempt
      · cases attempt
      · next features row =>
        obtain ⟨powerKw, power⟩ := powerKw_of_liveFeatures row
        obtain ⟨discharging, above⟩ := (mlPredictionCouldApply_iff percent).mp applies
        exact ⟨model, rfl, minutes,
          ⟨stateOfCharge, powerKw, capacityKwh, profileType, features,
            ⟨capacity, profile, percent, power, discharging, above⟩, row, attempt⟩, isMl.symm⟩
    · cases isResult
  · rintro ⟨model, rfl, minutes, ⟨stateOfCharge, powerKw, capacityKwh, profileType, features,
      eligible, row, answer⟩, rfl⟩
    have applies := (mlPredictionCouldApply_iff eligible.stateOfCharge).mpr
      ⟨eligible.discharging, eligible.aboveCritical⟩
    simp only [mlPrediction, eligible.capacityKwh, eligible.profileType, eligible.stateOfCharge,
      if_pos applies, attemptMlPrediction, row, answer, Option.map_some]

end Model

/-! ### The service -/

section Service

variable {round : ℚ → ℚ} {loaded : Option LoadedModel} {arguments : PredictionArguments}

theorem computePrediction_of_answers {model : LoadedModel} {minutes : ℚ}
    (isLoaded : loaded = some model) (answers : MlAnswers model arguments minutes) :
    computePrediction round loaded arguments = .ok (model.result minutes) := by
  have isMl := mlPrediction_eq_some_iff.mpr ⟨model, isLoaded, minutes, answers, rfl⟩
  rw [computePrediction, isMl]

theorem computePrediction_of_silent
    (silent : ∀ model ∈ loaded, ∀ minutes, ¬ MlAnswers model arguments minutes) :
    computePrediction round loaded arguments =
      (arguments.baseline round).map BaselinePredictionResult.served := by
  rw [computePrediction]
  cases isMl : mlPrediction loaded arguments with
  | none => rfl
  | some result =>
      obtain ⟨model, isLoaded, minutes, answers, -⟩ := mlPrediction_eq_some_iff.mp isMl
      exact absurd answers (silent model isLoaded minutes)

/-- Either a loaded model answers, or none does. -/
theorem answers_or_silent (loaded : Option LoadedModel) (arguments : PredictionArguments) :
    (∃ model ∈ loaded, ∃ minutes, MlAnswers model arguments minutes) ∨
      ∀ model ∈ loaded, ∀ minutes, ¬ MlAnswers model arguments minutes := by
  refine or_iff_not_imp_left.mpr fun none model isLoaded minutes answers => none ?_
  exact ⟨model, isLoaded, minutes, answers⟩

/-- A result is a model's answer, or the baseline's where no model answers. -/
theorem computePrediction_inv {result : PredictionResult}
    (ok : computePrediction round loaded arguments = .ok result) :
    (∃ model ∈ loaded, ∃ minutes, MlAnswers model arguments minutes ∧
      result = model.result minutes) ∨
    (∀ model ∈ loaded, ∀ minutes, ¬ MlAnswers model arguments minutes) ∧
      ∃ baseline, arguments.baseline round = .ok baseline ∧ result = baseline.served := by
  rcases answers_or_silent loaded arguments with ⟨model, isLoaded, minutes, answers⟩ | silent
  · rw [computePrediction_of_answers isLoaded answers] at ok
    exact .inl ⟨model, isLoaded, minutes, answers, (Except.ok.inj ok).symm⟩
  · rw [computePrediction_of_silent silent] at ok
    cases baseline : arguments.baseline round with
    | error error => rw [baseline] at ok; cases ok
    | ok withheld =>
        rw [baseline] at ok
        exact .inr ⟨silent, withheld, rfl, (Except.ok.inj ok).symm⟩

theorem baseline_predictionMethod {baseline : BaselinePredictionResult}
    (ok : arguments.baseline round = .ok baseline) : baseline.predictionMethod ≠ some .ml := by
  rcases computeBaselinePrediction_inv ok with
    ⟨reason, rfl⟩ | ⟨capacity, percent, power, -, -, -, -, -, -, -, rfl⟩
  · exact fun isMl => by cases isMl
  · exact fun isMl => by cases isMl

/-- Where a model may be asked, the baseline can only withhold a prediction for want of
power: the two statements of the eligibility rules agree. -/
theorem baseline_reason_of_eligible {percent power capacity : ℚ} {profile : ProfileType}
    {baseline : BaselinePredictionResult} {reason : PredictionReason}
    (eligible : MlEligible arguments percent power capacity profile)
    (ok : arguments.baseline round = .ok baseline) (isReason : baseline.reason = some reason) :
    reason = .dischargeRateTooLow := by
  rw [PredictionArguments.baseline, eligible.capacityKwh, eligible.stateOfCharge,
    eligible.powerKw, eligible.discharging, computeBaselinePrediction, if_neg (not_not.mpr rfl),
    if_neg (not_le.mpr eligible.aboveCritical)] at ok
  split_ifs at ok
  · cases ok
    exact (Option.some_inj.mp isReason).symm
  · cases ok
    cases isReason

/-- The arguments on which the baseline divides by zero, and no model is there to answer. -/
def DividesByZero (loaded : Option LoadedModel) (arguments : PredictionArguments) : Prop :=
  (arguments.capacityKwh ≠ none ∧
    (∃ percent ∈ arguments.stateOfCharge, arguments.criticalSocPercent < percent) ∧
    arguments.powerKw = some 0 ∧ arguments.status = some (.reported .discharging) ∧
    arguments.minDischargePowerKw ≤ 0) ∧
  ∀ model ∈ loaded, ∀ minutes, ¬ MlAnswers model arguments minutes

theorem computePrediction_ok_iff :
    (∃ result, computePrediction round loaded arguments = .ok result) ↔
      ¬ DividesByZero loaded arguments := by
  rcases answers_or_silent loaded arguments with ⟨model, isLoaded, minutes, answers⟩ | silent
  · refine iff_of_true ⟨_, computePrediction_of_answers isLoaded answers⟩ fun divides => ?_
    exact divides.2 model isLoaded minutes answers
  · have baseline := computeBaselinePrediction_ok_iff round arguments.capacityKwh
      arguments.stateOfCharge arguments.powerKw arguments.status arguments.criticalSocPercent
      arguments.minDischargePowerKw
    rw [computePrediction_of_silent silent, DividesByZero, and_iff_left silent, ← baseline,
      PredictionArguments.baseline]
    cases computeBaselinePrediction round arguments.capacityKwh arguments.stateOfCharge
        arguments.powerKw arguments.status arguments.criticalSocPercent
        arguments.minDischargePowerKw with
    | error error => simp [Except.map]
    | ok baseline => simp [Except.map]

/-- The service returns the number of a model exactly if a loaded model answers with it. -/
theorem computePrediction_ml_iff (minutes : ℚ) :
    (∃ result, computePrediction round loaded arguments = .ok result ∧
        result.predictionMethod = some .ml ∧
        result.predictedMinutesToCritical = some minutes) ↔
      ∃ model ∈ loaded, MlAnswers model arguments minutes := by
  constructor
  · rintro ⟨result, ok, isMl, isMinutes⟩
    rcases computePrediction_inv ok with
      ⟨model, isLoaded, answer, answers, rfl⟩ | ⟨-, baseline, isBaseline, rfl⟩
    · rw [← Option.some_inj.mp isMinutes]
      exact ⟨model, isLoaded, answers⟩
    · exact absurd isMl (baseline_predictionMethod isBaseline)
  · rintro ⟨model, isLoaded, answers⟩
    exact ⟨_, computePrediction_of_answers isLoaded answers, rfl, rfl⟩

theorem computePrediction_ml_fields {model : LoadedModel} (isLoaded : model ∈ loaded)
    {result : PredictionResult} (ok : computePrediction round loaded arguments = .ok result)
    (isMl : result.predictionMethod = some .ml) :
    result.predictionAvailable = true ∧ result.modelVersion = model.modelVersion ∧
      result.reason = none := by
  rcases computePrediction_inv ok with
    ⟨asked, isAsked, answer, answers, rfl⟩ | ⟨-, baseline, isBaseline, rfl⟩
  · obtain rfl : asked = model := Option.mem_unique isAsked isLoaded
    exact ⟨rfl, rfl, rfl⟩
  · exact absurd isMl (baseline_predictionMethod isBaseline)

/-- A prediction that is available without a model stays available with one. -/
theorem computePrediction_keeps {plain result : PredictionResult}
    (isPlain : computePrediction round none arguments = .ok plain)
    (available : plain.predictionAvailable = true)
    (ok : computePrediction round loaded arguments = .ok result) :
    result.predictionAvailable = true := by
  rcases computePrediction_inv ok with
    ⟨model, -, minutes, -, rfl⟩ | ⟨-, baseline, isBaseline, rfl⟩
  · rfl
  · rcases computePrediction_inv isPlain with
      ⟨model, impossible, -⟩ | ⟨-, without, isWithout, rfl⟩
    · cases impossible
    · rw [isBaseline] at isWithout
      rw [Except.ok.inj isWithout]
      exact available

/-- A prediction that the baseline withholds, but for want of power, stays withheld. -/
theorem computePrediction_withholds {baseline : BaselinePredictionResult}
    {result : PredictionResult} {reason : PredictionReason}
    (isBaseline : arguments.baseline round = .ok baseline)
    (isReason : baseline.reason = some reason)
    (other : reason ≠ .dischargeRateTooLow)
    (ok : computePrediction round loaded arguments = .ok result) :
    result.predictionAvailable = false := by
  rcases computePrediction_inv ok with
    ⟨model, -, minutes, ⟨percent, power, capacity, profile, features, eligible, -⟩, -⟩ |
      ⟨-, withheld, isWithheld, rfl⟩
  · exact absurd (baseline_reason_of_eligible eligible isBaseline isReason) other
  · rw [isBaseline] at isWithheld
    rw [← Except.ok.inj isWithheld]
    rcases computeBaselinePrediction_inv isBaseline with
      ⟨why, rfl⟩ | ⟨capacity, percent, power, -, -, -, -, -, -, -, rfl⟩
    · rfl
    · cases isReason

/-- What it means that the service extends the baseline conservatively, for one model and
one call. -/
structure ConservativeExtension (round : ℚ → ℚ) (loaded : Option LoadedModel)
    (arguments : PredictionArguments) : Prop where
  /-- The call returns. -/
  returns : ∃ result, computePrediction round loaded arguments = .ok result
  /-- It returns the number of a model exactly if a loaded model answers with it. -/
  ml : ∀ minutes, (∃ result, computePrediction round loaded arguments = .ok result ∧
      result.predictionMethod = some .ml ∧
      result.predictedMinutesToCritical = some minutes) ↔
    ∃ model ∈ loaded, MlAnswers model arguments minutes
  /-- The other fields are then those of a prediction by that model. -/
  mlFields : ∀ model ∈ loaded, ∀ result, computePrediction round loaded arguments = .ok result →
    result.predictionMethod = some .ml → result.predictionAvailable = true ∧
      result.modelVersion = model.modelVersion ∧ result.reason = none
  /-- In all other cases the five fields are the baseline's. -/
  fallback : (∀ model ∈ loaded, ∀ minutes, ¬ MlAnswers model arguments minutes) →
    ∃ baseline, arguments.baseline round = .ok baseline ∧
      computePrediction round loaded arguments = .ok baseline.served
  /-- A prediction that is available without a model stays available. -/
  keeps : ∀ plain result, computePrediction round none arguments = .ok plain →
    plain.predictionAvailable = true → computePrediction round loaded arguments = .ok result →
      result.predictionAvailable = true
  /-- A prediction that the baseline withholds, but for want of power, stays withheld. -/
  withholds : ∀ baseline result reason, arguments.baseline round = .ok baseline →
    baseline.reason = some reason → reason ≠ .dischargeRateTooLow →
      computePrediction round loaded arguments = .ok result → result.predictionAvailable = false

/-- The service extends the baseline conservatively on all arguments, but for those on
which the baseline divides by zero. -/
theorem conservativeExtension_iff (round : ℚ → ℚ) (loaded : Option LoadedModel)
    (arguments : PredictionArguments) :
    ConservativeExtension round loaded arguments ↔ ¬ DividesByZero loaded arguments := by
  refine ⟨fun extension => computePrediction_ok_iff.mp extension.returns, fun noDivision => ?_⟩
  have returns : ∃ result, computePrediction round loaded arguments = .ok result :=
    computePrediction_ok_iff.mpr noDivision
  exact
    { returns := returns
      ml := computePrediction_ml_iff
      mlFields := fun model isLoaded result => computePrediction_ml_fields isLoaded
      fallback := fun silent => by
        obtain ⟨result, ok⟩ := returns
        rcases computePrediction_inv ok with
          ⟨model, isLoaded, minutes, answers, -⟩ | ⟨-, baseline, isBaseline, rfl⟩
        · exact absurd answers (silent model isLoaded minutes)
        · exact ⟨baseline, isBaseline, ok⟩
      keeps := fun plain result => computePrediction_keeps
      withholds := fun baseline result reason => computePrediction_withholds }

end Service

/-! ### A minimum of zero -/

/-- A battery that reports to be discharging at no power. -/
def standingStill (minDischargePowerKw : ℚ) : PredictionArguments where
  capacityKwh := some 10
  stateOfCharge := some 50
  powerKw := some 0
  status := some (.reported .discharging)
  temperatureC := some 25
  healthPercent := some 100
  profileType := some .residential
  asOf := none
  history := []
  criticalSocPercent := 20
  minDischargePowerKw := minDischargePowerKw

/-- The default minimum keeps a power of zero from the division, a minimum of zero does
not. -/
theorem zero_minimum_divides :
    computePrediction id none (standingStill (1 / 10)) =
        .ok (BaselinePredictionResult.unavailable .dischargeRateTooLow).served ∧
      computePrediction id none (standingStill 0) = .error .zeroDivisionError ∧
      ¬ ConservativeExtension id none (standingStill 0) := by
  have raises : computePrediction id none (standingStill 0) = .error .zeroDivisionError := by
    decide +kernel
  refine ⟨by decide +kernel, raises, fun extension => ?_⟩
  obtain ⟨result, ok⟩ := extension.returns
  rw [raises] at ok
  cases ok

end VoltStream.Backend
