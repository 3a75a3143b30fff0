/-
Module: VoltStream.Proofs.FeatureAgreement
Purpose: The two implementations of the features are one function: serving, over
  an unordered history and the current reading, and training, over a sorted one.
Trusted boundary: none
Main exports: computeLiveFeatures_perm, computeFeaturesForPoint_eq,
  implementations_agree
-/
import VoltStream.Proofs.FeatureWindows

namespace VoltStream.Ml

open Relational Backend

/-! ### The order of the live history -/

section Order

variable {one two : List PriorReading}

theorem live_rollingPowerMean_perm (same : one.Perm two) (asOf : Timestamp)
    (currentPowerKw minutes : ℚ) :
    Live.rollingPowerMean one asOf currentPowerKw minutes =
      Live.rollingPowerMean two asOf currentPowerKw minutes :=
  mean_perm (((same.filter _).map _).append_right _)

/-- The reference is the newest candidate, wherever it stands. -/
theorem live_socChange_perm (same : one.Perm two)
    (apart : ∀ first ∈ one, ∀ second ∈ one,
      first.timestamp = second.timestamp → first = second)
    (asOf : Timestamp) (currentSoc minutes : ℚ) :
    Live.socChange one asOf currentSoc minutes = Live.socChange two asOf currentSoc minutes := by
  have reversed : ((one.filter fun reading =>
      reading.timestamp ≤ asOf - timedeltaMinutes minutes).reverse).Perm
      ((two.filter fun reading =>
        reading.timestamp ≤ asOf - timedeltaMinutes minutes).reverse) :=
    (List.reverse_perm _).trans ((same.filter _).trans (List.reverse_perm _).symm)
  have member : ∀ reading ∈ (one.filter fun reading =>
      reading.timestamp ≤ asOf - timedeltaMinutes minutes).reverse, reading ∈ one :=
    fun reading isCandidate => (List.mem_filter.mp (List.mem_reverse.mp isCandidate)).1
  unfold Live.socChange
  dsimp only
  rw [newestFrom_perm PriorReading.timestamp reversed]
  exact fun first isFirst second isSecond =>
    apart first (member first isFirst) second (member second isSecond)

/-- The live features do not depend on the order of the history. -/
theorem computeLiveFeatures_perm (same : one.Perm two)
    (apart : ∀ first ∈ one, ∀ second ∈ one,
      first.timestamp = second.timestamp → first = second)
    (asOf : Timestamp) (currentSoc currentPowerKw temperatureC healthPercent capacityKwh : ℚ)
    (profileType : ProfileType) :
    computeLiveFeatures one asOf currentSoc currentPowerKw temperatureC healthPercent
        capacityKwh profileType =
      computeLiveFeatures two asOf currentSoc currentPowerKw temperatureC healthPercent
        capacityKwh profileType := by
  rw [computeLiveFeatures, computeLiveFeatures, live_socChange_perm same apart,
    live_rollingPowerMean_perm same, live_rollingPowerMean_perm same]

end Order

/-! ### The sorted history -/

section Sorted

variable {earlier : List Telemetry} {current : Telemetry}

theorem Rising.apart (rising : Rising earlier) :
    ∀ first ∈ earlier, ∀ second ∈ earlier,
      first.timestamp = second.timestamp → first = second := by
  have nodup : (earlier.map Telemetry.timestamp).Nodup :=
    List.pairwise_map.mpr (rising.imp fun less => less.ne)
  exact fun first isFirst second isSecond => List.inj_on_of_nodup_map nodup isFirst isSecond

/-- A trailing window over the whole history ends with the current reading. -/
theorem rollingPowerMean_all (rising : Rising (earlier ++ [current])) {minutes : ℚ}
    (positive : 0 < timedeltaMinutes minutes) :
    rollingPowerMean (earlier ++ [current]) current.timestamp minutes =
      mean ((lastMinutes minutes current earlier.reverse).map Telemetry.powerKw ++
        [current.powerKw]) := by
  have window : (earlier ++ [current]).filter (fun reading =>
      current.timestamp - timedeltaMinutes minutes < reading.timestamp ∧
        reading.timestamp ≤ current.timestamp) =
      lastMinutes minutes current earlier ++ [current] := by
    rw [List.filter_append]
    congr 1
    · apply List.filter_congr
      intro reading isEarlier
      exact decide_eq_decide.mpr (and_iff_left (rising.before reading isEarlier).le)
    · simp [positive]
  have unordered : (lastMinutes minutes current earlier).Perm
      (lastMinutes minutes current earlier.reverse) :=
    (List.reverse_perm earlier).symm.filter _
  rw [rollingPowerMean, window, List.map_append, List.map_singleton]
  exact mean_perm ((unordered.map _).append_right _)

/-- The last row at or before the cutoff is the first such reading looking back. -/
theorem socChange_all (earlier : List Telemetry) (current : Telemetry) :
    Ml.socChange (earlier ++ [current]) current.timestamp current.stateOfCharge
        rollingWindow5mMinutes =
      (earlier.reverse.find? (isReference current)).map fun reference =>
        current.stateOfCharge - reference.stateOfCharge := by
  have positive : (0 : Int) < timedeltaMinutes rollingWindow5mMinutes := by
    rw [window5m]
    norm_num
  unfold Ml.socChange
  dsimp only
  rw [List.filter_append, List.filter_cons_of_neg (by simp [positive]), List.filter_nil,
    List.append_nil, List.getLast?_eq_head?_reverse, ← List.filter_reverse, List.head?_filter]
  rfl

/-- The features that training computes for the last reading of a sorted history. -/
theorem computeFeaturesForPoint_eq (rising : Rising (earlier ++ [current])) (battery : Battery) :
    computeFeaturesForPoint (earlier ++ [current]) battery.capacityKwh battery.profileType =
      some (match earlier.reverse.find? (isReference current) with
        | some reference =>
            featureRow battery current
              (lastMinutes rollingWindow5mMinutes current earlier.reverse)
              (lastMinutes rollingWindow15mMinutes current earlier.reverse) reference
        | none =>
            { featureRow battery current
                (lastMinutes rollingWindow5mMinutes current earlier.reverse)
                (lastMinutes rollingWindow15mMinutes current earlier.reverse) current with
              socChange5m := none }) := by
  have positive5m : (0 : Int) < timedeltaMinutes rollingWindow5mMinutes := by
    rw [window5m]
    norm_num
  have positive15m : (0 : Int) < timedeltaMinutes rollingWindow15mMinutes := by
    rw [window15m]
    norm_num
  simp only [computeFeaturesForPoint, List.getLast?_append, List.getLast?_singleton,
    Option.some_or, Option.map_some]
  rw [rollingPowerMean_all rising positive5m, rollingPowerMean_all rising positive15m,
    socChange_all]
  cases earlier.reverse.find? (isReference current) <;> rfl

end Sorted

/-- For every history with strictly rising timestamps and every order of all but its
last row: live serving refuses exactly if training has no `soc_change_5m`, and
otherwise all ten fields are the same. -/
theorem implementations_agree (history : List Telemetry) (nonempty : history ≠ [])
    (rising : Rising history) (live : List PriorReading)
    (shuffled : live.Perm (history.dropLast.map toPrior)) (capacityKwh : ℚ)
    (profileType : ProfileType) :
    let current := history.getLast nonempty
    let served := computeLiveFeatures live current.timestamp current.stateOfCharge
      current.powerKw current.temperatureC current.healthPercent capacityKwh profileType
    ∃ trained, computeFeaturesForPoint history capacityKwh profileType = some trained ∧
      (served = none ↔ trained.socChange5m = none) ∧
      ∀ row, served = some row → asFeatureRow row = trained := by
  intro current served
  obtain ⟨earlier, split⟩ : ∃ earlier, earlier = history.dropLast := ⟨_, rfl⟩
  have whole : earlier ++ [current] = history := by
    rw [split]
    exact List.dropLast_append_getLast nonempty
  have sorted : Rising (earlier ++ [current]) := whole ▸ rising
  let battery : Battery :=
    { batteryId := current.batteryId
      capacityKwh := capacityKwh
      maxPowerKw := 0
      nominalVoltage := 0
      latitude := none
      longitude := none
      installationDate := none
      profileType := profileType
      createdAt := 0 }
  have apart : ∀ first ∈ live, ∀ second ∈ live,
      first.timestamp = second.timestamp → first = second := by
    intro first isFirst second isSecond same
    rw [shuffled.mem_iff, ← split, List.mem_map] at isFirst isSecond
    obtain ⟨firstRow, inFirst, rfl⟩ := isFirst
    obtain ⟨secondRow, inSecond, rfl⟩ := isSecond
    rw [sorted.front.apart firstRow inFirst secondRow inSecond same]
  have looksBack : live.Perm (earlier.reverse.map toPrior) := by
    rw [← split] at shuffled
    exact shuffled.trans ((List.reverse_perm earlier).symm.map toPrior)
  have servedRow : served.map asFeatureRow =
      (earlier.reverse.find? (isReference current)).map (featureRow battery current
        (lastMinutes rollingWindow5mMinutes current earlier.reverse)
        (lastMinutes rollingWindow15mMinutes current earlier.reverse)) := by
    rw [← computeLiveFeatures_eq sorted.falling fun reading isEarlier =>
      sorted.before reading (List.mem_reverse.mp isEarlier)]
    exact congrArg _ (computeLiveFeatures_perm looksBack apart ..)
  have trainedRow := computeFeaturesForPoint_eq sorted battery
  rw [whole] at trainedRow
  refine ⟨_, trainedRow, ?_⟩
  cases found : earlier.reverse.find? (isReference current) with
  | none =>
      rw [found, Option.map_none, Option.map_eq_none_iff] at servedRow
      refine ⟨iff_of_true servedRow rfl, fun row isRow => ?_⟩
      rw [servedRow] at isRow
      cases isRow
  | some reference =>
      rw [found, Option.map_some] at servedRow
      obtain ⟨row, isRow, sameRow⟩ := Option.map_eq_some_iff.mp servedRow
      refine ⟨iff_of_false (by rw [isRow]; exact Option.some_ne_none row) (by simp [featureRow]),
        fun other isOther => ?_⟩
      obtain rfl := Option.some.inj (isRow.symm.trans isOther)
      exact sameRow

/-- A reading that is exactly five minutes old when the current one is taken, and
one in between. -/
def sampleHistory : List Telemetry :=
  [(sampleEvent 1 0 60).toTelemetry, (sampleEvent 2 60000000 58).toTelemetry,
    (sampleEvent 3 300000000 50).toTelemetry]

/-- The live history may come newest first. -/
theorem sample_implementations_agree :
    ∃ trained, computeFeaturesForPoint sampleHistory 10 .residential = some trained ∧
      (computeLiveFeatures [toPrior (sampleEvent 2 60000000 58).toTelemetry,
          toPrior (sampleEvent 1 0 60).toTelemetry] 300000000 50 1 25 100 10 .residential = none ↔
        trained.socChange5m = none) ∧
      ∀ row, computeLiveFeatures [toPrior (sampleEvent 2 60000000 58).toTelemetry,
          toPrior (sampleEvent 1 0 60).toTelemetry] 300000000 50 1 25 100 10 .residential =
            some row → asFeatureRow row = trained :=
  implementations_agree sampleHistory (by decide) (by decide)
    [toPrior (sampleEvent 2 60000000 58).toTelemetry, toPrior (sampleEvent 1 0 60).toTelemetry]
    (List.Perm.swap ..) 10 .residential

end VoltStream.Ml
