/-
Module: VoltStream.Proofs.FeatureSkew
Purpose: Training-serving skew: when the features the endpoint feeds to the model
  are those that training computes for the same reading.
Trusted boundary: none
Main exports: ServesFrom, TrainsFrom, Unskewed, rows_agree_iff, features_agree_iff
-/
import VoltStream.Proofs.FeatureWindows

namespace VoltStream.Ml

open Relational Backend

section Skew

variable (earlier : List Telemetry) (current : Telemetry)

/-- The readings before the current one that fit into the endpoint's query, newest
first; the current one takes the first row. -/
def newestRows : List Telemetry := earlier.reverse.take (predictionHistoryRowLimit - 1)

/-- One of the newest rows is between five and twenty minutes old. -/
def ServesFrom : Prop :=
  ∃ reading ∈ newestRows earlier,
    timedeltaMinutes rollingWindow5mMinutes ≤ age current reading ∧
      age current reading ≤ timedeltaMinutes predictionHistoryLookbackMinutes

/-- Some reading is at least fifteen minutes old, and some reading between five and
fifteen. -/
def TrainsFrom : Prop :=
  (∃ reading ∈ earlier, lookback ≤ age current reading) ∧
    ∃ reading ∈ earlier, timedeltaMinutes rollingWindow5mMinutes ≤ age current reading ∧
      age current reading ≤ lookback

/-- The powers of the last fifteen minutes that the query returns. -/
def keptPowers : List ℚ :=
  (lastMinutes rollingWindow15mMinutes current (newestRows earlier)).map Telemetry.powerKw ++
    [current.powerKw]

/-- The powers of the last fifteen minutes that the row limit cuts off. -/
def omittedPowers : List ℚ :=
  (lastMinutes rollingWindow15mMinutes current
    (earlier.reverse.drop (predictionHistoryRowLimit - 1))).map Telemetry.powerKw

/-- The history brings no skew: the battery has not just begun to report, it has not
paused, and no row that matters is cut off. -/
structure Unskewed : Prop where
  served : ServesFrom earlier current → TrainsFrom earlier current
  trained : TrainsFrom earlier current → ServesFrom earlier current
  uncut : TrainsFrom earlier current → omittedPowers earlier current ≠ [] →
    mean (omittedPowers earlier current) = mean (keptPowers earlier current)

end Skew

section Agreement

variable {earlier later : List Telemetry} {current : Telemetry} {battery : Battery}

theorem isReference_iff {reading : Telemetry} :
    isReference current reading = true ↔
      timedeltaMinutes rollingWindow5mMinutes ≤ age current reading := by
  rw [isReference, decide_eq_true_eq, age, le_sub_comm]

theorem withinLookback_iff {reading : Telemetry} {width : Int} :
    current.timestamp - width ≤ reading.timestamp ↔ age current reading ≤ width := by
  rw [age, sub_le_comm]

/-- Serving finds a reference exactly if it has one among the newest rows. -/
theorem isSome_served_iff :
    ((seen earlier current).find? (isReference current)).isSome = true ↔
      ServesFrom earlier current := by
  rw [List.find?_isSome, ServesFrom]
  constructor
  · rintro ⟨reading, isSeen, old⟩
    obtain ⟨isNew, within⟩ := List.mem_filter.mp isSeen
    exact ⟨reading, isNew, isReference_iff.mp old,
      withinLookback_iff.mp (of_decide_eq_true within)⟩
  · rintro ⟨reading, isNew, old, within⟩
    exact ⟨reading, List.mem_filter.mpr ⟨isNew, decide_eq_true (withinLookback_iff.mpr within)⟩,
      isReference_iff.mpr old⟩

/-- The reference that training takes from its window. -/
def trainingReference (earlier : List Telemetry) (current : Telemetry) : Option Telemetry :=
  earlier.reverse.find? fun reading =>
    current.timestamp - lookback ≤ reading.timestamp ∧ isReference current reading = true

theorem isSome_trained_iff :
    (trainingReference earlier current).isSome = true ↔
      ∃ reading ∈ earlier, timedeltaMinutes rollingWindow5mMinutes ≤ age current reading ∧
        age current reading ≤ lookback := by
  rw [trainingReference, List.find?_isSome]
  constructor
  · rintro ⟨reading, isEarlier, hit⟩
    obtain ⟨within, old⟩ := of_decide_eq_true hit
    exact ⟨reading, List.mem_reverse.mp isEarlier, isReference_iff.mp old,
      withinLookback_iff.mp within⟩
  · rintro ⟨reading, isEarlier, old, within⟩
    exact ⟨reading, List.mem_reverse.mpr isEarlier,
      decide_eq_true ⟨withinLookback_iff.mpr within, isReference_iff.mpr old⟩⟩

/-- What both sides compare the charge with is the newest reading that is old
enough. -/
theorem references_agree (falling : earlier.reverse.Pairwise fun first second =>
      second.timestamp < first.timestamp) {served trained : Telemetry}
    (one : (seen earlier current).find? (isReference current) = some served)
    (two : trainingReference earlier current = some trained) : served = trained := by
  have ofServed : earlier.reverse.find? (isReference current) = some served := by
    rw [seen, List.find?_filter] at one
    have wide : (newestRows earlier).find? (isReference current) = some served := by
      refine find?_of_narrow (fun reading hit => ?_) ?_ one
      · exact (of_decide_eq_true hit).2
      · refine (falling.sublist (List.take_sublist _ _)).imp fun less hit within => ?_
        obtain ⟨recent, -⟩ := of_decide_eq_true within
        exact decide_eq_true ⟨decide_eq_true ((of_decide_eq_true recent).trans less.le), hit⟩
    exact find?_of_take wide
  have ofTrained : earlier.reverse.find? (isReference current) = some trained := by
    refine find?_of_narrow (fun reading hit => (of_decide_eq_true hit).2) ?_ two
    refine falling.imp fun less hit within => ?_
    exact decide_eq_true ⟨(of_decide_eq_true within).1.trans less.le, hit⟩
  exact Option.some.inj (ofServed.symm.trans ofTrained)

theorem lastMinutes_seen {minutes : ℚ}
    (within : timedeltaMinutes minutes ≤ timedeltaMinutes predictionHistoryLookbackMinutes) :
    lastMinutes minutes current (seen earlier current) =
      lastMinutes minutes current (newestRows earlier) := by
  rw [lastMinutes, seen, List.filter_filter, lastMinutes, newestRows]
  apply List.filter_congr
  intro reading _
  rw [← Bool.decide_and, decide_eq_decide]
  exact ⟨fun hit => hit.1, fun hit => ⟨hit, by linarith⟩⟩

/-- With a reference in sight, the last five minutes are. -/
theorem last5m_seen (falling : earlier.reverse.Pairwise fun first second =>
      second.timestamp < first.timestamp) {served : Telemetry}
    (one : (seen earlier current).find? (isReference current) = some served) :
    lastMinutes rollingWindow5mMinutes current (seen earlier current) =
      (lastMinutes rollingWindow5mMinutes current earlier).reverse := by
  have isNew := (List.mem_filter.mp (List.mem_of_find?_eq_some one)).1
  have hit := List.find?_some one
  rw [isReference] at hit
  have old := of_decide_eq_true hit
  rw [lastMinutes_seen (by rw [window5m, lookback20m]; norm_num), lastMinutes, newestRows,
    filter_take_eq ?_ ⟨served, isNew, decide_eq_false (not_lt_of_ge old)⟩, List.filter_reverse,
    lastMinutes]
  exact falling.imp fun less hit => decide_eq_true ((of_decide_eq_true hit).trans less)

/-- All powers of the last fifteen minutes are those omitted and those kept. -/
theorem mean_last15m (earlier : List Telemetry) (current : Telemetry) :
    mean ((lastMinutes rollingWindow15mMinutes current earlier).map Telemetry.powerKw ++
        [current.powerKw]) =
      mean (omittedPowers earlier current ++ keptPowers earlier current) := by
  apply mean_perm
  rw [omittedPowers, keptPowers, ← List.append_assoc]
  apply List.Perm.append_right
  rw [← List.map_append]
  apply List.Perm.map
  have split : (lastMinutes rollingWindow15mMinutes current earlier.reverse) =
      lastMinutes rollingWindow15mMinutes current (newestRows earlier) ++
        lastMinutes rollingWindow15mMinutes current
          (earlier.reverse.drop (predictionHistoryRowLimit - 1)) := by
    rw [lastMinutes, lastMinutes, lastMinutes, ← List.filter_append, newestRows,
      List.take_append_drop]
  have all : (lastMinutes rollingWindow15mMinutes current earlier).Perm
      (lastMinutes rollingWindow15mMinutes current earlier.reverse) :=
    (List.reverse_perm earlier).symm.filter _
  exact all.trans (split ▸ List.perm_append_comm)

/-- The row that training computes, in terms of its reference. -/
def trainedRow (battery : Battery) (earlier : List Telemetry) (current : Telemetry) :
    Option FeatureRow :=
  if ∃ reading ∈ earlier, lookback ≤ age current reading then
    (trainingReference earlier current).map
      (featureRow battery current (lastMinutes rollingWindow5mMinutes current earlier)
        (lastMinutes rollingWindow15mMinutes current earlier))
  else none

/-- The row that serving computes, in terms of its reference. -/
def servedRow (battery : Battery) (earlier : List Telemetry) (current : Telemetry) :
    Option FeatureRow :=
  ((seen earlier current).find? (isReference current)).map
    (featureRow battery current (lastMinutes rollingWindow5mMinutes current (seen earlier current))
      (lastMinutes rollingWindow15mMinutes current (seen earlier current)))

theorem isSome_trainedRow_iff (battery : Battery) :
    (trainedRow battery earlier current).isSome = true ↔ TrainsFrom earlier current := by
  rw [trainedRow, TrainsFrom, ← isSome_trained_iff]
  split
  · next old => rw [Option.isSome_map, and_iff_right old]
  · next young => exact iff_of_false Bool.false_ne_true fun trains => young trains.1

theorem isSome_servedRow_iff (battery : Battery) :
    (servedRow battery earlier current).isSome = true ↔ ServesFrom earlier current := by
  rw [servedRow, Option.isSome_map, isSome_served_iff]

/-- Where both sides have a row, only the mean over fifteen minutes can differ. -/
theorem rows_eq_iff (battery : Battery) (falling : earlier.reverse.Pairwise fun first second =>
      second.timestamp < first.timestamp) (serves : ServesFrom earlier current)
    (trains : TrainsFrom earlier current) :
    servedRow battery earlier current = trainedRow battery earlier current ↔
      mean (keptPowers earlier current) =
        mean (omittedPowers earlier current ++ keptPowers earlier current) := by
  obtain ⟨served, one⟩ := Option.isSome_iff_exists.mp (isSome_served_iff.mpr serves)
  obtain ⟨trained, two⟩ := Option.isSome_iff_exists.mp (isSome_trained_iff.mpr trains.2)
  have kept : (lastMinutes rollingWindow15mMinutes current (seen earlier current)).map
      Telemetry.powerKw ++ [current.powerKw] = keptPowers earlier current := by
    rw [keptPowers, lastMinutes_seen (by rw [window15m, lookback20m]; norm_num)]
  have last5m : mean ((lastMinutes rollingWindow5mMinutes current earlier).reverse.map
      Telemetry.powerKw ++ [current.powerKw]) =
      mean ((lastMinutes rollingWindow5mMinutes current earlier).map Telemetry.powerKw ++
        [current.powerKw]) :=
    mean_perm (((List.reverse_perm _).map _).append_right _)
  rw [servedRow, trainedRow, if_pos trains.1, one, two, references_agree falling one two,
    Option.map_some, Option.map_some, Option.some.injEq, last5m_seen falling one]
  simp only [featureRow, last5m, kept, mean_last15m, FeatureRow.mk.injEq, true_and, and_true]

/-- The rows of the two sides are the same exactly if the history brings no skew. -/
theorem rows_agree_iff (battery : Battery) (falling : earlier.reverse.Pairwise fun first second =>
      second.timestamp < first.timestamp) :
    servedRow battery earlier current = trainedRow battery earlier current ↔
      Unskewed earlier current := by
  constructor
  · intro same
    have both : ServesFrom earlier current ↔ TrainsFrom earlier current := by
      rw [← isSome_servedRow_iff battery, same, isSome_trainedRow_iff battery]
    refine ⟨both.mp, both.mpr, fun trains omits => ?_⟩
    have means := (rows_eq_iff battery falling (both.mpr trains) trains).mp same
    exact (mean_append_eq_right_iff omits (by simp [keptPowers])).mp means.symm
  · intro unskewed
    by_cases trains : TrainsFrom earlier current
    · apply (rows_eq_iff battery falling (unskewed.trained trains) trains).mpr
      by_cases omits : omittedPowers earlier current = []
      · rw [omits, List.nil_append]
      · exact ((mean_append_eq_right_iff omits (by simp [keptPowers])).mpr
          (unskewed.uncut trains omits)).symm
    · have noServed := mt (isSome_servedRow_iff battery).mp
        fun serves => trains (unskewed.served serves)
      have noTrained := mt (isSome_trainedRow_iff battery).mp trains
      rw [Option.not_isSome_iff_eq_none] at noServed noTrained
      rw [noServed, noTrained]

/-- The newest reading of a battery mirrors its current state, is discharging and
above the critical charge; whatever is stored after it, the features the endpoint
feeds to the model for it are those that training computes for it, or neither
side has any, exactly if the history before it brings no skew. -/
theorem features_agree_iff {db : Database} {batteryId : BatteryId} {criticalSocPercent : ℚ}
    (registered : db.batteries.lookup batteryId = some battery)
    (history : loadTelemetry db.telemetry batteryId = earlier ++ [current])
    (rising : Rising (earlier ++ current :: later))
    (mirrored : db.currentState batteryId = some current.toCurrentState)
    (discharging : current.status = .discharging)
    (served : criticalSocPercent < current.stateOfCharge)
    (trained : Ml.criticalSocPercent < current.stateOfCharge) :
    (servedFeatures criticalSocPercent db batteryId).map asFeatureRow =
        historyFeatures (earlier ++ current :: later) earlier.length battery.capacityKwh
          battery.profileType ↔
      Unskewed earlier current := by
  have sorted : Rising (earlier ++ [current]) := by
    rw [List.append_cons] at rising
    exact (List.pairwise_append.mp rising).1
  have candidate : isCandidate current = true := decide_eq_true ⟨trained, discharging⟩
  have isSeen : ∀ reading ∈ seen earlier current, reading.timestamp < current.timestamp :=
    fun reading isSeen => sorted.before reading
      (List.mem_reverse.mp (List.mem_of_mem_take (List.mem_filter.mp isSeen).1))
  have fallingSeen : (seen earlier current).Pairwise fun first second =>
      second.timestamp < first.timestamp :=
    (sorted.falling.sublist (List.take_sublist _ _)).filter _
  rw [servedFeatures_eq registered history sorted mirrored discharging served,
    computeLiveFeatures_eq fallingSeen isSeen, historyFeatures_eq rising candidate,
    ← rows_agree_iff battery sorted.falling]
  rfl

end Agreement

/-! ### Two histories -/

/-- The sample fleet after these events, one request each. -/
def sampleStored (events : List TelemetryEvent) : Database :=
  events.foldl (fun db event => db.ingest Settings.default (.single event))
    (Database.registered sampleBatteries)

/-- A battery that reports after ten minutes for the second time: the endpoint feeds
its features to the model, training refuses them. -/
theorem short_history_is_served :
    let first := (sampleEvent 1 0 60).toTelemetry
    let current := (sampleEvent 2 600000000 50).toTelemetry
    let db := sampleStored [sampleEvent 1 0 60, sampleEvent 2 600000000 50]
    loadTelemetry db.telemetry sampleBatteryId = [first] ++ [current] ∧
      db.currentState sampleBatteryId = some current.toCurrentState ∧
      Rising ([first] ++ [current]) ∧ current.status = .discharging ∧
      criticalSocPercent < current.stateOfCharge ∧
      ¬ ((servedFeatures criticalSocPercent db sampleBatteryId).isSome = true ↔
        (historyFeatures ([first] ++ [current]) 1 10 .residential).isSome = true) := by
  decide +kernel

/-- Three readings, ten and six minutes apart. -/
theorem sample_features_agree :
    (servedFeatures criticalSocPercent (sampleStored [sampleEvent 1 0 60,
          sampleEvent 2 600000000 50, sampleEvent 3 960000000 45]) sampleBatteryId).map
        asFeatureRow =
      historyFeatures ([(sampleEvent 1 0 60).toTelemetry, (sampleEvent 2 600000000 50).toTelemetry]
        ++ (sampleEvent 3 960000000 45).toTelemetry :: []) 2 10 .residential ↔
    Unskewed [(sampleEvent 1 0 60).toTelemetry, (sampleEvent 2 600000000 50).toTelemetry]
      (sampleEvent 3 960000000 45).toTelemetry := by
  have registered : (sampleStored [sampleEvent 1 0 60, sampleEvent 2 600000000 50,
      sampleEvent 3 960000000 45]).batteries.lookup sampleBatteryId =
      sampleBatteries.lookup sampleBatteryId := by
    decide +kernel
  exact features_agree_iff registered (by decide +kernel) (by decide +kernel)
    (by decide +kernel) rfl (by decide +kernel) (by decide +kernel)

end VoltStream.Ml
