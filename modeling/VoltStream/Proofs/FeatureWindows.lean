/-
Module: VoltStream.Proofs.FeatureWindows
Purpose: Which readings enter the features of a reading: in serving, and in
  training once telemetry has gone on.
Trusted boundary: none
Main exports: seen, servedFeatures_eq, window_eq, historyFeatures_eq
-/
import VoltStream.Relational.Newest
import VoltStream.Proofs.TrailingWindow
import VoltStream.Backend.Prediction

namespace VoltStream.Ml

open Relational Backend

/-! ### The windows in microseconds -/

theorem lookback20m : timedeltaMinutes predictionHistoryLookbackMinutes = 1200000000 := by
  decide +kernel

/-- How much older a reading is. -/
def age (current reading : Telemetry) : Int := current.timestamp - reading.timestamp

/-- What stands before a reading, in strictly rising order. -/
abbrev Rising (history : List Telemetry) : Prop :=
  history.Pairwise fun first second => first.timestamp < second.timestamp

section Rising

variable {earlier : List Telemetry} {current : Telemetry}

theorem Rising.before (rising : Rising (earlier ++ [current])) :
    ∀ reading ∈ earlier, reading.timestamp < current.timestamp :=
  fun reading isEarlier => (List.pairwise_append.mp rising).2.2 reading isEarlier current
    (List.mem_singleton_self current)

theorem Rising.front (rising : Rising (earlier ++ [current])) : Rising earlier :=
  (List.pairwise_append.mp rising).1

theorem Rising.falling (rising : Rising (earlier ++ [current])) :
    earlier.reverse.Pairwise fun first second => second.timestamp < first.timestamp :=
  List.pairwise_reverse.mpr rising.front

end Rising

/-! ### Serving -/

def toPrior (reading : Telemetry) : PriorReading where
  timestamp := reading.timestamp
  stateOfCharge := reading.stateOfCharge
  powerKw := reading.powerKw

/-- What the endpoint's query leaves of the readings before the current one, newest
first. -/
def seen (earlier : List Telemetry) (current : Telemetry) : List Telemetry :=
  (earlier.reverse.take (predictionHistoryRowLimit - 1)).filter fun reading =>
    current.timestamp - timedeltaMinutes predictionHistoryLookbackMinutes ≤ reading.timestamp

section Serving

variable {db : Database} {batteryId : BatteryId} {battery : Battery}
  {earlier : List Telemetry} {current : Telemetry}

theorem getBatteryTelemetryHistory_eq (registered : db.batteries.lookup batteryId = some battery)
    (history : loadTelemetry db.telemetry batteryId = earlier ++ [current])
    (rising : Rising (earlier ++ [current])) (start stop : Timestamp) (limit : Nat) :
    getBatteryTelemetryHistory db batteryId (some start) (some stop) limit =
      .ok ((((earlier ++ [current]).filter fun reading =>
        start ≤ reading.timestamp ∧ reading.timestamp ≤ stop).reverse).take limit) := by
  have total : Std.Total fun first second : Telemetry => second.timestamp ≤ first.timestamp :=
    ⟨fun first second => le_total second.timestamp first.timestamp⟩
  have trans : IsTrans Telemetry fun first second => second.timestamp ≤ first.timestamp :=
    ⟨fun _ _ _ one two => le_trans two one⟩
  have stored : (earlier ++ [current]).Perm
      (db.telemetry.rows.filter fun reading => reading.batteryId = batteryId) := by
    rw [← history]
    exact List.perm_insertionSort ..
  have within := stored.filter fun reading =>
    start ≤ reading.timestamp ∧ reading.timestamp ≤ stop
  rw [List.filter_filter] at within
  unfold getBatteryTelemetryHistory
  rw [registered]
  dsimp only
  congr 2
  apply insertionSort_eq
  · refine (List.reverse_perm _).trans (within.trans (List.Perm.of_eq ?_))
    apply List.filter_congr
    intro reading _
    simp [Bool.and_comm _ (decide (reading.batteryId = batteryId))]
  · rw [List.pairwise_reverse]
    exact (rising.filter _).imp fun less => ⟨less.le, not_le_of_gt less⟩

/-- The query returns the current reading and what is seen before it. -/
theorem queried_eq (rising : Rising (earlier ++ [current])) :
    (((((earlier ++ [current]).filter fun reading =>
        current.timestamp - timedeltaMinutes predictionHistoryLookbackMinutes ≤
            reading.timestamp ∧
          reading.timestamp ≤ current.timestamp).reverse).take predictionHistoryRowLimit).filter
      fun row => row.timestamp < current.timestamp) = seen earlier current := by
  have before := rising.before
  have inRange : ((earlier ++ [current]).filter fun reading =>
      current.timestamp - timedeltaMinutes predictionHistoryLookbackMinutes ≤ reading.timestamp ∧
        reading.timestamp ≤ current.timestamp) =
      (earlier.filter fun reading =>
        current.timestamp - timedeltaMinutes predictionHistoryLookbackMinutes ≤
          reading.timestamp) ++ [current] := by
    rw [List.filter_append]
    congr 1
    · apply List.filter_congr
      intro reading isEarlier
      simp [(before reading isEarlier).le]
    · simp [lookback20m]
  have closed : earlier.reverse.Pairwise fun first second =>
      decide (current.timestamp - timedeltaMinutes predictionHistoryLookbackMinutes ≤
        second.timestamp) = true →
      decide (current.timestamp - timedeltaMinutes predictionHistoryLookbackMinutes ≤
        first.timestamp) = true := by
    exact rising.falling.imp fun less hit =>
      decide_eq_true ((of_decide_eq_true hit).trans less.le)
  rw [inRange, List.reverse_append, List.reverse_singleton, List.singleton_append,
    ← List.filter_reverse, predictionHistoryRowLimit, List.take_succ_cons,
    List.filter_cons_of_neg (by simp), take_filter closed]
  apply List.filter_eq_self.mpr
  intro reading isSeen
  have isEarlier := List.mem_reverse.mp (List.mem_of_mem_take (List.mem_filter.mp isSeen).1)
  exact decide_eq_true (before reading isEarlier)

theorem live_socChange_eq (falling : earlier.Pairwise fun first second =>
      second.timestamp < first.timestamp) (asOf : Timestamp) (currentSoc minutes : ℚ) :
    Live.socChange (earlier.map toPrior) asOf currentSoc minutes =
      (earlier.find? fun reading => reading.timestamp ≤ asOf - timedeltaMinutes minutes).map
        fun reference => currentSoc - reference.stateOfCharge := by
  unfold Live.socChange
  dsimp only
  rw [List.filter_map, ← List.map_reverse, newestFrom_map, Option.map_map]
  rw [newestFrom_reverse (fun item => (toPrior item).timestamp) (falling.filter _),
    List.head?_filter]
  rfl

theorem live_rollingPowerMean_eq
    (before : ∀ reading ∈ earlier, reading.timestamp < current.timestamp) (minutes : ℚ) :
    Live.rollingPowerMean (earlier.map toPrior) current.timestamp current.powerKw minutes =
      mean ((earlier.filter fun reading =>
        current.timestamp - timedeltaMinutes minutes < reading.timestamp).map Telemetry.powerKw ++
          [current.powerKw]) := by
  unfold Live.rollingPowerMean
  dsimp only
  rw [List.filter_map, List.map_map]
  congr 3
  apply List.filter_congr
  intro reading isEarlier
  exact decide_eq_decide.mpr (and_iff_left (before reading isEarlier))

/-- What the endpoint feeds to the model, from what it has seen. -/
theorem servedFeatures_eq {criticalSocPercent : ℚ}
    (registered : db.batteries.lookup batteryId = some battery)
    (history : loadTelemetry db.telemetry batteryId = earlier ++ [current])
    (rising : Rising (earlier ++ [current]))
    (mirrored : db.currentState batteryId = some current.toCurrentState)
    (discharging : current.status = .discharging)
    (above : criticalSocPercent < current.stateOfCharge) :
    servedFeatures criticalSocPercent db batteryId =
      computeLiveFeatures ((seen earlier current).map toPrior) current.timestamp
        current.stateOfCharge current.powerKw current.temperatureC current.healthPercent
        battery.capacityKwh battery.profileType := by
  have queried := queried_eq rising
  simp only [servedFeatures, predictionInput, registered, mirrored, Telemetry.toCurrentState,
    getBatteryTelemetryHistory_eq registered history rising]
  change PredictionInput.modelFeatures _ = _
  simp only [PredictionInput.modelFeatures, PredictionInput.mlPredictionCouldApply, discharging,
    above, and_self, decide_true, if_true, Option.getD_some, queried]
  rfl

end Serving

/-! ### Training -/

section Training

variable {earlier later : List Telemetry} {current : Telemetry}

/-- The trailing window of a reading: what is at most a lookback older. -/
theorem window_eq (rising : Rising (earlier ++ current :: later))
    (candidate : isCandidate current = true) :
    ((earlier ++ current :: later).take (earlier.length + 1)).drop
        (windowStart (earlier ++ current :: later) (earlier.length + 1)) =
      (earlier.filter fun reading => current.timestamp - lookback ≤ reading.timestamp) ++
        [current] := by
  have here : (earlier ++ current :: later)[earlier.length]? = some current := by simp
  have upTo : (earlier ++ current :: later).take (earlier.length + 1) = earlier ++ [current] := by
    rw [List.append_cons, List.take_left' (by simp)]
  rw [window_eq_trailingWindow (rising.imp fun less => less.le) here candidate, trailingWindow,
    upTo, List.filter_append]
  congr 1
  simp [lookback_eq]

/-- The readings of the trailing window that are newer than a shorter one's cutoff
are all readings that are. -/
theorem recent_of_window (earlier : List Telemetry) (current : Telemetry) {width : Int}
    (within : width ≤ lookback) (positive : 0 < width)
    (before : ∀ reading ∈ earlier, reading.timestamp < current.timestamp) :
    (((earlier.filter fun reading => current.timestamp - lookback ≤ reading.timestamp) ++
        [current]).filter fun reading =>
      current.timestamp - width < reading.timestamp ∧ reading.timestamp ≤ current.timestamp) =
      (earlier.filter fun reading => current.timestamp - width < reading.timestamp) ++
        [current] := by
  rw [List.filter_append, List.filter_filter]
  congr 1
  · apply List.filter_congr
    intro reading isEarlier
    have old := (before reading isEarlier).le
    rw [← Bool.decide_and, decide_eq_decide]
    constructor
    · exact fun hit => hit.1.1
    · exact fun hit => ⟨⟨hit, old⟩, by linarith⟩
  · simp [positive]

theorem rollingPowerMean_eq (earlier : List Telemetry) (current : Telemetry) {minutes : ℚ}
    (within : timedeltaMinutes minutes ≤ lookback) (positive : 0 < timedeltaMinutes minutes)
    (before : ∀ reading ∈ earlier, reading.timestamp < current.timestamp) :
    rollingPowerMean ((earlier.filter fun reading =>
        current.timestamp - lookback ≤ reading.timestamp) ++ [current]) current.timestamp minutes =
      mean ((earlier.filter fun reading =>
        current.timestamp - timedeltaMinutes minutes < reading.timestamp).map Telemetry.powerKw ++
          [current.powerKw]) := by
  simp only [rollingPowerMean, recent_of_window earlier current within positive before,
    List.map_append, List.map_singleton]

theorem socChange_eq (earlier : List Telemetry) (current : Telemetry) {minutes : ℚ}
    (positive : 0 < timedeltaMinutes minutes) :
    Ml.socChange ((earlier.filter fun reading =>
        current.timestamp - lookback ≤ reading.timestamp) ++ [current]) current.timestamp
        current.stateOfCharge minutes =
      (earlier.reverse.find? fun reading =>
        current.timestamp - lookback ≤ reading.timestamp ∧
          reading.timestamp ≤ current.timestamp - timedeltaMinutes minutes).map
        fun reference => current.stateOfCharge - reference.stateOfCharge := by
  unfold Ml.socChange
  dsimp only
  rw [List.filter_append, List.filter_filter, List.filter_cons_of_neg (by simp [positive]),
    List.filter_nil, List.append_nil, List.getLast?_eq_head?_reverse, ← List.filter_reverse,
    List.head?_filter]
  congr 2
  funext reading
  rw [← Bool.decide_and, decide_eq_decide]
  exact and_comm

end Training

/-! ### One row for both sides -/

/-- The features of a reading, from the readings of the last five and fifteen
minutes before it and the reading its charge is compared with. -/
def featureRow (battery : Battery) (current : Telemetry) (last5m last15m : List Telemetry)
    (reference : Telemetry) : FeatureRow where
  stateOfCharge := current.stateOfCharge
  powerKw := current.powerKw
  temperatureC := current.temperatureC
  healthPercent := current.healthPercent
  capacityKwh := battery.capacityKwh
  rollingPower5m := mean (last5m.map Telemetry.powerKw ++ [current.powerKw])
  rollingPower15m := mean (last15m.map Telemetry.powerKw ++ [current.powerKw])
  socChange5m := some (current.stateOfCharge - reference.stateOfCharge)
  hourOfDay := hourOfDay current.timestamp
  profileType := battery.profileType

/-- The live features as a row of training's. -/
def asFeatureRow (live : LiveFeatureRow) : FeatureRow where
  stateOfCharge := live.stateOfCharge
  powerKw := live.powerKw
  temperatureC := live.temperatureC
  healthPercent := live.healthPercent
  capacityKwh := live.capacityKwh
  rollingPower5m := live.rollingPower5m
  rollingPower15m := live.rollingPower15m
  socChange5m := some live.socChange5m
  hourOfDay := live.hourOfDay
  profileType := live.profileType

section Rows

variable {earlier later : List Telemetry} {current : Telemetry} {battery : Battery}

/-- Readings newer than this many minutes before the current one. -/
def lastMinutes (minutes : ℚ) (current : Telemetry) (readings : List Telemetry) :
    List Telemetry :=
  readings.filter fun reading => current.timestamp - timedeltaMinutes minutes < reading.timestamp

/-- A reading old enough for the charge to be compared with. -/
def isReference (current reading : Telemetry) : Bool :=
  reading.timestamp ≤ current.timestamp - timedeltaMinutes rollingWindow5mMinutes

/-- The live features, from falling readings. -/
theorem computeLiveFeatures_eq {readings : List Telemetry}
    (falling : readings.Pairwise fun first second => second.timestamp < first.timestamp)
    (before : ∀ reading ∈ readings, reading.timestamp < current.timestamp) :
    (computeLiveFeatures (readings.map toPrior) current.timestamp current.stateOfCharge
        current.powerKw current.temperatureC current.healthPercent battery.capacityKwh
        battery.profileType).map asFeatureRow =
      (readings.find? (isReference current)).map (featureRow battery current
        (lastMinutes rollingWindow5mMinutes current readings)
        (lastMinutes rollingWindow15mMinutes current readings)) := by
  have change : Live.socChange (readings.map toPrior) current.timestamp current.stateOfCharge
      Live.rollingWindow5mMinutes = (readings.find? (isReference current)).map
        fun reference => current.stateOfCharge - reference.stateOfCharge :=
    live_socChange_eq falling ..
  rw [computeLiveFeatures, change, live_rollingPowerMean_eq before,
    live_rollingPowerMean_eq before]
  cases readings.find? (isReference current) <;> rfl

/-- The features that training computes for a reading, whatever has been stored
after it. -/
theorem historyFeatures_eq (rising : Rising (earlier ++ current :: later))
    (candidate : isCandidate current = true) :
    historyFeatures (earlier ++ current :: later) earlier.length battery.capacityKwh
        battery.profileType =
      if ∃ reading ∈ earlier, lookback ≤ age current reading then
        (earlier.reverse.find? fun reading =>
            current.timestamp - lookback ≤ reading.timestamp ∧
              isReference current reading = true).map
          (featureRow battery current (lastMinutes rollingWindow5mMinutes current earlier)
            (lastMinutes rollingWindow15mMinutes current earlier))
      else none := by
  have sorted : Rising (earlier ++ [current]) := by
    rw [List.append_cons] at rising
    exact (List.pairwise_append.mp rising).1
  have here : (earlier ++ current :: later)[earlier.length]? = some current := by simp
  have window := window_eq rising candidate
  have positive : (0 : Int) < lookback := by rw [lookback_eq]; norm_num
  unfold historyFeatures
  rw [here, window]
  cases earlier with
  | nil => simp [positive]
  | cons first rest =>
      have old : (∃ reading ∈ first :: rest, lookback ≤ age current reading) ↔
          ¬ current.timestamp - first.timestamp < lookback := by
        rw [not_lt]
        constructor
        · rintro ⟨reading, isEarlier, old⟩
          rcases List.mem_cons.mp isEarlier with rfl | isLater
          · exact old
          · have after := (List.pairwise_cons.mp sorted.front).1 reading isLater
            unfold age at old
            linarith
        · exact fun old => ⟨first, List.mem_cons_self, old⟩
      simp only [List.cons_append, List.head?_cons]
      by_cases young : current.timestamp - first.timestamp < lookback
      · rw [if_pos young, if_neg (fun isOld => (old.mp isOld) young)]
      · rw [if_neg young, if_pos (old.mpr young), computeFeaturesForPoint]
        simp only [List.getLast?_append, List.getLast?_singleton, Option.some_or, Option.map_some]
        rw [rollingPowerMean_eq _ _ (by rw [window5m, lookback_eq]; norm_num)
            (by rw [window5m]; norm_num) sorted.before,
          rollingPowerMean_eq _ _ (by rw [window15m, lookback_eq]) (by rw [window15m]; norm_num)
            sorted.before,
          socChange_eq _ _ (by rw [window5m]; norm_num)]
        simp only [isReference, decide_eq_true_eq]
        cases (first :: rest).reverse.find? _ <;> rfl

end Rows

end VoltStream.Ml
