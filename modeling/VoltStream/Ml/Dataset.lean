/-
Module: VoltStream.Ml.Dataset
Purpose: The dataset builder of training: the part of it that looks back from a
  reading, with the trailing window whose left edge only moves forward, the whole
  pass over one battery's history, and the one over all batteries.
Trusted boundary: human-reviewed spec of `_load_telemetry`, `_next_critical_index`,
  `_build_rows_for_battery` and `build_dataset` in `ml/training/build_dataset.py`
Main exports: loadTelemetry, isCandidate, advance, windowStart, historyFeatures,
  nextCriticalIndex, TrainingRow, Stats, BuildState, buildTurn, buildLoop,
  buildRowsForBattery, DatasetStats, buildGroup, buildDataset
-/
import VoltStream.Ml.Features
import VoltStream.Relational.Group

namespace VoltStream.Ml

open Relational Backend

/-- The `CRITICAL_SOC_PERCENT` of training. -/
def criticalSocPercent : ℚ := 20

/-- `_load_telemetry`, for one battery: `ORDER BY battery_id, timestamp`. -/
def loadTelemetry (telemetry : Table Telemetry Telemetry.eventId) (batteryId : BatteryId) :
    List Telemetry :=
  List.insertionSort (fun first second => first.timestamp ≤ second.timestamp)
    (telemetry.rows.filter fun reading => reading.batteryId = batteryId)

def lookback : Int := timedeltaMinutes maxHistoryWindowMinutes

/-- Checks 1 and 2: above the critical threshold, and discharging. -/
def isCandidate (reading : Telemetry) : Bool :=
  criticalSocPercent < reading.stateOfCharge ∧ reading.status = .discharging

/-- The `while` loop that advances the left edge of the window. -/
def advance (telemetry : List Telemetry) (asOf : Timestamp) (windowStart : Nat) : Nat :=
  windowStart + ((telemetry.drop windowStart).takeWhile fun reading =>
    reading.timestamp < asOf - lookback).length

/-- `window_start` after the turns of this many readings. -/
def windowStart (telemetry : List Telemetry) : Nat → Nat
  | 0 => 0
  | i + 1 =>
      match telemetry[i]? with
      | some reading =>
          if isCandidate reading then
            advance telemetry reading.timestamp (windowStart telemetry i)
          else windowStart telemetry i
      | none => windowStart telemetry i

/-- Checks 3 and 3b for the reading at index `i`: the first reading of all is a full
lookback older, and no feature is NaN.  These are the features of its row. -/
def historyFeatures (telemetry : List Telemetry) (i : Nat) (capacityKwh : ℚ)
    (profileType : ProfileType) : Option FeatureRow :=
  match telemetry.head?, telemetry[i]? with
  | some first, some reading =>
      if reading.timestamp - first.timestamp < lookback then none
      else
        let window := (telemetry.take (i + 1)).drop (windowStart telemetry (i + 1))
        match computeFeaturesForPoint window capacityKwh profileType with
        | some features => if features.socChange5m.isNone then none else some features
        | none => none
  | _, _ => none

/-! ### One battery's rows -/

/-- The backward pass of `_next_critical_index` from this position on: what it writes,
and the `last_critical_pos` it is left with.  The `-1` of the source is `none`. -/
def nextCriticalPass (i : Nat) : List ℚ → List (Option Nat) × Option Nat
  | [] => ([], none)
  | soc :: rest =>
      let later := nextCriticalPass (i + 1) rest
      (later.2 :: later.1, if soc ≤ criticalSocPercent then some i else later.2)

/-- `_next_critical_index`. -/
def nextCriticalIndex (soc : List ℚ) : List (Option Nat) := (nextCriticalPass 0 soc).1

/-- A row of the training dataset. -/
structure TrainingRow where
  batteryId : BatteryId
  timestamp : Timestamp
  features : FeatureRow
  minutesToCritical : ℚ
deriving Repr, DecidableEq

/-- The keys of `stats` that the builder counts under. -/
structure Stats where
  alreadyAtOrBelowCritical : Nat := 0
  notDischarging : Nat := 0
  insufficientHistory : Nat := 0
  noFutureCriticalPoint : Nat := 0
  eligible : Nat := 0
deriving Repr, DecidableEq

def Stats.total (stats : Stats) : Nat :=
  stats.alreadyAtOrBelowCritical + stats.notDischarging + stats.insufficientHistory +
    stats.noFutureCriticalPoint + stats.eligible

/-- What the loop carries from reading to reading. -/
structure BuildState where
  windowStart : Nat
  rows : List TrainingRow
  stats : Stats
deriving Repr, DecidableEq

/-- The `while` loop, over the readings from the left edge on; `none` is the
`IndexError` of an edge past the last reading. -/
def advanceLoop (cutoff : Timestamp) : List Telemetry → Nat → Option Nat
  | [], _ => none
  | reading :: rest, windowStart =>
      if reading.timestamp < cutoff then advanceLoop cutoff rest (windowStart + 1)
      else some windowStart

section Battery

variable (batteryId : BatteryId) (telemetry : List Telemetry) (capacityKwh : ℚ)
  (profileType : ProfileType)

/-- One turn of the loop; `none` is an `IndexError`. -/
def buildTurn (state : BuildState) (i : Nat) : Option BuildState := do
  let reading ← telemetry[i]?
  let asOf := reading.timestamp
  let stats := state.stats
  if reading.stateOfCharge ≤ criticalSocPercent then
    some { state with
      stats.alreadyAtOrBelowCritical := stats.alreadyAtOrBelowCritical + 1 }
  else if reading.status ≠ .discharging then
    some { state with stats.notDischarging := stats.notDischarging + 1 }
  else
    let windowStart ← advanceLoop (asOf - lookback) (telemetry.drop state.windowStart)
      state.windowStart
    let moved := { state with windowStart := windowStart }
    let first ← telemetry.head?
    if asOf - first.timestamp < lookback then
      some { moved with stats.insufficientHistory := stats.insufficientHistory + 1 }
    else
      match ← (nextCriticalIndex (telemetry.map Telemetry.stateOfCharge))[i]? with
      | none => some { moved with stats.noFutureCriticalPoint := stats.noFutureCriticalPoint + 1 }
      | some j =>
          let window := (telemetry.take (i + 1)).drop windowStart
          let features ← computeFeaturesForPoint window capacityKwh profileType
          -- of the features only `soc_change_5m` can be NaN
          if features.socChange5m.isNone then
            some { moved with stats.insufficientHistory := stats.insufficientHistory + 1 }
          else
            let critical ← telemetry[j]?
            let totalSeconds : ℚ := (critical.timestamp - asOf : Int) / 1000000
            some { moved with
              rows := state.rows ++ [
                { batteryId := batteryId
                  timestamp := asOf
                  features := features
                  minutesToCritical := totalSeconds / 60 }]
              stats.eligible := stats.eligible + 1 }

/-- The loop after this many turns. -/
def buildLoop (stats : Stats) (turns : Nat) : Option BuildState :=
  (List.range turns).foldlM (buildTurn batteryId telemetry capacityKwh profileType)
    { windowStart := 0, rows := [], stats := stats }

/-- `_build_rows_for_battery`: the rows, and `stats` as it leaves them. -/
def buildRowsForBattery (stats : Stats) : Option (List TrainingRow × Stats) :=
  if telemetry.length = 0 then some ([], stats)
  else (buildLoop batteryId telemetry capacityKwh profileType stats telemetry.length).map
    fun state => (state.rows, state.stats)

end Battery

/-! ### All batteries -/

/-- All the keys of `stats`. -/
structure DatasetStats extends Stats where
  unknownBattery : Nat := 0
  totalReadingsConsidered : Nat := 0
deriving Repr, DecidableEq

/-- One turn of the loop over `telemetry.groupby("battery_id", sort=False)`. -/
def buildGroup (batteries : Table Battery Battery.batteryId)
    (built : List TrainingRow × DatasetStats) (group : BatteryId × List Telemetry) :
    Option (List TrainingRow × DatasetStats) :=
  match batteries.lookup group.1 with
  | none =>
      some (built.1,
        { built.2 with unknownBattery := built.2.unknownBattery + group.2.length })
  | some battery => do
      let (rows, stats) ← buildRowsForBattery group.1 group.2 battery.capacityKwh
        battery.profileType built.2.toStats
      some (built.1 ++ rows, { built.2 with toStats := stats })

/-- `build_dataset`, given what `_load_batteries` and `_load_telemetry` return. -/
def buildDataset (batteries : Table Battery Battery.batteryId) (telemetry : List Telemetry) :
    Option (List TrainingRow × DatasetStats) := do
  let (rows, stats) ←
    (groupsBy Telemetry.batteryId telemetry).foldlM (buildGroup batteries) ([], {})
  some (rows, { stats with totalReadingsConsidered := telemetry.length })

end VoltStream.Ml
