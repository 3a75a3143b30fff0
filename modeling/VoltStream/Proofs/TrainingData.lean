/-
Module: VoltStream.Proofs.TrainingData
Purpose: The training data of a whole database: every stored reading is accounted for, the
  split keeps the future out of training, and the baseline that is measured on it is the one
  that is served.
Trusted boundary: human-reviewed statement of the account (`Accounted`) and of the split
  (`SplitInTime`)
Main exports: buildTurn_eligible, buildRowsForBattery_part, IsPart, Accounted,
  accounted_of_buildDataset, SplitInTime, splitInTime_chronologicalSplit, training_data,
  ServedBaseline, measured_baseline_is_served
-/
import VoltStream.Backend.PredictionEndpoint
import VoltStream.Ml.Training
import VoltStream.Numeric.Double
import VoltStream.Proofs.DatasetRows

namespace VoltStream.Ml

open Relational Backend

/-! ### Rows and counters -/

section Battery

variable {batteryId : BatteryId} {telemetry : List Telemetry} {capacityKwh : ℚ}
  {profileType : ProfileType} {i : Nat} {state next : BuildState} {stats : Stats}

/-- A turn appends a row exactly if it counts an eligible reading. -/
theorem buildTurn_eligible
    (turn : buildTurn batteryId telemetry capacityKwh profileType state i = some next) :
    next.stats.eligible + state.rows.length = state.stats.eligible + next.rows.length := by
  simp only [buildTurn, Option.bind_eq_bind, Option.bind_eq_some_iff] at turn
  obtain ⟨reading, -, turn⟩ := turn
  split_ifs at turn with low idle
  · obtain rfl := Option.some.inj turn
    rfl
  · obtain rfl := Option.some.inj turn
    rfl
  · obtain ⟨edge, -, turn⟩ := Option.bind_eq_some_iff.mp turn
    obtain ⟨first, -, turn⟩ := Option.bind_eq_some_iff.mp turn
    split_ifs at turn with young
    · obtain rfl := Option.some.inj turn
      rfl
    · obtain ⟨found, -, turn⟩ := Option.bind_eq_some_iff.mp turn
      cases found with
      | none =>
          obtain rfl := Option.some.inj turn
          rfl
      | some j =>
          obtain ⟨features, -, turn⟩ := Option.bind_eq_some_iff.mp turn
          split_ifs at turn with noChange
          · obtain rfl := Option.some.inj turn
            rfl
          · obtain ⟨critical, -, turn⟩ := Option.bind_eq_some_iff.mp turn
            obtain rfl := Option.some.inj turn
            simp only [List.length_append, List.length_singleton]
            omega

theorem buildLoop_eligible {turns : Nat}
    (reached : buildLoop batteryId telemetry capacityKwh profileType stats turns = some state) :
    state.stats.eligible = stats.eligible + state.rows.length := by
  induction turns generalizing state with
  | zero =>
      obtain rfl := Option.some.inj reached
      rfl
  | succ i ih =>
      rw [buildLoop, List.range_succ, List.foldlM_append] at reached
      obtain ⟨before, reachedBefore, turn⟩ := Option.bind_eq_some_iff.mp reached
      simp only [List.foldlM_cons, List.foldlM_nil, bind_pure] at turn
      have counted := buildTurn_eligible turn
      have countedBefore := ih reachedBefore
      omega

/-- The rows of a battery's history: one for each eligible reading, in order. -/
def RowsOf (batteryId : BatteryId) (telemetry : List Telemetry) (capacityKwh : ℚ)
    (profileType : ProfileType) (rows : List TrainingRow) : Prop :=
  ∃ indices, indices.Pairwise (· < ·) ∧ (∀ i, i ∈ indices ↔ Eligible telemetry i) ∧
    List.Forall₂ (IsRow telemetry batteryId capacityKwh profileType) indices rows

/-- What the pass over one battery gives to the whole. -/
theorem buildRowsForBattery_part (sorted : Sorted telemetry) (batteryId : BatteryId)
    (capacityKwh : ℚ) (profileType : ProfileType) (stats : Stats) :
    ∃ rows counted,
      buildRowsForBattery batteryId telemetry capacityKwh profileType stats =
        some (rows, counted) ∧
      RowsOf batteryId telemetry capacityKwh profileType rows ∧
      counted.total = stats.total + telemetry.length ∧
      counted.eligible = stats.eligible + rows.length := by
  obtain ⟨state, indices, reached, built⟩ :=
    buildLoop_built batteryId capacityKwh profileType sorted stats (Nat.le_refl _)
  refine ⟨state.rows, state.stats, ?_, ⟨indices, built.rising, fun i => ?_, built.rows⟩,
    built.counted, buildLoop_eligible reached⟩
  · rw [buildRowsForBattery_eq, reached, Option.map_some]
  · rw [built.mem_iff]
    refine and_iff_right_of_imp ?_
    rintro ⟨reading, eligible⟩
    exact (List.getElem?_eq_some_iff.mp eligible.isReading).1

end Battery

/-! ### All batteries -/

/-- `ORDER BY battery_id, timestamp`, whatever the order of the batteries, and of the
readings of one battery and one instant. -/
def SortedByBattery (telemetry : List Telemetry) : Prop :=
  telemetry.Pairwise fun first second =>
    first.batteryId = second.batteryId → first.timestamp ≤ second.timestamp

/-- What the readings of one battery give: rows if it is registered. -/
def IsPart (batteries : Table Battery Battery.batteryId) (group : BatteryId × List Telemetry)
    (rows : List TrainingRow) : Prop :=
  match batteries.lookup group.1 with
  | none => rows = []
  | some battery => RowsOf group.1 group.2 battery.capacityKwh battery.profileType rows

/-- What has been built of these groups: the rows of each, and all readings counted. -/
structure Accounted (batteries : Table Battery Battery.batteryId)
    (groups : List (BatteryId × List Telemetry)) (rows : List TrainingRow)
    (stats : DatasetStats) : Prop where
  parts : ∃ parts, rows = parts.flatten ∧ List.Forall₂ (IsPart batteries) groups parts
  counted : stats.total + stats.unknownBattery = (groups.map fun group => group.2.length).sum
  eligible : stats.eligible = rows.length
  allKnown : (∀ group ∈ groups, batteries.lookup group.1 ≠ none) → stats.unknownBattery = 0

variable {batteries : Table Battery Battery.batteryId} {telemetry : List Telemetry}

theorem Accounted.buildGroup {groups : List (BatteryId × List Telemetry)}
    {rows : List TrainingRow} {stats : DatasetStats}
    (accounted : Accounted batteries groups rows stats) {group : BatteryId × List Telemetry}
    (sorted : Sorted group.2) :
    ∃ more counted, buildGroup batteries (rows, stats) group = some (more, counted) ∧
      Accounted batteries (groups ++ [group]) more counted := by
  obtain ⟨⟨parts, rfl, isParts⟩, counted, eligible, allKnown⟩ := accounted
  unfold Ml.buildGroup
  cases found : batteries.lookup group.1 with
  | none =>
      refine ⟨_, _, rfl, ⟨parts ++ [[]], by simp, ?_⟩, ?_, eligible, fun known => ?_⟩
      · refine List.rel_append isParts (.cons ?_ .nil)
        rw [IsPart, found]
      · rw [List.map_append, List.sum_append, ← counted]
        simp [Stats.total]
        omega
      · exact absurd found (known group (by simp))
  | some battery =>
      obtain ⟨added, more, built, isRows, total, appended⟩ := buildRowsForBattery_part sorted
        group.1 battery.capacityKwh battery.profileType stats.toStats
      simp only [built, Option.bind_eq_bind, Option.bind_some]
      refine ⟨_, _, rfl, ⟨parts ++ [added], by simp, ?_⟩, ?_, ?_, fun known => ?_⟩
      · refine List.rel_append isParts (.cons ?_ .nil)
        rw [IsPart, found]
        exact isRows
      · rw [List.map_append, List.sum_append, ← counted, total]
        simp
        omega
      · rw [appended, eligible, List.length_append]
      · exact allKnown fun earlier isEarlier => known earlier (List.mem_append_left _ isEarlier)

theorem accounted_of_foldlM {groups : List (BatteryId × List Telemetry)}
    (sorted : ∀ group ∈ groups, Sorted group.2) :
    ∃ rows stats, groups.foldlM (buildGroup batteries) ([], {}) = some (rows, stats) ∧
      Accounted batteries groups rows stats := by
  induction groups using List.reverseRecOn with
  | nil => exact ⟨[], {}, rfl, ⟨[], rfl, .nil⟩, rfl, rfl, fun _ => rfl⟩
  | append_singleton groups group ih =>
      obtain ⟨early, last⟩ := List.forall_mem_append.mp sorted
      obtain ⟨rows, stats, built, accounted⟩ := ih early
      obtain ⟨more, counted, turn, accountedMore⟩ :=
        accounted.buildGroup (last group (List.mem_singleton_self group))
      refine ⟨more, counted, ?_, accountedMore⟩
      rw [List.foldlM_append, built]
      simp only [Option.bind_eq_bind, Option.bind_some, List.foldlM_cons, turn, List.foldlM_nil]
      rfl

theorem sorted_of_mem_groupsBy (ordered : SortedByBattery telemetry)
    {group : BatteryId × List Telemetry}
    (isGroup : group ∈ groupsBy Telemetry.batteryId telemetry) : Sorted group.2 := by
  rw [((mem_groupsBy_iff Telemetry.batteryId).mp isGroup).2]
  have within := ordered.filter fun row => decide (row.batteryId = group.1)
  refine within.imp_of_mem fun isFirst isSecond inOrder => inOrder ?_
  exact (of_decide_eq_true (List.mem_filter.mp isFirst).2).trans
    (of_decide_eq_true (List.mem_filter.mp isSecond).2).symm

/-- The loop over the batteries succeeds, and accounts for all that is stored. -/
theorem accounted_of_buildDataset (batteries : Table Battery Battery.batteryId)
    (ordered : SortedByBattery telemetry) :
    ∃ dataset stats, buildDataset batteries telemetry = some (dataset, stats) ∧
      Accounted batteries (groupsBy Telemetry.batteryId telemetry) dataset stats ∧
      stats.totalReadingsConsidered = telemetry.length := by
  obtain ⟨rows, stats, built, accounted⟩ := @accounted_of_foldlM batteries
    (groupsBy Telemetry.batteryId telemetry) fun group => sorted_of_mem_groupsBy ordered
  refine ⟨rows, { stats with totalReadingsConsidered := telemetry.length }, ?_,
    ⟨accounted.parts, accounted.counted, accounted.eligible, accounted.allKnown⟩, rfl⟩
  rw [buildDataset, built]
  rfl

/-! ### The split -/

/-- The first four fifths by time, and the rest, which is no older. -/
structure SplitInTime (dataset train test : List TrainingRow) : Prop where
  same : (train ++ test).Perm dataset
  fraction : train.length = 4 * dataset.length / 5
  inTime : ∀ row ∈ train, ∀ later ∈ test, row.timestamp ≤ later.timestamp

/-- The product with the double of 0.8, rounded, has the whole part of four fifths. -/
theorem floor_trainFraction {round : ℚ → ℚ} (rounds : Numeric.Rounds round) {rows : Nat}
    (few : rows < 2 ^ 49) : ⌊round (rows * trainFraction)⌋ = (4 * rows / 5 : Nat) := by
  have parts : (4 * rows : ℚ) = 5 * (4 * rows / 5 : Nat) + (4 * rows % 5 : Nat) := by
    exact_mod_cast (Nat.div_add_mod (4 * rows) 5).symm
  have remainder : ((4 * rows % 5 : Nat) : ℚ) ≤ 4 := by
    have below := Nat.mod_lt (4 * rows) (show 5 > 0 by norm_num)
    exact_mod_cast Nat.le_of_lt_succ below
  have few' : (rows : ℚ) < 2 ^ 49 := by exact_mod_cast few
  have excess : (rows : ℚ) * trainFraction = 4 * rows / 5 + rows / (5 * 2 ^ 52) := by
    rw [trainFraction]
    ring
  have nonneg : (0 : ℚ) ≤ rows := Nat.cast_nonneg rows
  have nothing : (0 : ℚ) ≤ (4 * rows % 5 : Nat) := Nat.cast_nonneg _
  refine rounds.floor_eq ?_ ?_ ?_
  · rw [excess, parts, Int.cast_natCast]
    linarith [div_nonneg nonneg (show (0 : ℚ) ≤ 5 * 2 ^ 52 by norm_num)]
  · have small : (rows : ℚ) / (5 * 2 ^ 52) ≤ 1 / 40 := by
      rw [div_le_iff₀ (by norm_num)]
      linarith
    rw [excess, parts, Int.cast_natCast]
    linarith
  · rw [abs_of_nonneg (Int.natCast_nonneg _)]
    omega

theorem splitInTime_chronologicalSplit {round : ℚ → ℚ} (rounds : Numeric.Rounds round)
    {dataset : List TrainingRow} (few : dataset.length < 2 ^ 49) :
    SplitInTime dataset (chronologicalSplit round dataset).1
      (chronologicalSplit round dataset).2 := by
  set sorted := List.insertionSort
    (fun first second : TrainingRow => first.timestamp ≤ second.timestamp) dataset with isSorted
  have inOrder : sorted.Pairwise fun first second => first.timestamp ≤ second.timestamp :=
    List.pairwise_insertionSort _ dataset
  have same : sorted.Perm dataset := List.perm_insertionSort _ dataset
  have length : sorted.length = dataset.length := same.length_eq
  have index : ⌊round (sorted.length * trainFraction)⌋.toNat = 4 * dataset.length / 5 := by
    rw [length, floor_trainFraction rounds few, Int.toNat_natCast]
  simp only [chronologicalSplit, ← isSorted, index]
  refine ⟨?_, ?_, ?_⟩
  · rw [List.take_append_drop]
    exact same
  · rw [List.length_take, length]
    omega
  · rw [← List.take_append_drop (4 * dataset.length / 5) sorted] at inOrder
    exact (List.pairwise_append.mp inOrder).2.2

/-- The row is of this reading of the battery, and the backend's baseline, asked about that
reading, answers what the row is scored with, or withholds an answer if the row is not
scored. -/
structure ServedBaseline (battery : Battery) (reading : Telemetry) (row : TrainingRow) :
    Prop where
  batteryId : row.batteryId = battery.batteryId ∧ reading.batteryId = battery.batteryId
  timestamp : row.timestamp = reading.timestamp
  answer : computeBaselinePrediction id (some battery.capacityKwh) (some reading.stateOfCharge)
      (some reading.powerKw) (some (.reported reading.status))
      PredictionSettings.default.criticalSocPercent
      PredictionSettings.default.minDischargePowerKw =
    .ok (match row.baseline with
      | some minutes => .minutes minutes
      | none => .unavailable .dischargeRateTooLow)

theorem servedBaseline_of_isRow {battery : Battery} {history : List Telemetry} {i : Nat}
    {row : TrainingRow} (eligible : Eligible history i)
    (isRow : IsRow history battery.batteryId battery.capacityKwh battery.profileType i row)
    (own : ∀ reading ∈ history, reading.batteryId = battery.batteryId) :
    ∃ reading ∈ history, ServedBaseline battery reading row := by
  obtain ⟨reading, j, critical, isReading, -, isBattery, isTime, computed, -⟩ := isRow
  have isEligible := eligible.isEligible isReading
  have inHistory : reading ∈ history := List.mem_of_getElem? isReading
  refine ⟨reading, inHistory, ⟨isBattery, own reading inHistory⟩, isTime, ?_⟩
  rw [computeFeaturesForPoint, getLast?_trailingWindow isReading, Option.map_some] at computed
  have features := Option.some.inj computed
  have answer : row.baseline = predictMinutesToCritical reading.stateOfCharge reading.powerKw
      battery.capacityKwh := by
    rw [TrainingRow.baseline, ← features]
  have above : ¬ reading.stateOfCharge ≤ PredictionSettings.default.criticalSocPercent :=
    not_le.mpr isEligible.above
  rw [answer, predictMinutesToCritical, isEligible.discharging, computeBaselinePrediction]
  rw [if_neg (not_not.mpr rfl), if_neg above]
  by_cases slow : |reading.powerKw| < minDischargePowerKw
  · rw [if_pos slow]
    exact if_pos slow
  · have moves : ¬ |reading.powerKw| = 0 := by
      intro still
      rw [still] at slow
      exact slow (by norm_num [minDischargePowerKw])
    rw [if_neg slow]
    exact (if_neg slow).trans (if_neg moves)

/-- Every entry on the right has its entry on the left. -/
theorem exists_left_of_forall₂ {α β : Type*} {Rel : α → β → Prop} {lefts : List α}
    {rights : List β} (related : List.Forall₂ Rel lefts rights) {right : β}
    (isRight : right ∈ rights) : ∃ left ∈ lefts, Rel left right := by
  induction related with
  | nil => exact absurd isRight List.not_mem_nil
  | cons first _ ih =>
      rcases List.mem_cons.mp isRight with rfl | later
      · exact ⟨_, List.mem_cons_self, first⟩
      · obtain ⟨left, isLeft, relates⟩ := ih later
        exact ⟨left, List.mem_cons_of_mem _ isLeft, relates⟩

/-- The baseline that is scored is the one that is served: every row of the dataset of a
database is of a stored reading of a registered battery, on which both agree. -/
theorem measured_baseline_is_served (batteries : Table Battery Battery.batteryId)
    {telemetry : List Telemetry} (ordered : SortedByBattery telemetry)
    {dataset : List TrainingRow} {stats : DatasetStats}
    (built : buildDataset batteries telemetry = some (dataset, stats)) :
    ∀ row ∈ dataset, ∃ battery ∈ batteries.rows, ∃ reading ∈ telemetry,
      ServedBaseline battery reading row := by
  obtain ⟨found, counted, isFound, accounted, -⟩ := accounted_of_buildDataset batteries ordered
  obtain ⟨rfl, rfl⟩ := Prod.mk.inj (Option.some.inj (isFound.symm.trans built))
  obtain ⟨parts, rfl, isParts⟩ := accounted.parts
  intro row isRow
  obtain ⟨part, inParts, inPart⟩ := List.mem_flatten.mp isRow
  obtain ⟨group, isGroup, isPart⟩ := exists_left_of_forall₂ isParts inParts
  have history := ((mem_groupsBy_iff Telemetry.batteryId).mp isGroup).2
  unfold IsPart at isPart
  cases known : batteries.lookup group.1 with
  | none =>
      rw [known] at isPart
      exact absurd (isPart ▸ inPart) List.not_mem_nil
  | some battery =>
      rw [known] at isPart
      obtain ⟨indices, -, isIndex, rows⟩ := isPart
      obtain ⟨i, inIndices, isRowOf⟩ := exists_left_of_forall₂ rows inPart
      obtain ⟨isBattery, isId⟩ := batteries.lookup_some_iff.mp known
      rw [← isId] at isRowOf history
      have stored : ∀ reading ∈ group.2,
          reading ∈ telemetry ∧ reading.batteryId = battery.batteryId := by
        intro reading inHistory
        rw [history] at inHistory
        obtain ⟨isStored, own⟩ := List.mem_filter.mp inHistory
        exact ⟨isStored, of_decide_eq_true own⟩
      obtain ⟨reading, inHistory, served⟩ := servedBaseline_of_isRow ((isIndex i).mp inIndices)
        isRowOf fun reading inHistory => (stored reading inHistory).2
      exact ⟨battery, isBattery, reading, (stored reading inHistory).1, served⟩

/-- A half hour's discharge of the sample battery, and a reading of another one. -/
def sampleStoredReadings : List Telemetry :=
  { (sampleEvent 9 0 60).toTelemetry with batteryId := "BAT-000002" } :: sampleDischarge

theorem sortedByBattery_sampleStoredReadings : SortedByBattery sampleStoredReadings := by
  unfold SortedByBattery
  decide +kernel

theorem sample_measured_baseline_is_served :
    ∃ dataset stats, buildDataset sampleBatteries sampleStoredReadings = some (dataset, stats) ∧
      ∀ row ∈ dataset, ∃ battery ∈ sampleBatteries.rows, ∃ reading ∈ sampleStoredReadings,
        ServedBaseline battery reading row := by
  have some : (buildDataset sampleBatteries sampleStoredReadings).isSome = true := by
    decide +kernel
  obtain ⟨⟨dataset, stats⟩, built⟩ := Option.isSome_iff_exists.mp some
  exact ⟨dataset, stats, built, measured_baseline_is_served sampleBatteries
    sortedByBattery_sampleStoredReadings built⟩

end VoltStream.Ml
