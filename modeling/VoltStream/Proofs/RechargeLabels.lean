/-
Module: VoltStream.Proofs.RechargeLabels
Purpose: Whether the target of a training row spans a recharge: the backward pass looks
  at the critical threshold only, not at what lies between.
Trusted boundary: human-reviewed statement of a target without a recharge
  (`SpansNoRecharge`) and of a recharge (`RechargesPast`)
Main exports: emittedRow, buildRowsForBattery_eq_filterMap, SpansNoRecharge, RechargesPast,
  spansNoRecharge_iff, recharge_breaks_target
-/
import VoltStream.Proofs.DatasetRows

namespace VoltStream.Ml

open Relational Backend

section Emitted

variable (batteryId : BatteryId) (telemetry : List Telemetry) (capacityKwh : ℚ)
  (profileType : ProfileType) (stats : Stats)

/-- The row that the turn of the reading at index `i` appends. -/
def emittedRow (i : Nat) : Option TrainingRow := do
  let before ← buildLoop batteryId telemetry capacityKwh profileType stats i
  let after ← buildLoop batteryId telemetry capacityKwh profileType stats (i + 1)
  after.rows[before.rows.length]?

variable {batteryId telemetry capacityKwh profileType stats}

/-- What a turn appends, and that it does so for the eligible readings. -/
theorem emittedRow_spec (sorted : Sorted telemetry) {i : Nat} {before : BuildState}
    (within : i < telemetry.length)
    (reached : buildLoop batteryId telemetry capacityKwh profileType stats i = some before) :
    ∃ after,
      buildLoop batteryId telemetry capacityKwh profileType stats (i + 1) = some after ∧
      after.rows =
        before.rows ++ (emittedRow batteryId telemetry capacityKwh profileType stats i).toList ∧
      ((emittedRow batteryId telemetry capacityKwh profileType stats i).isSome ↔
        Eligible telemetry i) := by
  obtain ⟨state, indices, again, built⟩ :=
    buildLoop_built batteryId capacityKwh profileType sorted stats within.le
  obtain rfl : state = before := Option.some.inj (again.symm.trans reached)
  obtain ⟨after, next, turned⟩ :=
    buildLoop_succ batteryId capacityKwh profileType sorted within reached built.edge
  refine ⟨after, next, ?_⟩
  simp only [emittedRow, reached, next, Option.bind_eq_bind, Option.bind_some]
  rcases turned.emitted with ⟨not, same⟩ | ⟨eligible, row, -, appended⟩
  · simp [same, not]
  · simp [appended, eligible]

/-- The rows built so far are those that the turns have appended. -/
theorem buildLoop_rows (sorted : Sorted telemetry) {turns : Nat}
    (within : turns ≤ telemetry.length) {state : BuildState}
    (reached : buildLoop batteryId telemetry capacityKwh profileType stats turns = some state) :
    state.rows = (List.range turns).filterMap
      (emittedRow batteryId telemetry capacityKwh profileType stats) := by
  induction turns generalizing state with
  | zero =>
      obtain rfl := Option.some.inj reached
      rfl
  | succ i ih =>
      obtain ⟨before, -, earlier, -⟩ :=
        buildLoop_built batteryId capacityKwh profileType sorted stats (Nat.le_of_succ_le within)
      obtain ⟨after, next, appended, -⟩ := emittedRow_spec sorted within earlier
      obtain rfl : after = state := Option.some.inj (next.symm.trans reached)
      rw [appended, ih (Nat.le_of_succ_le within) earlier, List.range_succ, List.filterMap_append]
      cases emitted : emittedRow batteryId telemetry capacityKwh profileType stats i with
      | none => simp [emitted]
      | some row => simp [emitted]

/-- The rows returned are those that the turns have appended. -/
theorem buildRowsForBattery_eq_filterMap (sorted : Sorted telemetry) :
    ∃ counted, buildRowsForBattery batteryId telemetry capacityKwh profileType stats =
      some ((List.range telemetry.length).filterMap
        (emittedRow batteryId telemetry capacityKwh profileType stats), counted) := by
  obtain ⟨state, -, reached, -⟩ :=
    buildLoop_built batteryId capacityKwh profileType sorted stats (Nat.le_refl _)
  refine ⟨state.stats, ?_⟩
  rw [buildRowsForBattery_eq, reached, Option.map_some,
    buildLoop_rows sorted (Nat.le_refl _) reached]

variable (batteryId capacityKwh profileType stats) in
/-- A row is appended in exactly the turns of the eligible readings. -/
theorem emittedRow_isSome_iff (sorted : Sorted telemetry) {i : Nat}
    (within : i < telemetry.length) :
    (emittedRow batteryId telemetry capacityKwh profileType stats i).isSome ↔
      Eligible telemetry i := by
  obtain ⟨before, -, reached, -⟩ :=
    buildLoop_built batteryId capacityKwh profileType sorted stats within.le
  obtain ⟨-, -, -, emits⟩ := emittedRow_spec sorted within reached
  exact emits

end Emitted

/-! ### Recharges -/

section Recharge

variable {telemetry : List Telemetry} {i j : Nat}

/-- No reading strictly between these two has more charge than the first. -/
def SpansNoRecharge (telemetry : List Telemetry) (i j : Nat) : Prop :=
  ∀ reading, telemetry[i]? = some reading → ∀ k between, i < k → k < j →
    telemetry[k]? = some between → between.stateOfCharge ≤ reading.stateOfCharge

/-- From the reading at `k` to the one after it the charge rises past that of the
reading at `i`, and nothing critical has come since that one. -/
def RechargesPast (telemetry : List Telemetry) (i k : Nat) : Prop :=
  ∃ reading low high,
    telemetry[i]? = some reading ∧ telemetry[k]? = some low ∧ telemetry[k + 1]? = some high ∧
    i ≤ k ∧ low.stateOfCharge ≤ reading.stateOfCharge ∧
    reading.stateOfCharge < high.stateOfCharge ∧
    ∀ m between, i < m → m ≤ k → telemetry[m]? = some between →
      criticalSocPercent < between.stateOfCharge

/-- A charge above an earlier one was passed in one step. -/
theorem exists_rise {reading high : Telemetry} {k : Nat} (isReading : telemetry[i]? = some reading)
    (later : i < k) (isHigh : telemetry[k]? = some high)
    (above : reading.stateOfCharge < high.stateOfCharge) :
    ∃ m low next, i ≤ m ∧ m < k ∧ telemetry[m]? = some low ∧ telemetry[m + 1]? = some next ∧
      low.stateOfCharge ≤ reading.stateOfCharge ∧
      reading.stateOfCharge < next.stateOfCharge := by
  induction k generalizing high with
  | zero => cases later
  | succ k ih =>
      have within : k < telemetry.length :=
        Nat.lt_of_succ_lt (List.getElem?_eq_some_iff.mp isHigh).1
      have isLow : telemetry[k]? = some telemetry[k] := List.getElem?_eq_getElem within
      by_cases low : telemetry[k].stateOfCharge ≤ reading.stateOfCharge
      · exact ⟨k, telemetry[k], high, Nat.le_of_lt_succ later, Nat.lt_succ_self k, isLow, isHigh,
          low, above⟩
      · have apart : i ≠ k := by
          rintro rfl
          rw [Option.some.inj (isLow.symm.trans isReading)] at low
          exact low (le_refl _)
        obtain ⟨m, low, next, after, before, rise⟩ :=
          ih (Nat.lt_of_le_of_ne (Nat.le_of_lt_succ later) apart) isLow (not_le.mp low)
        exact ⟨m, low, next, after, Nat.lt_succ_of_lt before, rise⟩

/-- The charge stays below an eligible reading's up to the next critical one, unless it
rises past it in one step. -/
theorem spansNoRecharge_iff_forall {critical : Telemetry}
    (eligible : Eligible telemetry i) (next : IsNextCritical telemetry i j critical) :
    SpansNoRecharge telemetry i j ↔ ∀ k, ¬RechargesPast telemetry i k := by
  constructor
  · rintro spans k ⟨reading, low, high, isReading, isLow, isHigh, after, -, above, quiet⟩
    have notCritical : criticalSocPercent < high.stateOfCharge :=
      (eligible.isEligible isReading).above.trans above
    have beyond : k + 1 < j := by
      refine Nat.lt_of_le_of_ne (Nat.succ_le_of_lt (lt_of_not_ge fun early => ?_)) ?_
      · exact not_lt.mpr next.low (quiet j critical next.after early next.isReading)
      · rintro rfl
        rw [Option.some.inj (isHigh.symm.trans next.isReading)] at notCritical
        exact not_lt.mpr next.low notCritical
    exact not_lt.mpr (spans reading isReading (k + 1) high (Nat.lt_succ_of_le after) beyond isHigh)
      above
  · intro never reading isReading k between after before isBetween
    by_contra above
    obtain ⟨m, low, high, from', upTo, isLow, isHigh, rises⟩ :=
      exists_rise isReading after isBetween (not_le.mp above)
    refine never m ⟨reading, low, high, isReading, isLow, isHigh, from', rises.1, rises.2, ?_⟩
    intro l other afterReading early isOther
    exact next.nearest l other afterReading (lt_of_le_of_lt early (upTo.trans before)) isOther

end Recharge

/-! ### The targets of the rows -/

/-- The rows returned are those of the turns, and no target of theirs spans a recharge
exactly if the charge never rises past that of an eligible reading before a critical
one. -/
theorem spansNoRecharge_iff (batteryId : BatteryId) (telemetry : List Telemetry)
    (capacityKwh : ℚ) (profileType : ProfileType) (stats : Stats) (sorted : Sorted telemetry) :
    (∃ counted, buildRowsForBattery batteryId telemetry capacityKwh profileType stats =
      some ((List.range telemetry.length).filterMap
        (emittedRow batteryId telemetry capacityKwh profileType stats), counted)) ∧
    ((∀ i j row, emittedRow batteryId telemetry capacityKwh profileType stats i = some row →
        (nextCriticalIndex (telemetry.map Telemetry.stateOfCharge))[i]? = some (some j) →
        SpansNoRecharge telemetry i j) ↔
      ∀ i k, Eligible telemetry i → ¬RechargesPast telemetry i k) := by
  refine ⟨buildRowsForBattery_eq_filterMap sorted, ?_⟩
  constructor
  · intro spans i k eligible
    obtain ⟨reading, isEligible⟩ := eligible
    have within := (List.getElem?_eq_some_iff.mp isEligible.isReading).1
    obtain ⟨row, emitted⟩ := Option.isSome_iff_exists.mp
      ((emittedRow_isSome_iff batteryId capacityKwh profileType stats sorted within).mpr
        ⟨reading, isEligible⟩)
    rcases nextCriticalIndex_spec within with ⟨j, critical, next, found⟩ | ⟨never, -⟩
    · exact (spansNoRecharge_iff_forall ⟨reading, isEligible⟩ next).mp
        (spans i j row emitted found) k
    · exact absurd isEligible.nextCritical never
  · intro never i j row emitted found
    have within : i < telemetry.length := by
      have inRange := (List.getElem?_eq_some_iff.mp found).1
      rwa [nextCriticalIndex, length_nextCriticalPass, List.length_map] at inRange
    have eligible := (emittedRow_isSome_iff batteryId capacityKwh profileType stats sorted
      within).mp (Option.isSome_of_eq_some emitted)
    rcases nextCriticalIndex_spec within with ⟨other, critical, next, isNext⟩ | ⟨-, isNext⟩
    · obtain rfl : other = j := Option.some.inj (Option.some.inj (isNext.symm.trans found))
      exact (spansNoRecharge_iff_forall eligible next).mpr fun k => never i k eligible
    · cases isNext.symm.trans found

/-- A discharge without a recharge meets the condition. -/
theorem sample_spansNoRecharge_iff :
    (∃ counted, buildRowsForBattery sampleBatteryId sampleDischarge 10 .residential {} =
      some ((List.range sampleDischarge.length).filterMap
        (emittedRow sampleBatteryId sampleDischarge 10 .residential {}), counted)) ∧
    ((∀ i j row, emittedRow sampleBatteryId sampleDischarge 10 .residential {} i = some row →
        (nextCriticalIndex (sampleDischarge.map Telemetry.stateOfCharge))[i]? = some (some j) →
        SpansNoRecharge sampleDischarge i j) ↔
      ∀ i k, Eligible sampleDischarge i → ¬RechargesPast sampleDischarge i k) :=
  spansNoRecharge_iff sampleBatteryId sampleDischarge 10 .residential {} (by decide)

/-- A discharge that is interrupted by a recharge, nine minutes after its last row, and
goes critical only after that. -/
def sampleRecharge : List Telemetry :=
  [(sampleEvent 1 0 60).toTelemetry, (sampleEvent 2 360000000 55).toTelemetry,
    (sampleEvent 3 900000000 50).toTelemetry,
    { (sampleEvent 4 1440000000 90).toTelemetry with status := .charging },
    (sampleEvent 5 3600000000 15).toTelemetry]

/-- The row at a half charge is given forty-five minutes, through a recharge. -/
theorem recharge_breaks_target :
    Sorted sampleRecharge ∧
    (buildRowsForBattery sampleBatteryId sampleRecharge 10 .residential {}).map
        (fun built => built.1.map TrainingRow.minutesToCritical) = some [45] ∧
    ¬ ∀ i j row, emittedRow sampleBatteryId sampleRecharge 10 .residential {} i = some row →
      (nextCriticalIndex (sampleRecharge.map Telemetry.stateOfCharge))[i]? = some (some j) →
      SpansNoRecharge sampleRecharge i j := by
  refine ⟨by decide, by decide +kernel, fun spans => ?_⟩
  have emits : (emittedRow sampleBatteryId sampleRecharge 10 .residential {} 2).isSome := by
    decide +kernel
  obtain ⟨row, emitted⟩ := Option.isSome_iff_exists.mp emits
  have low := spans 2 4 row emitted (by decide +kernel) _ rfl 3 _ (by decide) (by decide) rfl
  exact absurd low (by decide +kernel)

end VoltStream.Ml
