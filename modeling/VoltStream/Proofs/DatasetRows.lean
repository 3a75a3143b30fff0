/-
Module: VoltStream.Proofs.DatasetRows
Purpose: The one-pass dataset builder against a naive definition: which readings of a
  battery's history get a row, and what is in it.
Trusted boundary: human-reviewed statement of what a training row is
  (`Eligible`, `IsNextCritical`, `IsRow`)
Main exports: Eligible, IsNextCritical, IsRow, historyFeatures_of_isRow, Built,
  buildTurn_turned, buildLoop_built, buildRowsForBattery_spec
-/
import VoltStream.Backend.Ingestion
import VoltStream.Proofs.TrailingWindow

namespace VoltStream.Ml

open Relational Backend

/-! ### What a training row is -/

section Specification

variable (telemetry : List Telemetry)

/-- The first reading after the one at index `i` at or below the critical threshold. -/
structure IsNextCritical (i j : Nat) (critical : Telemetry) : Prop where
  after : i < j
  isReading : telemetry[j]? = some critical
  low : critical.stateOfCharge ≤ criticalSocPercent
  nearest : ∀ k reading, i < k → k < j → telemetry[k]? = some reading →
    criticalSocPercent < reading.stateOfCharge

/-- A reading between fifteen and five minutes older than this instant, among those up
to index `i`. -/
def HasReference (i : Nat) (asOf : Timestamp) : Prop :=
  ∃ k reading, k ≤ i ∧ telemetry[k]? = some reading ∧
    asOf - timedeltaMinutes 15 ≤ reading.timestamp ∧
    reading.timestamp ≤ asOf - timedeltaMinutes 5

/-- The readings that get a row. -/
structure IsEligible (i : Nat) (reading : Telemetry) : Prop where
  isReading : telemetry[i]? = some reading
  above : criticalSocPercent < reading.stateOfCharge
  discharging : reading.status = .discharging
  fullHistory : ∀ first, telemetry[0]? = some first →
    timedeltaMinutes 15 ≤ reading.timestamp - first.timestamp
  nextCritical : ∃ j critical, i < j ∧ telemetry[j]? = some critical ∧
    critical.stateOfCharge ≤ criticalSocPercent
  reference : HasReference telemetry i reading.timestamp

def Eligible (i : Nat) : Prop := ∃ reading, IsEligible telemetry i reading

/-- The row of the reading at index `i`: its features are those of its trailing window,
its target the minutes to the next critical reading. -/
def IsRow (batteryId : BatteryId) (capacityKwh : ℚ) (profileType : ProfileType) (i : Nat)
    (row : TrainingRow) : Prop :=
  ∃ reading j critical,
    telemetry[i]? = some reading ∧ IsNextCritical telemetry i j critical ∧
    row.batteryId = batteryId ∧ row.timestamp = reading.timestamp ∧
    computeFeaturesForPoint (trailingWindow telemetry i reading.timestamp) capacityKwh
      profileType = some row.features ∧
    row.minutesToCritical = ((critical.timestamp - reading.timestamp : Int) : ℚ) / 1000000 / 60

end Specification

/-! ### The backward pass -/

section NextCritical

/-- At or below the threshold. -/
def isCritical (soc : ℚ) : Bool := soc ≤ criticalSocPercent

/-- The pass is left with the first critical position from where it stops. -/
theorem nextCriticalPass_snd (start : Nat) (soc : List ℚ) :
    (nextCriticalPass start soc).2 = (soc.findIdx? isCritical).map (start + ·) := by
  induction soc generalizing start with
  | nil => rfl
  | cons first rest ih =>
      rw [nextCriticalPass, ih, List.findIdx?_cons]
      by_cases low : first ≤ criticalSocPercent
      · simp [isCritical, low]
      · simp [isCritical, low, Function.comp_def, Nat.add_comm, Nat.add_left_comm]

theorem nextCriticalPass_fst (start : Nat) (soc : List ℚ) {i : Nat} (within : i < soc.length) :
    (nextCriticalPass start soc).1[i]? =
      some (((soc.drop (i + 1)).findIdx? isCritical).map (start + i + 1 + ·)) := by
  induction soc generalizing start i with
  | nil => cases within
  | cons first rest ih =>
      cases i with
      | zero => simp [nextCriticalPass, nextCriticalPass_snd]
      | succ i =>
          rw [nextCriticalPass, List.getElem?_cons_succ, ih _ (Nat.lt_of_succ_lt_succ within),
            List.drop_succ_cons]
          congr 3
          funext k
          omega

theorem length_nextCriticalPass (start : Nat) (soc : List ℚ) :
    (nextCriticalPass start soc).1.length = soc.length := by
  induction soc generalizing start with
  | nil => rfl
  | cons first rest ih => rw [nextCriticalPass, List.length_cons, List.length_cons, ih]

variable {telemetry : List Telemetry} {i : Nat}

/-- The pass finds the next critical reading, or says that there is none. -/
theorem nextCriticalIndex_spec (within : i < telemetry.length) :
    (∃ j critical, IsNextCritical telemetry i j critical ∧
      (nextCriticalIndex (telemetry.map Telemetry.stateOfCharge))[i]? = some (some j)) ∨
    (¬(∃ j critical, i < j ∧ telemetry[j]? = some critical ∧
        critical.stateOfCharge ≤ criticalSocPercent) ∧
      (nextCriticalIndex (telemetry.map Telemetry.stateOfCharge))[i]? = some none) := by
  rw [nextCriticalIndex, nextCriticalPass_fst _ _ (by simpa using within)]
  cases found : ((telemetry.map Telemetry.stateOfCharge).drop (i + 1)).findIdx? isCritical with
  | none =>
      right
      refine ⟨?_, rfl⟩
      rintro ⟨j, critical, after, isReading, low⟩
      have isLater : critical.stateOfCharge ∈
          (telemetry.map Telemetry.stateOfCharge).drop (i + 1) := by
        apply List.mem_of_getElem? (i := j - (i + 1))
        rw [List.getElem?_drop, Nat.add_sub_cancel' after, List.getElem?_map, isReading]
        rfl
      have high := List.findIdx?_eq_none_iff.mp found _ isLater
      exact of_decide_eq_false high low
  | some k =>
      left
      obtain ⟨before, low, nearest⟩ := List.findIdx?_eq_some_iff_getElem.mp found
      simp only [List.length_drop, List.length_map] at before
      simp only [List.getElem_drop, List.getElem_map] at low nearest
      refine ⟨0 + i + 1 + k, telemetry[i + 1 + k], ?_, rfl⟩
      rw [Nat.zero_add]
      refine ⟨by omega, List.getElem?_eq_getElem _, of_decide_eq_true low, ?_⟩
      intro later reading after before isReading
      obtain ⟨inRange, rfl⟩ := List.getElem?_eq_some_iff.mp isReading
      have high := nearest (later - (i + 1)) (by omega)
      simp only [Nat.add_sub_cancel' after] at high
      exact not_le.mp (of_decide_eq_false (Bool.not_eq_true _ ▸ high))

end NextCritical

/-! ### The left edge and the window of one turn -/

section Turn

variable {telemetry : List Telemetry} {i : Nat} {reading : Telemetry}

/-- The loop stops in range if something is not too old. -/
theorem advanceLoop_eq {cutoff : Timestamp} {later : List Telemetry}
    (stops : ∃ reading ∈ later, cutoff ≤ reading.timestamp) (start : Nat) :
    advanceLoop cutoff later start =
      some (start + (later.takeWhile fun reading => reading.timestamp < cutoff).length) := by
  induction later generalizing start with
  | nil =>
      obtain ⟨reading, isLater, -⟩ := stops
      cases isLater
  | cons first rest ih =>
      unfold advanceLoop
      by_cases old : first.timestamp < cutoff
      · have stopsLater : ∃ reading ∈ rest, cutoff ≤ reading.timestamp := by
          obtain ⟨reading, isLater, recent⟩ := stops
          rcases List.mem_cons.mp isLater with rfl | isRest
          · exact absurd old (not_lt.mpr recent)
          · exact ⟨reading, isRest, recent⟩
        rw [if_pos old, ih stopsLater, List.takeWhile_cons_of_pos (by simpa using old),
          List.length_cons, Nat.add_assoc, Nat.add_comm 1]
      · rw [if_neg old, List.takeWhile_cons_of_neg (by simpa using old)]
        rfl

/-- In the turn of a candidate the loop moves the left edge as the window needs it. -/
theorem advanceLoop_windowStart (sorted : Sorted telemetry)
    (isReading : telemetry[i]? = some reading) (candidate : isCandidate reading = true) :
    advanceLoop (reading.timestamp - lookback) (telemetry.drop (windowStart telemetry i))
      (windowStart telemetry i) = some (windowStart telemetry (i + 1)) := by
  have within : windowStart telemetry i ≤ i :=
    (windowStart_le_stale sorted isReading).1.trans (stale_le isReading)
  have isLater : reading ∈ telemetry.drop (windowStart telemetry i) := by
    apply List.mem_of_getElem? (i := i - windowStart telemetry i)
    rw [List.getElem?_drop, Nat.add_sub_cancel' within, isReading]
  have recent : reading.timestamp - lookback ≤ reading.timestamp := by
    rw [lookback_eq]
    linarith
  rw [advanceLoop_eq ⟨reading, isLater, recent⟩]
  simp [windowStart, isReading, candidate, advance]

/-- The window of a reading ends with it. -/
theorem getLast?_trailingWindow (isReading : telemetry[i]? = some reading) :
    (trailingWindow telemetry i reading.timestamp).getLast? = some reading := by
  have recent : reading.timestamp - lookback ≤ reading.timestamp := by
    rw [lookback_eq]
    linarith
  rw [trailingWindow, List.take_add_one, isReading, Option.toList_some, List.filter_append,
    List.filter_cons_of_pos (by simpa using recent), List.filter_nil, List.getLast?_append]
  rfl

theorem mem_trailingWindow_iff {asOf : Timestamp} {past : Telemetry} :
    past ∈ trailingWindow telemetry i asOf ↔
      ∃ k, k ≤ i ∧ telemetry[k]? = some past ∧ asOf - lookback ≤ past.timestamp := by
  rw [trailingWindow, List.mem_filter, decide_eq_true_eq, List.mem_iff_getElem?]
  constructor
  · rintro ⟨⟨k, isPast⟩, recent⟩
    rw [List.getElem?_take] at isPast
    by_cases upTo : k < i + 1
    · rw [if_pos upTo] at isPast
      exact ⟨k, Nat.le_of_lt_succ upTo, isPast, recent⟩
    · rw [if_neg upTo] at isPast
      cases isPast
  · rintro ⟨k, upTo, isPast, recent⟩
    refine ⟨⟨k, ?_⟩, recent⟩
    rw [List.getElem?_take, if_pos (Nat.lt_succ_of_le upTo), isPast]

/-- A window with a last reading has features; without a reading five minutes old there
is no `soc_change_5m` among them. -/
theorem computeFeaturesForPoint_of_getLast? {history : List Telemetry}
    (last : history.getLast? = some reading) (capacityKwh : ℚ) (profileType : ProfileType) :
    ∃ features, computeFeaturesForPoint history capacityKwh profileType = some features ∧
      (features.socChange5m.isNone ↔ ∀ past ∈ history,
        ¬past.timestamp ≤ reading.timestamp - timedeltaMinutes rollingWindow5mMinutes) := by
  refine ⟨_, by rw [computeFeaturesForPoint, last, Option.map_some], ?_⟩
  simp [Ml.socChange]

/-- The window has a reference for the charge exactly if a reading lies between fifteen
and five minutes back. -/
theorem hasReference_iff {asOf : Timestamp} :
    HasReference telemetry i asOf ↔ ∃ past ∈ trailingWindow telemetry i asOf,
      past.timestamp ≤ asOf - timedeltaMinutes rollingWindow5mMinutes := by
  constructor
  · rintro ⟨k, past, upTo, isPast, recent, old⟩
    exact ⟨past, mem_trailingWindow_iff.mpr ⟨k, upTo, isPast, recent⟩, old⟩
  · rintro ⟨past, isPast, old⟩
    obtain ⟨k, upTo, isPast, recent⟩ := mem_trailingWindow_iff.mp isPast
    exact ⟨k, past, upTo, isPast, recent, old⟩

end Turn

/-! ### One turn, and the run -/

section Run

variable {batteryId : BatteryId} {telemetry : List Telemetry} {capacityKwh : ℚ}
  {profileType : ProfileType} {i : Nat} {state : BuildState}

/-- What a turn leaves: the left edge where it belongs, one more reading counted, and a
row if the reading is eligible. -/
structure Turned (batteryId : BatteryId) (telemetry : List Telemetry) (capacityKwh : ℚ)
    (profileType : ProfileType) (i : Nat) (state next : BuildState) : Prop where
  edge : next.windowStart = windowStart telemetry (i + 1)
  counted : next.stats.total = state.stats.total + 1
  emitted : (¬Eligible telemetry i ∧ next.rows = state.rows) ∨
    (Eligible telemetry i ∧ ∃ row, IsRow telemetry batteryId capacityKwh profileType i row ∧
      next.rows = state.rows ++ [row])

/-- The fields of an eligible reading are those of the one that stands there. -/
theorem Eligible.isEligible (eligible : Eligible telemetry i) {reading : Telemetry}
    (isReading : telemetry[i]? = some reading) : IsEligible telemetry i reading := by
  obtain ⟨other, isEligible⟩ := eligible
  obtain rfl : other = reading := Option.some.inj (isEligible.isReading.symm.trans isReading)
  exact isEligible

/-- The features of an eligible reading's row are those that the look back gives. -/
theorem historyFeatures_of_isRow (sorted : Sorted telemetry) (eligible : Eligible telemetry i)
    {row : TrainingRow} (isRow : IsRow telemetry batteryId capacityKwh profileType i row) :
    historyFeatures telemetry i capacityKwh profileType = some row.features := by
  obtain ⟨reading, -, -, isReading, -, -, -, computed, -⟩ := isRow
  obtain ⟨-, above, discharging, full, -, reference⟩ := eligible.isEligible isReading
  have within := (List.getElem?_eq_some_iff.mp isReading).1
  obtain ⟨first, isFirst⟩ : ∃ first, telemetry[0]? = some first :=
    ⟨_, List.getElem?_eq_getElem (Nat.zero_lt_of_lt within)⟩
  have candidate : isCandidate reading = true := by simp [isCandidate, above, discharging]
  obtain ⟨features, same, isNone⟩ := computeFeaturesForPoint_of_getLast?
    (getLast?_trailingWindow isReading) capacityKwh profileType
  obtain rfl : features = row.features := Option.some.inj (same.symm.trans computed)
  have change : ¬row.features.socChange5m.isNone := by
    obtain ⟨past, isPast, old⟩ := hasReference_iff.mp reference
    exact fun none => isNone.mp none past isPast old
  have old : ¬reading.timestamp - first.timestamp < lookback := not_lt.mpr (full first isFirst)
  simp only [historyFeatures, List.head?_eq_getElem?, isFirst, isReading,
    window_eq_trailingWindow sorted isReading candidate, computed]
  rw [if_neg old, if_neg change]

variable (batteryId capacityKwh profileType) in
/-- The turn of a reading that is critical or not discharging. -/
theorem turned_of_not_isCandidate {reading : Telemetry} (isReading : telemetry[i]? = some reading)
    (notCandidate : isCandidate reading = false)
    (edge : state.windowStart = windowStart telemetry i) :
    ∃ next, buildTurn batteryId telemetry capacityKwh profileType state i = some next ∧
      Turned batteryId telemetry capacityKwh profileType i state next := by
  have stays : windowStart telemetry (i + 1) = state.windowStart := by
    rw [windowStart_of_not_isCandidate isReading notCandidate, edge]
  have not : ¬Eligible telemetry i := by
    intro eligible
    obtain ⟨-, above, discharging, -⟩ := eligible.isEligible isReading
    simp [isCandidate, above, discharging] at notCandidate
  unfold buildTurn
  simp only [isReading, Option.bind_eq_bind, Option.bind_some]
  by_cases low : reading.stateOfCharge ≤ criticalSocPercent
  · -- check 1
    rw [if_pos low]
    exact ⟨_, rfl, stays.symm, by simp [Stats.total]; omega, .inl ⟨not, rfl⟩⟩
  · -- check 2
    have idle : reading.status ≠ .discharging := by
      rintro discharging
      simp [isCandidate, not_le.mp low, discharging] at notCandidate
    rw [if_neg low, if_pos idle]
    exact ⟨_, rfl, stays.symm, by simp [Stats.total]; omega, .inl ⟨not, rfl⟩⟩

variable (batteryId capacityKwh profileType) in
/-- The turn of a reading above the threshold that is discharging. -/
theorem turned_of_isCandidate (sorted : Sorted telemetry) {reading : Telemetry}
    (isReading : telemetry[i]? = some reading) (candidate : isCandidate reading = true)
    (edge : state.windowStart = windowStart telemetry i) :
    ∃ next, buildTurn batteryId telemetry capacityKwh profileType state i = some next ∧
      Turned batteryId telemetry capacityKwh profileType i state next := by
  have within := (List.getElem?_eq_some_iff.mp isReading).1
  obtain ⟨first, isFirst⟩ : ∃ first, telemetry[0]? = some first :=
    ⟨_, List.getElem?_eq_getElem (Nat.zero_lt_of_lt within)⟩
  obtain ⟨above, discharging⟩ : criticalSocPercent < reading.stateOfCharge ∧
      reading.status = .discharging := by simpa [isCandidate] using candidate
  unfold buildTurn
  simp only [isReading, List.head?_eq_getElem?, isFirst, Option.bind_eq_bind, Option.bind_some]
  rw [if_neg (not_le.mpr above), if_neg (not_not.mpr discharging), edge,
    advanceLoop_windowStart sorted isReading candidate]
  simp only [Option.bind_some]
  by_cases young : reading.timestamp - first.timestamp < lookback
  · -- check 3
    rw [if_pos young]
    refine ⟨_, rfl, rfl, by simp [Stats.total]; omega, .inl ⟨?_, rfl⟩⟩
    exact fun eligible =>
      not_le.mpr young ((eligible.isEligible isReading).fullHistory first isFirst)
  rw [if_neg young]
  rcases nextCriticalIndex_spec within with ⟨j, critical, next, found⟩ | ⟨never, found⟩
  · rw [found]
    simp only [Option.bind_some, window_eq_trailingWindow sorted isReading candidate]
    obtain ⟨features, computed, isNone⟩ := computeFeaturesForPoint_of_getLast?
      (getLast?_trailingWindow isReading) capacityKwh profileType
    rw [computed]
    simp only [Option.bind_some, next.isReading]
    by_cases noChange : features.socChange5m.isNone
    · -- check 3b
      rw [if_pos noChange]
      refine ⟨_, rfl, rfl, by simp [Stats.total]; omega, .inl ⟨?_, rfl⟩⟩
      intro eligible
      obtain ⟨past, isPast, old⟩ :=
        hasReference_iff.mp (eligible.isEligible isReading).reference
      exact isNone.mp noChange past isPast old
    · rw [if_neg noChange]
      refine ⟨_, rfl, rfl, by simp [Stats.total]; omega, .inr ⟨⟨reading, isReading, above,
        discharging, ?_, ⟨j, critical, next.after, next.isReading, next.low⟩, ?_⟩, _,
        ⟨reading, j, critical, isReading, next, rfl, rfl, computed, rfl⟩, rfl⟩⟩
      · intro other isOther
        obtain rfl : first = other := Option.some.inj (isFirst.symm.trans isOther)
        exact not_lt.mp young
      · rw [hasReference_iff]
        by_contra without
        exact noChange (isNone.mpr fun past isPast old => without ⟨past, isPast, old⟩)
  · -- check 4
    rw [found]
    refine ⟨_, rfl, rfl, by simp [Stats.total]; omega, .inl ⟨?_, rfl⟩⟩
    exact fun eligible => never (eligible.isEligible isReading).nextCritical

variable (batteryId capacityKwh profileType) in
/-- No turn fails, and each does what it should. -/
theorem buildTurn_turned (sorted : Sorted telemetry) (within : i < telemetry.length)
    (edge : state.windowStart = windowStart telemetry i) :
    ∃ next, buildTurn batteryId telemetry capacityKwh profileType state i = some next ∧
      Turned batteryId telemetry capacityKwh profileType i state next := by
  have isReading : telemetry[i]? = some telemetry[i] := List.getElem?_eq_getElem within
  cases candidate : isCandidate telemetry[i] with
  | true =>
      exact turned_of_isCandidate batteryId capacityKwh profileType sorted isReading candidate edge
  | false =>
      exact turned_of_not_isCandidate batteryId capacityKwh profileType isReading candidate edge

/-- What the loop has built after this many turns: one row for each eligible reading
among these, in order. -/
structure Built (batteryId : BatteryId) (telemetry : List Telemetry) (capacityKwh : ℚ)
    (profileType : ProfileType) (stats : Stats) (turns : Nat) (state : BuildState)
    (indices : List Nat) : Prop where
  edge : state.windowStart = windowStart telemetry turns
  counted : state.stats.total = stats.total + turns
  rising : indices.Pairwise (· < ·)
  mem_iff : ∀ i, i ∈ indices ↔ i < turns ∧ Eligible telemetry i
  rows : List.Forall₂ (IsRow telemetry batteryId capacityKwh profileType) indices state.rows

/-- A turn builds on. -/
theorem Built.turn {stats : Stats} {indices : List Nat} {next : BuildState}
    (built : Built batteryId telemetry capacityKwh profileType stats i state indices)
    (turned : Turned batteryId telemetry capacityKwh profileType i state next) :
    ∃ more, Built batteryId telemetry capacityKwh profileType stats (i + 1) next more := by
  have counted : next.stats.total = stats.total + (i + 1) := by
    rw [turned.counted, built.counted, Nat.add_assoc]
  rcases turned.emitted with ⟨not, same⟩ | ⟨eligible, row, isRow, appended⟩
  · refine ⟨indices, turned.edge, counted, built.rising, ?_, same ▸ built.rows⟩
    intro k
    rw [built.mem_iff, Nat.lt_succ_iff_lt_or_eq]
    constructor
    · exact fun isIndex => ⟨.inl isIndex.1, isIndex.2⟩
    · rintro ⟨before | rfl, isEligible⟩
      · exact ⟨before, isEligible⟩
      · exact absurd isEligible not
  · refine ⟨indices ++ [i], turned.edge, counted, ?_, ?_, ?_⟩
    · refine List.pairwise_append.mpr ⟨built.rising, List.pairwise_singleton .., ?_⟩
      intro k isIndex last isLast
      rw [List.mem_singleton.mp isLast]
      exact ((built.mem_iff k).mp isIndex).1
    · intro k
      rw [List.mem_append, List.mem_singleton, built.mem_iff, Nat.lt_succ_iff_lt_or_eq,
        or_and_right]
      exact or_congr_right ⟨fun same => ⟨same, same ▸ eligible⟩, And.left⟩
    · rw [appended]
      exact List.rel_append built.rows (.cons isRow .nil)

variable (batteryId capacityKwh profileType) in
/-- One more turn of the loop. -/
theorem buildLoop_succ (sorted : Sorted telemetry) {stats : Stats} (within : i < telemetry.length)
    (reached : buildLoop batteryId telemetry capacityKwh profileType stats i = some state)
    (edge : state.windowStart = windowStart telemetry i) :
    ∃ next, buildLoop batteryId telemetry capacityKwh profileType stats (i + 1) = some next ∧
      Turned batteryId telemetry capacityKwh profileType i state next := by
  obtain ⟨next, turn, turned⟩ :=
    buildTurn_turned batteryId capacityKwh profileType sorted within edge
  refine ⟨next, ?_, turned⟩
  rw [buildLoop] at reached
  rw [buildLoop, List.range_succ, List.foldlM_append, reached]
  simp only [Option.bind_eq_bind, Option.bind_some, List.foldlM_cons, turn, List.foldlM_nil]
  rfl

variable (batteryId capacityKwh profileType) in
/-- Every turn of the loop is reached, and what it has then built. -/
theorem buildLoop_built (sorted : Sorted telemetry) (stats : Stats) {turns : Nat}
    (within : turns ≤ telemetry.length) :
    ∃ state indices, buildLoop batteryId telemetry capacityKwh profileType stats turns =
        some state ∧
      Built batteryId telemetry capacityKwh profileType stats turns state indices := by
  induction turns with
  | zero => exact ⟨_, [], rfl, rfl, rfl, .nil, by simp, .nil⟩
  | succ i ih =>
      obtain ⟨state, indices, reached, built⟩ := ih (Nat.le_of_succ_le within)
      obtain ⟨next, again, turned⟩ :=
        buildLoop_succ batteryId capacityKwh profileType sorted within reached built.edge
      obtain ⟨more, builtMore⟩ := built.turn turned
      exact ⟨next, more, again, builtMore⟩

theorem buildRowsForBattery_eq (stats : Stats) :
    buildRowsForBattery batteryId telemetry capacityKwh profileType stats =
      (buildLoop batteryId telemetry capacityKwh profileType stats telemetry.length).map
        fun state => (state.rows, state.stats) := by
  unfold buildRowsForBattery
  split
  · next empty =>
      obtain rfl := List.length_eq_zero_iff.mp empty
      rfl
  · rfl

/-- The pass over a sorted history gives one row for each eligible reading, in order,
and counts every reading once; its left edge never passes the reading it stands at. -/
theorem buildRowsForBattery_spec (batteryId : BatteryId) (telemetry : List Telemetry)
    (capacityKwh : ℚ) (profileType : ProfileType) (stats : Stats) (sorted : Sorted telemetry) :
    (∃ rows counted indices,
      buildRowsForBattery batteryId telemetry capacityKwh profileType stats =
        some (rows, counted) ∧
      indices.Pairwise (· < ·) ∧ (∀ i, i ∈ indices ↔ Eligible telemetry i) ∧
      List.Forall₂ (IsRow telemetry batteryId capacityKwh profileType) indices rows ∧
      counted.total = stats.total + telemetry.length) ∧
    ∀ i < telemetry.length, ∃ state,
      buildLoop batteryId telemetry capacityKwh profileType stats (i + 1) = some state ∧
      state.windowStart ≤ i := by
  constructor
  · obtain ⟨state, indices, reached, built⟩ :=
      buildLoop_built batteryId capacityKwh profileType sorted stats (Nat.le_refl _)
    refine ⟨state.rows, state.stats, indices, ?_, built.rising, ?_, built.rows, built.counted⟩
    · rw [buildRowsForBattery_eq, reached]
      rfl
    · intro i
      rw [built.mem_iff]
      refine and_iff_right_of_imp ?_
      rintro ⟨reading, eligible⟩
      exact (List.getElem?_eq_some_iff.mp eligible.isReading).1
  · intro i within
    obtain ⟨state, indices, reached, built⟩ :=
      buildLoop_built batteryId capacityKwh profileType sorted stats (Nat.succ_le_of_lt within)
    have isReading := List.getElem?_eq_getElem within
    refine ⟨state, reached, ?_⟩
    rw [built.edge]
    exact (windowStart_le_stale sorted isReading).2.trans (stale_le isReading)

/-- A discharge of half an hour down to the threshold, with two readings of one
instant. -/
def sampleDischarge : List Telemetry :=
  [(sampleEvent 1 0 60).toTelemetry, (sampleEvent 2 360000000 55).toTelemetry,
    (sampleEvent 3 360000000 54).toTelemetry, (sampleEvent 4 900000000 50).toTelemetry,
    (sampleEvent 5 1200000000 45).toTelemetry, (sampleEvent 6 1800000000 20).toTelemetry]

/-- It gives two rows, fifteen and ten minutes before the threshold. -/
theorem sample_buildRowsForBattery_spec :
    (buildRowsForBattery sampleBatteryId sampleDischarge 10 .residential {}).map
        (fun built => (built.1.map TrainingRow.minutesToCritical, built.2)) =
      some ([15, 10], { alreadyAtOrBelowCritical := 1, insufficientHistory := 3, eligible := 2 }) ∧
    (∃ rows counted indices,
      buildRowsForBattery sampleBatteryId sampleDischarge 10 .residential {} =
        some (rows, counted) ∧
      indices.Pairwise (· < ·) ∧ (∀ i, i ∈ indices ↔ Eligible sampleDischarge i) ∧
      List.Forall₂ (IsRow sampleDischarge sampleBatteryId 10 .residential) indices rows ∧
      counted.total = ({} : Stats).total + sampleDischarge.length) ∧
    ∀ i < sampleDischarge.length, ∃ state,
      buildLoop sampleBatteryId sampleDischarge 10 .residential {} (i + 1) = some state ∧
      state.windowStart ≤ i :=
  ⟨by decide +kernel,
    buildRowsForBattery_spec sampleBatteryId sampleDischarge 10 .residential {} (by decide)⟩

end Run

end VoltStream.Ml
