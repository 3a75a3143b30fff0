/-
Module: VoltStream.Proofs.CriticalTimestamp
Purpose: When the prediction endpoint gets through its arithmetic on datetimes, and when
  the time that it predicts lies behind the reading.
Trusted boundary: human-reviewed statement of what the database driver documents
Main exports: Driver.IsDocumented, predictedCriticalTimestamp_ok_iff, HistoryReadable,
  predictionHistory_ok_iff, liveFeatures_eq_servedFeatures, DueInTime, ReadingFits,
  prediction_total_iff, AnswersForward, ServedInFuture, servedInFuture_iff
-/
import VoltStream.Backend.PredictionEndpoint
import VoltStream.Numeric.Double
import VoltStream.Proofs.ConservativePrediction

namespace VoltStream.Backend

open Relational Numeric

/-! ### Durations -/

theorem timedeltaMinutes_nonneg {minutes : ℚ} (forward : 0 ≤ minutes) :
    0 ≤ timedeltaMinutes minutes := roundHalfEven_nonneg (by positivity)

theorem floatTimedelta_nonneg {round : ℚ → ℚ} (rounds : Rounds round) {minutes : ℚ}
    (forward : 0 ≤ minutes) : 0 ≤ floatTimedelta round minutes := by
  have whole : (0 : Int) ≤ minutes.floor := Rat.le_floor_iff.mpr (by exact_mod_cast forward)
  have rest : 0 ≤ minutes - minutes.floor := sub_nonneg.mpr (Rat.floor_le minutes)
  unfold floatTimedelta
  simp only [if_pos forward]
  exact Int.add_nonneg (by positivity)
    (roundHalfEven_nonneg (rounds.nonneg (mul_nonneg rest (by norm_num))))

/-- A duration from one datetime to another is a `timedelta`. -/
theorem inTimedeltaRange_of_le {asOf delta : Int} (forward : 0 ≤ delta)
    (early : datetimeMin ≤ asOf) (fits : asOf + delta ≤ datetimeMax) : InTimedeltaRange delta := by
  have longest : datetimeMax - datetimeMin < 1000000000 * microsecondsPerDay := by decide
  have past : -999999999 * microsecondsPerDay ≤ 0 := by decide
  exact ⟨past.trans forward, by linarith⟩

section Rounding

variable {round : ℚ → ℚ} (rounds : Rounds round)
include rounds

/-- A time that is not in the past is found exactly if it is within the calendar. -/
theorem predictedCriticalTimestamp_ok_iff {asOf : AwareDatetime} {minutes : ℚ}
    (forward : 0 ≤ minutes) :
    (∃ critical, predictedCriticalTimestamp round asOf minutes = .ok critical) ↔
      asOf.wall + floatTimedelta round minutes ≤ datetimeMax := by
  have later := floatTimedelta_nonneg rounds forward
  unfold predictedCriticalTimestamp
  by_cases fits : asOf.wall + floatTimedelta round minutes ≤ datetimeMax
  · rw [if_pos (inTimedeltaRange_of_le later asOf.wallBounds.1 fits)]
    refine iff_of_true ((asOf.plus_eq_ok_iff _).mpr ⟨?_, fits⟩) fits
    exact asOf.wallBounds.1.trans (Int.le_add_of_nonneg_right later)
  · refine iff_of_false ?_ fits
    rintro ⟨critical, ok⟩
    simp only at ok
    split_ifs at ok
    exact fits ((asOf.plus_eq_ok_iff _).mp ⟨critical, ok⟩).2

/-- The predicted time is not earlier than the reading, if the minutes are not negative. -/
theorem le_predictedCriticalTimestamp {asOf critical : AwareDatetime} {minutes : ℚ}
    (forward : 0 ≤ minutes) (ok : predictedCriticalTimestamp round asOf minutes = .ok critical) :
    asOf.instant ≤ critical.instant := by
  unfold predictedCriticalTimestamp at ok
  simp only at ok
  split_ifs at ok
  rw [AwareDatetime.plus_instant ok]
  exact Int.le_add_of_nonneg_right (floatTimedelta_nonneg rounds forward)

theorem minutesRemaining_nonneg {capacityKwh stateOfCharge powerKw criticalSocPercent : ℚ}
    (capacity : 0 < capacityKwh) (above : criticalSocPercent < stateOfCharge) :
    0 ≤ minutesRemaining round capacityKwh stateOfCharge powerKw criticalSocPercent := by
  have charge : 0 ≤ round (stateOfCharge - criticalSocPercent) :=
    rounds.nonneg (sub_pos.mpr above).le
  have share : 0 ≤ round (round (stateOfCharge - criticalSocPercent) / 100) :=
    rounds.nonneg (by positivity)
  have usable : 0 ≤ round (capacityKwh *
      round (round (stateOfCharge - criticalSocPercent) / 100)) :=
    rounds.nonneg (mul_nonneg capacity.le share)
  have hours := rounds.nonneg (div_nonneg usable (abs_nonneg powerKw))
  exact rounds.nonneg (mul_nonneg hours (by norm_num))

end Rounding

/-! ### The driver -/

/-- What the driver's documentation says of `timestamptz`: a time strictly within the calendar
comes back in UTC, and goes out as the instant that it stands for; and whatever comes back
shows the stored time on its clock. -/
structure Driver.IsDocumented (driver : Driver) : Prop where
  decodes : ∀ stored (bounds : datetimeMin < stored ∧ stored < datetimeMax),
    driver.decode stored = some (.aware (.utc stored ⟨bounds.1.le, bounds.2.le⟩))
  encodes : ∀ datetime : AwareDatetime, datetimeMin < datetime.instant →
    datetime.instant < datetimeMax → driver.encode (.aware datetime) = some datetime.instant
  faithful : ∀ stored read, driver.decode stored = some read → read.clock.instant = stored

/-! ### The history -/

section History

variable {driver : Driver} {db : Database} {batteryId : BatteryId} {battery : Battery}

/-- A row as an entry of the history. -/
def priorReading (row : Telemetry) : PriorReading where
  timestamp := row.timestamp
  stateOfCharge := row.stateOfCharge
  powerKw := row.powerKw

theorem getBatteryTelemetryHistory_ok (registered : db.batteries.lookup batteryId = some battery)
    (start stop : Option Timestamp) (limit : Nat) :
    ∃ rows, getBatteryTelemetryHistory db batteryId start stop limit = .ok rows := by
  rw [getBatteryTelemetryHistory, registered]
  exact ⟨_, rfl⟩

theorem bounds_of_mem_history {start stop : Timestamp} {limit : Nat} {rows : List Telemetry}
    (ok : getBatteryTelemetryHistory db batteryId (some start) (some stop) limit = .ok rows)
    {row : Telemetry} (isRow : row ∈ rows) : start ≤ row.timestamp ∧ row.timestamp ≤ stop := by
  unfold getBatteryTelemetryHistory at ok
  split at ok
  · cases ok
  · cases ok
    have inFilter := (List.mem_insertionSort _).mp (List.mem_of_mem_take isRow)
    have bounds := of_decide_eq_true (List.mem_filter.mp inFilter).2
    exact ⟨bounds.2.1 start rfl, bounds.2.2 stop rfl⟩

/-- The rows are read and compared with `as_of` exactly if the driver can read the timestamp of
each, and reads all as it reads `as_of`. -/
theorem historyBefore_ok_iff (driver : Driver) (asOf : ReadDatetime) (rows : List Telemetry) :
    (∃ read history, readRows driver rows = .ok read ∧ historyBefore asOf read = .ok history) ↔
      ∀ row ∈ rows, ∃ timestamp, driver.decode row.timestamp = some timestamp ∧
        timestamp.isNaive = asOf.isNaive := by
  induction rows with
  | nil =>
      refine iff_of_true ⟨[], [], rfl, rfl⟩ fun _ impossible => ?_
      exact absurd impossible List.not_mem_nil
  | cons row rest ih =>
      rw [List.forall_mem_cons, ← ih]
      cases decoded : driver.decode row.timestamp with
      | none => simp [readRows, decoded]
      | some timestamp =>
          cases later : readRows driver rest with
          | error error => simp [readRows, decoded, later]
          | ok read =>
              by_cases same : timestamp.isNaive = asOf.isNaive
              · cases earlier : historyBefore asOf read with
                | error error =>
                    simp [readRows, decoded, later, historyBefore, earlier, ReadDatetime.less, same]
                | ok history =>
                    simp [readRows, decoded, later, historyBefore, earlier, ReadDatetime.less, same]
              · simp [readRows, decoded, later, historyBefore, ReadDatetime.less, same]

/-- The calendar has the lookback in front of `as_of`, the driver binds both ends of the
window, and it reads the rows between them as it reads `as_of`. -/
structure HistoryReadable (driver : Driver) (db : Database) (batteryId : BatteryId)
    (asOf : ReadDatetime) : Prop where
  lookback : datetimeMin + timedeltaMinutes predictionHistoryLookbackMinutes ≤ asOf.clock.wall
  window : ∀ start, asOf.minus (timedeltaMinutes predictionHistoryLookbackMinutes) = .ok start →
    ∃ first last, driver.encode start = some first ∧ driver.encode asOf = some last ∧
      ∀ rows, getBatteryTelemetryHistory db batteryId (some first) (some last)
          predictionHistoryRowLimit = .ok rows →
        ∀ row ∈ rows, ∃ timestamp, driver.decode row.timestamp = some timestamp ∧
          timestamp.isNaive = asOf.isNaive

/-- `as_of - delta` exists exactly if its clock does not go before the calendar. -/
theorem minus_ok_iff {asOf : ReadDatetime} {delta : Int} (forward : 0 ≤ delta) :
    (∃ start, asOf.minus delta = .ok start) ↔ datetimeMin + delta ≤ asOf.clock.wall := by
  cases asOf with
  | aware datetime =>
      have known := datetime.plus_eq_ok_iff (-delta)
      have inside := datetime.wallBounds.2
      rw [ReadDatetime.minus, AwareDatetime.minus, ReadDatetime.clock]
      constructor
      · rintro ⟨start, ok⟩
        cases earlier : datetime.plus (-delta) with
        | error error => simp [earlier, Except.map] at ok
        | ok reached => linarith [(known.mp ⟨reached, earlier⟩).1]
      · intro reaches
        obtain ⟨reached, earlier⟩ := known.mpr ⟨by linarith, by linarith⟩
        exact ⟨.aware reached, by rw [earlier]; rfl⟩
  | naive wall wallBounds =>
      rw [ReadDatetime.minus, ReadDatetime.clock, AwareDatetime.utc]
      split_ifs with bounds
      · exact iff_of_true ⟨_, rfl⟩ (by linarith [bounds.1])
      · refine iff_of_false ?_ fun reaches => bounds ⟨?_, ?_⟩
        · rintro ⟨start, ok⟩
          cases ok
        · linarith
        · linarith [wallBounds.2]

theorem predictionHistory_ok_iff (registered : db.batteries.lookup batteryId = some battery)
    (asOf : ReadDatetime) :
    (∃ history, predictionHistory driver db batteryId asOf = .ok history) ↔
      HistoryReadable driver db batteryId asOf := by
  have forward : 0 ≤ timedeltaMinutes predictionHistoryLookbackMinutes :=
    timedeltaMinutes_nonneg (by decide)
  unfold predictionHistory
  cases started : asOf.minus (timedeltaMinutes predictionHistoryLookbackMinutes) with
  | error error =>
      refine iff_of_false (by simp) fun readable => ?_
      obtain ⟨start, ok⟩ := (minus_ok_iff forward).mpr readable.lookback
      rw [started] at ok
      cases ok
  | ok start =>
      have lookback := (minus_ok_iff forward).mp ⟨start, started⟩
      have split : HistoryReadable driver db batteryId asOf ↔
          ∃ first last, driver.encode start = some first ∧ driver.encode asOf = some last ∧
            ∀ rows, getBatteryTelemetryHistory db batteryId (some first) (some last)
                predictionHistoryRowLimit = .ok rows →
              ∀ row ∈ rows, ∃ timestamp, driver.decode row.timestamp = some timestamp ∧
                timestamp.isNaive = asOf.isNaive := by
        refine ⟨fun readable => readable.window start started, fun window => ⟨lookback, ?_⟩⟩
        intro other isStart
        obtain rfl := Except.ok.inj (started.symm.trans isStart)
        exact window
      rw [split]
      dsimp only
      cases firstBound : driver.encode start with
      | none => simp
      | some first =>
          cases lastBound : driver.encode asOf with
          | none => simp
          | some last =>
              obtain ⟨rows, history⟩ := getBatteryTelemetryHistory_ok registered (some first)
                (some last) predictionHistoryRowLimit
              have compared := historyBefore_ok_iff driver asOf rows
              simp only [history, Option.some.injEq, Except.ok.injEq, forall_eq',
                exists_and_left, exists_eq_left', ← compared]
              cases readRows driver rows with
              | error error => simp
              | ok read => simp

/-- Of rows within the calendar, a documented driver leaves those before `as_of`. -/
theorem historyBefore_of_documented (documented : driver.IsDocumented) (asOf : AwareDatetime)
    {rows : List Telemetry}
    (inside : ∀ row ∈ rows, datetimeMin < row.timestamp ∧ row.timestamp < datetimeMax) :
    ∃ read, readRows driver rows = .ok read ∧ historyBefore (.aware asOf) read =
      .ok ((rows.filter fun row => row.timestamp < asOf.instant).map priorReading) := by
  induction rows with
  | nil => exact ⟨[], rfl, rfl⟩
  | cons row rest ih =>
      rw [List.forall_mem_cons] at inside
      obtain ⟨read, isRead, history⟩ := ih inside.2
      have decoded := documented.decodes row.timestamp inside.1
      refine ⟨(.aware (.utc row.timestamp ⟨inside.1.1.le, inside.1.2.le⟩), row) :: read,
        by simp only [readRows, decoded, isRead], ?_⟩
      have sameKind : (ReadDatetime.aware (.utc row.timestamp
          ⟨inside.1.1.le, inside.1.2.le⟩)).isNaive = (ReadDatetime.aware asOf).isNaive := rfl
      simp only [historyBefore, ReadDatetime.less, if_pos sameKind, history, ReadDatetime.clock,
        AwareDatetime.utc_instant, decide_eq_true_eq, List.filter_cons]
      split_ifs <;> rfl

/-- Away from the ends of the calendar, a documented driver leads to the history over
instants. -/
theorem predictionHistory_of_documented (documented : driver.IsDocumented)
    (registered : db.batteries.lookup batteryId = some battery) {stored : Timestamp}
    (early : datetimeMin + timedeltaMinutes predictionHistoryLookbackMinutes < stored)
    (late : stored < datetimeMax) {asOf : ReadDatetime}
    (read : driver.decode stored = some asOf) :
    asOf.clock.wall = stored ∧ asOf.clock.utcoffset = 0 ∧
    ∃ rows, getBatteryTelemetryHistory db batteryId
        (some (stored - timedeltaMinutes predictionHistoryLookbackMinutes)) (some stored)
        predictionHistoryRowLimit = .ok rows ∧
      predictionHistory driver db batteryId asOf =
        .ok ((rows.filter fun row => row.timestamp < stored).map priorReading) := by
  have forward : 0 ≤ timedeltaMinutes predictionHistoryLookbackMinutes :=
    timedeltaMinutes_nonneg (by decide)
  have bounds : datetimeMin < stored ∧ stored < datetimeMax := ⟨by linarith, late⟩
  obtain rfl := Option.some.inj (read.symm.trans (documented.decodes stored bounds))
  refine ⟨rfl, rfl, ?_⟩
  obtain ⟨start, started⟩ : ∃ start, (AwareDatetime.utc stored ⟨bounds.1.le, bounds.2.le⟩).minus
      (timedeltaMinutes predictionHistoryLookbackMinutes) = .ok start :=
    minus_ok_of_le early.le le_rfl forward
  have isStart : start.instant = stored - timedeltaMinutes predictionHistoryLookbackMinutes := by
    rw [AwareDatetime.minus_instant started, AwareDatetime.utc_instant]
  have firstBound : driver.encode (.aware start) =
      some (stored - timedeltaMinutes predictionHistoryLookbackMinutes) := by
    rw [documented.encodes start (by linarith) (by linarith), isStart]
  have lastBound : driver.encode (.aware (.utc stored ⟨bounds.1.le, bounds.2.le⟩)) =
      some stored := by
    rw [documented.encodes _ (by simpa using bounds.1) (by simpa using bounds.2),
      AwareDatetime.utc_instant]
  obtain ⟨rows, history⟩ := getBatteryTelemetryHistory_ok registered
    (some (stored - timedeltaMinutes predictionHistoryLookbackMinutes)) (some stored)
    predictionHistoryRowLimit
  have inside : ∀ row ∈ rows, datetimeMin < row.timestamp ∧ row.timestamp < datetimeMax := by
    intro row isRow
    obtain ⟨since, upTo⟩ := bounds_of_mem_history history isRow
    exact ⟨by linarith, by linarith⟩
  obtain ⟨readings, isRead, before⟩ := historyBefore_of_documented documented
    (.utc stored ⟨bounds.1.le, bounds.2.le⟩) inside
  refine ⟨rows, history, ?_⟩
  rw [AwareDatetime.utc_instant] at before
  simp only [predictionHistory, ReadDatetime.minus, started, Except.map, firstBound, lastBound,
    history, isRead, before]

end History

/-! ### Up to the prediction -/

section Endpoint

variable {driver : Driver} {settings : PredictionSettings} {db : Database}
  {batteryId : BatteryId} {battery : Battery} {state : BatteryCurrentState}

/-- What the endpoint predicts from: nothing but the battery, or a reading with its
history. -/
theorem predictionArguments_inv {arguments : PredictionArguments}
    (called : predictionArguments driver settings db batteryId = .ok arguments) :
    ∃ battery, db.batteries.lookup batteryId = some battery ∧
      ((db.currentState batteryId = none ∧ arguments = unreportedArguments settings battery) ∨
        ∃ state asOf history, db.currentState batteryId = some state ∧
          driver.decode state.lastSeen = some asOf ∧
          predictionHistory driver db batteryId asOf = .ok history ∧
          arguments = reportedArguments settings battery state asOf.clock history) := by
  unfold predictionArguments at called
  split at called
  · cases called
  · next battery registered =>
    refine ⟨battery, registered, ?_⟩
    split at called
    · next unreported => exact .inl ⟨unreported, (Except.ok.inj called).symm⟩
    · next state reported =>
      split at called
      · cases called
      · next asOf read =>
        split at called
        · cases called
        · next history isHistory =>
          exact .inr ⟨state, asOf, history, reported, read, isHistory,
            (Except.ok.inj called).symm⟩

theorem predictionArguments_of_history (settings : PredictionSettings) {asOf : ReadDatetime}
    {history : List PriorReading}
    (registered : db.batteries.lookup batteryId = some battery)
    (reported : db.currentState batteryId = some state)
    (read : driver.decode state.lastSeen = some asOf)
    (isHistory : predictionHistory driver db batteryId asOf = .ok history) :
    predictionArguments driver settings db batteryId =
      .ok (reportedArguments settings battery state asOf.clock history) := by
  simp only [predictionArguments, registered, reported, read, isHistory]

/-- `as_of` is the time of the reading. -/
theorem asOf_of_reported (documented : driver.IsDocumented) {arguments : PredictionArguments}
    {asOf : AwareDatetime}
    (called : predictionArguments driver settings db batteryId = .ok arguments)
    (reported : db.currentState batteryId = some state)
    (isAsOf : arguments.asOf = some asOf) : asOf.instant = state.lastSeen := by
  obtain ⟨battery, -, ⟨unreported, -⟩ | ⟨found, time, history, isFound, read, -, rfl⟩⟩ :=
    predictionArguments_inv called
  · rw [reported] at unreported
    cases unreported
  · obtain rfl := Option.some_inj.mp (reported.symm.trans isFound)
    obtain rfl := Option.some_inj.mp isAsOf
    exact documented.faithful _ _ read

/-- Away from the ends of the calendar, the endpoint calls the service with what it reads over
instants, and a model that is asked gets the features that it serves over instants. -/
theorem liveFeatures_eq_servedFeatures (documented : driver.IsDocumented)
    {arguments : PredictionArguments} {percent power capacity : ℚ} {profile : ProfileType}
    (called : predictionArguments driver settings db batteryId = .ok arguments)
    (reported : db.currentState batteryId = some state)
    (early : datetimeMin + timedeltaMinutes predictionHistoryLookbackMinutes < state.lastSeen)
    (late : state.lastSeen < datetimeMax)
    (eligible : MlEligible arguments percent power capacity profile) :
    predictionInput settings.criticalSocPercent db batteryId = .ok arguments.input ∧
      arguments.liveFeatures percent capacity profile =
        .ok (servedFeatures settings.criticalSocPercent db batteryId) := by
  have shorter : timedeltaMinutes Live.rollingWindow15mMinutes ≤
      timedeltaMinutes predictionHistoryLookbackMinutes := by decide +kernel
  obtain ⟨battery, registered,
    ⟨unreported, -⟩ | ⟨found, asOf, history, isFound, read, isHistory, rfl⟩⟩ :=
      predictionArguments_inv called
  · rw [reported] at unreported
    cases unreported
  · obtain rfl := Option.some_inj.mp (reported.symm.trans isFound)
    obtain ⟨isWall, inUtc, rows, telemetry, before⟩ :=
      predictionHistory_of_documented documented registered early late read
    obtain rfl := Except.ok.inj (isHistory.symm.trans before)
    have sameTime := documented.faithful _ _ read
    have sameInput : predictionInput settings.criticalSocPercent db batteryId =
        .ok (reportedArguments settings battery state asOf.clock
          ((rows.filter fun row => row.timestamp < state.lastSeen).map priorReading)).input := by
      simp only [predictionInput, registered, reported, telemetry, PredictionArguments.input,
        reportedArguments, Option.map_some, sameTime]
      rfl
    refine ⟨sameInput, ?_⟩
    rw [servedFeatures, sameInput]
    exact liveFeatures_eq_modelFeatures eligible rfl inUtc (by linarith)

/-! ### Without a model -/

variable {round : ℚ → ℚ} (rounds : Rounds round)

/-- If the baseline predicts from the reading, its power is not zero, and the predicted time is
within the calendar.  The baseline's arithmetic is written out. -/
def DueInTime (round : ℚ → ℚ) (settings : PredictionSettings) (battery : Battery)
    (state : BatteryCurrentState) (wall : Int) : Prop :=
  state.status = .reported .discharging →
    settings.criticalSocPercent < state.stateOfCharge →
    settings.minDischargePowerKw ≤ |state.powerKw| →
      state.powerKw ≠ 0 ∧
      wall + floatTimedelta round (round (round (round (battery.capacityKwh *
        round (round (state.stateOfCharge - settings.criticalSocPercent) / 100)) /
          |state.powerKw|) * 60)) ≤ datetimeMax

/-- The driver reads the time of the reading, and with it the history is readable, and a
predicted time within the calendar. -/
structure ReadingFits (driver : Driver) (round : ℚ → ℚ) (settings : PredictionSettings)
    (db : Database) (battery : Battery) (state : BatteryCurrentState) (asOf : ReadDatetime) :
    Prop where
  read : driver.decode state.lastSeen = some asOf
  history : HistoryReadable driver db battery.batteryId asOf
  dueInTime : DueInTime round settings battery state asOf.clock.wall

theorem predictFor_ok_iff {loaded : Option LoadedModel} {arguments : PredictionArguments}
    {result : PredictionResult} (ok : computePrediction round loaded arguments = .ok result) :
    (∃ response, predictFor settings round loaded batteryId arguments = .ok response) ↔
      ∃ timestamp, responseTimestamp round arguments.asOf result.predictedMinutesToCritical =
        .ok timestamp := by
  simp only [predictFor, ok]
  cases responseTimestamp round arguments.asOf result.predictedMinutesToCritical with
  | error error => simp
  | ok timestamp => simp

theorem predictFor_unreported (round : ℚ → ℚ) :
    ∃ response, predictFor settings round none batteryId
      (unreportedArguments settings battery) = .ok response := ⟨_, rfl⟩

include rounds

theorem responseTimestamp_ok_iff {asOf : AwareDatetime} {minutes : ℚ} (forward : 0 ≤ minutes) :
    (∃ timestamp, responseTimestamp round (some asOf) (some minutes) = .ok timestamp) ↔
      asOf.wall + floatTimedelta round minutes ≤ datetimeMax := by
  rw [← predictedCriticalTimestamp_ok_iff rounds forward, responseTimestamp]
  cases predictedCriticalTimestamp round asOf minutes with
  | error error => simp [Except.map]
  | ok critical => simp [Except.map]

/-- From a reading, the baseline's answer and the time that it falls due decide. -/
theorem predictFor_reported_iff {asOf : AwareDatetime} {history : List PriorReading}
    (capacity : 0 < battery.capacityKwh) :
    (∃ response, predictFor settings round none batteryId
        (reportedArguments settings battery state asOf history) = .ok response) ↔
      DueInTime round settings battery state asOf.wall := by
  have isBaseline : computePrediction round none
        (reportedArguments settings battery state asOf history) =
      (computeBaselinePrediction round (some battery.capacityKwh) (some state.stateOfCharge)
        (some state.powerKw) (some state.status) settings.criticalSocPercent
        settings.minDischargePowerKw).map BaselinePredictionResult.served := rfl
  unfold DueInTime
  rw [computeBaselinePrediction] at isBaseline
  split_ifs at isBaseline with other atOrBelow tooLow zero
  · refine iff_of_true ?_ fun discharging => absurd discharging other
    exact (predictFor_ok_iff isBaseline).mpr ⟨none, rfl⟩
  · refine iff_of_true ?_ fun _ above => absurd atOrBelow (not_le.mpr above)
    exact (predictFor_ok_iff isBaseline).mpr ⟨none, rfl⟩
  · refine iff_of_true ?_ fun _ _ enough => absurd tooLow (not_lt.mpr enough)
    exact (predictFor_ok_iff isBaseline).mpr ⟨none, rfl⟩
  · refine iff_of_false ?_ fun moves => ?_
    · simp [predictFor, isBaseline, Except.map]
    · exact (moves (not_not.mp other) (not_le.mp atOrBelow) (not_lt.mp tooLow)).1
        (abs_eq_zero.mp zero)
  · have above := not_le.mp atOrBelow
    have moves : state.powerKw ≠ 0 := fun stands => zero (abs_eq_zero.mpr stands)
    rw [predictFor_ok_iff isBaseline]
    refine (responseTimestamp_ok_iff rounds
      (minutesRemaining_nonneg rounds capacity above)).trans ?_
    exact ⟨fun fits _ _ _ => ⟨moves, fits⟩,
      fun fits => (fits (not_not.mp other) above (not_lt.mp tooLow)).2⟩

omit rounds

theorem getBatteryPredictionEndpoint_ok_iff {loaded : Option LoadedModel}
    {response : PredictionResponse} :
    getBatteryPredictionEndpoint driver settings round loaded db batteryId = .ok response ↔
      ∃ arguments, predictionArguments driver settings db batteryId = .ok arguments ∧
        predictFor settings round loaded batteryId arguments = .ok response := by
  unfold getBatteryPredictionEndpoint
  cases predictionArguments driver settings db batteryId with
  | error error => simp
  | ok arguments =>
      cases predicted : predictFor settings round loaded batteryId arguments with
      | error error => simp [predicted]
      | ok response => simp [predicted]

/-- Once the arguments are there, the prediction decides. -/
theorem endpoint_returns_iff {loaded : Option LoadedModel} {arguments : PredictionArguments}
    (called : predictionArguments driver settings db batteryId = .ok arguments) :
    (∃ response, getBatteryPredictionEndpoint driver settings round loaded db batteryId =
        .ok response) ↔
      ∃ response, predictFor settings round loaded batteryId arguments = .ok response := by
  simp only [getBatteryPredictionEndpoint_ok_iff, called, Except.ok.injEq, exists_eq_left']

/-- Without a model, the endpoint answers for a registered battery exactly if it has not
reported, or its current state fits in the calendar.  Away from the ends of the calendar, and
with a documented driver, the predicted time alone has to. -/
theorem prediction_total_iff (driver : Driver) (round : ℚ → ℚ) (rounds : Rounds round)
    (settings : PredictionSettings) (db : Database) (batteryId : BatteryId) (battery : Battery)
    (registered : db.batteries.lookup batteryId = some battery)
    (capacity : 0 < battery.capacityKwh) :
    ((∃ response, getBatteryPredictionEndpoint driver settings round none db batteryId =
        .ok response) ↔
      ∀ state, db.currentState batteryId = some state →
        ∃ asOf, ReadingFits driver round settings db battery state asOf) ∧
    (driver.IsDocumented → ∀ state, db.currentState batteryId = some state →
      datetimeMin + timedeltaMinutes predictionHistoryLookbackMinutes < state.lastSeen →
      state.lastSeen < datetimeMax →
      ((∃ response, getBatteryPredictionEndpoint driver settings round none db batteryId =
          .ok response) ↔
        DueInTime round settings battery state state.lastSeen)) := by
  have sameId : battery.batteryId = batteryId := (Table.lookup_some_iff _).mp registered |>.2
  refine ⟨?_, fun documented state reported early late => ?_⟩
  · cases reported : db.currentState batteryId with
    | none =>
        have called : predictionArguments driver settings db batteryId =
            .ok (unreportedArguments settings battery) := by
          simp only [predictionArguments, registered, reported]
        refine iff_of_true ((endpoint_returns_iff called).mpr (predictFor_unreported round)) ?_
        exact fun _ impossible => by cases impossible
    | some state =>
        constructor
        · rintro ⟨response, ok⟩ other same
          obtain rfl := Option.some_inj.mp same
          obtain ⟨arguments, called, -⟩ := getBatteryPredictionEndpoint_ok_iff.mp ok
          obtain ⟨own, isOwn, ⟨unreported, -⟩ | ⟨found, asOf, history, isFound, read, isHistory,
            rfl⟩⟩ := predictionArguments_inv called
          · rw [reported] at unreported
            cases unreported
          · obtain rfl := Option.some_inj.mp (registered.symm.trans isOwn)
            obtain rfl := Option.some_inj.mp (reported.symm.trans isFound)
            refine ⟨asOf, read, ?_, ?_⟩
            · rw [sameId]
              exact (predictionHistory_ok_iff registered asOf).mp ⟨history, isHistory⟩
            · exact (predictFor_reported_iff rounds capacity).mp
                ((endpoint_returns_iff called).mp ⟨response, ok⟩)
        · intro fits
          obtain ⟨asOf, read, readable, dueInTime⟩ := fits state rfl
          rw [sameId] at readable
          obtain ⟨history, isHistory⟩ := (predictionHistory_ok_iff registered asOf).mpr readable
          have called := predictionArguments_of_history settings registered reported read
            isHistory
          exact (endpoint_returns_iff called).mpr
            ((predictFor_reported_iff rounds capacity).mpr dueInTime)
  · have read := documented.decodes state.lastSeen ⟨by
      linarith [@timedeltaMinutes_nonneg predictionHistoryLookbackMinutes (by decide)], late⟩
    obtain ⟨isWall, -, rows, -, isHistory⟩ :=
      predictionHistory_of_documented documented registered early late read
    have called := predictionArguments_of_history settings registered reported read isHistory
    rw [endpoint_returns_iff called, predictFor_reported_iff rounds capacity, isWall]

end Endpoint

/-- The sample battery, with a capacity of ten gigawatt hours. -/
def largeBatteries : Table Battery Battery.batteryId where
  rows := sampleBatteries.rows.map fun battery => { battery with capacityKwh := 10000000 }
  primaryKey := by decide

/-- A full battery that discharges at the least power that is predicted from. -/
def slowDischarge : TelemetryEvent :=
  { sampleEvent 1 0 100 with powerKw := -1 / 10, powerKwBounds := by decide +kernel }

/-- A driver to which the ends of the calendar are the infinities of the database.  They come
back without an offset. -/
def infinityDriver : Driver where
  decode stored :=
    if bounds : datetimeMin ≤ stored ∧ stored ≤ datetimeMax then
      if stored = datetimeMin ∨ stored = datetimeMax then some (.naive stored bounds)
      else some (.aware (.utc stored bounds))
    else none
  encode datetime :=
    if datetimeMin ≤ datetime.clock.instant ∧ datetime.clock.instant ≤ datetimeMax then
      some datetime.clock.instant
    else none

theorem infinityDriver_isDocumented : infinityDriver.IsDocumented where
  decodes stored bounds := by
    have within : ¬(stored = datetimeMin ∨ stored = datetimeMax) := by
      rintro (isMin | isMax)
      · exact bounds.1.ne isMin.symm
      · exact bounds.2.ne isMax
    simp only [infinityDriver]
    rw [dif_pos ⟨bounds.1.le, bounds.2.le⟩, if_neg within]
  encodes datetime early late := if_pos ⟨early.le, late.le⟩
  faithful stored read isRead := by
    simp only [infinityDriver] at isRead
    split_ifs at isRead
    · cases isRead
      exact AwareDatetime.utc_instant ..
    · cases isRead
      exact AwareDatetime.utc_instant ..

/-- A large battery lasts beyond the end of the calendar, a reading in its first minutes has no
lookback, and one from its last instant cannot be compared with the reading before it. -/
theorem extreme_readings_abort :
    getBatteryPredictionEndpoint infinityDriver .default id none
        ((Database.registered largeBatteries).ingest .default (.single slowDischarge))
        sampleBatteryId = .error (.arithmeticError .overflowError) ∧
      getBatteryPredictionEndpoint infinityDriver .default id none
        ((Database.registered sampleBatteries).ingest .default
          (.single (sampleEvent 1 (datetimeMin + timedeltaMinutes 10) 50)))
        sampleBatteryId = .error (.arithmeticError .overflowError) ∧
      getBatteryPredictionEndpoint infinityDriver .default id none
        (((Database.registered sampleBatteries).ingest .default
          (.single (sampleEvent 1 (datetimeMax - timedeltaMinutes 10) 50))).ingest .default
          (.single (sampleEvent 2 datetimeMax 50)))
        sampleBatteryId = .error .typeError := by
  decide +kernel

theorem sample_prediction_total :
    (∃ response, getBatteryPredictionEndpoint infinityDriver .default id none
        ((Database.registered sampleBatteries).ingest .default (.single (sampleEvent 1 0 50)))
        sampleBatteryId = .ok response) ∧
      ∃ asOf, ReadingFits infinityDriver id .default
        ((Database.registered sampleBatteries).ingest .default (.single (sampleEvent 1 0 50)))
        (sampleBatteries.rows.head (by simp [sampleBatteries]))
        (sampleEvent 1 0 50).toCurrentState asOf := by
  have total := prediction_total_iff infinityDriver id rounds_id .default
    ((Database.registered sampleBatteries).ingest .default (.single (sampleEvent 1 0 50)))
    sampleBatteryId (sampleBatteries.rows.head (by simp [sampleBatteries])) rfl (by decide)
  have returns := (total.2 infinityDriver_isDocumented (sampleEvent 1 0 50).toCurrentState rfl
    (by decide +kernel) (by decide)).mpr fun _ _ _ => by decide +kernel
  exact ⟨returns, total.1.mp returns _ rfl⟩

/-! ### The direction of time -/

section Direction

variable {round : ℚ → ℚ} {loaded : Option LoadedModel} {arguments : PredictionArguments}

/-- No loaded model answers with a negative number. -/
def AnswersForward (loaded : Option LoadedModel) (arguments : PredictionArguments) : Prop :=
  ∀ model ∈ loaded, ∀ minutes, MlAnswers model arguments minutes → 0 ≤ minutes

theorem minutes_nonneg (rounds : Rounds round)
    (capacity : ∀ capacityKwh ∈ arguments.capacityKwh, 0 < capacityKwh)
    (forward : AnswersForward loaded arguments) {result : PredictionResult}
    (ok : computePrediction round loaded arguments = .ok result) {minutes : ℚ}
    (isMinutes : result.predictedMinutesToCritical = some minutes) : 0 ≤ minutes := by
  rcases computePrediction_inv ok with
    ⟨model, isLoaded, answer, answers, rfl⟩ | ⟨-, baseline, isBaseline, rfl⟩
  · cases isMinutes
    exact forward model isLoaded minutes answers
  · rcases computeBaselinePrediction_inv isBaseline with
      ⟨reason, rfl⟩ | ⟨capacityKwh, percent, power, isCapacity, -, -, -, above, -, -, rfl⟩
    · cases isMinutes
    · cases isMinutes
      exact minutesRemaining_nonneg rounds (capacity capacityKwh isCapacity) above

theorem minutes_of_available {result : PredictionResult}
    (ok : computePrediction round loaded arguments = .ok result)
    (available : result.predictionAvailable = true) :
    ∃ minutes, result.predictedMinutesToCritical = some minutes := by
  rcases computePrediction_inv ok with
    ⟨model, -, minutes, -, rfl⟩ | ⟨-, baseline, isBaseline, rfl⟩
  · exact ⟨minutes, rfl⟩
  · rcases computeBaselinePrediction_inv isBaseline with
      ⟨reason, rfl⟩ | ⟨capacityKwh, percent, power, -, -, -, -, -, -, -, rfl⟩
    · cases available
    · exact ⟨_, rfl⟩

/-- A timestamp in a response comes from a reading and from minutes. -/
theorem predictFor_timestamp_inv {settings : PredictionSettings} {batteryId : BatteryId}
    {response : PredictionResponse} {timestamp : AwareDatetime}
    (ok : predictFor settings round loaded batteryId arguments = .ok response)
    (isTimestamp : response.predictedCriticalTimestamp = some timestamp) :
    ∃ result asOf minutes, computePrediction round loaded arguments = .ok result ∧
      arguments.asOf = some asOf ∧ result.predictedMinutesToCritical = some minutes ∧
      predictedCriticalTimestamp round asOf minutes = .ok timestamp := by
  unfold predictFor at ok
  split at ok
  · cases ok
  · next result predicted =>
    split at ok
    · cases ok
    · next stamp stamped =>
      cases ok
      obtain rfl : stamp = some timestamp := isTimestamp
      unfold responseTimestamp at stamped
      split at stamped
      · next asOf minutes isAsOf isMinutes =>
        refine ⟨result, asOf, minutes, predicted, isAsOf, isMinutes, ?_⟩
        cases critical : predictedCriticalTimestamp round asOf minutes with
        | error error => rw [critical] at stamped; cases stamped
        | ok found => rw [critical] at stamped; cases stamped; rfl
      · cases stamped

/-- Predictions lie in the future: the minutes are not negative, and the endpoint's
timestamp is not earlier than the reading that it is computed from. -/
structure ServedInFuture (round : ℚ → ℚ) (loaded : Option LoadedModel)
    (arguments : PredictionArguments) : Prop where
  minutes : ∀ result, computePrediction round loaded arguments = .ok result →
    result.predictionAvailable = true →
      ∃ minutes, result.predictedMinutesToCritical = some minutes ∧ 0 ≤ minutes
  timestamp : ∀ driver : Driver, driver.IsDocumented →
    ∀ settings db batteryId state response timestamp,
      predictionArguments driver settings db batteryId = .ok arguments →
      db.currentState batteryId = some state →
      getBatteryPredictionEndpoint driver settings round loaded db batteryId = .ok response →
      response.predictedCriticalTimestamp = some timestamp →
        state.lastSeen ≤ timestamp.instant

/-- For a battery with a capacity, predictions lie in the future exactly if no loaded model
answers with a negative number. -/
theorem servedInFuture_iff (round : ℚ → ℚ) (rounds : Rounds round) (loaded : Option LoadedModel)
    (arguments : PredictionArguments)
    (capacity : ∀ capacityKwh ∈ arguments.capacityKwh, 0 < capacityKwh) :
    ServedInFuture round loaded arguments ↔ AnswersForward loaded arguments := by
  constructor
  · intro future model isLoaded minutes answers
    obtain ⟨found, isFound, forward⟩ := future.minutes _
      (computePrediction_of_answers isLoaded answers) rfl
    cases isFound
    exact forward
  · intro forward
    constructor
    · intro result ok available
      obtain ⟨minutes, isMinutes⟩ := minutes_of_available ok available
      exact ⟨minutes, isMinutes, minutes_nonneg rounds capacity forward ok isMinutes⟩
    · intro driver documented settings db batteryId state response timestamp called reported ok
        isTimestamp
      obtain ⟨same, isSame, predicted⟩ := getBatteryPredictionEndpoint_ok_iff.mp ok
      obtain rfl := Except.ok.inj (called.symm.trans isSame)
      obtain ⟨result, asOf, minutes, answered, isAsOf, isMinutes, falls⟩ :=
        predictFor_timestamp_inv predicted isTimestamp
      have nonneg := minutes_nonneg rounds capacity forward answered isMinutes
      have sameTime : asOf.instant = state.lastSeen :=
        asOf_of_reported documented called reported isAsOf
      exact sameTime ▸ le_predictedCriticalTimestamp rounds nonneg falls

end Direction

/-- A model that has the same answer for every row. -/
def constantModel (minutes : ℚ) : LoadedModel where
  predict := fun _ => some minutes
  modelVersion := some "v1"

/-- The sample battery after two readings, six minutes apart. -/
def sixMinutes : Database :=
  ((Database.registered sampleBatteries).ingest .default (.single (sampleEvent 1 0 60))).ingest
    .default (.single (sampleEvent 2 (timedeltaMinutes 6) 59))

/-- With a model that answers with minus five minutes, the endpoint predicts for the second
reading a time five minutes before it. -/
theorem negative_answer_is_served :
    (sixMinutes.currentState sampleBatteryId).map BatteryCurrentState.lastSeen =
        some (timedeltaMinutes 6) ∧
      (getBatteryPredictionEndpoint infinityDriver .default id (some (constantModel (-5)))
          sixMinutes sampleBatteryId).toOption.map (fun response => (response.predictionAvailable,
            response.predictedMinutesToCritical,
            response.predictedCriticalTimestamp.map AwareDatetime.instant)) =
        some (true, some (-5), some (timedeltaMinutes 1)) := by
  decide +kernel

/-- A discharging battery with enough history for a model. -/
def dischargingArguments : PredictionArguments :=
  { standingStill (1 / 10) with
    powerKw := some (-1)
    asOf := some (.utc 0 (by decide))
    history := [{ timestamp := -timedeltaMinutes 6, stateOfCharge := 51, powerKw := -1 }] }

theorem sample_servedInFuture :
    ServedInFuture id (some (constantModel 30)) dischargingArguments ∧
      computePrediction id (some (constantModel 30)) dischargingArguments =
        .ok ((constantModel 30).result 30) := by
  refine ⟨(servedInFuture_iff id rounds_id (some (constantModel 30)) dischargingArguments
    ?_).mpr ?_,
    by decide +kernel⟩
  · intro capacityKwh isCapacity
    cases isCapacity
    decide
  · rintro model isLoaded minutes ⟨_, _, _, _, _, -, -, answer⟩
    cases isLoaded
    cases answer
    decide

end VoltStream.Backend
