/-
Module: VoltStream.Proofs.SilentBatteries
Purpose: The offline detector over every run of its loop and of everybody else: it marks only
  batteries that are silent, and each of them in time.
Trusted boundary: human-reviewed statements of the results
Main exports: OfflineDetector.Effect, OfflineDetector.effect_of_step, OfflineDetector.Sound,
  OfflineDetector.Punctual, OfflineDetector.SilentStep, OfflineDetector.Watched,
  OfflineDetector.presence, OfflineDetector.alerted_in_time
-/
import VoltStream.Backend.OfflineDetector
import VoltStream.Proofs.DetectorEffect
import VoltStream.Proofs.RequestEffect

namespace VoltStream.Backend

open Relational

/-! ### What the detector and the others do to a row -/

section Rows

variable {settings : Settings} {now : Timestamp} {locked : List BatteryId} {db : Database}
  {batteryId : BatteryId}

theorem mem_unlockedStaleIds_iff :
    batteryId ∈ unlockedStaleIds settings now locked db.batteryCurrentState ↔
      db.IsStale settings now batteryId ∧ batteryId ∉ locked := by
  rw [unlockedStaleIds, List.mem_filter, Database.mem_staleIds_iff_isStale, decide_eq_true_eq]

theorem currentState_markUnlockedOffline :
    (markUnlockedOffline settings now locked db).2.currentState batteryId =
      if batteryId ∈ unlockedStaleIds settings now locked db.batteryCurrentState then
        (db.currentState batteryId).map BatteryCurrentState.markOffline
      else db.currentState batteryId :=
  lookup_markOfflineAll db.batteryCurrentState _ batteryId

/-- Without a lock the selection is that of a detector on its own. -/
theorem markUnlockedOffline_nil :
    markUnlockedOffline settings now [] db = markStaleBatteriesOffline settings now db := by
  have everyone : unlockedStaleIds settings now [] db.batteryCurrentState =
      staleIds settings now db.batteryCurrentState := by
    rw [unlockedStaleIds, List.filter_eq_self]
    exact fun _ _ => by simp
  rw [markUnlockedOffline, everyone, markStaleBatteriesOffline]

/-- A write of somebody else leaves a row alone or upserts a reading. -/
theorem currentState_write {write : Write} (foreign : OfflineDetector.isForeign write = true) :
    (db.write write).currentState batteryId = db.currentState batteryId ∨
      ∃ event : TelemetryEvent, (db.write write).currentState batteryId =
        refreshed (db.currentState batteryId) (some event) := by
  cases write with
  | register battery => exact .inl rfl
  | storeTelemetry events =>
      simp only [Database.write]
      split
      · exact .inl rfl
      · -- The upsert is the one of a request that has stored these readings.
        let readings := events.map TelemetryEvent.toTelemetry
        let fresh := events.filter fun event => event.eventId ∈ db.telemetry.returning readings
        have upserted := Database.currentState_applyAccepted .default db fresh batteryId
        change (db.applyAccepted .default fresh).currentState batteryId = _ ∨
          ∃ event, (db.applyAccepted .default fresh).currentState batteryId = _
        rw [upserted]
        cases newestEvent fresh batteryId with
        | none => exact .inl rfl
        | some event => exact .inr ⟨event, rfl⟩
  | markOffline ids => cases foreign
  | callAlert call => exact .inl rfl
  | resolveAlert resolvedAt alertId =>
      exact .inl (@currentState_step_resolve .default db resolvedAt alertId batteryId)

end Rows

namespace OfflineDetector

variable {settings : DetectorSettings} {before after : OfflineDetector} {move : Move}
  {batteryId : BatteryId}

/-- What a step does, move by move. -/
inductive Effect (settings : DetectorSettings) (before : OfflineDetector) :
    Move → OfflineDetector → Prop where
  | wait {later : Timestamp} (noEarlier : before.now ≤ later) :
      Effect settings before (.wait later) { before with now := later }
  | commit {writes : List Write} (foreign : ∀ write ∈ writes, isForeign write = true) :
      Effect settings before (.commit writes) { before with db := before.db.commit writes }
  | wake (asleep : before.phase = .asleep) (due : before.wake ≤ before.now) :
      Effect settings before .wake { before with phase := .selecting before.now }
  | markNone {locked : List BatteryId} {cutoffNow : Timestamp}
      (selecting : before.phase = .selecting cutoffNow)
      (none : unlockedStaleIds settings.toSettings cutoffNow locked
        before.db.batteryCurrentState = []) :
      Effect settings before (.mark locked) (before.sleep settings)
  | markSome {locked : List BatteryId} {cutoffNow : Timestamp}
      (selecting : before.phase = .selecting cutoffNow) :
      Effect settings before (.mark locked)
        { before with
          db := (markUnlockedOffline settings.toSettings cutoffNow locked before.db).2
          phase := .raising (unlockedStaleIds settings.toSettings cutoffNow locked
            before.db.batteryCurrentState) before.now }
  | raise {ids : List BatteryId} {alertNow : Timestamp}
      (raising : before.phase = .raising ids alertNow) :
      Effect settings before .raise (sleep settings { before with
        db := { before.db with
          alerts := AlertCall.runAll (deviceOfflineCalls settings.toSettings alertNow ids)
            before.db.alerts } })
  | fail {interruption : Interruption} (awake : before.phase ≠ .asleep) :
      Effect settings before (.fail interruption)
        (sleep settings { before with db := before.rolledBack settings interruption })
  | restart {interruption : Interruption} :
      Effect settings before (.restart interruption)
        { before with
          wake := before.now
          phase := .asleep
          db := before.rolledBack settings interruption }

theorem effect_of_step (step : before.Step settings move after) :
    Effect settings before move after := by
  unfold Step at step
  cases move with
  | wait later =>
      obtain ⟨noEarlier, done⟩ := Option.ite_none_right_eq_some.mp step
      obtain rfl := Option.some.inj done
      exact .wait noEarlier
  | commit writes =>
      obtain ⟨foreign, done⟩ := Option.ite_none_right_eq_some.mp step
      obtain rfl := Option.some.inj done
      exact .commit (List.all_eq_true.mp foreign)
  | wake =>
      simp only [perform] at step
      split at step
      · rename_i asleep
        obtain ⟨due, done⟩ := Option.ite_none_right_eq_some.mp step
        obtain rfl := Option.some.inj done
        exact .wake asleep due
      · cases step
  | mark locked =>
      simp only [perform] at step
      split at step
      · rename_i cutoffNow selecting
        split at step
        · rename_i none
          obtain rfl := Option.some.inj step
          have same : (markUnlockedOffline settings.toSettings cutoffNow locked before.db).2 =
              before.db := by
            rw [markUnlockedOffline] at none ⊢
            simp only at none ⊢
            rw [none]
            rfl
          rw [same]
          exact .markNone selecting none
        · obtain rfl := Option.some.inj step
          exact .markSome selecting
      · cases step
  | raise =>
      simp only [perform] at step
      split at step
      · rename_i ids alertNow raising
        obtain rfl := Option.some.inj step
        exact .raise raising
      · cases step
  | fail interruption =>
      simp only [perform] at step
      split at step
      · cases step
      · rename_i awake
        obtain rfl := Option.some.inj step
        exact .fail awake
  | restart interruption =>
      obtain rfl := Option.some.inj step
      exact .restart

@[simp] theorem rolledBack_currentState (state : OfflineDetector) (interruption : Interruption) :
    (state.rolledBack settings interruption).currentState = state.db.currentState := by
  unfold rolledBack
  cases state.phase <;> rfl

theorem interval_nonneg (settings : DetectorSettings) : 0 ≤ settings.interval := le_max_left ..

/-! ### Only silent batteries are marked -/

/-- What every step keeps: the moments of an iteration are in order, and a battery that is
marked has been silent for longer than the threshold. -/
structure Sound (settings : DetectorSettings) (state : OfflineDetector) : Prop where
  scheduled :
    match state.phase with
    | .asleep => state.wake ≤ state.now + settings.interval
    | .selecting cutoffNow => state.wake ≤ cutoffNow ∧ cutoffNow ≤ state.now
    | .raising _ alertNow => state.wake ≤ alertNow ∧ alertNow ≤ state.now
  marked : ∀ batteryId row, state.db.currentState batteryId = some row → row.status = .offline →
    row.lastSeen < state.now - settings.offlineThreshold

theorem sound_start (now : Timestamp) (batteries : Table Battery Battery.batteryId) :
    (start now batteries).Sound settings where
  scheduled := by
    change now ≤ now + settings.interval
    exact le_add_of_nonneg_right (interval_nonneg settings)
  marked batteryId row isRow := absurd isRow (by simp [start, Database.registered,
    Database.currentState])

/-- A reading that is upserted never shows `OFFLINE`, and one that is refused leaves the row. -/
theorem marked_refreshed {row : BatteryCurrentState} {found : Option BatteryCurrentState}
    {event : TelemetryEvent} (upserted : refreshed found (some event) = some row)
    (offline : row.status = .offline) : found = some row := by
  cases found with
  | none =>
      obtain rfl := Option.some.inj upserted
      cases offline
  | some old =>
      by_cases late : event.timestamp < old.lastSeen
      · rwa [refreshed_of_lt late] at upserted
      · rw [refreshed_of_le (not_lt.mp late)] at upserted
        obtain rfl := Option.some.inj upserted
        cases offline

/-- No transaction of others marks a battery. -/
theorem marked_commit {db : Database} {writes : List Write} {row : BatteryCurrentState}
    (foreign : ∀ write ∈ writes, isForeign write = true)
    (isRow : (db.commit writes).currentState batteryId = some row)
    (offline : row.status = .offline) : db.currentState batteryId = some row := by
  induction writes generalizing db with
  | nil => exact isRow
  | cons write rest ih =>
      have later : (db.write write).currentState batteryId = some row :=
        ih (fun other isOther => foreign other (List.mem_cons_of_mem write isOther)) isRow
      have one : (db.write write).currentState batteryId = db.currentState batteryId ∨
          ∃ event : TelemetryEvent, (db.write write).currentState batteryId =
            refreshed (db.currentState batteryId) (some event) :=
        currentState_write (foreign write List.mem_cons_self)
      rcases one with same | ⟨event, upserted⟩
      · exact same ▸ later
      · exact marked_refreshed (upserted.symm.trans later) offline

theorem scheduled_sleep (state : OfflineDetector) :
    (state.sleep settings).wake ≤ (state.sleep settings).now + settings.interval := le_rfl

theorem sound_step (sound : before.Sound settings) (step : before.Step settings move after) :
    after.Sound settings := by
  have scheduled := sound.scheduled
  cases effect_of_step step with
  | wait noEarlier =>
      refine ⟨?_, fun batteryId row isRow offline => ?_⟩
      · cases phase : before.phase with
        | asleep =>
            simp only [phase] at scheduled ⊢
            linarith
        | selecting cutoffNow =>
            simp only [phase] at scheduled ⊢
            exact ⟨scheduled.1, scheduled.2.trans noEarlier⟩
        | raising ids alertNow =>
            simp only [phase] at scheduled ⊢
            exact ⟨scheduled.1, scheduled.2.trans noEarlier⟩
      · have old := sound.marked batteryId row isRow offline
        linarith
  | commit foreign =>
      exact ⟨scheduled, fun batteryId row isRow offline =>
        sound.marked batteryId row (marked_commit foreign isRow offline) offline⟩
  | wake asleep due => exact ⟨⟨due, le_rfl⟩, sound.marked⟩
  | markNone selecting none => exact ⟨scheduled_sleep before, sound.marked⟩
  | @markSome locked cutoffNow selecting =>
      simp only [selecting] at scheduled
      refine ⟨⟨scheduled.1.trans scheduled.2, le_rfl⟩, fun batteryId row isRow offline => ?_⟩
      rw [currentState_markUnlockedOffline] at isRow
      split at isRow
      · rename_i selected
        obtain ⟨old, isOld, stale⟩ := (mem_unlockedStaleIds_iff.mp selected).1
        rw [isOld, Option.map_some] at isRow
        obtain rfl := Option.some.inj isRow
        exact lt_of_lt_of_le stale.2 (sub_le_sub_right scheduled.2 _)
      · exact sound.marked batteryId row isRow offline
  | raise raising => exact ⟨scheduled_sleep before, sound.marked⟩
  | fail awake =>
      refine ⟨scheduled_sleep before, fun batteryId row isRow offline => ?_⟩
      have isRow : (before.rolledBack settings _).currentState batteryId = some row := isRow
      rw [rolledBack_currentState] at isRow
      exact sound.marked batteryId row isRow offline
  | restart =>
      refine ⟨le_add_of_nonneg_right (interval_nonneg settings),
        fun batteryId row isRow offline => ?_⟩
      have isRow : (before.rolledBack settings _).currentState batteryId = some row := isRow
      rw [rolledBack_currentState] at isRow
      exact sound.marked batteryId row isRow offline

theorem sound_of_run {now : Timestamp} {batteries : Table Battery Battery.batteryId}
    {moves : List Move} {state : OfflineDetector}
    (run : Trace (Step settings) (start now batteries) moves state) : state.Sound settings :=
  run.invariant (fun _ state => state.Sound settings) (sound_start now batteries)
    fun _ _ _ _ sound step => sound_step sound step

/-! ### A silent battery is marked in time -/

/-- Every iteration is over at most `slack` after the sleep before it was to end. -/
def Punctual (slack : Nat) (state : OfflineDetector) : Prop := state.now ≤ state.wake + slack

instance (slack : Nat) (state : OfflineDetector) : Decidable (state.Punctual slack) :=
  inferInstanceAs (Decidable (_ ≤ _))

/-- A move that leaves it to the detector to see that a battery is silent: nobody changes or
locks its row, no iteration fails before it has marked, and the process is not restarted. -/
def Leaves (batteryId : BatteryId) (before : OfflineDetector) : Move → Prop
  | .commit writes =>
      (before.db.commit writes).currentState batteryId = before.db.currentState batteryId
  | .mark locked => batteryId ∉ locked
  | .fail _ => ∃ ids alertNow, before.phase = .raising ids alertNow
  | .restart _ => False
  | _ => True

/-- A step in time that leaves the battery to the detector. -/
structure SilentStep (settings : DetectorSettings) (slack : Nat) (batteryId : BatteryId)
    (before : OfflineDetector) (move : Move) (after : OfflineDetector) : Prop where
  step : before.Step settings move after
  inTime : before.Punctual slack ∧ after.Punctual slack
  leaves : before.Leaves batteryId move

/-- At this moment the battery had not been silent for longer than the threshold, or it is
marked. -/
def CaughtUp (settings : DetectorSettings) (batteryId : BatteryId) (state : OfflineDetector)
    (moment : Timestamp) : Prop :=
  ∀ row, state.db.currentState batteryId = some row →
    row.lastSeen < moment - settings.offlineThreshold → row.status = .offline

/-- The next iteration is due an interval after one that has begun at this moment. -/
def DueAfter (settings : DetectorSettings) (slack : Nat) (state : OfflineDetector)
    (moment : Timestamp) : Prop :=
  match state.phase with
  | .raising _ _ => state.wake ≤ moment
  | _ => state.wake ≤ moment + settings.interval + slack

/-- What a silent run from this moment keeps: the detector has caught up with the battery in
the last iteration, or there has been none. -/
structure Watched (settings : DetectorSettings) (slack : Nat) (batteryId : BatteryId)
    (since : Timestamp) (state : OfflineDetector) : Prop where
  sound : state.Sound settings
  caughtUp : ∃ moment, state.DueAfter settings slack moment ∧
    (moment = since ∨ state.CaughtUp settings batteryId moment)

theorem watched_start {slack : Nat} {state : OfflineDetector} (sound : state.Sound settings) :
    state.Watched settings slack batteryId state.now := by
  refine ⟨sound, state.now, ?_, .inl rfl⟩
  have scheduled := sound.scheduled
  have interval := interval_nonneg settings
  unfold DueAfter
  cases phase : state.phase with
  | asleep =>
      simp only [phase] at scheduled
      linarith [Int.natCast_nonneg slack]
  | selecting cutoffNow =>
      simp only [phase] at scheduled
      linarith [Int.natCast_nonneg slack]
  | raising ids alertNow =>
      simp only [phase] at scheduled
      exact scheduled.1.trans scheduled.2

variable {slack : Nat} {since moment : Timestamp}

/-- An iteration that has begun by a moment ends in time for the next one. -/
theorem dueAfter_sleep {state : OfflineDetector} (begun : state.wake ≤ moment)
    (punctual : state.Punctual slack) : (state.sleep settings).DueAfter settings slack moment := by
  unfold Punctual at punctual
  change state.now + settings.interval ≤ moment + settings.interval + slack
  linarith

/-- Whoever is stale at the cutoff and not locked is marked afterwards. -/
theorem offline_of_mark {locked : List BatteryId} {cutoffNow : Timestamp} {db : Database}
    {row : BatteryCurrentState} (unlocked : batteryId ∉ locked)
    (isRow : (markUnlockedOffline settings.toSettings cutoffNow locked db).2.currentState
      batteryId = some row)
    (old : row.lastSeen < cutoffNow - settings.offlineThreshold) : row.status = .offline := by
  rw [currentState_markUnlockedOffline] at isRow
  split at isRow
  · obtain ⟨-, -, rfl⟩ := Option.map_eq_some_iff.mp isRow
    rfl
  · rename_i notSelected
    by_contra online
    exact notSelected (mem_unlockedStaleIds_iff.mpr ⟨⟨row, isRow, online, old⟩, unlocked⟩)

theorem Watched.step (watched : before.Watched settings slack batteryId since)
    (silent : SilentStep settings slack batteryId before move after) :
    after.Watched settings slack batteryId since := by
  refine ⟨sound_step watched.sound silent.step, ?_⟩
  obtain ⟨moment, due, caughtUp⟩ := watched.caughtUp
  have scheduled := watched.sound.scheduled
  have leaves := silent.leaves
  cases effect_of_step silent.step with
  | wait noEarlier => exact ⟨moment, due, caughtUp⟩
  | commit foreign =>
      refine ⟨moment, due, caughtUp.imp_right fun held row isRow => held row ?_⟩
      exact leaves ▸ isRow
  | wake asleep _ =>
      simp only [DueAfter, asleep] at due
      exact ⟨moment, due, caughtUp⟩
  | @markNone locked cutoffNow selecting none =>
      simp only [selecting] at scheduled
      refine ⟨cutoffNow, dueAfter_sleep scheduled.1 silent.inTime.1, .inr fun row isRow old => ?_⟩
      have same : (markUnlockedOffline settings.toSettings cutoffNow locked
          before.db).2.currentState batteryId = before.db.currentState batteryId := by
        rw [currentState_markUnlockedOffline, none, if_neg List.not_mem_nil]
      exact offline_of_mark leaves (same.trans isRow) old
  | @markSome locked cutoffNow selecting =>
      simp only [selecting] at scheduled
      exact ⟨cutoffNow, scheduled.1, .inr fun row isRow old => offline_of_mark leaves isRow old⟩
  | raise raising =>
      simp only [DueAfter, raising] at due
      exact ⟨moment, dueAfter_sleep due silent.inTime.1, caughtUp⟩
  | @fail interruption awake =>
      obtain ⟨ids, alertNow, raising⟩ := leaves
      simp only [DueAfter, raising] at due
      refine ⟨moment, dueAfter_sleep due silent.inTime.1,
        caughtUp.imp_right fun held row isRow => held row ?_⟩
      have isRow : (before.rolledBack settings interruption).currentState batteryId = some row :=
        isRow
      rwa [rolledBack_currentState] at isRow
  | restart => exact absurd leaves id

theorem watched_of_run {middle state : OfflineDetector} {late : List Move}
    (sound : middle.Sound settings)
    (silent : Trace (SilentStep settings slack batteryId) middle late state) :
    state.Watched settings slack batteryId middle.now :=
  silent.invariant (fun _ state => state.Watched settings slack batteryId middle.now)
    (watched_start sound) fun _ _ _ _ watched step => watched.step step

/-- How long after the threshold the detector may need to mark a battery. -/
def delay (settings : DetectorSettings) (slack : Nat) : Int := settings.interval + 2 * slack

theorem delay_nonneg (settings : DetectorSettings) (slack : Nat) : 0 ≤ delay settings slack := by
  have interval := interval_nonneg settings
  unfold delay
  linarith [Int.natCast_nonneg slack]

/-- Once time has passed, the loop is known to be in time. -/
theorem punctual_of_run {middle state : OfflineDetector} {late : List Move}
    (silent : Trace (SilentStep settings slack batteryId) middle late state)
    (passed : middle.now < state.now) : state.Punctual slack := by
  cases silent with
  | nil => exact absurd passed (lt_irrefl _)
  | snoc _ last => exact last.inTime.2

/-- Nobody is ever further behind than that. -/
theorem DueAfter.le_add_delay {state : OfflineDetector} (due : state.DueAfter settings slack moment)
    (punctual : state.Punctual slack) : state.now ≤ moment + delay settings slack := by
  have interval := interval_nonneg settings
  unfold Punctual at punctual
  unfold delay
  unfold DueAfter at due
  split at due <;> linarith [Int.natCast_nonneg slack]

theorem Watched.offline {state : OfflineDetector}
    (watched : state.Watched settings slack batteryId since) (punctual : state.Punctual slack)
    (long : since + delay settings slack < state.now) {row : BatteryCurrentState}
    (isRow : state.db.currentState batteryId = some row)
    (old : row.lastSeen < state.now - settings.offlineThreshold - delay settings slack) :
    row.status = .offline := by
  obtain ⟨moment, due, caughtUp⟩ := watched.caughtUp
  have late := due.le_add_delay punctual
  rcases caughtUp with rfl | caughtUp
  · exact absurd long (not_lt.mpr late)
  · exact caughtUp row isRow (by linarith)

/-- Status and silence in every run of the detector and everybody else.  A battery that is
marked was last heard of before the threshold; and if in a stretch that is longer than an
interval and twice the slack the loop is in time and nothing is heard of a battery that has
been silent for that much longer than the threshold, then it is marked. -/
theorem presence {began : Timestamp} {batteries : Table Battery Battery.batteryId}
    {early late : List Move} {middle state : OfflineDetector}
    (run : Trace (Step settings) (start began batteries) early middle)
    (silent : Trace (SilentStep settings slack batteryId) middle late state)
    {row : BatteryCurrentState} (isRow : state.db.currentState batteryId = some row) :
    (row.status = .offline → row.lastSeen < state.now - settings.offlineThreshold) ∧
      (middle.now + delay settings slack < state.now →
        row.lastSeen < state.now - settings.offlineThreshold - delay settings slack →
          row.status = .offline) := by
  have watched := watched_of_run (sound_of_run run) silent
  refine ⟨watched.sound.marked batteryId row isRow, fun long old => ?_⟩
  have passed : middle.now < state.now := by linarith [delay_nonneg settings slack]
  exact watched.offline (punctual_of_run silent passed) long isRow old

/-! ### And alerted -/

/-- A move that leaves the battery's offline alert to the detector: nobody else raises or
resolves it, and no iteration fails. -/
def LeavesAlert (batteryId : BatteryId) (before : OfflineDetector) : Move → Prop
  | .commit writes =>
      (before.db.commit writes).openAlert batteryId .deviceOffline =
        before.db.openAlert batteryId .deviceOffline
  | .fail _ => False
  | _ => True

/-- A step in time that leaves the battery and its alert to the detector. -/
structure UnattendedStep (settings : DetectorSettings) (slack : Nat) (batteryId : BatteryId)
    (before : OfflineDetector) (move : Move) (after : OfflineDetector) : Prop
    extends SilentStep settings slack batteryId before move after where
  leavesAlert : before.LeavesAlert batteryId move

/-- The battery has just been marked, in an iteration before which it was not late. -/
def AlertPending (settings : DetectorSettings) (slack : Nat) (batteryId : BatteryId)
    (since : Timestamp) (state : OfflineDetector) : Prop :=
  ∃ ids alertNow, state.phase = .raising ids alertNow ∧ batteryId ∈ ids ∧
    (alertNow ≤ since + delay settings slack ∨
      ∀ row, state.db.currentState batteryId = some row →
        alertNow - settings.offlineThreshold - delay settings slack ≤ row.lastSeen)

/-- What an unattended run keeps: a battery that is marked has an open alert, or is about to
get it. -/
def Alerted (settings : DetectorSettings) (slack : Nat) (batteryId : BatteryId)
    (since : Timestamp) (state : OfflineDetector) : Prop :=
  state.db.IsOffline batteryId → state.db.openAlert batteryId .deviceOffline ≠ none ∨
    state.AlertPending settings slack batteryId since

/-- Outside the second transaction the alert is there. -/
theorem Alerted.openAlert (alerted : before.Alerted settings slack batteryId since)
    (idle : ∀ ids alertNow, before.phase ≠ .raising ids alertNow)
    (offline : before.db.IsOffline batteryId) :
    before.db.openAlert batteryId .deviceOffline ≠ none := by
  rcases alerted offline with isOpen | ⟨ids, alertNow, raising, -⟩
  · exact isOpen
  · exact absurd raising (idle ids alertNow)

theorem Alerted.step (alerted : before.Alerted settings slack batteryId since)
    (watched : before.Watched settings slack batteryId since)
    (unattended : UnattendedStep settings slack batteryId before move after) :
    after.Alerted settings slack batteryId since := by
  have leaves := unattended.leaves
  have leavesAlert := unattended.leavesAlert
  cases effect_of_step unattended.step with
  | wait noEarlier => exact alerted
  | commit foreign =>
      simp only [Leaves] at leaves
      simp only [LeavesAlert] at leavesAlert
      simp only [Alerted, AlertPending, Database.IsOffline, leaves, leavesAlert]
      exact alerted
  | wake asleep due =>
      exact fun offline => .inl (alerted.openAlert (by simp [asleep]) offline)
  | markNone selecting none =>
      exact fun offline => .inl (alerted.openAlert (by simp [selecting]) offline)
  | @markSome locked cutoffNow selecting =>
      intro offline
      by_cases selected : batteryId ∈ unlockedStaleIds settings.toSettings cutoffNow locked
        before.db.batteryCurrentState
      · refine .inr ⟨_, before.now, rfl, selected, ?_⟩
        obtain ⟨⟨old, isOld, online, -⟩, -⟩ := mem_unlockedStaleIds_iff.mp selected
        by_contra late
        rw [not_or, not_le] at late
        refine late.2 fun row isRow => not_lt.mp fun silent => online ?_
        have isRow : (markUnlockedOffline settings.toSettings cutoffNow locked
          before.db).2.currentState batteryId = some row := isRow
        rw [currentState_markUnlockedOffline, if_pos selected, isOld, Option.map_some] at isRow
        obtain rfl := Option.some.inj isRow
        exact watched.offline unattended.inTime.1 late.1 isOld silent
      · obtain ⟨row, isRow, isOffline⟩ := offline
        have isRow : (markUnlockedOffline settings.toSettings cutoffNow locked
          before.db).2.currentState batteryId = some row := isRow
        rw [currentState_markUnlockedOffline, if_neg selected] at isRow
        exact .inl (alerted.openAlert (by simp [selecting]) ⟨row, isRow, isOffline⟩)
  | @raise ids alertNow raising =>
      intro offline
      refine .inl ((openAlert_deviceOfflineCalls_iff settings.toSettings alertNow ids
        before.db.alerts batteryId).mpr ?_)
      rcases alerted offline with isOpen | ⟨others, other, isRaising, selected, -⟩
      · exact .inr isOpen
      · obtain ⟨rfl, -⟩ := DetectorPhase.raising.inj (raising.symm.trans isRaising)
        exact .inl selected
  | fail awake => exact absurd leavesAlert id
  | restart => exact absurd leaves id

theorem alerted_of_run {middle state : OfflineDetector} {late : List Move}
    (sound : middle.Sound settings)
    (alerted : middle.db.IsOffline batteryId →
      middle.db.openAlert batteryId .deviceOffline ≠ none)
    (unattended : Trace (UnattendedStep settings slack batteryId) middle late state) :
    state.Watched settings slack batteryId middle.now ∧
      state.Alerted settings slack batteryId middle.now :=
  unattended.invariant
    (fun _ state => state.Watched settings slack batteryId middle.now ∧
      state.Alerted settings slack batteryId middle.now)
    ⟨watched_start sound, fun offline => .inl (alerted offline)⟩
    fun _ _ _ _ both step => ⟨both.1.step step.toSilentStep, both.2.step both.1 step⟩

/-- A pending alert is raised by the end of the iteration. -/
theorem AlertPending.not_late {state : OfflineDetector}
    (pending : state.AlertPending settings slack batteryId since) (sound : state.Sound settings)
    (punctual : state.Punctual slack) (long : since + delay settings slack + slack < state.now)
    {row : BatteryCurrentState} (isRow : state.db.currentState batteryId = some row) :
    state.now - settings.offlineThreshold - delay settings slack - slack ≤ row.lastSeen := by
  obtain ⟨ids, alertNow, raising, -, early⟩ := pending
  have scheduled := sound.scheduled
  simp only [raising] at scheduled
  unfold Punctual at punctual
  rcases early with early | early
  · linarith
  · linarith [early row isRow]

/-- If besides nobody else touches the battery's offline alert and no iteration fails, a
battery that had an alert for as far as it was marked has one when it has been silent for
another slack. -/
theorem alerted_in_time {began : Timestamp} {batteries : Table Battery Battery.batteryId}
    {early late : List Move} {middle state : OfflineDetector}
    (run : Trace (Step settings) (start began batteries) early middle)
    (alerted : middle.db.IsOffline batteryId →
      middle.db.openAlert batteryId .deviceOffline ≠ none)
    (unattended : Trace (UnattendedStep settings slack batteryId) middle late state)
    (long : middle.now + delay settings slack + slack < state.now)
    {row : BatteryCurrentState} (isRow : state.db.currentState batteryId = some row)
    (old : row.lastSeen <
      state.now - settings.offlineThreshold - delay settings slack - slack) :
    row.status = .offline ∧ state.db.openAlert batteryId .deviceOffline ≠ none := by
  obtain ⟨watched, inv⟩ := alerted_of_run (sound_of_run run) alerted unattended
  have passed : middle.now < state.now := by
    linarith [delay_nonneg settings slack, Int.natCast_nonneg slack]
  have punctual : state.Punctual slack :=
    punctual_of_run (unattended.mono fun _ _ _ step => step.toSilentStep) passed
  have offline : row.status = .offline :=
    watched.offline punctual (by linarith [Int.natCast_nonneg slack]) isRow
      (by linarith [Int.natCast_nonneg slack])
  refine ⟨offline, (inv ⟨row, isRow, offline⟩).resolve_right fun pending => ?_⟩
  exact absurd old (not_lt.mpr (pending.not_late watched.sound punctual long isRow))

/-! ### A battery that falls silent -/

/-- Nobody but the detector does anything, and it is in time. -/
def performAlone (settings : DetectorSettings) (slack : Nat) (state : OfflineDetector) :
    Move → Option OfflineDetector
  | .commit _ | .fail _ | .restart _ | .mark (_ :: _) => none
  | move => (state.perform settings move).filter fun after =>
      decide (state.Punctual slack ∧ after.Punctual slack)

theorem unattended_of_alone (performed : performAlone settings slack before move = some after) :
    UnattendedStep settings slack batteryId before move after := by
  have alone : ∀ {other : Move}, (before.perform settings other).filter (fun reached =>
      decide (before.Punctual slack ∧ reached.Punctual slack)) = some after →
        before.Step settings other after ∧ before.Punctual slack ∧ after.Punctual slack := by
    intro other filtered
    obtain ⟨step, inTime⟩ := Option.filter_eq_some_iff.mp filtered
    exact ⟨step, of_decide_eq_true inTime⟩
  cases move with
  | wait later => exact ⟨⟨(alone performed).1, (alone performed).2, trivial⟩, trivial⟩
  | wake => exact ⟨⟨(alone performed).1, (alone performed).2, trivial⟩, trivial⟩
  | raise => exact ⟨⟨(alone performed).1, (alone performed).2, trivial⟩, trivial⟩
  | mark locked =>
      cases locked with
      | nil => exact ⟨⟨(alone performed).1, (alone performed).2, List.not_mem_nil⟩, trivial⟩
      | cons first rest => cases performed
  | commit writes => cases performed
  | fail interruption => cases performed
  | restart interruption => cases performed

/-- One reading, at the very beginning. -/
def onlyReading : List Move := [.commit [.storeTelemetry [sampleEvent 1 0 50]]]

/-- Five iterations, five seconds apart, of which the fourth marks the battery. -/
def fiveIterations : List Move :=
  [.wake, .mark [], .wait 5000000, .wake, .mark [], .wait 10000000, .wake, .mark [],
    .wait 15000000, .wake, .mark [], .raise, .wait 20000000, .wake, .mark []]

/-- The battery after the five iterations, and how late it is then. -/
theorem exists_fiveIterations : ∃ middle state : OfflineDetector, ∃ row,
    Trace (Step .default) (start 0 sampleBatteries) onlyReading middle ∧
      Trace (UnattendedStep .default 0 sampleBatteryId) middle fiveIterations state ∧
      ¬ middle.db.IsOffline sampleBatteryId ∧
      state.db.currentState sampleBatteryId = some row ∧
      middle.now + delay .default 0 < state.now ∧
      row.lastSeen < state.now - DetectorSettings.default.offlineThreshold - delay .default 0 := by
  have reported : (play (perform .default) onlyReading (start 0 sampleBatteries)).map
      (fun state => (state.now, (state.db.currentState sampleBatteryId).map
        fun row => decide (row.status = .offline))) = some (0, some false) ∧
      ((play (perform .default) onlyReading (start 0 sampleBatteries)).bind
        (play (performAlone .default 0) fiveIterations)).map
          (fun state => (state.now, (state.db.currentState sampleBatteryId).map
            BatteryCurrentState.lastSeen)) = some (20000000, some 0) ∧
      delay .default 0 = 5000000 ∧ DetectorSettings.default.offlineThreshold = 10000000 := by
    decide +kernel
  obtain ⟨reported, watched, late, threshold⟩ := reported
  obtain ⟨middle, isMiddle, sees⟩ := Option.map_eq_some_iff.mp reported
  obtain ⟨state, isState, ends⟩ := Option.map_eq_some_iff.mp watched
  obtain ⟨began, online⟩ := Prod.mk.inj sees
  obtain ⟨ended, ends⟩ := Prod.mk.inj ends
  rw [isMiddle, Option.bind_some] at isState
  obtain ⟨row, isRow, lastSeen⟩ := Option.map_eq_some_iff.mp ends
  have unattended := trace_of_play (performAlone .default 0) isState
  refine ⟨middle, state, row, trace_of_play _ isMiddle,
    unattended.mono fun _ _ _ => unattended_of_alone, ?_, isRow, ?_, ?_⟩
  · rintro ⟨found, isFound, offline⟩
    rw [isFound, Option.map_some, offline] at online
    exact absurd online (by decide)
  · rw [began, ended, late]
    decide
  · rw [lastSeen, ended, threshold, late]
    decide

theorem sample_presence : ∃ middle state : OfflineDetector, ∃ row,
    Trace (Step .default) (start 0 sampleBatteries) onlyReading middle ∧
      Trace (SilentStep .default 0 sampleBatteryId) middle fiveIterations state ∧
      ¬ middle.db.IsOffline sampleBatteryId ∧
      state.db.currentState sampleBatteryId = some row ∧ row.status = .offline ∧
      row.lastSeen < state.now - DetectorSettings.default.offlineThreshold := by
  obtain ⟨middle, state, row, run, unattended, online, isRow, long, old⟩ := exists_fiveIterations
  have silent := unattended.mono fun _ _ _ step => step.toSilentStep
  obtain ⟨since, marked⟩ := presence run silent isRow
  have offline := marked long old
  exact ⟨middle, state, row, run, silent, online, isRow, offline, since offline⟩

theorem sample_alerted_in_time : ∃ middle state : OfflineDetector,
    Trace (Step .default) (start 0 sampleBatteries) onlyReading middle ∧
      Trace (UnattendedStep .default 0 sampleBatteryId) middle fiveIterations state ∧
      ¬ middle.db.IsOffline sampleBatteryId ∧ state.db.IsOffline sampleBatteryId ∧
      state.db.openAlert sampleBatteryId .deviceOffline ≠ none := by
  obtain ⟨middle, state, row, run, unattended, online, isRow, long, old⟩ := exists_fiveIterations
  obtain ⟨offline, alerted⟩ := alerted_in_time run (fun marked => absurd marked online) unattended
    (by simpa using long) isRow (by simpa using old)
  exact ⟨middle, state, run, unattended, online, ⟨row, isRow, offline⟩, alerted⟩

end OfflineDetector

end VoltStream.Backend
