/-
Module: VoltStream.Proofs.OfflineAgreement
Purpose: When the `OFFLINE` status and the open `DEVICE_OFFLINE` alert go
  together: over runs of complete requests and detector iterations, and after a
  detector iteration that failed between its two commits.
Trusted boundary: none
Main exports: Database.OfflineAgrees, Database.ReportsNewer, offlineAgrees_run_iff,
  late_reading_breaks_offline, retry_recovers_iff, interruption_not_recovered,
  Database.OfflineAlertsSound, offlineAlertsSound_run
-/
import VoltStream.Relational.Run
import VoltStream.Proofs.RequestEffect
import VoltStream.Proofs.DetectorEffect

namespace VoltStream.Backend

open Relational

/-- A battery shows `OFFLINE` exactly if it has an open offline alert. -/
def Database.OfflineAgrees (db : Database) : Prop :=
  ∀ batteryId, db.IsOffline batteryId ↔ db.openAlert batteryId .deviceOffline ≠ none

/-- For every battery marked offline, an accepted request with new readings of
it has one that is not older than the battery's `last_seen`. -/
def Database.ReportsNewer (db : Database) : Activity → Prop
  | .ingest request =>
      db.Registers request → ∀ batteryId row, db.currentState batteryId = some row →
        row.status = .offline →
        (∃ event ∈ db.newlyInserted request, event.batteryId = batteryId) →
        ∃ event ∈ db.newlyInserted request, event.batteryId = batteryId ∧
          row.lastSeen ≤ event.timestamp
  | .detect _ => True

section Ingest

variable {settings : Settings} {db : Database} {request : Request} {batteryId : BatteryId}

/-- A request with a new event of a battery resolves the battery's offline
alert. -/
theorem openAlert_offline_of_reported (registered : db.Registers request)
    {event : TelemetryEvent}
    (newest : newestEvent (db.newlyInserted request) batteryId = some event) :
    (db.ingest settings request).openAlert batteryId .deviceOffline = none := by
  have decides := Database.decidingCall_deviceOffline settings registered newest
  exact Option.map_eq_none_iff.mp (Database.openAlert_ingest_of_some registered decides)

variable (settings) in
/-- Such a request leaves the battery marked exactly if it was marked and all
its new readings of the battery are late. -/
theorem isOffline_ingest_iff (registered : db.Registers request) {event : TelemetryEvent}
    (newest : newestEvent (db.newlyInserted request) batteryId = some event) :
    (db.ingest settings request).IsOffline batteryId ↔
      ∃ row, db.currentState batteryId = some row ∧ row.status = .offline ∧
        event.timestamp < row.lastSeen := by
  rw [Database.IsOffline, Database.currentState_ingest registered, newest]
  cases oldRow : db.currentState batteryId with
  | none => simp [refreshed, absorb, TelemetryEvent.toCurrentState]
  | some old =>
      by_cases late : event.timestamp < old.lastSeen
      · simp [refreshed_of_lt late, late]
      · simp [refreshed_of_le (not_lt.mp late), TelemetryEvent.toCurrentState, late]

theorem offlineAgrees_ingest_iff (before : db.OfflineAgrees) :
    (db.ingest settings request).OfflineAgrees ↔ db.ReportsNewer (.ingest request) := by
  by_cases registered : db.Registers request
  swap
  · rw [Database.ingest_of_not_registers registered]
    exact iff_of_true before fun known => absurd known registered
  constructor
  · intro after _ batteryId row isRow offline ⟨reported, inNew, sameBattery⟩
    cases newest : newestEvent (db.newlyInserted request) batteryId with
    | none => exact absurd sameBattery (newestEvent_none_iff.mp newest reported inNew)
    | some event =>
        obtain ⟨eventNew, eventBattery⟩ := newestEvent_batteryId newest
        refine ⟨event, eventNew, eventBattery, not_lt.mp fun late => ?_⟩
        have stillOffline := (isOffline_ingest_iff settings registered newest).mpr
          ⟨row, isRow, offline, late⟩
        exact (after batteryId).mp stillOffline (openAlert_offline_of_reported registered newest)
  · intro newer batteryId
    cases newest : newestEvent (db.newlyInserted request) batteryId with
    | none =>
        have sameRow : (db.ingest settings request).currentState batteryId =
            db.currentState batteryId := by
          rw [Database.currentState_ingest registered, newest, refreshed]
        have silent : db.decidingCall settings request batteryId .deviceOffline = none := by
          rw [Database.decidingCall, newest, Option.bind_none]
        have sameAlert := Database.openAlert_ingest_of_none settings registered silent
        rw [Database.IsOffline, sameRow, sameAlert]
        exact before batteryId
    | some event =>
        obtain ⟨eventNew, eventBattery⟩ := newestEvent_batteryId newest
        rw [isOffline_ingest_iff settings registered newest,
          openAlert_offline_of_reported registered newest]
        refine iff_of_false ?_ fun absurdity => absurdity rfl
        rintro ⟨row, isRow, offline, late⟩
        obtain ⟨other, otherNew, otherBattery, notLate⟩ :=
          newer registered batteryId row isRow offline ⟨event, eventNew, eventBattery⟩
        have bound := newestEvent_le newest otherNew otherBattery
        exact absurd (notLate.trans bound) (not_le.mpr late)

end Ingest

/-- A complete detector iteration always keeps the agreement. -/
theorem offlineAgrees_detect {settings : Settings} {db : Database} (clock : DetectorClock)
    (before : db.OfflineAgrees) :
    (offlineDetectionIteration settings clock db).OfflineAgrees := by
  intro batteryId
  rw [Database.isOffline_iteration_iff, Database.openAlert_iteration_iff, before batteryId, or_comm]

theorem offlineAgrees_act_iff {settings : Settings} {db : Database} (activity : Activity)
    (before : db.OfflineAgrees) :
    (db.act settings activity).OfflineAgrees ↔ db.ReportsNewer activity := by
  cases activity with
  | ingest request => exact offlineAgrees_ingest_iff before
  | detect clock => exact iff_of_true (offlineAgrees_detect clock before) trivial

/-- Over every run of complete requests and detector iterations from empty
tables: status and alert agree in every state exactly if no accepted request
has only late new readings for a battery that is marked offline. -/
theorem offlineAgrees_run_iff (settings : Settings) (batteries : Table Battery Battery.batteryId)
    (activities : List Activity) :
    (∀ reached ∈ visited (Database.act settings) (Database.registered batteries) activities,
        reached.OfflineAgrees) ↔
      ∀ taking ∈ taken (Database.act settings) (Database.registered batteries) activities,
        taking.1.ReportsNewer taking.2 := by
  refine visited_iff_taken _ (fun _ activity before => offlineAgrees_act_iff activity before) ?_
    activities
  intro batteryId
  simp [Database.IsOffline, Database.registered, Database.currentState, Database.openAlert,
    Alerts.getUnresolvedAlert]

/-- A reading, silence until the battery is marked, and then a reading taken
before the first one. -/
def lateReport : List Activity :=
  [.ingest (.single (sampleEvent 1 1000000 50)),
    .detect { cutoffNow := 60000000, alertNow := 60000000 },
    .ingest (.single (sampleEvent 2 0 50))]

/-- The late reading resolves the alert and leaves the status. -/
theorem late_reading_breaks_offline :
    ¬ ∀ reached ∈ visited (Database.act Settings.default) (Database.registered sampleBatteries)
        lateReport, reached.OfflineAgrees := by
  intro agrees
  let marked := ((Database.registered sampleBatteries).ingest Settings.default
    (.single (sampleEvent 1 1000000 50))).act Settings.default
      (.detect { cutoffNow := 60000000, alertNow := 60000000 })
  let late := marked.ingest Settings.default (.single (sampleEvent 2 0 50))
  have after := agrees late (by simp [visited, lateReport, late, marked, Database.act])
  have status : (late.currentState sampleBatteryId).map BatteryCurrentState.status =
      some .offline := by decide +kernel
  have resolved : late.openAlert sampleBatteryId .deviceOffline = none := by decide +kernel
  exact (after sampleBatteryId).mp (Option.map_eq_some_iff.mp status) resolved

/-! ### The half that holds in every run -/

/-- No battery has an open offline alert while its status is another than
`OFFLINE`. -/
def Database.OfflineAlertsSound (db : Database) : Prop :=
  ∀ batteryId row, db.currentState batteryId = some row →
    db.openAlert batteryId .deviceOffline ≠ none → row.status = .offline

theorem offlineAlertsSound_ingest {settings : Settings} {db : Database} {request : Request}
    (sound : db.OfflineAlertsSound) : (db.ingest settings request).OfflineAlertsSound := by
  by_cases registered : db.Registers request
  swap
  · rwa [Database.ingest_of_not_registers registered]
  intro batteryId row isRow isOpen
  cases newest : newestEvent (db.newlyInserted request) batteryId with
  | some event => exact absurd (openAlert_offline_of_reported registered newest) isOpen
  | none =>
      have silent : db.decidingCall settings request batteryId .deviceOffline = none := by
        rw [Database.decidingCall, newest, Option.bind_none]
      rw [Database.openAlert_ingest_of_none settings registered silent] at isOpen
      rw [Database.currentState_ingest registered, newest, refreshed] at isRow
      exact sound batteryId row isRow isOpen

theorem offlineAlertsSound_detect {settings : Settings} {db : Database} (clock : DetectorClock)
    (sound : db.OfflineAlertsSound) :
    (offlineDetectionIteration settings clock db).OfflineAlertsSound := by
  intro batteryId row isRow isOpen
  by_cases stale : db.IsStale settings clock.cutoffNow batteryId
  · have marks : (offlineDetectionIteration settings clock db).IsOffline batteryId :=
      Database.isOffline_iteration_iff.mpr (Or.inr stale)
    obtain ⟨marked, isMarked, offline⟩ := marks
    obtain rfl := Option.some.inj (isRow.symm.trans isMarked)
    exact offline
  · rw [Database.currentState_iteration_of_not_stale stale] at isRow
    exact sound batteryId row isRow
      ((Database.openAlert_iteration_iff.mp isOpen).resolve_left stale)

theorem offlineAlertsSound_resolve {settings : Settings} {db : Database} (now : Timestamp)
    (alertId : Uuid) (sound : db.OfflineAlertsSound) :
    (db.step settings (.resolve now alertId)).OfflineAlertsSound := by
  intro batteryId row isRow isOpen
  rw [currentState_step_resolve] at isRow
  refine sound batteryId row isRow fun closed => isOpen ?_
  simp only [Database.step, resolveAlert]
  cases db.alerts.table.lookup alertId with
  | none => exact closed
  | some alert =>
      by_cases resolved : alert.resolved = true
      · simpa [resolved] using closed
      · simp only [resolved]
        exact Alerts.openAlert_update_of_none (Alert.resolve_keeps now) closed

/-- Over every run of complete requests, iterations and manual resolutions. -/
theorem offlineAlertsSound_run (settings : Settings) (batteries : Table Battery Battery.batteryId)
    (steps : List Step) :
    (steps.foldl (Database.step settings) (Database.registered batteries)).OfflineAlertsSound := by
  apply foldl_invariant
  · intro db step sound
    cases step with
    | activity activity =>
        cases activity with
        | ingest request => exact offlineAlertsSound_ingest sound
        | detect clock => exact offlineAlertsSound_detect clock sound
    | resolve now alertId => exact offlineAlertsSound_resolve now alertId sound
  · intro batteryId row isRow
    simp [Database.registered, Database.currentState] at isRow

/-! ### A failed iteration and its retry -/

/-- For every fleet, every point of failure and every pair of clocks: after the
next complete iteration all batteries marked offline have an open alert exactly
if those the failed iteration found or left marked had one from the start. -/
theorem retry_recovers_iff (settings : Settings) (db : Database) (failed retry : DetectorClock)
    (interruption : Interruption) :
    (∀ batteryId,
        (offlineDetectionIteration settings retry
          (interruptedIteration settings failed interruption db)).IsOffline batteryId →
        (offlineDetectionIteration settings retry
          (interruptedIteration settings failed interruption db)).openAlert batteryId
            .deviceOffline ≠ none) ↔
      ∀ batteryId, db.IsOffline batteryId ∨ db.IsStale settings failed.cutoffNow batteryId →
        db.openAlert batteryId .deviceOffline ≠ none := by
  refine forall_congr' fun batteryId => ?_
  rw [Database.isOffline_iteration_iff, Database.openAlert_iteration_iff,
    Database.openAlert_interruptedIteration]
  constructor
  · intro recovered marked
    have left : (interruptedIteration settings failed interruption db).IsOffline batteryId :=
      Database.isOffline_interruptedIteration_iff.mpr marked
    -- What the failed iteration marked, the retry no longer selects.
    exact (recovered (Or.inl left)).resolve_left left.not_isStale
  · intro alerted offline
    rcases offline with left | stale
    · exact Or.inr (alerted (Database.isOffline_interruptedIteration_iff.mp left))
    · exact Or.inl stale

/-- One silent battery, an iteration that fails at its first alert, and the
complete iteration five seconds later: offline for good, and never alerted. -/
theorem interruption_not_recovered :
    ¬ ∀ (db : Database) (failed retry : DetectorClock) (interruption : Interruption) (batteryId),
        (offlineDetectionIteration Settings.default retry
          (interruptedIteration Settings.default failed interruption db)).IsOffline batteryId →
        (offlineDetectionIteration Settings.default retry
          (interruptedIteration Settings.default failed interruption db)).openAlert batteryId
            .deviceOffline ≠ none := by
  intro recovers
  let reported := (Database.registered sampleBatteries).ingest Settings.default
    (.single (sampleEvent 1 0 50))
  let failed : DetectorClock := { cutoffNow := 60000000, alertNow := 60000000 }
  let retry : DetectorClock := { cutoffNow := 65000000, alertNow := 65000000 }
  let after := offlineDetectionIteration Settings.default retry
    (interruptedIteration Settings.default failed (.atStatement 0) reported)
  have status : (after.currentState sampleBatteryId).map BatteryCurrentState.status =
      some .offline := by decide +kernel
  have silent : after.openAlert sampleBatteryId .deviceOffline = none := by decide +kernel
  exact recovers reported failed retry (.atStatement 0) sampleBatteryId
    (Option.map_eq_some_iff.mp status) silent

end VoltStream.Backend
