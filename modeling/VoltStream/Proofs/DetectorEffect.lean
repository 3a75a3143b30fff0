/-
Module: VoltStream.Proofs.DetectorEffect
Purpose: What one iteration of the offline detector, complete or interrupted,
  does to the current state and to the open alerts.
Trusted boundary: none
Main exports: Database.IsOffline, Database.IsStale, Database.isOffline_iteration_iff,
  Database.openAlert_iteration_iff, Database.currentState_iteration_of_not_stale,
  Database.openAlert_interruptedIteration
-/
import VoltStream.Backend.OfflineDetection
import VoltStream.Proofs.AlertCalls

namespace VoltStream.Backend

open Relational

/-- The battery's current-state row shows `OFFLINE`. -/
def Database.IsOffline (db : Database) (batteryId : BatteryId) : Prop :=
  ∃ row, db.currentState batteryId = some row ∧ row.status = .offline

/-- The detector would mark the battery at this clock reading. -/
def Database.IsStale (settings : Settings) (now : Timestamp) (db : Database)
    (batteryId : BatteryId) : Prop :=
  ∃ row, db.currentState batteryId = some row ∧ row.Stale settings now

section Marking

variable (settings : Settings) (now : Timestamp)
  (currentState : Table BatteryCurrentState BatteryCurrentState.batteryId)

theorem mem_staleIds_iff {batteryId : BatteryId} :
    batteryId ∈ staleIds settings now currentState ↔
      ∃ row, currentState.lookup batteryId = some row ∧ row.Stale settings now := by
  rw [staleIds, List.mem_insertionSort, List.mem_map]
  constructor
  · rintro ⟨row, member, rfl⟩
    obtain ⟨stored, stale⟩ := List.mem_filter.mp member
    exact ⟨row, currentState.lookup_of_mem stored, by simpa using stale⟩
  · rintro ⟨row, found, stale⟩
    obtain ⟨stored, rfl⟩ := currentState.lookup_some_iff.mp found
    exact ⟨row, List.mem_filter.mpr ⟨stored, by simpa using stale⟩, rfl⟩

theorem staleIds_nodup : (staleIds settings now currentState).Nodup := by
  rw [staleIds, (List.perm_insertionSort _ _).nodup_iff]
  exact (List.filter_sublist.map _).nodup currentState.primaryKey

theorem lookup_markOfflineAll (ids : List BatteryId) (batteryId : BatteryId) :
    (markOfflineAll ids currentState).lookup batteryId =
      if batteryId ∈ ids then (currentState.lookup batteryId).map BatteryCurrentState.markOffline
      else currentState.lookup batteryId := by
  induction ids generalizing currentState with
  | nil => simp [markOfflineAll]
  | cons first rest ih =>
      rw [markOfflineAll, List.foldl_cons, ← markOfflineAll, ih, Table.lookup_modify]
      by_cases here : first = batteryId
      · -- Marking twice is marking once.
        subst here
        by_cases again : first ∈ rest <;> cases currentState.lookup first <;>
          simp [again, BatteryCurrentState.markOffline]
      · simp [here, Ne.symm here]

end Marking

section Raising

variable (settings : Settings) (now : Timestamp)

/-- Raising the alerts of a list of batteries opens one for each of them and
leaves every other key alone. -/
theorem openAlert_deviceOfflineCalls_iff (ids : List BatteryId) (alerts : Alerts)
    (batteryId : BatteryId) :
    (AlertCall.runAll (deviceOfflineCalls settings now ids) alerts).getUnresolvedAlert
        batteryId .deviceOffline ≠ none ↔
      batteryId ∈ ids ∨ alerts.getUnresolvedAlert batteryId .deviceOffline ≠ none := by
  induction ids generalizing alerts with
  | nil => simp [deviceOfflineCalls]
  | cons first rest ih =>
      rw [deviceOfflineCalls, List.map_cons, AlertCall.runAll_cons, ← deviceOfflineCalls, ih]
      by_cases here : first = batteryId
      · subst here
        have isOpen : (AlertCall.run (.createOrRetainAlert
            (deviceOfflineRequest settings now first)) alerts).getUnresolvedAlert first
              .deviceOffline ≠ none :=
          Alerts.openAlert_createOrRetain_ne_none (deviceOfflineRequest settings now first) alerts
        exact iff_of_true (Or.inr isOpen) (Or.inl (List.mem_cons_self ..))
      · have unrelated : (AlertCall.createOrRetainAlert
            (deviceOfflineRequest settings now first)).key ≠ (batteryId, .deviceOffline) := by
          simp [AlertCall.key, deviceOfflineRequest, here]
        have same := Alerts.getUnresolvedAlert_congr
          (AlertCall.history_run_of_unrelated unrelated alerts)
        rw [same, List.mem_cons, or_iff_right (Ne.symm here)]

end Raising

section Iteration

variable {settings : Settings} {clock : DetectorClock} {db : Database} {batteryId : BatteryId}

theorem Database.mem_staleIds_iff_isStale {now : Timestamp} :
    batteryId ∈ staleIds settings now db.batteryCurrentState ↔
      db.IsStale settings now batteryId :=
  mem_staleIds_iff settings now db.batteryCurrentState

theorem Database.currentState_marked {now : Timestamp} {alerts : Alerts} :
    ({ (markStaleBatteriesOffline settings now db).2 with alerts := alerts } :
        Database).currentState batteryId =
      if batteryId ∈ staleIds settings now db.batteryCurrentState then
        (db.currentState batteryId).map BatteryCurrentState.markOffline
      else db.currentState batteryId :=
  lookup_markOfflineAll db.batteryCurrentState _ batteryId

/-- An iteration leaves the row of a battery that is not stale alone. -/
theorem Database.currentState_iteration_of_not_stale
    (notStale : ¬ db.IsStale settings clock.cutoffNow batteryId) :
    (offlineDetectionIteration settings clock db).currentState batteryId =
      db.currentState batteryId :=
  currentState_marked.trans (if_neg fun listed => notStale (mem_staleIds_iff_isStale.mp listed))

theorem Database.isOffline_marked_iff {now : Timestamp} {alerts : Alerts} :
    ({ (markStaleBatteriesOffline settings now db).2 with alerts := alerts } :
        Database).IsOffline batteryId ↔
      db.IsOffline batteryId ∨ db.IsStale settings now batteryId := by
  rw [IsOffline, currentState_marked]
  by_cases stale : db.IsStale settings now batteryId
  · rw [if_pos (mem_staleIds_iff_isStale.mpr stale), iff_true_right (Or.inr stale)]
    obtain ⟨old, found, -⟩ := stale
    exact ⟨old.markOffline, by rw [found, Option.map_some], rfl⟩
  · rw [if_neg (fun listed => stale (mem_staleIds_iff_isStale.mp listed)), or_iff_left stale,
      IsOffline]

theorem Database.isOffline_iteration_iff :
    (offlineDetectionIteration settings clock db).IsOffline batteryId ↔
      db.IsOffline batteryId ∨ db.IsStale settings clock.cutoffNow batteryId :=
  isOffline_marked_iff

theorem Database.isOffline_interruptedIteration_iff {interruption : Interruption} :
    (interruptedIteration settings clock interruption db).IsOffline batteryId ↔
      db.IsOffline batteryId ∨ db.IsStale settings clock.cutoffNow batteryId :=
  isOffline_marked_iff

/-- After an iteration a battery has an open offline alert if it had one before
or was marked by this very iteration. -/
theorem Database.openAlert_iteration_iff :
    (offlineDetectionIteration settings clock db).openAlert batteryId .deviceOffline ≠ none ↔
      db.IsStale settings clock.cutoffNow batteryId ∨
        db.openAlert batteryId .deviceOffline ≠ none := by
  rw [← mem_staleIds_iff_isStale]
  exact openAlert_deviceOfflineCalls_iff settings clock.alertNow _ db.alerts batteryId

/-- The rollback leaves no trace of the second transaction. -/
theorem Database.openAlert_interruptedIteration {interruption : Interruption}
    {alertType : AlertType} :
    (interruptedIteration settings clock interruption db).openAlert batteryId alertType =
      db.openAlert batteryId alertType := by
  have committed : ∀ (calls : List AlertCall) (session : AlertSession),
      (calls.foldl AlertSession.execute session).committed = session.committed := by
    intro calls
    induction calls with
    | nil => exact fun _ => rfl
    | cons call rest ih => exact fun session => ih (session.execute call)
  rw [openAlert, Alerts.getUnresolvedAlert, interruptedIteration, AlertSession.rollback_rows,
    committed]
  rfl

/-- A battery already marked is never stale again. -/
theorem Database.IsOffline.not_isStale {now : Timestamp} (offline : db.IsOffline batteryId) :
    ¬ db.IsStale settings now batteryId := by
  rintro ⟨row, found, online, -⟩
  obtain ⟨other, otherFound, isOffline⟩ := offline
  obtain rfl : row = other := Option.some.inj (found.symm.trans otherFound)
  exact online isOffline

end Iteration

end VoltStream.Backend
