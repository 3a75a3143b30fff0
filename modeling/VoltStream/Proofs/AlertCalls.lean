/-
Module: VoltStream.Proofs.AlertCalls
Purpose: What one helper call, and a sequence of them, does to the alerts of one
  battery and type.
Trusted boundary: none
Main exports: Alerts.history, Alerts.history_retain, Alerts.history_create,
  Alerts.history_resolve, AlertCall.history_runAll_of_unrelated, AlertCall.openAlert_run
-/
import VoltStream.Backend.AlertStore

namespace VoltStream.Backend

open Relational

/-- The alerts of one battery and type, in the order they were created. -/
def Alerts.history (alerts : Alerts) (batteryId : BatteryId) (alertType : AlertType) :
    List Alert :=
  alerts.rows.filter fun alert => alert.batteryId = batteryId ∧ alert.alertType = alertType

namespace Alerts

variable {alerts : Alerts} {batteryId : BatteryId} {alertType : AlertType}

theorem mem_history_iff {alert : Alert} :
    alert ∈ alerts.history batteryId alertType ↔
      alert ∈ alerts.rows ∧ alert.batteryId = batteryId ∧ alert.alertType = alertType := by
  simp [history]

theorem getUnresolvedAlert_eq_history (alerts : Alerts) (batteryId : BatteryId)
    (alertType : AlertType) :
    alerts.getUnresolvedAlert batteryId alertType =
      (alerts.history batteryId alertType).find? fun alert => alert.resolved = false := by
  rw [getUnresolvedAlert, history, List.find?_filter]
  congr 1
  funext alert
  rw [Bool.eq_iff_iff, decide_eq_true_iff, Alert.OpenFor]
  simp [and_assoc]

/-- The unresolved alert is decided by the history. -/
theorem getUnresolvedAlert_congr {first second : Alerts}
    (same : first.history batteryId alertType = second.history batteryId alertType) :
    first.getUnresolvedAlert batteryId alertType =
      second.getUnresolvedAlert batteryId alertType := by
  rw [getUnresolvedAlert_eq_history, getUnresolvedAlert_eq_history, same]

theorem history_update (alertId : Uuid) (change : Alert → Alert) (keeps : KeepsIncident change) :
    (alerts.update alertId change keeps).history batteryId alertType =
      (alerts.history batteryId alertType).map fun alert =>
        if alert.alertId = alertId then change alert else alert := by
  rw [history, history, update_rows, List.filter_map]
  congr 1
  refine List.filter_congr fun alert _ => ?_
  simp only [Function.comp_apply]
  split
  · rw [keeps.batteryId, keeps.alertType]
  · rfl

/-- An update opens nothing. -/
theorem openAlert_update_of_none {alertId : Uuid} {change : Alert → Alert}
    (keeps : KeepsIncident change)
    (found : alerts.getUnresolvedAlert batteryId alertType = none) :
    (alerts.update alertId change keeps).getUnresolvedAlert batteryId alertType = none := by
  rw [getUnresolvedAlert_none_iff] at found ⊢
  intro alert inMapped isOpen
  obtain ⟨old, stored, rfl⟩ := List.mem_map.mp inMapped
  refine found old stored ?_
  split at isOpen
  · obtain ⟨battery, type, unresolved⟩ := isOpen
    exact ⟨keeps.batteryId old ▸ battery, keeps.alertType old ▸ type,
      keeps.notReopened old unresolved⟩
  · exact isOpen

@[simp] theorem history_discardDraw :
    alerts.discardDraw.history batteryId alertType = alerts.history batteryId alertType := rfl

/-- An update of an alert of another battery or type leaves a history alone. -/
theorem history_update_of_unrelated {existing : Alert} (change : Alert → Alert)
    (keeps : KeepsIncident change) (member : existing ∈ alerts.rows)
    (unrelated : ¬ (existing.batteryId = batteryId ∧ existing.alertType = alertType)) :
    (alerts.update existing.alertId change keeps).history batteryId alertType =
      alerts.history batteryId alertType := by
  rw [history_update]
  conv_rhs => rw [← List.map_id (alerts.history batteryId alertType)]
  refine List.map_congr_left fun alert inHistory => ?_
  obtain ⟨stored, battery, type⟩ := mem_history_iff.mp inHistory
  rw [if_neg]
  · rfl
  · intro same
    rw [alerts.table.row_unique stored member same] at battery type
    exact unrelated ⟨battery, type⟩

theorem history_insertNew (request : AlertRequest)
    (noneOpen : alerts.getUnresolvedAlert request.batteryId request.alertType = none) :
    (alerts.insertNew request noneOpen).history batteryId alertType =
      alerts.history batteryId alertType ++
        if request.batteryId = batteryId ∧ request.alertType = alertType then
          [request.toAlert alerts.nextAlertId]
        else [] := by
  rw [history, insertNew_rows, List.filter_append, history]
  congr 1
  by_cases related : request.batteryId = batteryId ∧ request.alertType = alertType <;>
    simp [AlertRequest.toAlert, related]

theorem history_create_of_unrelated {request : AlertRequest}
    (unrelated : ¬ (request.batteryId = batteryId ∧ request.alertType = alertType)) :
    (createOrRetainAlert request alerts).history batteryId alertType =
      alerts.history batteryId alertType := by
  cases found : alerts.getUnresolvedAlert request.batteryId request.alertType with
  | some existing =>
      obtain ⟨member, battery, type, -⟩ := alerts.getUnresolvedAlert_some_iff.mp found
      rw [createOrRetainAlert_of_some found, history_discardDraw]
      exact history_update_of_unrelated _ _ member (by rw [battery, type]; exact unrelated)
  | none =>
      rw [createOrRetainAlert_of_none found, history_insertNew, if_neg unrelated, List.append_nil]

/-- Updating the unresolved alert of a key changes the unresolved alerts of its
history: there is no other. -/
theorem history_update_open {existing : Alert}
    (found : alerts.getUnresolvedAlert batteryId alertType = some existing)
    (change : Alert → Alert) (keeps : KeepsIncident change) :
    (alerts.update existing.alertId change keeps).history batteryId alertType =
      (alerts.history batteryId alertType).map fun alert =>
        if alert.resolved then alert else change alert := by
  obtain ⟨member, isOpen⟩ := alerts.getUnresolvedAlert_some_iff.mp found
  rw [history_update]
  refine List.map_congr_left fun alert inHistory => ?_
  obtain ⟨stored, battery, type⟩ := mem_history_iff.mp inHistory
  by_cases same : alert.alertId = existing.alertId
  · rw [alerts.table.row_unique stored member same, if_pos rfl, isOpen.2.2, if_neg (by simp)]
  · have resolved : alert.resolved = true := by
      by_contra unresolved
      exact same (congrArg Alert.alertId (alerts.unresolvedUnique _ _ alert stored existing member
        ⟨battery, type, by simpa using unresolved⟩ isOpen))
    rw [if_neg same, if_pos resolved]

/-- Retaining at a key: the unresolved alert is updated in place. -/
theorem history_retain {request : AlertRequest} {existing : Alert}
    (found : alerts.getUnresolvedAlert request.batteryId request.alertType = some existing) :
    (createOrRetainAlert request alerts).history request.batteryId request.alertType =
      (alerts.history request.batteryId request.alertType).map fun alert =>
        if alert.resolved then alert else request.retain alert := by
  rw [createOrRetainAlert_of_some found, history_discardDraw]
  exact history_update_open found request.retain request.retain_keeps

/-- Creating at a key: a new incident is appended. -/
theorem history_create {request : AlertRequest}
    (found : alerts.getUnresolvedAlert request.batteryId request.alertType = none) :
    (createOrRetainAlert request alerts).history request.batteryId request.alertType =
      alerts.history request.batteryId request.alertType ++
        [request.toAlert alerts.nextAlertId] := by
  rw [createOrRetainAlert_of_none found, history_insertNew]
  exact congrArg _ (if_pos ⟨rfl, rfl⟩)

/-- Resolving at a key: whatever is unresolved is resolved. -/
theorem history_resolve (batteryId : BatteryId) (alertType : AlertType) (resolvedAt : Timestamp)
    (alerts : Alerts) :
    (resolveAlertIfActive batteryId alertType resolvedAt alerts).history batteryId alertType =
      (alerts.history batteryId alertType).map fun alert =>
        if alert.resolved then alert else alert.resolve resolvedAt := by
  cases found : alerts.getUnresolvedAlert batteryId alertType with
  | some existing =>
      rw [resolveAlertIfActive_of_some found]
      exact history_update_open found (Alert.resolve resolvedAt) (Alert.resolve_keeps resolvedAt)
  | none =>
      rw [resolveAlertIfActive_of_none found]
      conv_lhs => rw [← List.map_id (alerts.history batteryId alertType)]
      refine List.map_congr_left fun alert inHistory => ?_
      obtain ⟨stored, battery, type⟩ := mem_history_iff.mp inHistory
      have resolved : alert.resolved = true := by
        by_contra unresolved
        exact alerts.getUnresolvedAlert_none_iff.mp found alert stored
          ⟨battery, type, by simpa using unresolved⟩
      rw [if_pos resolved, id]

theorem history_resolve_of_unrelated {otherBattery : BatteryId} {otherType : AlertType}
    {resolvedAt : Timestamp}
    (unrelated : ¬ (otherBattery = batteryId ∧ otherType = alertType)) :
    (resolveAlertIfActive otherBattery otherType resolvedAt alerts).history batteryId alertType =
      alerts.history batteryId alertType := by
  cases found : alerts.getUnresolvedAlert otherBattery otherType with
  | none => rw [resolveAlertIfActive_of_none found]
  | some existing =>
      obtain ⟨member, battery, type, -⟩ := alerts.getUnresolvedAlert_some_iff.mp found
      rw [resolveAlertIfActive_of_some found]
      exact history_update_of_unrelated _ _ member (by rw [battery, type]; exact unrelated)

/-- After create-or-retain the unresolved alert is the retained one or the new
one. -/
theorem openAlert_retain {request : AlertRequest} {existing : Alert}
    (found : alerts.getUnresolvedAlert request.batteryId request.alertType = some existing) :
    (createOrRetainAlert request alerts).getUnresolvedAlert request.batteryId request.alertType =
      some (request.retain existing) := by
  obtain ⟨member, battery, type, unresolved⟩ := alerts.getUnresolvedAlert_some_iff.mp found
  rw [getUnresolvedAlert_some_iff]
  refine ⟨?_, battery, type, unresolved⟩
  have retained : request.retain existing ∈
      (createOrRetainAlert request alerts).history request.batteryId request.alertType := by
    rw [history_retain found]
    exact List.mem_map.mpr ⟨existing, mem_history_iff.mpr ⟨member, battery, type⟩,
      by simp [unresolved]⟩
  exact (mem_history_iff.mp retained).1

theorem openAlert_create {request : AlertRequest}
    (found : alerts.getUnresolvedAlert request.batteryId request.alertType = none) :
    (createOrRetainAlert request alerts).getUnresolvedAlert request.batteryId request.alertType =
      some (request.toAlert alerts.nextAlertId) := by
  rw [getUnresolvedAlert_some_iff]
  refine ⟨?_, rfl, rfl, rfl⟩
  rw [createOrRetainAlert_of_none found, insertNew_rows]
  simp

/-- After create-or-retain something is unresolved. -/
theorem openAlert_createOrRetain_ne_none (request : AlertRequest) (alerts : Alerts) :
    (createOrRetainAlert request alerts).getUnresolvedAlert request.batteryId request.alertType ≠
      none := by
  cases found : alerts.getUnresolvedAlert request.batteryId request.alertType with
  | some existing => simp [openAlert_retain found]
  | none => simp [openAlert_create found]

/-- After resolve-if-active nothing is unresolved. -/
theorem openAlert_resolve (resolvedAt : Timestamp) (alerts : Alerts) (batteryId : BatteryId)
    (alertType : AlertType) :
    (resolveAlertIfActive batteryId alertType resolvedAt alerts).getUnresolvedAlert batteryId
      alertType = none := by
  rw [getUnresolvedAlert_eq_history, history_resolve, List.find?_eq_none]
  intro alert inMapped
  obtain ⟨old, -, rfl⟩ := List.mem_map.mp inMapped
  by_cases resolved : old.resolved = true
  · simp [resolved]
  · simp [resolved, Alert.resolve]

end Alerts

namespace AlertCall

variable {batteryId : BatteryId} {alertType : AlertType}

theorem history_run_of_unrelated {call : AlertCall} (unrelated : call.key ≠ (batteryId, alertType))
    (alerts : Alerts) :
    (call.run alerts).history batteryId alertType = alerts.history batteryId alertType := by
  cases call with
  | createOrRetainAlert request =>
      exact Alerts.history_create_of_unrelated (by simpa [key] using unrelated)
  | resolveAlertIfActive otherBattery otherType resolvedAt =>
      exact Alerts.history_resolve_of_unrelated (by simpa [key] using unrelated)

/-- Calls about other keys leave a history alone. -/
theorem history_runAll_of_unrelated {calls : List AlertCall}
    (unrelated : ∀ call ∈ calls, call.key ≠ (batteryId, alertType)) (alerts : Alerts) :
    (runAll calls alerts).history batteryId alertType = alerts.history batteryId alertType := by
  induction calls generalizing alerts with
  | nil => rfl
  | cons call rest ih =>
      rw [List.forall_mem_cons] at unrelated
      rw [runAll_cons, ih unrelated.2, history_run_of_unrelated unrelated.1]

/-- A sequence with no call about a key leaves the history of the key alone. -/
theorem history_runAll_of_filter_nil {calls : List AlertCall}
    (none : (calls.filter fun call => call.key = (batteryId, alertType)) = []) (alerts : Alerts) :
    (runAll calls alerts).history batteryId alertType = alerts.history batteryId alertType := by
  refine history_runAll_of_unrelated (fun call member => ?_) alerts
  simpa using List.filter_eq_nil_iff.mp none call member

/-- A sequence with exactly one call about a key: that call decides the history,
starting from a table with the old history. -/
theorem history_runAll_of_filter_single {calls : List AlertCall} {call : AlertCall}
    (single : (calls.filter fun call => call.key = (batteryId, alertType)) = [call])
    (alerts : Alerts) :
    ∃ reached : Alerts,
      reached.history batteryId alertType = alerts.history batteryId alertType ∧
      (runAll calls alerts).history batteryId alertType =
        (call.run reached).history batteryId alertType := by
  obtain ⟨before, after, rfl, beforeUnrelated, -, afterNone⟩ := List.filter_eq_cons_iff.mp single
  refine ⟨runAll before alerts,
    history_runAll_of_unrelated (fun other member => ?_) alerts, ?_⟩
  · simpa using beforeUnrelated other member
  · rw [runAll_append, runAll_cons, history_runAll_of_filter_nil afterNone]

/-- What a call leaves unresolved at its own key, up to the id of a new row. -/
def opens : AlertCall → Option (Severity × String × Option ℚ × Option ℚ)
  | .createOrRetainAlert request =>
      some (request.severity, request.message, request.measuredValue, request.thresholdValue)
  | .resolveAlertIfActive _ _ _ => none

end AlertCall

/-- The four columns a retained alert takes from the latest reading. -/
def Alert.reading (alert : Alert) : Severity × String × Option ℚ × Option ℚ :=
  (alert.severity, alert.message, alert.measuredValue, alert.thresholdValue)

namespace AlertCall

/-- A call decides whether its key has an unresolved alert, and what that alert
says. -/
theorem openAlert_run (call : AlertCall) (alerts : Alerts) :
    ((call.run alerts).getUnresolvedAlert call.key.1 call.key.2).map Alert.reading =
      call.opens := by
  cases call with
  | createOrRetainAlert request =>
      simp only [run, key, opens]
      cases found : alerts.getUnresolvedAlert request.batteryId request.alertType with
      | some existing => rw [Alerts.openAlert_retain found]; rfl
      | none => rw [Alerts.openAlert_create found]; rfl
  | resolveAlertIfActive batteryId alertType resolvedAt =>
      simp only [run, key, opens, Alerts.openAlert_resolve, Option.map_none]

end AlertCall

end VoltStream.Backend
