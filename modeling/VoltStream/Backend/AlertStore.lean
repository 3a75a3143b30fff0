/-
Module: VoltStream.Backend.AlertStore
Purpose: The `alerts` table with its two unique indexes, and the three
  operations that write it: create-or-retain, resolve-if-active and the manual
  resolution.
Trusted boundary: human-reviewed spec of `anomaly_detection_service.py`
  (shared helpers) and `alert_service.py` (`resolve_alert`)
Main exports: Alerts, Alerts.getUnresolvedAlert, createOrRetainAlert,
  resolveAlertIfActive, resolveAlert, AlertCall
-/
import VoltStream.Backend.Schema

namespace VoltStream.Backend

open Relational

/-- The alert is the unresolved one of this battery and type: the rows the
partial unique index covers, at one key. -/
def Alert.OpenFor (alert : Alert) (batteryId : BatteryId) (alertType : AlertType) : Prop :=
  alert.batteryId = batteryId ∧ alert.alertType = alertType ∧ alert.resolved = false

instance (alert : Alert) (batteryId : BatteryId) (alertType : AlertType) :
    Decidable (alert.OpenFor batteryId alertType) :=
  inferInstanceAs (Decidable (_ ∧ _ ∧ _))

/-- An in-place change of an alert that the unique indexes cannot object to. -/
structure KeepsIncident (change : Alert → Alert) : Prop where
  alertId : ∀ alert, (change alert).alertId = alert.alertId
  batteryId : ∀ alert, (change alert).batteryId = alert.batteryId
  alertType : ∀ alert, (change alert).alertType = alert.alertType
  timestamp : ∀ alert, (change alert).timestamp = alert.timestamp
  notReopened : ∀ alert, (change alert).resolved = false → alert.resolved = false

/-- The keyword arguments of `create_or_retain_alert`. -/
structure AlertRequest where
  batteryId : BatteryId
  alertType : AlertType
  severity : Severity
  message : String
  measuredValue : Option ℚ
  thresholdValue : Option ℚ
  timestamp : Timestamp
deriving Repr, DecidableEq

/-- The row the `INSERT` half of the upsert proposes. -/
def AlertRequest.toAlert (request : AlertRequest) (alertId : Uuid) : Alert where
  alertId := alertId
  batteryId := request.batteryId
  timestamp := request.timestamp
  alertType := request.alertType
  severity := request.severity
  message := request.message
  measuredValue := request.measuredValue
  thresholdValue := request.thresholdValue
  resolved := false
  resolvedAt := none

/-- The `DO UPDATE SET` half: the incident keeps its id and its start. -/
def AlertRequest.retain (request : AlertRequest) (existing : Alert) : Alert :=
  { existing with
    severity := request.severity
    message := request.message
    measuredValue := request.measuredValue
    thresholdValue := request.thresholdValue }

/-- The two columns a resolver writes. -/
def Alert.resolve (resolvedAt : Timestamp) (alert : Alert) : Alert :=
  { alert with resolved := true, resolvedAt := some resolvedAt }

theorem AlertRequest.retain_keeps (request : AlertRequest) : KeepsIncident request.retain where
  alertId _ := rfl
  batteryId _ := rfl
  alertType _ := rfl
  timestamp _ := rfl
  notReopened _ same := same

theorem Alert.resolve_keeps (resolvedAt : Timestamp) :
    KeepsIncident (Alert.resolve resolvedAt) where
  alertId _ := rfl
  batteryId _ := rfl
  alertType _ := rfl
  timestamp _ := rfl
  notReopened _ impossible := by simp [Alert.resolve] at impossible

/-- The `alerts` table.  `unresolvedUnique` is the partial unique index
`ux_alerts_battery_id_alert_type_unresolved`.  `nextAlertId` stands for the
`uuid.uuid4` source: every draw is new, so all stored ids lie below it. -/
structure Alerts where
  table : Table Alert Alert.alertId
  nextAlertId : Uuid
  unresolvedUnique : ∀ batteryId alertType, ∀ first ∈ table.rows, ∀ second ∈ table.rows,
    first.OpenFor batteryId alertType → second.OpenFor batteryId alertType → first = second
  idsDrawn : ∀ alert ∈ table.rows, alert.alertId < nextAlertId

namespace Alerts

/-- The stored alerts in the order they were created. -/
def rows (alerts : Alerts) : List Alert := alerts.table.rows

def empty : Alerts where
  table := Table.empty
  nextAlertId := 0
  unresolvedUnique := by simp
  idsDrawn := by simp

@[simp] theorem empty_rows : empty.rows = [] := rfl

/-- `_get_unresolved_alert`. -/
def getUnresolvedAlert (alerts : Alerts) (batteryId : BatteryId) (alertType : AlertType) :
    Option Alert :=
  alerts.rows.find? fun alert => alert.OpenFor batteryId alertType

theorem getUnresolvedAlert_some_iff (alerts : Alerts) {batteryId : BatteryId}
    {alertType : AlertType} {alert : Alert} :
    alerts.getUnresolvedAlert batteryId alertType = some alert ↔
      alert ∈ alerts.rows ∧ alert.OpenFor batteryId alertType := by
  constructor
  · intro found
    exact ⟨List.mem_of_find?_eq_some found, by simpa using List.find?_some found⟩
  · rintro ⟨member, isOpen⟩
    cases found : alerts.getUnresolvedAlert batteryId alertType with
    | none =>
        rw [getUnresolvedAlert, List.find?_eq_none] at found
        exact absurd (by simpa using isOpen) (found alert member)
    | some other =>
        have otherMember : other ∈ alerts.rows := List.mem_of_find?_eq_some found
        have otherOpen : other.OpenFor batteryId alertType := by
          simpa using List.find?_some found
        rw [alerts.unresolvedUnique _ _ other otherMember alert member otherOpen isOpen]

theorem getUnresolvedAlert_none_iff (alerts : Alerts) {batteryId : BatteryId}
    {alertType : AlertType} :
    alerts.getUnresolvedAlert batteryId alertType = none ↔
      ∀ alert ∈ alerts.rows, ¬ alert.OpenFor batteryId alertType := by
  simp [getUnresolvedAlert, List.find?_eq_none]

/-- `UPDATE alerts SET ... WHERE alert_id = ...`. -/
def update (alerts : Alerts) (alertId : Uuid) (change : Alert → Alert)
    (keeps : KeepsIncident change) : Alerts where
  table := alerts.table.modify alertId change keeps.alertId
  nextAlertId := alerts.nextAlertId
  unresolvedUnique := by
    intro batteryId alertType first firstMember second secondMember firstOpen secondOpen
    obtain ⟨one, oneMember, rfl⟩ := List.mem_map.mp firstMember
    obtain ⟨two, twoMember, rfl⟩ := List.mem_map.mp secondMember
    have pull : ∀ alert : Alert,
        (if alert.alertId = alertId then change alert else alert).OpenFor batteryId alertType →
          alert.OpenFor batteryId alertType := by
      intro alert isOpen
      split at isOpen
      · obtain ⟨battery, type, unresolved⟩ := isOpen
        exact ⟨(keeps.batteryId alert) ▸ battery, (keeps.alertType alert) ▸ type,
          keeps.notReopened alert unresolved⟩
      · exact isOpen
    rw [alerts.unresolvedUnique _ _ one oneMember two twoMember (pull one firstOpen)
      (pull two secondOpen)]
  idsDrawn := by
    intro alert member
    obtain ⟨old, oldMember, rfl⟩ := List.mem_map.mp member
    have drawn := alerts.idsDrawn old oldMember
    split
    · exact (keeps.alertId old).symm ▸ drawn
    · exact drawn

@[simp] theorem update_rows (alerts : Alerts) (alertId : Uuid) (change : Alert → Alert)
    (keeps : KeepsIncident change) :
    (alerts.update alertId change keeps).rows =
      alerts.rows.map fun alert => if alert.alertId = alertId then change alert else alert := rfl

/-- `uuid.uuid4()` for an insert that is then not carried out. -/
def discardDraw (alerts : Alerts) : Alerts :=
  { alerts with
    nextAlertId := alerts.nextAlertId + 1
    idsDrawn := fun alert member => Nat.lt_succ_of_lt (alerts.idsDrawn alert member) }

@[simp] theorem discardDraw_rows (alerts : Alerts) : alerts.discardDraw.rows = alerts.rows := rfl

/-- Insert of an unresolved row under a newly drawn id. -/
def insertNew (alerts : Alerts) (request : AlertRequest)
    (noneOpen : alerts.getUnresolvedAlert request.batteryId request.alertType = none) :
    Alerts where
  table :=
    { rows := alerts.rows ++ [request.toAlert alerts.nextAlertId]
      primaryKey := by
        rw [List.map_append, List.nodup_append]
        refine ⟨alerts.table.primaryKey, List.nodup_singleton _, ?_⟩
        intro first firstMember second secondMember
        obtain ⟨old, oldMember, rfl⟩ := List.mem_map.mp firstMember
        simp only [List.map_cons, List.map_nil, List.mem_singleton] at secondMember
        rw [secondMember]
        exact Nat.ne_of_lt (alerts.idsDrawn old oldMember) }
  nextAlertId := alerts.nextAlertId + 1
  unresolvedUnique := by
    have absent := alerts.getUnresolvedAlert_none_iff.mp noneOpen
    intro batteryId alertType first firstMember second secondMember firstOpen secondOpen
    have clash : ∀ old ∈ alerts.rows, old.OpenFor batteryId alertType →
        (request.toAlert alerts.nextAlertId).OpenFor batteryId alertType → False := by
      rintro old oldMember oldOpen ⟨rfl, rfl, -⟩
      exact absent old oldMember oldOpen
    rcases List.mem_append.mp firstMember with one | one <;>
      rcases List.mem_append.mp secondMember with two | two
    · exact alerts.unresolvedUnique _ _ first one second two firstOpen secondOpen
    · rw [List.mem_singleton] at two
      exact (clash first one firstOpen (two ▸ secondOpen)).elim
    · rw [List.mem_singleton] at one
      exact (clash second two secondOpen (one ▸ firstOpen)).elim
    · rw [List.mem_singleton.mp one, List.mem_singleton.mp two]
  idsDrawn := by
    intro alert member
    rcases List.mem_append.mp member with old | new
    · exact Nat.lt_succ_of_lt (alerts.idsDrawn alert old)
    · rw [List.mem_singleton.mp new]
      exact Nat.lt_succ_self _

@[simp] theorem insertNew_rows (alerts : Alerts) (request : AlertRequest)
    (noneOpen : alerts.getUnresolvedAlert request.batteryId request.alertType = none) :
    (alerts.insertNew request noneOpen).rows =
      alerts.rows ++ [request.toAlert alerts.nextAlertId] := rfl

end Alerts

/-- `create_or_retain_alert`: one atomic upsert against the partial unique index. -/
def createOrRetainAlert (request : AlertRequest) (alerts : Alerts) : Alerts :=
  match found : alerts.getUnresolvedAlert request.batteryId request.alertType with
  | some existing =>
      (alerts.update existing.alertId request.retain request.retain_keeps).discardDraw
  | none => alerts.insertNew request found

/-- `resolve_alert_if_active`: nothing to do when nothing is unresolved. -/
def resolveAlertIfActive (batteryId : BatteryId) (alertType : AlertType) (resolvedAt : Timestamp)
    (alerts : Alerts) : Alerts :=
  match alerts.getUnresolvedAlert batteryId alertType with
  | none => alerts
  | some existing =>
      alerts.update existing.alertId (Alert.resolve resolvedAt) (Alert.resolve_keeps resolvedAt)

theorem createOrRetainAlert_of_some {request : AlertRequest} {alerts : Alerts} {existing : Alert}
    (found : alerts.getUnresolvedAlert request.batteryId request.alertType = some existing) :
    createOrRetainAlert request alerts =
      (alerts.update existing.alertId request.retain request.retain_keeps).discardDraw := by
  unfold createOrRetainAlert
  split
  · rename_i other otherFound
    obtain rfl : other = existing := Option.some.inj (otherFound.symm.trans found)
    rfl
  · rename_i missing
    exact absurd found (by simp [missing])

theorem createOrRetainAlert_of_none {request : AlertRequest} {alerts : Alerts}
    (found : alerts.getUnresolvedAlert request.batteryId request.alertType = none) :
    createOrRetainAlert request alerts =
      alerts.insertNew request found := by
  unfold createOrRetainAlert
  split
  · rename_i existing present
    exact absurd found (by simp [present])
  · rfl

theorem resolveAlertIfActive_of_none {batteryId : BatteryId} {alertType : AlertType}
    {alerts : Alerts} (found : alerts.getUnresolvedAlert batteryId alertType = none)
    (resolvedAt : Timestamp) :
    resolveAlertIfActive batteryId alertType resolvedAt alerts = alerts := by
  rw [resolveAlertIfActive, found]

theorem resolveAlertIfActive_of_some {batteryId : BatteryId} {alertType : AlertType}
    {alerts : Alerts} {existing : Alert}
    (found : alerts.getUnresolvedAlert batteryId alertType = some existing)
    (resolvedAt : Timestamp) :
    resolveAlertIfActive batteryId alertType resolvedAt alerts =
      alerts.update existing.alertId (Alert.resolve resolvedAt)
        (Alert.resolve_keeps resolvedAt) := by
  rw [resolveAlertIfActive, found]

/-- `resolve_alert`, with `now` the server clock it reads. -/
def resolveAlert (now : Timestamp) (alertId : Uuid) (alerts : Alerts) :
    Except APIError (Alert × Alerts) :=
  match alerts.table.lookup alertId with
  | none =>
      .error
        { statusCode := 404
          code := "ALERT_NOT_FOUND"
          message := s!"Alert {alertId} was not found" }
  | some alert =>
      if alert.resolved then .ok (alert, alerts)
      else
        .ok (alert.resolve now, alerts.update alertId (Alert.resolve now) (Alert.resolve_keeps now))

/-- One call of a shared helper, as a rule or the offline detector issues it. -/
inductive AlertCall where
  | createOrRetainAlert (request : AlertRequest)
  | resolveAlertIfActive (batteryId : BatteryId) (alertType : AlertType) (resolvedAt : Timestamp)
deriving Repr, DecidableEq

namespace AlertCall

def run : AlertCall → Alerts → Alerts
  | .createOrRetainAlert request => Backend.createOrRetainAlert request
  | .resolveAlertIfActive batteryId alertType resolvedAt =>
      Backend.resolveAlertIfActive batteryId alertType resolvedAt

/-- The incident key a call is about. -/
def key : AlertCall → BatteryId × AlertType
  | .createOrRetainAlert request => (request.batteryId, request.alertType)
  | .resolveAlertIfActive batteryId alertType _ => (batteryId, alertType)

/-- The instant a call stamps: the start of a new alert, or the end of one. -/
def timestamp : AlertCall → Timestamp
  | .createOrRetainAlert request => request.timestamp
  | .resolveAlertIfActive _ _ resolvedAt => resolvedAt

/-- A sequence of calls, in order. -/
def runAll (calls : List AlertCall) (alerts : Alerts) : Alerts :=
  calls.foldl (fun alerts call => call.run alerts) alerts

@[simp] theorem runAll_nil (alerts : Alerts) : runAll [] alerts = alerts := rfl

@[simp] theorem runAll_cons (call : AlertCall) (rest : List AlertCall) (alerts : Alerts) :
    runAll (call :: rest) alerts = runAll rest (call.run alerts) := rfl

theorem runAll_append (first second : List AlertCall) (alerts : Alerts) :
    runAll (first ++ second) alerts = runAll second (runAll first alerts) :=
  List.foldl_append

end AlertCall

end VoltStream.Backend
