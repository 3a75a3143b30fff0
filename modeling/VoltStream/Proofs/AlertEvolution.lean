/-
Module: VoltStream.Proofs.AlertEvolution
Purpose: How an alert may change over a run of complete steps: it is never
  dropped, keeps its identity and its start, and is frozen once resolved.
Trusted boundary: none
Main exports: Alert.Evolves, Alerts.Later, AlertCall.origin_runAll,
  Database.later_step, Database.later_run
-/
import VoltStream.Relational.Run
import VoltStream.Proofs.RequestEffect
import VoltStream.Proofs.DetectorEffect

namespace VoltStream.Backend

open Relational

/-- The later form of an alert: same identity and start, and once resolved
neither reopened nor rewritten. -/
structure Alert.Evolves (old new : Alert) : Prop where
  alertId : new.alertId = old.alertId
  batteryId : new.batteryId = old.batteryId
  alertType : new.alertType = old.alertType
  timestamp : new.timestamp = old.timestamp
  frozen : old.resolved = true → new.resolved = true ∧ new.reading = old.reading

namespace Alert

theorem Evolves.refl (alert : Alert) : alert.Evolves alert :=
  ⟨rfl, rfl, rfl, rfl, fun resolved => ⟨resolved, rfl⟩⟩

theorem Evolves.trans {first second third : Alert} (one : first.Evolves second)
    (two : second.Evolves third) : first.Evolves third where
  alertId := two.alertId.trans one.alertId
  batteryId := two.batteryId.trans one.batteryId
  alertType := two.alertType.trans one.alertType
  timestamp := two.timestamp.trans one.timestamp
  frozen := fun resolved => by
    obtain ⟨stillResolved, sameReading⟩ := one.frozen resolved
    obtain ⟨finally_, finalReading⟩ := two.frozen stillResolved
    exact ⟨finally_, finalReading.trans sameReading⟩

/-- Any change the unique indexes allow is an evolution of an unresolved alert. -/
theorem Evolves.of_unresolved {alert : Alert} {change : Alert → Alert}
    (keeps : KeepsIncident change) (unresolved : alert.resolved = false) :
    alert.Evolves (change alert) where
  alertId := keeps.alertId alert
  batteryId := keeps.batteryId alert
  alertType := keeps.alertType alert
  timestamp := keeps.timestamp alert
  frozen := fun resolved => by simp [unresolved] at resolved

end Alert

/-- Every alert of the earlier table has its later form in the later one. -/
def Alerts.Later (earlier later : Alerts) : Prop :=
  ∀ old ∈ earlier.rows, ∃ new ∈ later.rows, old.Evolves new

namespace Alerts

theorem Later.of_rows {earlier later : Alerts} (same : later.rows = earlier.rows) :
    earlier.Later later :=
  fun old stored => ⟨old, same ▸ stored, .refl old⟩

theorem Later.trans {first second third : Alerts} (one : first.Later second)
    (two : second.Later third) : first.Later third := by
  intro old stored
  obtain ⟨middle, inSecond, early⟩ := one old stored
  obtain ⟨new, inThird, late⟩ := two middle inSecond
  exact ⟨new, inThird, early.trans late⟩

/-- An update of an unresolved alert. -/
theorem later_update {alerts : Alerts} {existing : Alert} {change : Alert → Alert}
    (keeps : KeepsIncident change) (stored : existing ∈ alerts.rows)
    (unresolved : existing.resolved = false) :
    alerts.Later (alerts.update existing.alertId change keeps) := by
  intro old inRows
  refine ⟨if old.alertId = existing.alertId then change old else old,
    List.mem_map.mpr ⟨old, inRows, rfl⟩, ?_⟩
  split
  · rename_i sameId
    rw [alerts.table.row_unique inRows stored sameId]
    exact .of_unresolved keeps unresolved
  · exact .refl old

end Alerts

theorem AlertCall.later_run (call : AlertCall) (alerts : Alerts) :
    alerts.Later (call.run alerts) := by
  cases call with
  | createOrRetainAlert request =>
      cases found : alerts.getUnresolvedAlert request.batteryId request.alertType with
      | some existing =>
          obtain ⟨stored, -, -, unresolved⟩ := alerts.getUnresolvedAlert_some_iff.mp found
          rw [run, createOrRetainAlert_of_some found]
          exact (Alerts.later_update request.retain_keeps stored unresolved).trans (.of_rows rfl)
      | none =>
          rw [run, createOrRetainAlert_of_none found]
          exact fun old stored => ⟨old, List.mem_append_left _ stored, .refl old⟩
  | resolveAlertIfActive batteryId alertType resolvedAt =>
      cases found : alerts.getUnresolvedAlert batteryId alertType with
      | some existing =>
          obtain ⟨stored, -, -, unresolved⟩ := alerts.getUnresolvedAlert_some_iff.mp found
          rw [run, resolveAlertIfActive_of_some found]
          exact Alerts.later_update (Alert.resolve_keeps resolvedAt) stored unresolved
      | none =>
          rw [run, resolveAlertIfActive_of_none found]
          exact .of_rows rfl

theorem AlertCall.later_runAll (calls : List AlertCall) (alerts : Alerts) :
    alerts.Later (runAll calls alerts) :=
  @foldl_invariant _ _ (fun alerts call => AlertCall.run call alerts) alerts.Later
    (fun reached call sofar => sofar.trans (call.later_run reached)) alerts (.of_rows rfl) calls

/-! ### Where a later alert comes from -/

/-- After an update of an unresolved alert every alert is a later form of an
old one. -/
theorem Alerts.origin_update {alerts : Alerts} {existing alert : Alert} {change : Alert → Alert}
    (keeps : KeepsIncident change) (stored : existing ∈ alerts.rows)
    (unresolved : existing.resolved = false)
    (member : alert ∈ (alerts.update existing.alertId change keeps).rows) :
    ∃ old ∈ alerts.rows, old.Evolves alert := by
  obtain ⟨old, inRows, rfl⟩ := List.mem_map.mp member
  refine ⟨old, inRows, ?_⟩
  split
  · rename_i sameId
    rw [alerts.table.row_unique inRows stored sameId]
    exact .of_unresolved keeps unresolved
  · exact .refl old

/-- After a call every alert is a later form of an old one or the one the call
has created. -/
theorem AlertCall.origin_run {call : AlertCall} {alerts : Alerts} {alert : Alert}
    (member : alert ∈ (call.run alerts).rows) :
    (∃ old ∈ alerts.rows, old.Evolves alert) ∨
      ∃ request alertId, call = .createOrRetainAlert request ∧
        alert = request.toAlert alertId := by
  cases call with
  | createOrRetainAlert request =>
      rw [run] at member
      cases found : alerts.getUnresolvedAlert request.batteryId request.alertType with
      | some existing =>
          obtain ⟨stored, -, -, unresolved⟩ := alerts.getUnresolvedAlert_some_iff.mp found
          rw [createOrRetainAlert_of_some found, Alerts.discardDraw_rows] at member
          exact Or.inl (Alerts.origin_update request.retain_keeps stored unresolved member)
      | none =>
          rw [createOrRetainAlert_of_none found, Alerts.insertNew_rows] at member
          rcases List.mem_append.mp member with old | new
          · exact Or.inl ⟨alert, old, .refl alert⟩
          · exact Or.inr ⟨request, alerts.nextAlertId, rfl, List.mem_singleton.mp new⟩
  | resolveAlertIfActive batteryId alertType resolvedAt =>
      rw [run] at member
      cases found : alerts.getUnresolvedAlert batteryId alertType with
      | some existing =>
          obtain ⟨stored, -, -, unresolved⟩ := alerts.getUnresolvedAlert_some_iff.mp found
          rw [resolveAlertIfActive_of_some found] at member
          exact Or.inl
            (Alerts.origin_update (Alert.resolve_keeps resolvedAt) stored unresolved member)
      | none =>
          rw [resolveAlertIfActive_of_none found] at member
          exact Or.inl ⟨alert, member, .refl alert⟩

/-- The same over a sequence of calls. -/
theorem AlertCall.origin_runAll {calls : List AlertCall} {alerts : Alerts} {alert : Alert}
    (member : alert ∈ (runAll calls alerts).rows) :
    (∃ old ∈ alerts.rows, old.Evolves alert) ∨
      ∃ request alertId, .createOrRetainAlert request ∈ calls ∧
        (request.toAlert alertId).Evolves alert := by
  induction calls generalizing alerts with
  | nil => exact Or.inl ⟨alert, member, .refl alert⟩
  | cons call rest ih =>
      rw [runAll_cons] at member
      rcases ih member with ⟨middle, inMiddle, late⟩ | ⟨request, alertId, later, evolves⟩
      · rcases origin_run inMiddle with ⟨old, inRows, early⟩ | ⟨request, alertId, rfl, rfl⟩
        · exact Or.inl ⟨old, inRows, early.trans late⟩
        · exact Or.inr ⟨request, alertId, List.mem_cons_self .., late⟩
      · exact Or.inr ⟨request, alertId, List.mem_cons_of_mem _ later, evolves⟩

theorem resolveAlert_later {now : Timestamp} {alertId : Uuid} {alerts after : Alerts}
    {alert : Alert} (done : resolveAlert now alertId alerts = .ok (alert, after)) :
    alerts.Later after := by
  unfold resolveAlert at done
  split at done
  · cases done
  · rename_i found isFound
    obtain ⟨stored, rfl⟩ := alerts.table.lookup_some_iff.mp isFound
    split at done
    · cases done
      exact .of_rows rfl
    · rename_i notResolved
      cases done
      exact Alerts.later_update (Alert.resolve_keeps now) stored (by simpa using notResolved)

/-- A manual resolution creates no alert. -/
theorem Database.origin_resolve (settings : Settings) (db : Database) {now : Timestamp}
    {alertId : Uuid} {alert : Alert}
    (member : alert ∈ (db.step settings (.resolve now alertId)).alerts.rows) :
    ∃ old ∈ db.alerts.rows, old.Evolves alert := by
  simp only [step, resolveAlert] at member
  cases found : db.alerts.table.lookup alertId with
  | none =>
      rw [found] at member
      exact ⟨alert, member, .refl alert⟩
  | some existing =>
      obtain ⟨stored, rfl⟩ := db.alerts.table.lookup_some_iff.mp found
      rw [found] at member
      by_cases resolved : existing.resolved = true
      · simp only [resolved, if_true] at member
        exact ⟨alert, member, .refl alert⟩
      · simp only [resolved] at member
        exact Alerts.origin_update (Alert.resolve_keeps now) stored (by simpa using resolved) member

/-- Every complete step only lets alerts evolve. -/
theorem Database.later_step (settings : Settings) (db : Database) (step : Step) :
    db.alerts.Later (db.step settings step).alerts := by
  cases step with
  | activity activity =>
      cases activity with
      | ingest request =>
          by_cases registered : db.Registers request
          · have after : (db.step settings (.activity (.ingest request))).alerts = _ :=
              alerts_ingest settings registered
            rw [after]
            exact AlertCall.later_runAll _ _
          · have after : db.step settings (.activity (.ingest request)) = db :=
              ingest_of_not_registers registered
            rw [after]
            exact .of_rows rfl
      | detect clock => exact AlertCall.later_runAll _ db.alerts
  | resolve now alertId =>
      simp only [step]
      split
      · rename_i done
        exact resolveAlert_later done
      · exact .of_rows rfl

/-- So does every run of them. -/
theorem Database.later_run (settings : Settings) (db : Database) (steps : List Step) :
    db.alerts.Later (steps.foldl (Database.step settings) db).alerts :=
  @foldl_invariant _ _ (Database.step settings) (fun reached => db.alerts.Later reached.alerts)
    (fun reached step sofar => sofar.trans (reached.later_step settings step)) db
    (.of_rows rfl) steps

end VoltStream.Backend
