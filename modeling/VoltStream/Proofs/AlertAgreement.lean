/-
Module: VoltStream.Proofs.AlertAgreement
Purpose: When the low-charge and high-temperature alerts agree with the current
  state, over runs of single-event requests in any order.  The upsert ignores a
  reading older than `last_seen`; the rule pass does not.
Trusted boundary: none
Main exports: Database.AlertsAgree, Database.AcceptsLate, Database.LateHarmless,
  alertsAgree_run_iff, late_reading_breaks_agreement
-/
import VoltStream.Relational.Run
import VoltStream.Proofs.RequestEffect

namespace VoltStream.Backend

open Relational

/-- The alert table already says what the call is about to say: the same open
alert with the same reading, or no open alert. -/
def Alerts.AlreadySay (alerts : Alerts) (call : AlertCall) : Prop :=
  (alerts.getUnresolvedAlert call.key.1 call.key.2).map Alert.reading = call.opens

/-- Retaining an alert that already carries the reading writes nothing new. -/
theorem retain_eq_self {request : AlertRequest} {existing : Alert}
    (said : existing.reading =
      (request.severity, request.message, request.measuredValue, request.thresholdValue)) :
    request.retain existing = existing := by
  cases existing
  simp only [Alert.reading, Prod.mk.injEq] at said
  obtain ⟨rfl, rfl, rfl, rfl⟩ := said
  rfl

theorem AlertCall.rows_run_of_alreadySay {call : AlertCall} {alerts : Alerts}
    (said : alerts.AlreadySay call) : (call.run alerts).rows = alerts.rows := by
  cases call with
  | createOrRetainAlert request =>
      simp only [Alerts.AlreadySay, key, opens] at said
      obtain ⟨existing, found, same⟩ := Option.map_eq_some_iff.mp said
      obtain ⟨member, -⟩ := alerts.getUnresolvedAlert_some_iff.mp found
      rw [run, createOrRetainAlert_of_some found, Alerts.discardDraw_rows, Alerts.update_rows]
      conv_rhs => rw [← List.map_id alerts.rows]
      refine List.map_congr_left fun alert stored => ?_
      split
      · rename_i sameId
        rw [alerts.table.row_unique stored member sameId]
        exact retain_eq_self same
      · rfl
  | resolveAlertIfActive batteryId alertType resolvedAt =>
      simp only [Alerts.AlreadySay, key, opens, Option.map_eq_none_iff] at said
      rw [run, resolveAlertIfActive_of_none said]

theorem AlertCall.rows_runAll_of_alreadySay {calls : List AlertCall} {alerts : Alerts}
    (said : ∀ call ∈ calls, alerts.AlreadySay call) :
    (runAll calls alerts).rows = alerts.rows := by
  induction calls generalizing alerts with
  | nil => rfl
  | cons call rest ih =>
      rw [List.forall_mem_cons] at said
      have first := rows_run_of_alreadySay said.1
      rw [runAll_cons, ih, first]
      intro other member
      rw [Alerts.AlreadySay, Alerts.getUnresolvedAlert, first]
      exact said.2 other member

theorem settle_opens (batteryId : BatteryId) (alertType : AlertType) (timestamp : Timestamp)
    (measuredValue : ℚ) (message : Severity → ℚ → String) (grade : Grade) :
    (settle batteryId alertType timestamp measuredValue message grade).opens =
      grade.map fun crossed =>
        (crossed.1, message crossed.1 crossed.2, some measuredValue, some crossed.2) := by
  cases grade <;> rfl

/-- For every battery with a current-state row, the open low-charge and
high-temperature alerts are those the rules assign to that row. -/
def Database.AlertsAgree (settings : Settings) (db : Database) : Prop :=
  ∀ batteryId row, db.currentState batteryId = some row →
    (db.openAlert batteryId .lowSoc).map Alert.severity =
        (lowSocGrade settings row.stateOfCharge).map Prod.fst ∧
      (db.openAlert batteryId .highTemperature).map Alert.severity =
        (highTemperatureGrade settings row.temperatureC).map Prod.fst

/-- The request stores a reading older than what the current state shows. -/
def Database.AcceptsLate (db : Database) (event : TelemetryEvent) : Prop :=
  db.Registers (.single event) ∧ db.Fresh event ∧
    ∃ row, db.currentState event.batteryId = some row ∧ event.timestamp < row.lastSeen

/-- A late reading must not open, change or resolve an alert. -/
def Database.LateSilent (settings : Settings) (db : Database) (event : TelemetryEvent) : Prop :=
  db.AcceptsLate event → (db.ingest settings (.single event)).alerts.rows = db.alerts.rows

/-- Every verdict the rules reach on a late reading is what the alert table says
already. -/
def Database.LateHarmless (settings : Settings) (db : Database) (event : TelemetryEvent) : Prop :=
  db.AcceptsLate event → ∀ alertType call,
    db.decidingCall settings (.single event) event.batteryId alertType = some call →
      db.alerts.AlreadySay call

section Step

variable {settings : Settings} {db : Database} {event : TelemetryEvent}

/-- A late reading is silent exactly if its verdicts are no news. -/
theorem lateSilent_iff : db.LateSilent settings event ↔ db.LateHarmless settings event := by
  refine forall_congr' fun late => ?_
  obtain ⟨registered, -, -⟩ := late
  constructor
  · intro unchanged alertType call decides
    have said := Database.openAlert_ingest_of_some registered decides
    rw [Alerts.AlreadySay, Database.decidingCall_key decides]
    rwa [Database.openAlert, Alerts.getUnresolvedAlert, unchanged] at said
  · intro said
    rw [Database.alerts_ingest settings registered]
    refine AlertCall.rows_runAll_of_alreadySay fun call member => ?_
    have inKey : call ∈ (rulePassCalls settings (db.store (.single event)).telemetry.rows
        db.batteries (sortedLatest (db.newlyInserted (.single event)))).filter fun other =>
          other.key = (call.key.1, call.key.2) := List.mem_filter.mpr ⟨member, by simp⟩
    rw [Database.rulePass_filter settings registered call.key.1 call.key.2,
      Option.mem_toList] at inKey
    -- A call about a battery can only come from the one event of the request.
    obtain ⟨other, newest, -⟩ := Option.bind_eq_some_iff.mp inKey
    rw [Database.newestEvent_single] at newest
    split at newest
    · rename_i both
      exact said call.key.2 call (both.2 ▸ inKey)
    · cases newest

/-- A reading the upsert admits leaves its battery's row and alerts in
agreement. -/
theorem grades_of_admitted (registered : db.Registers (.single event)) (fresh : db.Fresh event) :
    ((db.ingest settings (.single event)).openAlert event.batteryId .lowSoc).map
        Alert.severity = (lowSocGrade settings event.stateOfCharge).map Prod.fst ∧
      ((db.ingest settings (.single event)).openAlert event.batteryId .highTemperature).map
        Alert.severity = (highTemperatureGrade settings event.temperatureC).map Prod.fst := by
  obtain ⟨battery, known⟩ :=
    Option.ne_none_iff_exists'.mp (Database.registers_single_iff.mp registered)
  have newest : newestEvent (db.newlyInserted (.single event)) event.batteryId = some event := by
    rw [Database.newestEvent_single, if_pos ⟨fresh, rfl⟩]
  have severityOf : ∀ {alertType call},
      db.decidingCall settings (.single event) event.batteryId alertType = some call →
      ((db.ingest settings (.single event)).openAlert event.batteryId alertType).map
        Alert.severity = call.opens.map Prod.fst := by
    intro alertType call decides
    rw [← Database.openAlert_ingest_of_some registered decides, Option.map_map]
    rfl
  have decided : ∀ alertType, db.decidingCall settings (.single event) event.batteryId alertType =
      ruleCall settings (db.store (.single event)).telemetry.rows battery event alertType := by
    intro alertType
    rw [Database.decidingCall, newest, Option.bind_some, known, Option.bind_some]
  constructor
  · rw [severityOf (decided .lowSoc), evaluateLowSoc, settle_opens, Option.map_map]
    rfl
  · rw [severityOf (decided .highTemperature), evaluateHighTemperature, settle_opens,
      Option.map_map]
    rfl

variable (settings) in
/-- A battery the request has no new event for keeps its row and its alerts. -/
theorem unrelated_kept (registered : db.Registers (.single event)) {batteryId : BatteryId}
    (other : ¬ (db.Fresh event ∧ event.batteryId = batteryId)) :
    (db.ingest settings (.single event)).currentState batteryId = db.currentState batteryId ∧
      ∀ alertType, (db.ingest settings (.single event)).openAlert batteryId alertType =
        db.openAlert batteryId alertType := by
  have none : newestEvent (db.newlyInserted (.single event)) batteryId = none := by
    rw [Database.newestEvent_single, if_neg other]
  constructor
  · rw [Database.currentState_ingest registered, none, refreshed]
  · intro alertType
    refine Database.openAlert_ingest_of_none settings registered ?_
    rw [Database.decidingCall, none, Option.bind_none]

/-- A step keeps the agreement and leaves late readings silent exactly if late
readings bring no news. -/
theorem alertsAgree_ingest_iff (before : db.AlertsAgree settings) :
    ((db.ingest settings (.single event)).AlertsAgree settings ∧ db.LateSilent settings event) ↔
      db.LateHarmless settings event := by
  rw [← lateSilent_iff, and_iff_right_iff_imp]
  intro silent
  by_cases registered : db.Registers (.single event)
  swap
  · rwa [Database.ingest_of_not_registers registered]
  intro batteryId row isRow
  by_cases related : db.Fresh event ∧ event.batteryId = batteryId
  swap
  · obtain ⟨sameRow, sameAlerts⟩ := unrelated_kept settings registered related
    rw [sameAlerts, sameAlerts]
    exact before batteryId row (sameRow ▸ isRow)
  obtain ⟨fresh, rfl⟩ := related
  have admitted : ∀ {reached : BatteryCurrentState}, event.toCurrentState = reached →
      row = reached →
      ((db.ingest settings (.single event)).openAlert event.batteryId .lowSoc).map
          Alert.severity = (lowSocGrade settings row.stateOfCharge).map Prod.fst ∧
        ((db.ingest settings (.single event)).openAlert event.batteryId .highTemperature).map
          Alert.severity = (highTemperatureGrade settings row.temperatureC).map Prod.fst := by
    rintro _ rfl rfl
    exact grades_of_admitted registered fresh
  rw [Database.currentState_ingest registered, Database.newestEvent_single,
    if_pos ⟨fresh, rfl⟩] at isRow
  cases oldRow : db.currentState event.batteryId with
  | none =>
      rw [oldRow, refreshed, absorb, Option.some.injEq] at isRow
      exact admitted rfl isRow.symm
  | some old =>
      rw [oldRow] at isRow
      by_cases late : event.timestamp < old.lastSeen
      · -- The row stays, and the silent rule pass leaves the alerts alone.
        rw [refreshed_of_lt late, Option.some.injEq] at isRow
        subst isRow
        have unchanged := silent ⟨registered, fresh, old, oldRow, late⟩
        simp only [Database.openAlert, Alerts.getUnresolvedAlert, unchanged]
        exact before _ old oldRow
      · rw [refreshed_of_le (not_lt.mp late), Option.some.injEq] at isRow
        exact admitted rfl isRow.symm

end Step

/-- Over every run of single-event requests from empty tables, in any order of
arrival: the alerts agree with the current state in every state and no late
reading touches an alert exactly if no late reading brings a verdict that the
alerts do not show already. -/
theorem alertsAgree_run_iff (settings : Settings) (batteries : Table Battery Battery.batteryId)
    (events : List TelemetryEvent) :
    ((∀ reached ∈ visited (fun db event => Database.ingest settings db (.single event))
          (Database.registered batteries) events, reached.AlertsAgree settings) ∧
        ∀ taking ∈ taken (fun db event => Database.ingest settings db (.single event))
          (Database.registered batteries) events, taking.1.LateSilent settings taking.2) ↔
      ∀ taking ∈ taken (fun db event => Database.ingest settings db (.single event))
        (Database.registered batteries) events, taking.1.LateHarmless settings taking.2 := by
  refine visited_and_taken_iff (fun db event => Database.ingest settings db (.single event))
    (fun _ _ before => alertsAgree_ingest_iff before) ?_ events
  intro batteryId row isRow
  simp [Database.registered, Database.currentState] at isRow

/-- A low reading, then a healthy one that was taken a second earlier. -/
def lateRecovery : List TelemetryEvent :=
  [sampleEvent 1 1000000 15, sampleEvent 2 0 50]

/-- The late reading leaves the current state at fifteen percent and yet
resolves the low-charge alert. -/
theorem late_reading_breaks_agreement :
    (∀ event ∈ lateRecovery, sampleBatteries.lookup event.batteryId ≠ none) ∧
      (lateRecovery.map TelemetryEvent.eventId).Nodup ∧
      ¬ ∀ reached ∈ visited
          (fun db event => Database.ingest Settings.default db (.single event))
          (Database.registered sampleBatteries) lateRecovery,
        reached.AlertsAgree Settings.default := by
  refine ⟨by decide +kernel, by decide, fun agrees => ?_⟩
  let early := (Database.registered sampleBatteries).ingest Settings.default
    (.single (sampleEvent 1 1000000 15))
  let late := early.ingest Settings.default (.single (sampleEvent 2 0 50))
  have after := agrees late (by simp [visited, lateRecovery, late, early])
  have row : late.currentState sampleBatteryId =
      some (sampleEvent 1 1000000 15).toCurrentState := by decide +kernel
  have resolved : late.openAlert sampleBatteryId .lowSoc = none := by decide +kernel
  have raised := (after sampleBatteryId _ row).1
  rw [resolved] at raised
  exact absurd raised (by decide +kernel)

end VoltStream.Backend
