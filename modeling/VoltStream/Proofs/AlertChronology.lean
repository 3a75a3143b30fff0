/-
Module: VoltStream.Proofs.AlertChronology
Purpose: When incidents end no earlier than they start, over runs of complete
  steps on a server clock that never goes back.  An offline alert starts on the
  server clock and is ended by the device clock of the reading that resolves it.
Trusted boundary: none
Main exports: TimedStep, Chronicle, Chronicle.Timely, Chronicle.IncidentsOrdered,
  Chronicle.ReportsSinceAlert, incidentsOrdered_run_iff, delayed_reading_ends_early
-/
import VoltStream.Proofs.AlertEvolution

namespace VoltStream.Backend

open Relational

/-- A resolved alert carries an end that does not lie before its start. -/
def Alert.EndsAfterStart (alert : Alert) : Prop :=
  alert.resolved = true → ∃ ended, alert.resolvedAt = some ended ∧ alert.timestamp ≤ ended

/-- A complete step together with the server clock it is taken at. -/
inductive TimedStep where
  | ingest (now : Timestamp) (request : Request)
  | detect (clock : DetectorClock)
  | resolve (now : Timestamp) (alertId : Uuid)

namespace TimedStep

def toStep : TimedStep → Step
  | .ingest _ request => .activity (.ingest request)
  | .detect clock => .activity (.detect clock)
  | .resolve now alertId => .resolve now alertId

/-- The last server clock reading of the step. -/
def now : TimedStep → Timestamp
  | .ingest now _ => now
  | .detect clock => clock.alertNow
  | .resolve now _ => now

/-- The readings the step accepts. -/
def accepted (db : Database) : TimedStep → List TelemetryEvent
  | .ingest _ request => db.accepted request
  | .detect _ => []
  | .resolve _ _ => []

end TimedStep

/-- A database with the history its claims about time refer to: the server
clock and the readings accepted so far. -/
structure Chronicle where
  db : Database
  clock : Timestamp
  reported : List TelemetryEvent

namespace Chronicle

/-- Empty tables at a server clock reading. -/
def start (batteries : Table Battery Battery.batteryId) (clock : Timestamp) : Chronicle where
  db := Database.registered batteries
  clock := clock
  reported := []

def step (settings : Settings) (state : Chronicle) (step : TimedStep) : Chronicle where
  db := state.db.step settings step.toStep
  clock := step.now
  reported := state.reported ++ step.accepted state.db

/-- The server clock does not go back, and accepted readings arrive per battery
in the order of their timestamps and never before they were taken. -/
def Timely (state : Chronicle) : TimedStep → Prop
  | .ingest now request =>
      state.clock ≤ now ∧
        ∀ event ∈ TimedStep.accepted state.db (.ingest now request), event.timestamp ≤ now ∧
          ∀ earlier ∈ state.reported, earlier.batteryId = event.batteryId →
            earlier.timestamp ≤ event.timestamp
  | .detect clock => state.clock ≤ clock.cutoffNow ∧ clock.cutoffNow ≤ clock.alertNow
  | .resolve now _ => state.clock ≤ now

instance (state : Chronicle) (step : TimedStep) : Decidable (state.Timely step) :=
  match step with
  | .ingest _ _ => inferInstanceAs (Decidable (_ ∧ ∀ event ∈ _, _))
  | .detect _ => inferInstanceAs (Decidable (_ ∧ _))
  | .resolve _ _ => inferInstanceAs (Decidable (_ ≤ _))

/-- Every resolved alert ends no earlier than it starts. -/
def IncidentsOrdered (state : Chronicle) : Prop :=
  ∀ alert ∈ state.db.alerts.rows, alert.EndsAfterStart

/-- For every battery with an open offline alert of which the request brings new
readings, one of them was taken no earlier than the alert was raised. -/
def ReportsSinceAlert (state : Chronicle) : TimedStep → Prop
  | .ingest _ request =>
      state.db.Registers request → ∀ batteryId alert,
        state.db.openAlert batteryId .deviceOffline = some alert →
        (∃ event ∈ state.db.newlyInserted request, event.batteryId = batteryId) →
        ∃ event ∈ state.db.newlyInserted request, event.batteryId = batteryId ∧
          alert.timestamp ≤ event.timestamp
  | .detect _ => True
  | .resolve _ _ => True

/-- Where the starts of the alerts come from: none lies ahead of the server
clock, and a rule's alert starts no later than some accepted reading. -/
structure Dated (state : Chronicle) : Prop where
  started : ∀ alert ∈ state.db.alerts.rows, alert.timestamp ≤ state.clock
  ruled : ∀ alert ∈ state.db.alerts.rows, alert.alertType ≠ .deviceOffline →
    ∃ earlier ∈ state.reported, earlier.batteryId = alert.batteryId ∧
      alert.timestamp ≤ earlier.timestamp

end Chronicle

/-! ### The end a call writes -/

section Calls

variable {batteryId : BatteryId} {alertType : AlertType}

/-- A call keeps the alerts of its key in order exactly if, when it resolves the
open one, it does so with an instant that is not before the alert's start. -/
theorem AlertCall.ordered_run_iff {call : AlertCall} {alerts : Alerts}
    (about : call.key = (batteryId, alertType))
    (ordered : ∀ alert ∈ alerts.history batteryId alertType, alert.EndsAfterStart) :
    (∀ alert ∈ (call.run alerts).history batteryId alertType, alert.EndsAfterStart) ↔
      (call.opens = none → ∀ alert, alerts.getUnresolvedAlert batteryId alertType = some alert →
        alert.timestamp ≤ call.timestamp) := by
  cases call with
  | createOrRetainAlert request =>
      obtain ⟨rfl, rfl⟩ := Prod.mk.inj about
      refine iff_of_true ?_ fun impossible => by cases impossible
      rw [run]
      cases found : alerts.getUnresolvedAlert request.batteryId request.alertType with
      | some existing =>
          rw [Alerts.history_retain found]
          intro alert inMapped
          obtain ⟨old, inHistory, rfl⟩ := List.mem_map.mp inMapped
          split
          · exact ordered old inHistory
          · exact ordered old inHistory
      | none =>
          rw [Alerts.history_create found]
          intro alert inHistory
          rcases List.mem_append.mp inHistory with old | new
          · exact ordered alert old
          · rw [List.mem_singleton.mp new]
            exact fun resolved => by cases resolved
  | resolveAlertIfActive battery type resolvedAt =>
      obtain ⟨rfl, rfl⟩ := Prod.mk.inj about
      simp only [run, opens, forall_const, timestamp, Alerts.history_resolve]
      constructor
      · intro after alert found
        obtain ⟨stored, sameBattery, sameType, unresolved⟩ :=
          alerts.getUnresolvedAlert_some_iff.mp found
        have resolved := after (alert.resolve resolvedAt) (List.mem_map.mpr
          ⟨alert, Alerts.mem_history_iff.mpr ⟨stored, sameBattery, sameType⟩,
            by simp [unresolved]⟩)
        obtain ⟨ended, isEnded, notBefore⟩ := resolved rfl
        exact Option.some.inj isEnded ▸ notBefore
      · intro notBefore alert inMapped
        obtain ⟨old, inHistory, rfl⟩ := List.mem_map.mp inMapped
        split
        · exact ordered old inHistory
        · rename_i unresolved
          obtain ⟨stored, sameBattery, sameType⟩ := Alerts.mem_history_iff.mp inHistory
          have found : alerts.getUnresolvedAlert battery type = some old :=
            alerts.getUnresolvedAlert_some_iff.mpr
              ⟨stored, sameBattery, sameType, by simpa using unresolved⟩
          exact fun _ => ⟨resolvedAt, rfl, notBefore old found⟩

/-- The alerts are in order exactly if they are at every key. -/
theorem Alerts.ordered_iff {alerts : Alerts} :
    (∀ alert ∈ alerts.rows, alert.EndsAfterStart) ↔
      ∀ batteryId alertType, ∀ alert ∈ alerts.history batteryId alertType,
        alert.EndsAfterStart := by
  constructor
  · intro ordered batteryId alertType alert inHistory
    exact ordered alert (Alerts.mem_history_iff.mp inHistory).1
  · intro ordered alert stored
    exact ordered alert.batteryId alert.alertType alert
      (Alerts.mem_history_iff.mpr ⟨stored, rfl, rfl⟩)

/-- The detector's calls resolve nothing. -/
theorem ordered_deviceOfflineCalls (settings : Settings) (now : Timestamp)
    (ids : List BatteryId) {alerts : Alerts}
    (ordered : ∀ alert ∈ alerts.rows, alert.EndsAfterStart) :
    ∀ alert ∈ (AlertCall.runAll (deviceOfflineCalls settings now ids) alerts).rows,
      alert.EndsAfterStart := by
  induction ids generalizing alerts with
  | nil => exact ordered
  | cons first rest ih =>
      rw [deviceOfflineCalls, List.map_cons, AlertCall.runAll_cons, ← deviceOfflineCalls]
      apply ih
      rw [Alerts.ordered_iff] at ordered ⊢
      intro batteryId alertType
      by_cases related : (AlertCall.createOrRetainAlert
          (deviceOfflineRequest settings now first)).key = (batteryId, alertType)
      · exact (AlertCall.ordered_run_iff related (ordered batteryId alertType)).mpr
          fun impossible => by cases impossible
      · rw [AlertCall.history_run_of_unrelated related]
        exact ordered batteryId alertType

/-- A request keeps the alerts in order exactly if each open alert it resolves
started no later than the reading that resolves it. -/
theorem Database.ordered_ingest_iff {settings : Settings} {db : Database} {request : Request}
    (registered : db.Registers request)
    (ordered : ∀ alert ∈ db.alerts.rows, alert.EndsAfterStart) :
    (∀ alert ∈ (db.ingest settings request).alerts.rows, alert.EndsAfterStart) ↔
      ∀ batteryId alertType call,
        db.decidingCall settings request batteryId alertType = some call →
        call.opens = none → ∀ alert, db.openAlert batteryId alertType = some alert →
          alert.timestamp ≤ call.timestamp := by
  rw [Alerts.ordered_iff] at ordered ⊢
  refine forall₂_congr fun batteryId alertType => ?_
  cases decides : db.decidingCall settings request batteryId alertType with
  | none =>
      rw [history_ingest_of_none settings registered decides]
      exact iff_of_true (ordered batteryId alertType) fun _ impossible => by cases impossible
  | some call =>
      obtain ⟨reached, same, after⟩ := history_ingest_of_some registered decides
      have reachedOrdered : ∀ alert ∈ reached.history batteryId alertType,
          alert.EndsAfterStart := same ▸ ordered batteryId alertType
      rw [after, AlertCall.ordered_run_iff (decidingCall_key decides) reachedOrdered,
        Alerts.getUnresolvedAlert_congr same]
      simp only [Option.some.injEq, forall_eq', openAlert]

end Calls

/-! ### Where the starts come from -/

section Dating

variable {settings : Settings} {state : Chronicle}

/-- A rule's alert of a request starts at the timestamp of an accepted reading. -/
theorem created_timestamp {telemetry : List Telemetry}
    {batteries : Table Battery Battery.batteryId} {events : List TelemetryEvent}
    {request : AlertRequest}
    (created : .createOrRetainAlert request ∈
      rulePassCalls settings telemetry batteries (sortedLatest events)) :
    ∃ event ∈ events, event.batteryId = request.batteryId ∧
      request.timestamp = event.timestamp := by
  rcases List.mem_append.mp created with ruled | resolves
  · obtain ⟨event, inLatest, made⟩ := List.mem_flatMap.mp ruled
    have battery := (evaluateRulesForEvent_key made).1
    have member := (newestEvent_batteryId (mem_sortedLatest_iff.mp inLatest)).1
    refine ⟨event, member, battery.symm, ?_⟩
    unfold evaluateRulesForEvent at made
    split at made
    · cases made
    · rw [evaluateRules_eq] at made
      obtain ⟨alertType, -, isCall⟩ := List.mem_flatMap.mp made
      exact ruleCall_timestamp (Option.mem_toList.mp isCall)
  · obtain ⟨event, -, impossible⟩ := List.mem_map.mp resolves
    cases impossible

theorem Chronicle.start_dated (batteries : Table Battery Battery.batteryId) (clock : Timestamp) :
    (Chronicle.start batteries clock).Dated where
  started := by simp [start, Database.registered]
  ruled := by simp [start, Database.registered]

/-- What a later form of a dated alert needs to be dated again. -/
theorem Chronicle.Dated.of_evolves {old alert : Alert} (dated : state.Dated)
    (stored : old ∈ state.db.alerts.rows) (evolves : old.Evolves alert) :
    alert.timestamp ≤ state.clock ∧ (alert.alertType ≠ .deviceOffline →
      ∃ earlier ∈ state.reported, earlier.batteryId = alert.batteryId ∧
        alert.timestamp ≤ earlier.timestamp) := by
  rw [evolves.timestamp, evolves.alertType, evolves.batteryId]
  exact ⟨dated.started old stored, dated.ruled old stored⟩

/-- Timely steps keep the starts dated. -/
theorem Chronicle.dated_step (step : TimedStep) (dated : state.Dated) (timely : state.Timely step) :
    (state.step settings step).Dated := by
  -- Every alert is a later form of an old one or is created by the step.
  have splits : ∀ alert ∈ (state.step settings step).db.alerts.rows,
      (∃ old ∈ state.db.alerts.rows, old.Evolves alert) ∨
        (alert.timestamp = step.now ∧ alert.alertType = .deviceOffline) ∨
        ∃ event ∈ step.accepted state.db, event.batteryId = alert.batteryId ∧
          alert.timestamp = event.timestamp := by
    intro alert member
    cases step with
    | ingest now request =>
        by_cases registered : state.db.Registers request
        · have same : (state.step settings (.ingest now request)).db.alerts = _ :=
            Database.alerts_ingest settings registered
          rw [same] at member
          refine (AlertCall.origin_runAll member).imp_right ?_
          rintro ⟨created, alertId, inCalls, evolves⟩
          obtain ⟨event, inNew, battery, start⟩ := created_timestamp inCalls
          refine Or.inr ⟨event, ?_, ?_, ?_⟩
          · rw [TimedStep.accepted, Database.accepted_of_registers registered]
            exact inNew
          · rw [battery, evolves.batteryId, AlertRequest.toAlert]
          · rw [evolves.timestamp, AlertRequest.toAlert, start]
        · have same : (state.step settings (.ingest now request)).db = state.db :=
            Database.ingest_of_not_registers registered
          rw [same] at member
          exact Or.inl ⟨alert, member, .refl alert⟩
    | detect clock =>
        refine (AlertCall.origin_runAll member).imp_right ?_
        rintro ⟨created, alertId, inCalls, evolves⟩
        obtain ⟨batteryId, -, isCall⟩ := List.mem_map.mp inCalls
        obtain rfl := AlertCall.createOrRetainAlert.inj isCall
        exact Or.inl ⟨evolves.timestamp, evolves.alertType⟩
    | resolve now alertId => exact Or.inl (state.db.origin_resolve settings member)
  have advances : state.clock ≤ step.now := by
    cases step with
    | ingest now request => exact timely.1
    | detect clock => exact timely.1.trans timely.2
    | resolve now alertId => exact timely
  have past : ∀ event ∈ step.accepted state.db, event.timestamp ≤ step.now := by
    cases step with
    | ingest now request => exact fun event inNew => (timely.2 event inNew).1
    | detect clock => exact fun event impossible => by cases impossible
    | resolve now alertId => exact fun event impossible => by cases impossible
  constructor
  · intro alert member
    rcases splits alert member with ⟨old, stored, evolves⟩ | ⟨start, -⟩ | ⟨event, inNew, -, start⟩
    · exact (dated.of_evolves stored evolves).1.trans advances
    · exact start.le
    · exact start.le.trans (past event inNew)
  · intro alert member ruled
    rcases splits alert member with ⟨old, stored, evolves⟩ | ⟨-, offline⟩ |
        ⟨event, inNew, battery, start⟩
    · obtain ⟨earlier, inReported, battery, notBefore⟩ := (dated.of_evolves stored evolves).2 ruled
      exact ⟨earlier, List.mem_append_left _ inReported, battery, notBefore⟩
    · exact absurd offline ruled
    · exact ⟨event, List.mem_append_right _ inNew, battery, start.le⟩

end Dating

/-! ### Runs -/

section Runs

variable {settings : Settings} {state : Chronicle}

/-- A timely request keeps the incidents in order exactly if, for every open
offline alert it ends, it brings a reading taken since the alert was raised. -/
theorem incidentsOrdered_ingest_iff {now : Timestamp} {request : Request} (dated : state.Dated)
    (timely : state.Timely (.ingest now request)) (ordered : state.IncidentsOrdered) :
    (state.step settings (.ingest now request)).IncidentsOrdered ↔
      state.ReportsSinceAlert (.ingest now request) := by
  by_cases registered : state.db.Registers request
  swap
  · have same : (state.step settings (.ingest now request)).db = state.db :=
      Database.ingest_of_not_registers registered
    rw [Chronicle.IncidentsOrdered, same]
    exact iff_of_true ordered fun known => absurd known registered
  have inOrder : ∀ event ∈ state.db.newlyInserted request, ∀ earlier ∈ state.reported,
      earlier.batteryId = event.batteryId → earlier.timestamp ≤ event.timestamp := by
    intro event inNew
    have isAccepted : event ∈ TimedStep.accepted state.db (.ingest now request) := by
      rw [TimedStep.accepted, Database.accepted_of_registers registered]
      exact inNew
    exact (timely.2 event isAccepted).2
  have perKey : (state.step settings (.ingest now request)).IncidentsOrdered ↔ _ :=
    Database.ordered_ingest_iff registered ordered
  rw [perKey]
  constructor
  · intro notBefore _ batteryId alert isOpen ⟨reported, inNew, battery⟩
    cases newest : newestEvent (state.db.newlyInserted request) batteryId with
    | none => exact absurd battery (newestEvent_none_iff.mp newest reported inNew)
    | some event =>
        obtain ⟨eventNew, eventBattery⟩ := newestEvent_batteryId newest
        have decides := Database.decidingCall_deviceOffline settings registered newest
        exact ⟨event, eventNew, eventBattery, notBefore _ _ _ decides rfl alert isOpen⟩
  · intro since batteryId alertType call decides resolves alert isOpen
    obtain ⟨event, newest, deciding⟩ := Option.bind_eq_some_iff.mp decides
    obtain ⟨battery, -, made⟩ := Option.bind_eq_some_iff.mp deciding
    obtain ⟨eventNew, eventBattery⟩ := newestEvent_batteryId newest
    obtain ⟨stored, alertBattery, alertsType, -⟩ :=
      state.db.alerts.getUnresolvedAlert_some_iff.mp isOpen
    rw [ruleCall_timestamp made]
    by_cases offline : alertType = .deviceOffline
    · subst offline
      obtain ⟨other, otherNew, otherBattery, notBefore⟩ :=
        since registered batteryId alert isOpen ⟨event, eventNew, eventBattery⟩
      exact notBefore.trans (newestEvent_le newest otherNew otherBattery)
    · -- A rule's alert started at an accepted reading, and readings come in order.
      obtain ⟨earlier, inReported, sameBattery, started⟩ :=
        dated.ruled alert stored (by rw [alertsType]; exact offline)
      exact started.trans (inOrder event eventNew earlier inReported
        (sameBattery.trans (alertBattery.trans eventBattery.symm)))

/-- A manual resolution is stamped with the server clock. -/
theorem incidentsOrdered_resolve {now : Timestamp} {alertId : Uuid} (dated : state.Dated)
    (timely : state.Timely (.resolve now alertId)) (ordered : state.IncidentsOrdered) :
    (state.step settings (.resolve now alertId)).IncidentsOrdered := by
  intro alert member
  simp only [Chronicle.step, TimedStep.toStep, Database.step, resolveAlert] at member
  cases found : state.db.alerts.table.lookup alertId with
  | none =>
      rw [found] at member
      exact ordered alert member
  | some existing =>
      rw [found] at member
      by_cases resolved : existing.resolved = true
      · simp only [resolved, if_true] at member
        exact ordered alert member
      · simp only [resolved] at member
        obtain ⟨old, stored, rfl⟩ := List.mem_map.mp member
        split
        · exact fun _ => ⟨now, rfl, (dated.started old stored).trans timely⟩
        · exact ordered old stored

theorem incidentsOrdered_step_iff (step : TimedStep) (dated : state.Dated)
    (timely : state.Timely step) (ordered : state.IncidentsOrdered) :
    (state.step settings step).IncidentsOrdered ↔ state.ReportsSinceAlert step := by
  cases step with
  | ingest now request => exact incidentsOrdered_ingest_iff dated timely ordered
  | detect clock =>
      exact iff_of_true (ordered_deviceOfflineCalls settings clock.alertNow _ ordered) trivial
  | resolve now alertId =>
      exact iff_of_true (incidentsOrdered_resolve dated timely ordered) trivial

/-- Over every run of timely complete steps from empty tables: every resolved
alert ends no earlier than it starts, in every state, exactly if no accepted
request ends an offline alert with readings taken before the alert was raised. -/
theorem incidentsOrdered_run_iff (settings : Settings)
    (batteries : Table Battery Battery.batteryId) (clock : Timestamp) (steps : List TimedStep)
    (timely : ∀ taking ∈ taken (Chronicle.step settings) (Chronicle.start batteries clock) steps,
      taking.1.Timely taking.2) :
    (∀ reached ∈ visited (Chronicle.step settings) (Chronicle.start batteries clock) steps,
        reached.IncidentsOrdered) ↔
      ∀ taking ∈ taken (Chronicle.step settings) (Chronicle.start batteries clock) steps,
        taking.1.ReportsSinceAlert taking.2 := by
  apply visited_iff_taken_within _ (fun _ step => Chronicle.dated_step step)
    (fun _ step => incidentsOrdered_step_iff step) (Chronicle.start_dated batteries clock) _ steps
    timely
  simp [Chronicle.IncidentsOrdered, Chronicle.start, Database.registered]

end Runs

/-- A reading, a minute of silence in which the battery is marked, and a reading
of the thirtieth second that is delivered a second later. -/
def delayedReading : List TimedStep :=
  [.ingest 0 (.single (sampleEvent 1 0 50)),
    .detect { cutoffNow := 60000000, alertNow := 60000000 },
    .ingest 61000000 (.single (sampleEvent 2 30000000 50))]

theorem delayedReading_timely :
    ∀ taking ∈ taken (Chronicle.step Settings.default) (Chronicle.start sampleBatteries 0)
      delayedReading, taking.1.Timely taking.2 := by
  decide +kernel

/-- The offline alert raised at the sixtieth second ends at the thirtieth. -/
theorem delayed_reading_ends_early :
    ¬ ∀ steps : List TimedStep,
      (∀ taking ∈ taken (Chronicle.step Settings.default) (Chronicle.start sampleBatteries 0)
        steps, taking.1.Timely taking.2) →
      ∀ reached ∈ visited (Chronicle.step Settings.default) (Chronicle.start sampleBatteries 0)
        steps, reached.IncidentsOrdered := by
  intro always
  have rows : ((delayedReading.foldl (Chronicle.step Settings.default)
      (Chronicle.start sampleBatteries 0)).db.alerts.rows.map fun alert =>
        (alert.timestamp, alert.resolved, alert.resolvedAt)) =
      [(60000000, true, some 30000000)] := by decide +kernel
  have reached := always delayedReading delayedReading_timely
    (delayedReading.foldl (Chronicle.step Settings.default) (Chronicle.start sampleBatteries 0))
    (by simp [visited, delayedReading])
  obtain ⟨alert, stored, values⟩ :=
    List.mem_map.mp (rows ▸ List.mem_singleton_self _ : _ ∈ List.map _ _)
  obtain ⟨ended, isEnded, notBefore⟩ := reached alert stored (congrArg (·.2.1) values)
  have started : alert.timestamp = 60000000 := congrArg (·.1) values
  have stamped : alert.resolvedAt = some 30000000 := congrArg (·.2.2) values
  rw [stamped, Option.some.injEq] at isEnded
  rw [started, ← isEnded] at notBefore
  exact absurd notBefore (by decide)

/-- The rows tell whether the condition is met. -/
theorem reportsSinceAlert_of_rows {state : Chronicle} {now : Timestamp} {request : Request}
    (since : ∀ alert ∈ state.db.alerts.rows, alert.alertType = .deviceOffline →
      alert.resolved = false →
        (∃ event ∈ state.db.newlyInserted request, event.batteryId = alert.batteryId) →
          ∃ event ∈ state.db.newlyInserted request, event.batteryId = alert.batteryId ∧
            alert.timestamp ≤ event.timestamp) :
    state.ReportsSinceAlert (.ingest now request) := by
  intro _ batteryId alert isOpen
  obtain ⟨stored, rfl, isOffline, unresolved⟩ :=
    state.db.alerts.getUnresolvedAlert_some_iff.mp isOpen
  exact since alert stored isOffline unresolved

/-- A reading, a minute of silence in which the battery is marked, and a batch of a reading
that was delayed and one taken after the alert was raised. -/
def returningReading : List TimedStep :=
  [.ingest 0 (.single (sampleEvent 1 0 50)),
    .detect { cutoffNow := 60000000, alertNow := 60000000 },
    .ingest 61000000 (.batch ⟨[sampleEvent 2 30000000 50, sampleEvent 3 61000000 49], by decide⟩)]

/-- The alert of the minute of silence ends at the reading taken after it was raised. -/
theorem sample_incidentsOrdered_run :
    ((returningReading.foldl (Chronicle.step Settings.default)
      (Chronicle.start sampleBatteries 0)).db.alerts.rows.map fun alert =>
        (alert.timestamp, alert.resolvedAt)) = [(60000000, some 61000000)] ∧
    ∀ reached ∈ visited (Chronicle.step Settings.default) (Chronicle.start sampleBatteries 0)
      returningReading, reached.IncidentsOrdered := by
  refine ⟨by decide +kernel, (incidentsOrdered_run_iff Settings.default sampleBatteries 0
    returningReading (by decide +kernel)).mpr (List.forall_mem_cons.mpr ⟨?_,
      List.forall_mem_cons.mpr ⟨trivial, List.forall_mem_cons.mpr ⟨?_, List.forall_mem_nil _⟩⟩⟩)⟩
  · exact reportsSinceAlert_of_rows (by decide +kernel)
  · exact reportsSinceAlert_of_rows (by decide +kernel)

end VoltStream.Backend
