/-
Module: VoltStream.Proofs.DeviceAlerts
Purpose: The alerts that a simulated device causes in the backend over its whole life: at
  most one for its low charge, and no other.
Trusted boundary: none
Main exports: CalmReadings, StaysLow, OneIncident, Followed, followed_of_events, Steady,
  Reported, reported_of_runBattery, calm_of_samples, calm_of_device, device_alerts
-/
import VoltStream.Proofs.DutyCycle
import VoltStream.Proofs.IncidentHistory
import VoltStream.Proofs.RapidDischarge

namespace VoltStream.Backend

open Relational

/-! ### Readings that no rule but the one for low charge minds -/

/-- The rule for low charge raises an alert for the reading. -/
def isLow (settings : Settings) (reading : TelemetryEvent) : Bool :=
  (lowSocGrade settings reading.stateOfCharge).isSome

/-- Each of these readings of the battery, judged when it and those before it are stored,
has no rule but the one for low charge raise an alert. -/
def CalmReadings (settings : Settings) (battery : Battery) (readings : List TelemetryEvent) :
    Prop :=
  ∀ early reading late, readings = early ++ reading :: late → ∀ telemetry : List Telemetry,
    (telemetry.filter fun stored => stored.batteryId = battery.batteryId) =
        (early ++ [reading]).map TelemetryEvent.toTelemetry →
      ∀ alertType request, alertType ≠ .lowSoc →
        ruleCall settings telemetry battery reading alertType ≠ some (.createOrRetainAlert request)

/-- After a reading with a low charge there is none with another. -/
def StaysLow (settings : Settings) (readings : List TelemetryEvent) : Prop :=
  readings.Pairwise fun earlier later => isLow settings earlier = true → isLow settings later = true

/-- The alerts of the battery after these readings: none but one for low charge, which has
begun with the first such reading and is unresolved. -/
structure OneIncident (settings : Settings) (alerts : Alerts) (batteryId : BatteryId)
    (readings : List TelemetryEvent) : Prop where
  quiet : ∀ alertType, alertType ≠ .lowSoc → alerts.history batteryId alertType = []
  lowSoc : StaysLow settings readings →
    (alerts.history batteryId .lowSoc).map (fun alert => (alert.timestamp, alert.resolved)) =
      (readings.find? (isLow settings)).toList.map fun first => (first.timestamp, false)

variable {settings : Settings} {battery : Battery} {readings : List TelemetryEvent}
  {event : TelemetryEvent}

theorem CalmReadings.of_concat (calm : CalmReadings settings battery (readings ++ [event])) :
    CalmReadings settings battery readings := by
  rintro early reading late rfl
  exact calm early reading (late ++ [event]) (by simp)

theorem CalmReadings.last (calm : CalmReadings settings battery (readings ++ [event]))
    {telemetry : List Telemetry}
    (stored : (telemetry.filter fun stored => stored.batteryId = battery.batteryId) =
      (readings ++ [event]).map TelemetryEvent.toTelemetry) {alertType : AlertType}
    (other : alertType ≠ .lowSoc) (request : AlertRequest) :
    ruleCall settings telemetry battery event alertType ≠ some (.createOrRetainAlert request) :=
  calm readings event [] rfl telemetry stored alertType request other

/-- A request with a new reading stores it behind the others. -/
theorem telemetry_rows_store {db : Database} (fresh : db.Fresh event) :
    (db.store (.single event)).telemetry.rows = db.telemetry.rows ++ [event.toTelemetry] := by
  have absent : db.telemetry.lookup (Telemetry.eventId event.toTelemetry) = none := fresh
  exact Table.insertIgnore_of_none absent

/-! ### Requests with one event -/

/-- What holds of the database after requests with one event each, of which the newly
stored ones of the battery are these readings. -/
structure Followed (settings : Settings) (batteries : Table Battery Battery.batteryId)
    (battery : Battery) (db : Database) (readings : List TelemetryEvent) : Prop where
  batteries : db.batteries = batteries
  stored : (db.telemetry.rows.filter fun stored => stored.batteryId = battery.batteryId) =
    readings.map TelemetryEvent.toTelemetry
  alerts : CalmReadings settings battery readings →
    OneIncident settings db.alerts battery.batteryId readings

/-- A call that raises nothing leaves an empty history empty. -/
theorem history_run_of_not_create {call : AlertCall} {alerts : Alerts} {batteryId : BatteryId}
    {alertType : AlertType} (raisesNot : ∀ request, call ≠ .createOrRetainAlert request)
    (nothing : alerts.history batteryId alertType = []) :
    (call.run alerts).history batteryId alertType = [] := by
  cases call with
  | createOrRetainAlert request => exact absurd rfl (raisesNot request)
  | resolveAlertIfActive battery type resolvedAt =>
      by_cases own : battery = batteryId ∧ type = alertType
      · obtain ⟨rfl, rfl⟩ := own
        rw [AlertCall.run, Alerts.history_resolve, nothing, List.map_nil]
      · rw [AlertCall.run, Alerts.history_resolve_of_unrelated own, nothing]

/-- Creating or retaining an alert leaves the history with the one unresolved alert that it
has, or with a new one. -/
theorem history_createOrRetain {alerts : Alerts} (request : AlertRequest)
    {found : Option TelemetryEvent} (start : request.timestamp = event.timestamp)
    (before : (alerts.history request.batteryId request.alertType).map
      (fun alert => (alert.timestamp, alert.resolved)) =
        found.toList.map fun first => (first.timestamp, false)) :
    ((createOrRetainAlert request alerts).history request.batteryId request.alertType).map
        (fun alert => (alert.timestamp, alert.resolved)) =
      (found.or (some event)).toList.map fun first => (first.timestamp, false) := by
  cases found with
  | none =>
      have nothing : alerts.history request.batteryId request.alertType = [] :=
        List.map_eq_nil_iff.mp before
      have noneOpen : alerts.getUnresolvedAlert request.batteryId request.alertType = none := by
        rw [Alerts.getUnresolvedAlert_eq_history, nothing]
        rfl
      rw [Alerts.history_create noneOpen, nothing]
      exact congrArg (fun instant => [(instant, false)]) start
  | some first =>
      obtain ⟨alert, isHistory, isAlert⟩ := List.map_eq_singleton_iff.mp before
      obtain ⟨isStart, unresolved⟩ := Prod.mk.inj isAlert
      have isOpen : alerts.getUnresolvedAlert request.batteryId request.alertType = some alert := by
        rw [Alerts.getUnresolvedAlert_eq_history, isHistory, List.find?_singleton, unresolved]
        rfl
      rw [Alerts.history_retain isOpen, isHistory, List.map_singleton, List.map_singleton,
        if_neg (ne_true_of_eq_false unresolved)]
      change [(alert.timestamp, alert.resolved)] = [(first.timestamp, false)]
      rw [isStart, unresolved]

/-- What the rule for low charge does to the history of a charge that stays low. -/
theorem history_evaluateLowSoc {alerts : Alerts}
    (staysLow : StaysLow settings (readings ++ [event]))
    (before : (alerts.history event.batteryId .lowSoc).map
      (fun alert => (alert.timestamp, alert.resolved)) =
        (readings.find? (isLow settings)).toList.map fun first => (first.timestamp, false)) :
    (((evaluateLowSoc settings event.batteryId event.stateOfCharge event.timestamp).run
      alerts).history event.batteryId .lowSoc).map
        (fun alert => (alert.timestamp, alert.resolved)) =
      ((readings ++ [event]).find? (isLow settings)).toList.map
        fun first => (first.timestamp, false) := by
  rw [List.find?_append, evaluateLowSoc]
  cases grade : lowSocGrade settings event.stateOfCharge with
  | none =>
      have notLow : isLow settings event = false := by rw [isLow, grade]; rfl
      have noneLow : readings.find? (isLow settings) = none := by
        refine List.find?_eq_none.mpr fun earlier inReadings low => ?_
        have later := (List.pairwise_append.mp staysLow).2.2 earlier inReadings event
          (List.mem_singleton_self event) low
        rw [notLow] at later
        exact Bool.false_ne_true later
      rw [noneLow] at before ⊢
      rw [List.find?_singleton, notLow]
      change (((AlertCall.resolveAlertIfActive event.batteryId .lowSoc event.timestamp).run
        alerts).history event.batteryId .lowSoc).map _ = []
      rw [history_run_of_not_create (fun _ same => AlertCall.noConfusion same)
        (List.map_eq_nil_iff.mp before), List.map_nil]
  | some crossed =>
      obtain ⟨severity, threshold⟩ := crossed
      have low : isLow settings event = true := by rw [isLow, grade]; rfl
      rw [List.find?_singleton, if_pos low]
      exact history_createOrRetain _ rfl before

theorem followed_accepted {batteries : Table Battery Battery.batteryId} {db : Database}
    (known : battery ∈ batteries.rows) (followed : Followed settings batteries battery db readings)
    (fresh : db.Fresh event) (own : event.batteryId = battery.batteryId) :
    Followed settings batteries battery (db.ingest settings (.single event))
      (readings ++ [event]) := by
  have found : db.batteries.lookup battery.batteryId = some battery := by
    rw [followed.batteries]
    exact batteries.lookup_of_mem known
  have registered : db.Registers (.single event) :=
    Database.registers_single_iff.mpr (by rw [own, found]; exact nofun)
  have decides : ∀ alertType, db.decidingCall settings (.single event) battery.batteryId alertType =
      ruleCall settings (db.store (.single event)).telemetry.rows battery event alertType := by
    intro alertType
    rw [Database.decidingCall, Database.newestEvent_single, if_pos ⟨fresh, own⟩, Option.bind_some,
      found, Option.bind_some]
  have stored : ((db.store (.single event)).telemetry.rows.filter fun stored =>
      stored.batteryId = battery.batteryId) =
        (readings ++ [event]).map TelemetryEvent.toTelemetry := by
    have isOwn : decide (event.toTelemetry.batteryId = battery.batteryId) = true :=
      decide_eq_true own
    rw [telemetry_rows_store fresh, List.filter_append, followed.stored, List.map_append,
      List.filter_singleton, isOwn]
    rfl
  refine ⟨(Database.batteries_ingest ..).trans followed.batteries, ?_, fun calm => ⟨?_, ?_⟩⟩
  · rw [Database.telemetry_ingest registered]
    exact stored
  · intro alertType other
    have before := (followed.alerts calm.of_concat).quiet alertType other
    cases made : ruleCall settings (db.store (.single event)).telemetry.rows battery event
        alertType with
    | none =>
        rw [Database.history_ingest_of_none settings registered ((decides _).trans made), before]
    | some call =>
        obtain ⟨reached, same, after⟩ :=
          Database.history_ingest_of_some registered ((decides _).trans made)
        rw [after]
        refine history_run_of_not_create (fun request raises => ?_) (same.trans before)
        exact calm.last stored other request (made.trans (congrArg some raises))
  · intro staysLow
    have before := (followed.alerts calm.of_concat).lowSoc (List.pairwise_append.mp staysLow).1
    obtain ⟨reached, same, after⟩ :=
      Database.history_ingest_of_some registered ((decides .lowSoc).trans rfl)
    rw [after]
    rw [← same, ← own] at before
    rw [← own]
    exact history_evaluateLowSoc staysLow before

/-- A request that stores nothing of the battery. -/
theorem followed_other {batteries : Table Battery Battery.batteryId} {db : Database}
    (followed : Followed settings batteries battery db readings)
    (other : ¬(db.Fresh event ∧ event.batteryId = battery.batteryId)) :
    Followed settings batteries battery (db.ingest settings (.single event)) readings := by
  by_cases fresh : db.Fresh event
  · have notOwn : ¬ event.batteryId = battery.batteryId := fun own => other ⟨fresh, own⟩
    by_cases registered : db.Registers (.single event)
    · have silent : ∀ alertType,
          db.decidingCall settings (.single event) battery.batteryId alertType = none := by
        intro alertType
        rw [Database.decidingCall, Database.newestEvent_single, if_neg other, Option.bind_none]
      have same : ∀ alertType, (db.ingest settings (.single event)).alerts.history
          battery.batteryId alertType = db.alerts.history battery.batteryId alertType :=
        fun alertType => Database.history_ingest_of_none settings registered (silent alertType)
      refine ⟨(Database.batteries_ingest ..).trans followed.batteries, ?_, fun calm =>
        ⟨fun alertType isOther => ?_, fun staysLow => ?_⟩⟩
      · have isOther : decide (event.toTelemetry.batteryId = battery.batteryId) = false :=
          decide_eq_false notOwn
        rw [Database.telemetry_ingest registered, telemetry_rows_store fresh, List.filter_append,
          followed.stored, List.filter_singleton, isOther]
        exact List.append_nil _
      · rw [same]
        exact (followed.alerts calm).quiet alertType isOther
      · rw [same]
        exact (followed.alerts calm).lowSoc staysLow
    · rw [Database.ingest_of_not_registers registered]
      exact followed
  · rw [Database.ingest_of_not_fresh settings fresh]
    exact followed

/-- Over every sequence of requests with one event each, to any batteries. -/
theorem followed_of_events (settings : Settings) {batteries : Table Battery Battery.batteryId}
    {battery : Battery} (known : battery ∈ batteries.rows) (events : List TelemetryEvent) :
    Followed settings batteries battery
      (events.foldl (fun db event => Database.ingest settings db (.single event))
        (Database.registered batteries))
      ((Database.registered batteries).acceptedReadings settings battery.batteryId events) := by
  induction events using List.reverseRecOn with
  | nil => exact ⟨rfl, rfl, fun _ => ⟨fun _ _ => rfl, fun _ => rfl⟩⟩
  | append_singleton events event ih =>
      rw [List.foldl_append, List.foldl_cons, List.foldl_nil]
      simp only [Database.acceptedReadings, taken_concat, List.filter_append,
        List.map_append] at ih ⊢
      generalize events.foldl (fun db event => Database.ingest settings db (.single event))
        (Database.registered batteries) = db at ih ⊢
      by_cases accepted : db.Fresh event ∧ event.batteryId = battery.batteryId
      · rw [List.filter_cons_of_pos (by simp [accepted]), List.filter_nil, List.map_singleton]
        exact followed_accepted known ih accepted.1 accepted.2
      · rw [List.filter_cons_of_neg (by simpa using accepted), List.filter_nil, List.map_nil,
          List.append_nil]
        exact followed_other ih accepted

end VoltStream.Backend

namespace VoltStream.Simulator

open Physics Relational
open Backend (Timestamp TelemetryPayload TelemetryEvent Telemetry Settings timedeltaMinutes
  expectedVoltage)

/-! ### The readings of a device -/

/-- The loop of the device sleeps for the interval at least, and is never held up for as
long as the window of the rule for rapid discharge. -/
structure Steady (config : FleetConfig) (turns : List Turn) : Prop where
  spaced : SpacedBy (config.telemetryIntervalSeconds * 1000000)
    (turns.map fun turn => (turn.timestamp : ℚ))
  noSilence : (turns.map Turn.timestamp).IsChain fun earlier later =>
    later < earlier + Settings.default.rapidDischargeWindow

/-- The numbers of a reading that the rules look at. -/
structure Sample where
  timestamp : Timestamp
  stateOfCharge : ℚ
  temperatureC : ℚ
  voltage : ℚ

def payloadSample (payload : TelemetryPayload) : Sample :=
  ⟨payload.timestamp, payload.stateOfCharge, payload.temperatureC, payload.voltage⟩

def eventSample (event : TelemetryEvent) : Sample :=
  ⟨event.timestamp, event.stateOfCharge, event.temperatureC, event.voltage⟩

/-- The schema takes the numbers as they are. -/
theorem eventSample_of_validate {payload : TelemetryPayload} {event : TelemetryEvent}
    (valid : payload.validate = .ok event) : eventSample event = payloadSample payload := by
  unfold TelemetryPayload.validate at valid
  split at valid
  · obtain rfl := Except.ok.inj valid
    rfl
  · cases valid

/-- The charge falls no faster than at six tenths of full power. -/
def FallsWithin (rate : ℚ) (earlier later : Sample) : Prop :=
  earlier.stateOfCharge - later.stateOfCharge ≤ rate * (later.timestamp - earlier.timestamp)

/-- Its temperature and its voltage are far from what the rules mind. -/
structure Unremarkable (sample : Sample) : Prop where
  temperatureC : sample.temperatureC ≤ 45
  expected : 0 < expectedVoltage 48 sample.stateOfCharge
  voltage : |sample.voltage - expectedVoltage 48 sample.stateOfCharge| ≤
    1 / 100 * expectedVoltage 48 sample.stateOfCharge

theorem eq_tick_of_runTurn {config : FleetConfig} {battery after : Physics.Battery} {turn : Turn}
    (ran : runTurn config battery turn = .ok after) :
    ∃ powerKw, after = battery.tick (turn.tick config powerKw) := by
  rw [runTurn] at ran
  cases asks : requestedPowerKw battery.profileType battery.maxPowerKw
      (Backend.hourOfDay turn.now) turn.profileDraw with
  | error raised =>
      rw [asks] at ran
      cases ran
  | ok powerKw =>
      rw [asks] at ran
      exact ⟨powerKw, (Except.ok.inj ran).symm⟩

/-- What a healthy device reports is unremarkable. -/
theorem unremarkable_of_tick {battery : Physics.Battery} (healthy : Healthy battery) (tick : Tick)
    (eventId : Backend.Uuid) (timestamp : Timestamp) :
    Unremarkable (payloadSample (makeEvent (battery.tick tick) eventId timestamp)) := by
  have sameModel : expectedVoltage 48 (battery.tick tick).stateOfCharge =
      battery.expectedVoltage (battery.tick tick).stateOfCharge := by
    rw [expectedVoltage, Battery.expectedVoltage, healthy.nominalVoltage]
  refine ⟨(healthy_tick healthy tick).temperatureC.2, ?_, ?_⟩
  · change 0 < expectedVoltage 48 (battery.tick tick).stateOfCharge
    rw [sameModel]
    linarith [(healthy.expectedVoltage_bounds tick).1]
  · change |(battery.tick tick).voltage - expectedVoltage 48 (battery.tick tick).stateOfCharge| ≤
      1 / 100 * expectedVoltage 48 (battery.tick tick).stateOfCharge
    rw [sameModel]
    exact healthy.voltage_near tick

/-- The readings of a run, seen from the battery before the first of its turns. -/
structure Reported (config : FleetConfig) (battery : Physics.Battery) (turns : List Turn)
    (events : List TelemetryPayload) : Prop where
  times : events.map TelemetryPayload.timestamp = turns.map Turn.timestamp
  unremarkable : Healthy battery → ∀ event ∈ events, Unremarkable (payloadSample event)
  fallsSince : ∀ since : ℚ, SpacedBy (config.telemetryIntervalSeconds * 1000000)
      (since :: turns.map fun turn => (turn.timestamp : ℚ)) →
    ∀ event ∈ events, battery.stateOfCharge - event.stateOfCharge ≤
      6 / 10 * fullRate battery / 1000000 * (event.timestamp - since)
  falls : SpacedBy (config.telemetryIntervalSeconds * 1000000)
      (turns.map fun turn => (turn.timestamp : ℚ)) →
    (events.map payloadSample).Pairwise (FallsWithin (6 / 10 * fullRate battery / 1000000))

theorem Reported.cons {config : FleetConfig} {battery after : Physics.Battery} {turn : Turn}
    {rest : List Turn} {later : List TelemetryPayload} (ready : Ready battery)
    (effect : TurnEffect config battery after) (ran : runTurn config battery turn = .ok after)
    (reported : Reported config after rest later) :
    Reported config battery (turn :: rest)
      (makeEvent after turn.eventId turn.timestamp :: later) := by
  obtain ⟨times, unremarkable, fallsSince, falls⟩ := reported
  rw [effect.fullRate_eq] at fallsSince falls
  have rate : 0 ≤ 6 / 10 * fullRate battery / 1000000 :=
    div_nonneg (mul_nonneg (by norm_num) (fullRate_nonneg ready)) (by norm_num)
  refine ⟨congrArg _ times, fun healthy => List.forall_mem_cons.mpr ?_, fun since spaced =>
    List.forall_mem_cons.mpr ?_, fun spaced => List.pairwise_cons.mpr ⟨?_, ?_⟩⟩
  · obtain ⟨powerKw, rfl⟩ := eq_tick_of_runTurn ran
    exact ⟨unremarkable_of_tick healthy _ _ _, unremarkable (healthy_tick healthy _)⟩
  · obtain ⟨fromSince, others⟩ := List.pairwise_cons.mp spaced
    have first : battery.stateOfCharge - after.stateOfCharge ≤
        6 / 10 * fullRate battery / 1000000 * (turn.timestamp - since) := by
      have slept := fromSince _ List.mem_cons_self
      calc battery.stateOfCharge - after.stateOfCharge
          ≤ 6 / 10 * fullRate battery * config.telemetryIntervalSeconds := effect.fall
        _ = 6 / 10 * fullRate battery / 1000000 *
              (config.telemetryIntervalSeconds * 1000000) := by ring
        _ ≤ _ := mul_le_mul_of_nonneg_left (by linarith) rate
    refine ⟨first, fun event inLater => ?_⟩
    have further := fallsSince turn.timestamp others event inLater
    linarith
  · rintro sample inLater
    obtain ⟨event, isLater, rfl⟩ := List.mem_map.mp inLater
    exact fallsSince turn.timestamp spaced event isLater
  · exact falls (List.pairwise_cons.mp spaced).2

theorem reported_of_runBattery (config : FleetConfig) {battery : Physics.Battery}
    (ready : Ready battery) {turns : List Turn} {events : List TelemetryPayload}
    (ran : runBattery config battery turns = .ok events) :
    Reported config battery turns events := by
  obtain ⟨found, isFound, reported⟩ := runBattery_induction config (Reported config)
    (fun _ => ⟨rfl, fun _ => List.forall_mem_nil _, fun _ _ => List.forall_mem_nil _,
      fun _ => .nil⟩)
    (fun _ _ _ _ _ ready effect ran reported => reported.cons ready effect ran) ready turns
  obtain rfl := Except.ok.inj (isFound.symm.trans ran)
  exact reported

/-! ### What the rules make of them -/

section Calm

variable {readings early late : List TelemetryEvent} {reading : TelemetryEvent}
  {telemetry : List Telemetry} {battery : Backend.Battery}

/-- The rule for rapid discharge raises nothing: to fall by its threshold the charge takes
twice its window, and then there is a later reading before the window to compare with. -/
theorem rapidDischarge_quiet
    (falls : ((early ++ [reading]).map eventSample).Pairwise (FallsWithin (1 / 120000000)))
    (increasing : (early ++ [reading]).Pairwise fun earlier later =>
      earlier.timestamp < later.timestamp)
    (noSilence : (early ++ [reading]).IsChain fun earlier later =>
      later.timestamp < earlier.timestamp + Settings.default.rapidDischargeWindow)
    (stored : (telemetry.filter fun stored => stored.batteryId = battery.batteryId) =
      (early ++ [reading]).map TelemetryEvent.toTelemetry) (request : Backend.AlertRequest) :
    Backend.evaluateRapidDischarge .default telemetry reading.batteryId reading.stateOfCharge
        reading.timestamp ≠ some (.createOrRetainAlert request) := by
  intro raises
  have isStored : ∀ event ∈ early ++ [reading], event.toTelemetry ∈ telemetry ∧
      event.batteryId = battery.batteryId := by
    intro event isReading
    have inFilter : event.toTelemetry ∈ telemetry.filter _ :=
      stored ▸ List.mem_map_of_mem isReading
    exact ⟨(List.mem_filter.mp inFilter).1, of_decide_eq_true (List.mem_filter.mp inFilter).2⟩
  have own := (isStored reading (by simp)).2
  cases compares : Backend.comparisonReading .default telemetry reading.batteryId
      (reading.timestamp - Settings.default.rapidDischargeWindow) with
  | none =>
      rw [Backend.evaluateRapidDischarge, Backend.getSocAtOrBefore_eq, compares] at raises
      cases raises
  | some compared =>
      have window : Settings.default.rapidDischargeWindow = 300000000 := by decide +kernel
      obtain ⟨inTelemetry, isOwn, atOrBefore, notNewer⟩ :=
        Backend.newestBefore_of_compares compares
      have threshold := (Backend.rapidDischarge_raises_iff .default telemetry reading.batteryId
        reading.stateOfCharge reading.timestamp compares).mp ⟨request, raises⟩
      have fallen : 5 ≤ compared.stateOfCharge - reading.stateOfCharge :=
        le_trans (by norm_num [Settings.default, Backend.Settings.rapidDischargeThreshold])
          threshold
      have isReading : compared ∈ (early ++ [reading]).map TelemetryEvent.toTelemetry := by
        rw [← stored]
        exact List.mem_filter.mpr ⟨inTelemetry, decide_eq_true (isOwn.trans own)⟩
      obtain ⟨event, isEvent, rfl⟩ := List.mem_map.mp isReading
      have inEarly : event ∈ early := by
        rcases List.mem_append.mp isEvent with inEarly | isLast
        · exact inEarly
        · rw [List.mem_singleton.mp isLast, window] at atOrBefore
          have inPast : reading.timestamp ≤ reading.timestamp - 300000000 := atOrBefore
          linarith
      have slow := (List.pairwise_map.mp falls |> List.pairwise_append.mp).2.2 event inEarly reading
        (List.mem_singleton_self reading)
      have long : event.timestamp + 600000000 ≤ reading.timestamp := by
        have inSeconds : (600000000 : ℚ) ≤ reading.timestamp - event.timestamp := by
          have slow' : event.stateOfCharge - reading.stateOfCharge ≤
            1 / 120000000 * (reading.timestamp - event.timestamp) := slow
          have fallen' : 5 ≤ event.stateOfCharge - reading.stateOfCharge := fallen
          linarith
        have inMicroseconds : (600000000 : Int) ≤ reading.timestamp - event.timestamp := by
          exact_mod_cast inSeconds
        linarith
      -- the reading after the one compared with is no newer than the start of the window
      obtain ⟨first, rest, rfl⟩ := List.append_of_mem inEarly
      obtain ⟨next, others, isRest⟩ : ∃ next others, rest ++ [reading] = next :: others :=
        List.exists_cons_of_ne_nil (by simp)
      rw [List.append_assoc, List.cons_append, isRest] at noSilence increasing isStored
      have soon := (List.isChain_append_cons_cons.mp noSilence).2.1
      have later := (List.pairwise_cons.mp (List.pairwise_append.mp increasing).2.1).1 next
        List.mem_cons_self
      obtain ⟨nextStored, nextOwn⟩ := isStored next (by simp)
      rw [window] at soon notNewer
      have dominated : next.timestamp ≤ event.timestamp := by
        have inWindow : next.toTelemetry.timestamp ≤ reading.timestamp - 300000000 := by
          change next.timestamp ≤ _
          linarith
        exact notNewer _ nextStored (nextOwn.trans own.symm) inWindow
      linarith

theorem calm_of_samples (nominal : battery.nominalVoltage = 48)
    (unremarkable : ∀ reading ∈ readings, Unremarkable (eventSample reading))
    (falls : (readings.map eventSample).Pairwise (FallsWithin (1 / 120000000)))
    (increasing : readings.Pairwise fun earlier later => earlier.timestamp < later.timestamp)
    (noSilence : readings.IsChain fun earlier later =>
      later.timestamp < earlier.timestamp + Settings.default.rapidDischargeWindow) :
    Backend.CalmReadings .default battery readings := by
  rintro early reading late rfl telemetry stored alertType request other raises
  have inReadings : reading ∈ early ++ reading :: late := by simp
  have part : early ++ reading :: late = early ++ [reading] ++ late := by simp
  rw [part] at falls increasing noSilence
  obtain ⟨temperature, expected, voltage⟩ := unremarkable reading inReadings
  cases alertType with
  | lowSoc => exact other rfl
  | highTemperature =>
      have resolves := evaluateHighTemperature_of_le reading.batteryId temperature reading.timestamp
      cases (congrArg some resolves).symm.trans raises
  | voltageAnomaly =>
      have resolves := evaluateVoltageAnomaly_of_near reading.batteryId expected voltage
        reading.timestamp
      rw [Backend.ruleCall, nominal] at raises
      cases resolves.symm.trans raises
  | rapidDischarge =>
      refine rapidDischarge_quiet ?_ (List.pairwise_append.mp increasing).1
        (List.isChain_append.mp noSilence).1 stored request raises
      rw [List.map_append] at falls
      exact (List.pairwise_append.mp falls).1
  | deviceOffline => cases raises

end Calm

/-! ### A device of a fleet -/

theorem ready_of_healthy {battery : Physics.Battery} (healthy : Healthy battery) :
    Ready battery where
  capacityKwh := by rw [healthy.capacityKwh]; norm_num
  maxPowerKw := by rw [healthy.maxPowerKw]; norm_num
  stateOfCharge := healthy.stateOfCharge

theorem rate_of_healthy {battery : Physics.Battery} (healthy : Healthy battery) :
    6 / 10 * fullRate battery / 1000000 = 1 / 120000000 := by
  rw [fullRate, healthy.maxPowerKw, healthy.capacityKwh]
  norm_num

/-- The schema takes over the numbers of all the readings. -/
theorem map_eventSample {payloads : List TelemetryPayload} {readings : List TelemetryEvent}
    (valid : List.Forall₂ (fun payload reading => payload.validate = .ok reading) payloads
      readings) : readings.map eventSample = payloads.map payloadSample := by
  induction valid with
  | nil => rfl
  | cons first _ ih => rw [List.map_cons, List.map_cons, ih, eventSample_of_validate first]

/-- A reading is low by the default settings from 20 percent on. -/
theorem isLow_iff (reading : TelemetryEvent) :
    Backend.isLow .default reading = true ↔ reading.stateOfCharge ≤ 20 := by
  unfold Backend.isLow Backend.lowSocGrade Backend.graded
  norm_num [Settings.default]
  split_ifs with critical warning
  · exact iff_of_true rfl (by linarith)
  · exact iff_of_true rfl warning
  · exact iff_of_false Bool.false_ne_true warning

/-- Readings whose charge only falls stay low. -/
theorem staysLow_of_falls {payloads : List TelemetryPayload} {readings : List TelemetryEvent}
    (valid : List.Forall₂ (fun payload reading => payload.validate = .ok reading) payloads readings)
    (falls : payloads.Pairwise fun earlier later => later.stateOfCharge ≤ earlier.stateOfCharge) :
    Backend.StaysLow .default readings := by
  have samples : (payloads.map payloadSample).Pairwise fun earlier later =>
      later.stateOfCharge ≤ earlier.stateOfCharge := List.pairwise_map.mpr falls
  rw [← map_eventSample valid, List.pairwise_map] at samples
  refine samples.imp fun fallen low => ?_
  rw [isLow_iff] at low ⊢
  exact fallen.trans low

theorem calm_of_device {config : FleetConfig} {device : Physics.Battery} (healthy : Healthy device)
    {turns : List Turn} (steady : Steady config turns) {payloads : List TelemetryPayload}
    (ran : runBattery config device turns = .ok payloads) {battery : Backend.Battery}
    (nominal : battery.nominalVoltage = 48) {readings : List TelemetryEvent}
    (valid : List.Forall₂ (fun payload reading => payload.validate = .ok reading) payloads
      readings) : Backend.CalmReadings .default battery readings := by
  have reported := reported_of_runBattery config (ready_of_healthy healthy) ran
  have samples := map_eventSample valid
  have falls := reported.falls steady.spaced
  rw [rate_of_healthy healthy, ← samples] at falls
  have times : readings.map TelemetryEvent.timestamp = turns.map Turn.timestamp := by
    have sameTimes := congrArg (List.map Sample.timestamp) samples
    rw [List.map_map, List.map_map] at sameTimes
    exact sameTimes.trans reported.times
  have increasing : (turns.map Turn.timestamp).Pairwise fun earlier later => earlier < later := by
    refine List.pairwise_map.mpr ((List.pairwise_map.mp steady.spaced).imp fun {earlier later}
      apart => ?_)
    have interval := config.telemetryIntervalBound
    have before : (earlier.timestamp : ℚ) < later.timestamp := by linarith
    exact_mod_cast before
  have noSilence := steady.noSilence
  rw [← times] at increasing noSilence
  refine calm_of_samples nominal (fun reading inReadings => ?_) falls
    (List.pairwise_map.mp increasing) ((List.isChain_map _).mp noSilence)
  obtain ⟨payload, inPayloads, same⟩ := List.mem_map.mp
    (samples ▸ List.mem_map_of_mem inReadings : eventSample reading ∈ payloads.map payloadSample)
  exact same ▸ reported.unremarkable healthy payload inPayloads

/-- The first low reading is the first payload at or below 20 percent. -/
theorem find?_isLow {payloads : List TelemetryPayload} {readings : List TelemetryEvent}
    (valid : List.Forall₂ (fun payload reading => payload.validate = .ok reading) payloads
      readings) :
    (readings.find? (Backend.isLow .default)).map TelemetryEvent.timestamp =
      (payloads.find? fun payload => payload.stateOfCharge ≤ 20).map
        TelemetryPayload.timestamp := by
  induction valid with
  | nil => rfl
  | @cons payload reading _ _ first _ ih =>
      have sample := eventSample_of_validate first
      have sameCharge : reading.stateOfCharge = payload.stateOfCharge :=
        congrArg Sample.stateOfCharge sample
      have sameTime : reading.timestamp = payload.timestamp := congrArg Sample.timestamp sample
      have isLow := isLow_iff reading
      rw [sameCharge] at isLow
      by_cases low : payload.stateOfCharge ≤ 20
      · have isLow := isLow.mpr low
        simp only [List.find?_cons, isLow, low, decide_true, Option.map_some, sameTime]
      · have notLow := Bool.eq_false_of_not_eq_true (mt isLow.mp low)
        simp only [List.find?_cons, notLow, low, decide_false, ih]

/-- Take a device of a fleet with the default hardware that follows its profile, held up
for less than five minutes at a time, all of whose readings are accepted in order by the
default backend, among any other requests.  All of its life, whatever the hours and the
draws, the rules for temperature, for voltage and for rapid discharge raise no alert for
it; and unless it is a solar one, it has no alert for low charge before it falls to 20
percent, and then a single one, from that reading on, which is never resolved. -/
theorem device_alerts (config : FleetConfig) (hardware : config.HasDefaultHardware)
    (device : Physics.Battery) (built : device ∈ buildFleet config) (turns : List Turn)
    (steady : Steady config turns) (payloads : List TelemetryPayload)
    (ran : runBattery config device turns = .ok payloads)
    (batteries : Table Backend.Battery Backend.Battery.batteryId) (battery : Backend.Battery)
    (known : battery ∈ batteries.rows) (sameId : battery.batteryId = device.batteryId)
    (nominal : battery.nominalVoltage = device.nominalVoltage) (events : List TelemetryEvent)
    (accepted : List.Forall₂ (fun payload reading => payload.validate = .ok reading) payloads
      ((Backend.Database.registered batteries).acceptedReadings .default device.batteryId events)) :
    let alerts := (events.foldl
      (fun db event => Backend.Database.ingest .default db (.single event))
        (Backend.Database.registered batteries)).alerts
    (∀ alertType, alertType ≠ .lowSoc → alerts.history device.batteryId alertType = []) ∧
      (device.profileType ≠ .solar →
        (alerts.history device.batteryId .lowSoc).map
            (fun alert => (alert.timestamp, alert.resolved)) =
          (payloads.find? fun payload => payload.stateOfCharge ≤ 20).toList.map
            fun first => (first.timestamp, false)) := by
  intro alerts
  have healthy := healthy_of_mem_buildFleet hardware built
  rw [healthy.nominalVoltage] at nominal
  have followed := Backend.followed_of_events .default known events
  rw [sameId] at followed
  obtain ⟨quiet, lowSoc⟩ := followed.alerts (calm_of_device healthy steady ran nominal accepted)
  rw [sameId] at quiet lowSoc
  refine ⟨quiet, fun notSolar => ?_⟩
  obtain ⟨found, isFound, -, discharges, -⟩ :=
    runBattery_reports config (ready_of_healthy healthy) turns
  obtain rfl := Except.ok.inj (isFound.symm.trans ran)
  rw [lowSoc (staysLow_of_falls accepted (discharges notSolar).only.falls)]
  have first := find?_isLow accepted
  have inLists := congrArg (fun instant => instant.toList.map fun start => (start, false)) first
  simpa only [Option.toList_map, List.map_map, Function.comp_def] using inLists

theorem sampleInterval_pos : (0 : ℚ) < 290 := by norm_num

/-- One residential device that reports every 290 seconds. -/
def oneDevice : FleetConfig where
  deviceCount := 1
  telemetryIntervalSeconds := 290
  faultRate := 0
  deviceCountBound := single_positive
  telemetryIntervalBound := sampleInterval_pos
  faultRateBounds := noFaults_bounds

/-- The turns of an evening, from five o'clock on, and what the schema makes of their
readings. -/
def sampleTurns : List Turn :=
  (List.range 16).map fun (turn : Nat) => sampleTurn (61200000000 + turn * 290000000) turn

def samplePayloads : List TelemetryPayload :=
  (runBattery oneDevice (buildBattery oneDevice 0) sampleTurns).toOption.getD []

def sampleReadings : List TelemetryEvent :=
  samplePayloads.filterMap fun payload => payload.validate.toOption

/-- The fourteenth reading is the first one at or below 20 percent: it raises the alert, which
the two that follow leave as it is. -/
theorem sample_device_alerts :
    let alerts := (sampleReadings.foldl
      (fun db event => Backend.Database.ingest .default db (.single event))
        (Backend.Database.registered Backend.sampleBatteries)).alerts
    sampleReadings.length = 16 ∧ alerts.history "BAT-000001" .rapidDischarge = [] ∧
      (alerts.history "BAT-000001" .lowSoc).map
        (fun alert => (alert.timestamp, alert.resolved)) = [(64970000000, false)] := by
  intro alerts
  have accepted : List.Forall₂ (fun payload reading => payload.validate = .ok reading)
      samplePayloads ((Backend.Database.registered Backend.sampleBatteries).acceptedReadings
        .default "BAT-000001" sampleReadings) := by decide +kernel
  have spaced : (sampleTurns.map fun turn => (turn.timestamp : ℚ)).Pairwise
      fun earlier later => earlier + 290 * 1000000 ≤ later := by decide +kernel
  have steady : Steady oneDevice sampleTurns := ⟨spaced, by decide +kernel⟩
  obtain ⟨quiet, lowSoc⟩ := device_alerts oneDevice ⟨rfl, rfl, rfl⟩ (buildBattery oneDevice 0)
    (List.mem_map.mpr ⟨0, List.mem_range.mpr Nat.one_pos, rfl⟩) sampleTurns steady samplePayloads
    (by decide +kernel) Backend.sampleBatteries _ (List.mem_singleton_self _) rfl rfl
    sampleReadings accepted
  have firstLow : (samplePayloads.find? fun payload => payload.stateOfCharge ≤ 20).map
      TelemetryPayload.timestamp = some 64970000000 := by decide +kernel
  have single := lowSoc (by decide +kernel)
  obtain ⟨first, isFirst, atTime⟩ := Option.map_eq_some_iff.mp firstLow
  rw [isFirst, Option.toList_some, List.map_singleton, atTime] at single
  exact ⟨by decide +kernel, quiet .rapidDischarge (by decide), single⟩

end VoltStream.Simulator
