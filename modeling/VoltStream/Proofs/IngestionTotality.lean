/-
Module: VoltStream.Proofs.IngestionTotality
Purpose: When an ingestion request gets through its own arithmetic, and that it then does
  to the database what it does over instants.
Trusted boundary: none
Main exports: HasWindowStart, checkedWindowStart_ok_iff, sortedLatestReceived_map,
  Database.newestAccepted, ingestion_total_iff, hasWindowStart_utc
-/
import VoltStream.Backend.CheckedIngestion
import VoltStream.Proofs.RequestEffect

namespace VoltStream.Backend

open Relational

/-! ### The start of the window -/

section

variable {settings : Settings} {binds : AwareDatetime → Bool}

/-- The window is a `timedelta`, and the datetime that it starts at exists and can be
bound in a query. -/
structure HasWindowStart (settings : Settings) (binds : AwareDatetime → Bool)
    (timestamp : AwareDatetime) : Prop where
  window : InTimedeltaRange settings.rapidDischargeWindow
  inRange : datetimeMin ≤ timestamp.wall - settings.rapidDischargeWindow ∧
    timestamp.wall - settings.rapidDischargeWindow ≤ datetimeMax
  bound : ∀ start : AwareDatetime, start.wall = timestamp.wall - settings.rapidDischargeWindow →
    start.utcoffset = timestamp.utcoffset → binds start = true

theorem checkedWindowStart_ok_iff (timestamp : AwareDatetime) :
    (∃ start, checkedWindowStart settings binds timestamp = .ok start) ↔
      HasWindowStart settings binds timestamp := by
  have isWindow : timedeltaMinutes settings.rapidDischargeWindowMinutes =
      settings.rapidDischargeWindow := rfl
  unfold checkedWindowStart checkedTimedelta
  rw [isWindow]
  by_cases window : InTimedeltaRange settings.rapidDischargeWindow
  · rw [if_pos window]
    unfold AwareDatetime.minus AwareDatetime.plus
    by_cases inRange : datetimeMin ≤ timestamp.wall + -settings.rapidDischargeWindow ∧
        timestamp.wall + -settings.rapidDischargeWindow ≤ datetimeMax
    · simp only [dif_pos inRange]
      constructor
      · rintro ⟨start, ok⟩
        split_ifs at ok with bound
        refine ⟨window, inRange, fun other sameWall sameOffset => ?_⟩
        rw [← bound]
        congr 1
        cases other
        simp only at sameWall sameOffset
        subst sameWall sameOffset
        rfl
      · intro has
        refine ⟨_, if_pos ?_⟩
        exact has.bound _ rfl rfl
    · simp only [dif_neg inRange]
      exact iff_of_false (by simp) fun has => inRange has.inRange
  · rw [if_neg window]
    exact iff_of_false (by simp) fun has => window has.window

/-! ### The rule pass -/

variable {telemetry : List Telemetry} {batteriesById : Table Battery Battery.batteryId}

/-- With a window for each of its events, the pass makes the calls that it makes over
instants. -/
theorem evaluateRulesForEventsChecked_of_windows {latest : List ReceivedEvent}
    (windows : ∀ received ∈ latest, HasWindowStart settings binds received.written) :
    evaluateRulesForEventsChecked settings binds telemetry batteriesById latest =
      .ok (evaluateRulesForEvents settings telemetry batteriesById
        (latest.map ReceivedEvent.event)) := by
  induction latest with
  | nil => rfl
  | cons received rest ih =>
      obtain ⟨first, later⟩ := List.forall_mem_cons.mp windows
      obtain ⟨start, started⟩ := (checkedWindowStart_ok_iff received.written).mpr first
      have turn : evaluateRulesForEventChecked settings binds telemetry batteriesById received =
          .ok (evaluateRulesForEvent settings telemetry batteriesById received.event) := by
        unfold evaluateRulesForEventChecked evaluateRulesForEvent
        cases batteriesById.lookup received.event.batteryId with
        | none => rfl
        | some battery => simp only [started]
      simp only [evaluateRulesForEventsChecked, turn, ih later]
      rfl

/-- An event of a registered battery without a window ends the pass with an error. -/
theorem windows_of_evaluateRulesForEventsChecked {latest : List ReceivedEvent}
    {calls : List AlertCall}
    (registered : ∀ received ∈ latest, batteriesById.lookup received.event.batteryId ≠ none)
    (ok : evaluateRulesForEventsChecked settings binds telemetry batteriesById latest =
      .ok calls) :
    ∀ received ∈ latest, HasWindowStart settings binds received.written := by
  induction latest generalizing calls with
  | nil => exact fun _ impossible => absurd impossible List.not_mem_nil
  | cons received rest ih =>
      obtain ⟨known, restKnown⟩ := List.forall_mem_cons.mp registered
      obtain ⟨battery, found⟩ := Option.ne_none_iff_exists'.mp known
      rw [evaluateRulesForEventsChecked, evaluateRulesForEventChecked, found] at ok
      cases started : checkedWindowStart settings binds received.written with
      | error error => simp [started] at ok
      | ok start =>
          simp only [started] at ok
          cases later : evaluateRulesForEventsChecked settings binds telemetry batteriesById
              rest with
          | error error => simp [later] at ok
          | ok more =>
              exact List.forall_mem_cons.mpr
                ⟨(checkedWindowStart_ok_iff _).mp ⟨start, started⟩, ih restKnown later⟩

theorem evaluateRulesAndResolveOfflineChecked_of_windows {latest : List ReceivedEvent}
    {alerts : Alerts}
    (windows : ∀ received ∈ latest, HasWindowStart settings binds received.written) :
    evaluateRulesAndResolveOfflineChecked settings binds telemetry batteriesById latest alerts =
      .ok (evaluateRulesAndResolveOffline settings telemetry batteriesById
        (latest.map ReceivedEvent.event) alerts) := by
  rw [evaluateRulesAndResolveOfflineChecked, evaluateRulesForEventsChecked_of_windows windows,
    evaluateRulesAndResolveOffline, rulePassCalls, List.map_map]
  rfl

theorem windows_of_evaluateRulesAndResolveOfflineChecked {latest : List ReceivedEvent}
    {alerts after : Alerts}
    (registered : ∀ received ∈ latest, batteriesById.lookup received.event.batteryId ≠ none)
    (ok : evaluateRulesAndResolveOfflineChecked settings binds telemetry batteriesById latest
      alerts = .ok after) :
    ∀ received ∈ latest, HasWindowStart settings binds received.written := by
  unfold evaluateRulesAndResolveOfflineChecked at ok
  cases pass : evaluateRulesForEventsChecked settings binds telemetry batteriesById latest with
  | error error => simp [pass] at ok
  | ok calls => exact windows_of_evaluateRulesForEventsChecked registered pass

end

/-! ### The newest events as they were written -/

theorem sortedLatestReceived_map (events : List ReceivedEvent) :
    (sortedLatestReceived events).map ReceivedEvent.event =
      sortedLatest (events.map ReceivedEvent.event) := by
  unfold sortedLatestReceived sortedLatest
  have rows : ∀ latest : List ReceivedEvent,
      (latest.insertionSort fun first second =>
          first.event.batteryId ≤ second.event.batteryId).map ReceivedEvent.event =
        (latest.map ReceivedEvent.event).insertionSort fun first second =>
          first.batteryId ≤ second.batteryId :=
    fun latest => List.map_insertionSort _ _ _ latest fun _ _ _ _ => Iff.rfl
  have same : (Table.empty : Table ReceivedEvent fun received => received.event.batteryId).rows.map
        ReceivedEvent.event =
      (Table.empty : Table TelemetryEvent TelemetryEvent.batteryId).rows := rfl
  have sameGuard : ∀ old received : ReceivedEvent,
      notNewer TelemetryEvent.timestamp old.event received.event =
        notNewer (fun received : ReceivedEvent => received.event.timestamp) old received :=
    fun _ _ => rfl
  rw [rows, latestPerBattery, Table.map_putAll (fun _ => rfl) sameGuard same events]

theorem mem_of_mem_sortedLatestReceived {events : List ReceivedEvent}
    {received : ReceivedEvent} (isLatest : received ∈ sortedLatestReceived events) :
    received ∈ events :=
  (Table.mem_of_mem_putAll ((List.mem_insertionSort _).mp isLatest)).resolve_left
    List.not_mem_nil

/-- The newly accepted events of a request that are the newest of their batteries. -/
def Database.newestAccepted (db : Database) (request : ReceivedRequest) : List ReceivedEvent :=
  sortedLatestReceived (request.received.filter fun received => db.Fresh received.event)

theorem plain_events (request : ReceivedRequest) :
    request.plain.events = request.received.map ReceivedEvent.event := by
  cases request <;> rfl

theorem newestAccepted_map (db : Database) (request : ReceivedRequest) :
    (db.newestAccepted request).map ReceivedEvent.event =
      sortedLatest (db.newlyInserted request.plain) := by
  rw [Database.newestAccepted, sortedLatestReceived_map, Database.newlyInserted, plain_events,
    List.filter_map]
  rfl

theorem mem_of_mem_newestAccepted {db : Database} {request : ReceivedRequest}
    {received : ReceivedEvent} (isNewest : received ∈ db.newestAccepted request) :
    received ∈ request.received ∧ db.Fresh received.event := by
  obtain ⟨member, fresh⟩ := List.mem_filter.mp (mem_of_mem_sortedLatestReceived isNewest)
  exact ⟨member, of_decide_eq_true fresh⟩

theorem registered_of_mem {db : Database} {request : ReceivedRequest}
    (registered : db.Registers request.plain) {received : ReceivedEvent}
    (member : received ∈ request.received) :
    db.batteries.lookup received.event.batteryId ≠ none := by
  refine registered received.event ?_
  rw [plain_events]
  exact List.mem_map_of_mem member

/-! ### Requests -/

section Requests

variable {settings : Settings} {binds : AwareDatetime → Bool} {db : Database}

/-- The rule pass of a request that has been stored. -/
def Database.passes (settings : Settings) (binds : AwareDatetime → Bool) (db : Database)
    (request : ReceivedRequest) : Except IngestionError Alerts :=
  evaluateRulesAndResolveOfflineChecked settings binds
    (db.store request.plain).telemetry.rows db.batteries (db.newestAccepted request) db.alerts

/-- Nothing new, nothing to judge. -/
theorem Database.passes_of_none_fresh {request : ReceivedRequest}
    (noneFresh : (request.received.filter fun received => db.Fresh received.event) = []) :
    db.passes settings binds request = .ok db.alerts := by
  rw [passes, newestAccepted, noneFresh]
  rfl

/-- The database that a request leaves once its rule pass has returned. -/
def Database.concluded (db : Database) (request : ReceivedRequest) (alerts : Alerts) : Database :=
  { db.store request.plain with
    batteryCurrentState :=
      (upsertCurrentState db.batteryCurrentState (db.newlyInserted request.plain)).2
    alerts := alerts }

theorem Database.concluded_of_none_fresh {request : ReceivedRequest}
    (noneFresh : db.newlyInserted request.plain = []) :
    db.concluded request db.alerts = db.store request.plain := by
  rw [concluded, noneFresh]
  rfl

/-- What a request leaves whose rule pass fails: a single event is rolled back, and a batch
has been committed up to there. -/
def Database.interrupted (db : Database) : ReceivedRequest → Database
  | .single _ => db
  | .batch received nonempty => db.concluded (.batch received nonempty) db.alerts

/-- A request whose timestamps are bound, as its rule pass leaves it. -/
def Database.settled (db : Database) (request : ReceivedRequest) :
    Except IngestionError Alerts → Except IngestionError Unit × Database
  | .ok alerts => (.ok (), db.concluded request alerts)
  | .error error => (.error error, db.interrupted request)

theorem ingestChecked_single {received : ReceivedEvent}
    (registered : db.batteries.lookup received.event.batteryId ≠ none)
    (bound : binds received.written = true) :
    db.ingestChecked settings binds (.single received) =
      db.settled (.single received) (db.passes settings binds (.single received)) := by
  obtain ⟨battery, found⟩ := Option.ne_none_iff_exists'.mp registered
  by_cases fresh : db.Fresh received.event
  · have created : db.telemetry.lookup received.event.eventId = none := fresh
    have newest : db.newestAccepted (.single received) = sortedLatestReceived [received] := by
      simp [Database.newestAccepted, ReceivedRequest.received, fresh]
    have inserted : db.newlyInserted (ReceivedRequest.plain (.single received)) =
        [received.event] := by
      simp [ReceivedRequest.plain, Database.newlyInserted_single, fresh]
    have returned : db.telemetry.returning [received.event.toTelemetry] ≠ [] := by
      simp [Table.returning, created]
    simp only [Database.ingestChecked, ingestTelemetryEventChecked, found, bound,
      Bool.true_eq_false, if_false, if_pos returned, Database.passes, newest]
    change _ = db.settled _ (evaluateRulesAndResolveOfflineChecked settings binds
      (db.telemetry.insertAll [received.event.toTelemetry]).rows db.batteries
        (sortedLatestReceived [received]) db.alerts)
    cases evaluateRulesAndResolveOfflineChecked settings binds
        (db.telemetry.insertAll [received.event.toTelemetry]).rows db.batteries
          (sortedLatestReceived [received]) db.alerts with
    | error error => rfl
    | ok alerts =>
        simp only [Database.settled, Database.concluded, inserted]
        rfl
  · have stored : db.telemetry.lookup received.event.eventId ≠ none := fresh
    have returned : db.telemetry.returning [received.event.toTelemetry] = [] := by
      simp [Table.returning, stored]
    have noneFresh : ([received].filter fun received => db.Fresh received.event) = [] := by
      simp [fresh]
    have noneInserted : db.newlyInserted (ReceivedRequest.plain (.single received)) = [] := by
      simp [ReceivedRequest.plain, Database.newlyInserted_single, fresh]
    rw [Database.passes_of_none_fresh noneFresh, Database.settled,
      Database.concluded_of_none_fresh noneInserted]
    simp only [Database.ingestChecked, ingestTelemetryEventChecked, found, bound, returned,
      Bool.true_eq_false, if_false, ne_eq, not_true_eq_false]
    rfl

theorem ingestChecked_batch {batch : List ReceivedEvent} {nonempty : batch ≠ []}
    (registered : db.Registers (ReceivedRequest.plain (.batch batch nonempty)))
    (bound : ∀ received ∈ batch, binds received.written = true) :
    db.ingestChecked settings binds (.batch batch nonempty) =
      db.settled (.batch batch nonempty)
        (db.passes settings binds (.batch batch nonempty)) := by
  have complete : missingIds db.batteries (batch.map ReceivedEvent.event) = [] :=
    (missingIds_eq_nil_iff db _).mpr registered
  have allBound : ¬ (batch.any fun received => decide (binds received.written = false)) = true := by
    simpa using bound
  have selected : (batch.filter fun received => received.event.eventId ∈
      db.telemetry.returning ((batch.map ReceivedEvent.event).map TelemetryEvent.toTelemetry)) =
      batch.filter fun received => db.Fresh received.event := by
    refine List.filter_congr fun received member => ?_
    rw [decide_eq_decide, Table.mem_returning_iff]
    refine and_iff_right ?_
    exact List.mem_map.mpr
      ⟨received.event.toTelemetry, List.mem_map_of_mem (List.mem_map_of_mem member), rfl⟩
  have inserted : db.newlyInserted (ReceivedRequest.plain (.batch batch nonempty)) =
      (batch.filter fun received => db.Fresh received.event).map ReceivedEvent.event := by
    rw [Database.newlyInserted, plain_events, List.filter_map]
    rfl
  simp only [Database.ingestChecked, ingestTelemetryBatchChecked, complete, ne_eq,
    not_true_eq_false, if_false, if_neg allBound, selected]
  split
  · rw [← inserted]
    change _ = db.settled _ (evaluateRulesAndResolveOfflineChecked settings binds
      (db.telemetry.insertAll
        ((batch.map ReceivedEvent.event).map TelemetryEvent.toTelemetry)).rows db.batteries
          (sortedLatestReceived (batch.filter fun received => db.Fresh received.event)) db.alerts)
    cases evaluateRulesAndResolveOfflineChecked settings binds
        (db.telemetry.insertAll
          ((batch.map ReceivedEvent.event).map TelemetryEvent.toTelemetry)).rows db.batteries
            (sortedLatestReceived (batch.filter fun received => db.Fresh received.event))
              db.alerts <;> rfl
  · next noneInserted =>
    have noneFresh : (batch.filter fun received => db.Fresh received.event) = [] := by
      rw [← selected, not_not.mp noneInserted]
      simp
    rw [noneFresh, List.map_nil] at inserted
    rw [Database.passes_of_none_fresh noneFresh, Database.settled,
      Database.concluded_of_none_fresh inserted]
    rfl

/-- Once the driver has bound the timestamps of a request, its rule pass decides, whichever
the endpoint. -/
theorem ingestChecked_of_binds {request : ReceivedRequest}
    (registered : db.Registers request.plain)
    (bound : ∀ received ∈ request.received, binds received.written = true) :
    db.ingestChecked settings binds request =
      db.settled request (db.passes settings binds request) := by
  cases request with
  | single received =>
      exact ingestChecked_single (registered received.event List.mem_cons_self)
        (bound received List.mem_cons_self)
  | batch batch nonempty => exact ingestChecked_batch registered bound

/-- A request with a timestamp that the driver cannot encode is refused as a whole. -/
theorem ingestChecked_of_not_binds {request : ReceivedRequest}
    (registered : db.Registers request.plain) {received : ReceivedEvent}
    (member : received ∈ request.received) (unbound : binds received.written = false) :
    db.ingestChecked settings binds request = (.error .driverError, db) := by
  cases request with
  | single event =>
      obtain rfl : received = event := List.mem_singleton.mp member
      obtain ⟨battery, found⟩ :=
        Option.ne_none_iff_exists'.mp (registered received.event List.mem_cons_self)
      simp only [Database.ingestChecked, ingestTelemetryEventChecked, found, unbound, if_true]
      rfl
  | batch batch nonempty =>
      have complete : missingIds db.batteries (batch.map ReceivedEvent.event) = [] :=
        (missingIds_eq_nil_iff db _).mpr registered
      have someUnbound :
          (batch.any fun received => decide (binds received.written = false)) = true :=
        List.any_eq_true.mpr ⟨received, member, decide_eq_true unbound⟩
      simp only [Database.ingestChecked, ingestTelemetryBatchChecked, complete, ne_eq,
        not_true_eq_false, if_false, if_pos someUnbound]
      rfl

theorem passes_ok_iff {request : ReceivedRequest} (registered : db.Registers request.plain) :
    (∃ alerts, db.passes settings binds request = .ok alerts) ↔
      ∀ received ∈ db.newestAccepted request,
        HasWindowStart settings binds received.written := by
  constructor
  · rintro ⟨alerts, ok⟩
    exact windows_of_evaluateRulesAndResolveOfflineChecked
      (fun received isNewest =>
        registered_of_mem registered (mem_of_mem_newestAccepted isNewest).1) ok
  · exact fun windows => ⟨_, evaluateRulesAndResolveOfflineChecked_of_windows windows⟩

/-- A request that gets through does to the database what it does over instants. -/
theorem concluded_eq_ingest {request : ReceivedRequest}
    (registered : db.Registers request.plain) {alerts : Alerts}
    (ok : db.passes settings binds request = .ok alerts) :
    db.concluded request alerts = db.ingest settings request.plain := by
  have windows := (passes_ok_iff registered).mp ⟨alerts, ok⟩
  have passed : db.passes settings binds request =
      .ok (evaluateRulesAndResolveOffline settings (db.store request.plain).telemetry.rows
        db.batteries ((db.newestAccepted request).map ReceivedEvent.event) db.alerts) :=
    evaluateRulesAndResolveOfflineChecked_of_windows windows
  rw [passed, newestAccepted_map] at ok
  cases ok
  rw [Database.ingest_of_registers registered]
  rfl

end Requests

/-- An ingestion request for registered batteries returns exactly if the driver can encode
its timestamps, and each newly accepted event that is the newest of its battery was written
at a time from which the window of the rapid-discharge rule can be subtracted.  It then does
what it does over instants. -/
theorem ingestion_total_iff (settings : Settings) (binds : AwareDatetime → Bool) (db : Database)
    (request : ReceivedRequest) (registered : db.Registers request.plain) :
    ((db.ingestChecked settings binds request).1 = .ok () ↔
      (∀ received ∈ request.received, binds received.written = true) ∧
        ∀ received ∈ db.newestAccepted request,
          HasWindowStart settings binds received.written) ∧
    ((db.ingestChecked settings binds request).1 = .ok () →
      (db.ingestChecked settings binds request).2 = db.ingest settings request.plain) := by
  by_cases bound : ∀ received ∈ request.received, binds received.written = true
  · rw [ingestChecked_of_binds registered bound, ← passes_ok_iff registered]
    cases pass : db.passes settings binds request with
    | error error => simp [Database.settled]
    | ok alerts =>
        refine ⟨iff_of_true rfl ⟨bound, alerts, rfl⟩, fun _ => ?_⟩
        exact concluded_eq_ingest registered pass
  · push Not at bound
    obtain ⟨received, member, unbound⟩ := bound
    rw [ingestChecked_of_not_binds registered member (Bool.not_eq_true _ ▸ unbound)]
    refine ⟨iff_of_false (by simp) fun holds => unbound (holds.1 received member), ?_⟩
    exact fun impossible => by cases impossible

/-! ### The first instant of the calendar -/

/-- A reading as a device with its clock in UTC writes it. -/
def inUtc (event : TelemetryEvent)
    (bounds : datetimeMin ≤ event.timestamp ∧ event.timestamp ≤ datetimeMax) :
    ReceivedEvent where
  event := event
  written := AwareDatetime.utc event.timestamp bounds
  sameInstant := AwareDatetime.utc_instant event.timestamp bounds

/-- The driver encodes what can be converted to UTC. -/
def convertible (timestamp : AwareDatetime) : Bool :=
  decide (datetimeMin ≤ timestamp.instant ∧ timestamp.instant ≤ datetimeMax)

/-- Five minutes into the calendar, the window starts at a time that can be encoded. -/
theorem hasWindowStart_utc {timestamp : Timestamp}
    (bounds : datetimeMin ≤ timestamp ∧ timestamp ≤ datetimeMax)
    (later : datetimeMin + 300000000 ≤ timestamp) :
    HasWindowStart Settings.default convertible (AwareDatetime.utc timestamp bounds) := by
  have window : Settings.default.rapidDischargeWindow = 300000000 := by decide +kernel
  have inRange : datetimeMin ≤ timestamp - 300000000 ∧ timestamp - 300000000 ≤ datetimeMax :=
    ⟨by linarith, by linarith [bounds.2]⟩
  refine ⟨?_, ?_, fun start sameWall sameOffset => ?_⟩
  · rw [window]
    decide
  · rw [window]
    exact inRange
  · rw [window] at sameWall
    rw [convertible, AwareDatetime.instant, sameWall, sameOffset]
    exact decide_eq_true (by simpa [AwareDatetime.utc] using inRange)

/-- A reading of `0001-01-01T00:00:00+00:00`. -/
def firstReading : ReceivedEvent := inUtc (sampleEvent 1 datetimeMin 50) (by decide)

/-- Two registered batteries. -/
def twoBatteries : Table Battery Battery.batteryId where
  rows := sampleBatteries.rows ++
    sampleBatteries.rows.map fun battery => { battery with batteryId := "BAT-000002" }
  primaryKey := by decide

/-- A nearly empty battery reports next to the first. -/
def lowReading : ReceivedEvent :=
  inUtc { sampleEvent 2 0 5 with batteryId := "BAT-000002" } (by decide)

/-- A single reading from the first instant of the calendar is lost, and in a batch it keeps
the alert of the battery behind it from being opened. -/
theorem first_instant_aborts :
    ((Database.registered sampleBatteries).ingestChecked Settings.default convertible
        (.single firstReading)).1 = .error (.arithmeticError .overflowError) ∧
    ((Database.registered sampleBatteries).ingestChecked Settings.default convertible
        (.single firstReading)).2.telemetry.rows = [] ∧
    ((Database.registered twoBatteries).ingestChecked Settings.default convertible
        (.batch [firstReading, lowReading] (by simp))).1 =
      .error (.arithmeticError .overflowError) ∧
    ((Database.registered twoBatteries).ingestChecked Settings.default convertible
        (.batch [firstReading, lowReading] (by simp))).2.openAlert "BAT-000002" .lowSoc = none ∧
    ((Database.registered twoBatteries).ingestChecked Settings.default convertible
        (.batch [lowReading] (by simp))).2.openAlert "BAT-000002" .lowSoc ≠ none := by
  decide +kernel

/-- The reading of the other battery gets through. -/
theorem sample_ingestion_total :
    (Database.registered twoBatteries).Registers (ReceivedRequest.plain (.single lowReading)) ∧
    ((Database.registered twoBatteries).ingestChecked Settings.default convertible
      (.single lowReading)).1 = .ok () := by
  have registered : (Database.registered twoBatteries).Registers
      (ReceivedRequest.plain (.single lowReading)) := by decide +kernel
  have total := ingestion_total_iff Settings.default convertible
    (Database.registered twoBatteries) (.single lowReading) registered
  have newest : (Database.registered twoBatteries).newestAccepted (.single lowReading) =
      [lowReading] := rfl
  refine ⟨registered, total.1.mpr ⟨by decide +kernel, fun received isNewest => ?_⟩⟩
  rw [newest, List.mem_singleton] at isNewest
  subst isNewest
  exact hasWindowStart_utc _ (by decide)

end VoltStream.Backend
