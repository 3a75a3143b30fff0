/-
Module: VoltStream.Proofs.StorageConfluence
Purpose: Over instants, storage does not depend on how events are delivered: a
  batch stores what its events store one by one, and any two ways of delivering
  one set of events lead to the same tables.
Trusted boundary: none
Main exports: ingestOneByOne, batch_stores_like_singles, Delivers,
  Database.acceptedBy, currentState_run, storage_confluent
-/
import VoltStream.Proofs.RequestEffect

namespace VoltStream.Backend

open Relational

/-! ### What a run of requests accepts -/

section Runs

variable (settings : Settings)

/-- The events a sequence of requests gets accepted, in the order of the
requests. -/
def Database.acceptedBy (db : Database) : List Request → List TelemetryEvent
  | [] => []
  | request :: rest => db.accepted request ++ (db.ingest settings request).acceptedBy rest

variable {db : Database}

/-- A request leaves each battery the newest of the old row and the accepted
events of the battery. -/
theorem Database.currentState_ingest_newest (db : Database) (request : Request)
    (batteryId : BatteryId) :
    (db.ingest settings request).currentState batteryId =
      newestFrom BatteryCurrentState.lastSeen (db.currentState batteryId)
        (((db.accepted request).filter fun event => event.batteryId = batteryId).map
          TelemetryEvent.toCurrentState) := by
  by_cases registered : db.Registers request
  · have rank : (fun event : TelemetryEvent => event.toCurrentState.lastSeen) =
        TelemetryEvent.timestamp := rfl
    rw [currentState_ingest registered, accepted_of_registers registered, newestFrom_collapse,
      newestEvent, newestFrom_map, rank]
    cases newestFrom TelemetryEvent.timestamp none
      ((db.newlyInserted request).filter fun event => event.batteryId = batteryId) <;> rfl
  · rw [ingest_of_not_registers registered, accepted, if_neg registered]
    rfl

/-- Over any run of requests a battery's row is the newest of the row at the
start and all events accepted since. -/
theorem Database.currentState_run (db : Database) (requests : List Request)
    (batteryId : BatteryId) :
    (requests.foldl (Database.ingest settings) db).currentState batteryId =
      newestFrom BatteryCurrentState.lastSeen (db.currentState batteryId)
        (((db.acceptedBy settings requests).filter fun event => event.batteryId = batteryId).map
          TelemetryEvent.toCurrentState) := by
  induction requests generalizing db with
  | nil => rfl
  | cons request rest ih =>
      rw [List.foldl_cons, ih, acceptedBy, List.filter_append, List.map_append, newestFrom_append,
        currentState_ingest_newest]

/-- Registration of the requests lasts over a run. -/
theorem Database.Registers.ingest {request : Request} (registered : db.Registers request)
    (other : Request) : (db.ingest settings other).Registers request := by
  intro event member
  rw [batteries_ingest]
  exact registered event member

/-- Over a run of registered requests the telemetry table takes in the events of
all requests in order. -/
theorem Database.telemetry_run (db : Database) (requests : List Request)
    (registered : ∀ request ∈ requests, db.Registers request) :
    (requests.foldl (Database.ingest settings) db).telemetry =
      db.telemetry.insertAll
        ((requests.flatMap Request.events).map TelemetryEvent.toTelemetry) := by
  induction requests generalizing db with
  | nil => rfl
  | cons request rest ih =>
      rw [List.forall_mem_cons] at registered
      have still : ∀ later ∈ rest, (db.ingest settings request).Registers later :=
        fun later member => (registered.2 later member).ingest settings request
      rw [List.foldl_cons, ih _ still, telemetry_ingest registered.1, List.flatMap_cons,
        List.map_append]
      exact (Table.insertAll_append ..).symm

/-- After a registered request an event is new exactly if it was new before and
the request has no event with its id. -/
theorem Database.fresh_ingest_iff {request : Request} (registered : db.Registers request)
    (event : TelemetryEvent) :
    (db.ingest settings request).Fresh event ↔
      db.Fresh event ∧ ∀ other ∈ request.events, other.eventId ≠ event.eventId := by
  rw [Fresh, telemetry_ingest registered, store, Table.lookup_insertAll, Option.or_eq_none_iff,
    Table.firstWith, List.find?_eq_none]
  simp [Fresh]

end Runs

/-! ### Batches against single requests -/

section Batch

variable (settings : Settings)

/-- One single request for each event in turn, with their answers. -/
def ingestOneByOne : List TelemetryEvent → Database → Except APIError (List Bool × Database)
  | [], db => .ok ([], db)
  | event :: rest, db =>
      match ingestTelemetryEvent settings event db with
      | .error refusal => .error refusal
      | .ok (created, next) =>
          match ingestOneByOne rest next with
          | .error refusal => .error refusal
          | .ok (answers, last) => .ok (created :: answers, last)

variable {db : Database}

theorem ingestTelemetryEvent_of_registers {event : TelemetryEvent}
    (registered : db.Registers (.single event)) :
    ingestTelemetryEvent settings event db =
      .ok (decide (db.Fresh event), db.ingest settings (.single event)) := by
  obtain ⟨battery, found⟩ :=
    Option.ne_none_iff_exists'.mp (Database.registers_single_iff.mp registered)
  by_cases fresh : db.Fresh event
  · have created : db.telemetry.lookup event.eventId = none := fresh
    simp [Database.ingest, ingestTelemetryEvent, found, Table.returning, created, fresh]
  · have duplicate : db.telemetry.lookup event.eventId ≠ none := fresh
    simp [Database.ingest, ingestTelemetryEvent, found, Table.returning, duplicate, fresh]

/-- The answers of single requests are those of the batch's `RETURNING` clause:
there is one `True` for every id it lists. -/
theorem ingestOneByOne_eq (events : List TelemetryEvent)
    (registered : ∀ event ∈ events, db.Registers (.single event)) :
    ∃ answers,
      ingestOneByOne settings events db =
        .ok (answers, (events.map Request.single).foldl (Database.ingest settings) db) ∧
      answers.length = events.length ∧
      answers.count true =
        (db.telemetry.returning (events.map TelemetryEvent.toTelemetry)).length := by
  induction events generalizing db with
  | nil => exact ⟨[], rfl, rfl, rfl⟩
  | cons event rest ih =>
      rw [List.forall_mem_cons] at registered
      have stored : (db.ingest settings (.single event)).telemetry =
          db.telemetry.insertIgnore event.toTelemetry := Database.telemetry_ingest registered.1
      obtain ⟨answers, runs, sameLength, counts⟩ := ih fun later member =>
        (registered.2 later member).ingest settings (.single event)
      refine ⟨decide (db.Fresh event) :: answers, ?_, by simp [sameLength], ?_⟩
      · rw [ingestOneByOne, ingestTelemetryEvent_of_registers settings registered.1]
        simp only [runs, List.map_cons, List.foldl_cons]
      · rw [stored] at counts
        rw [List.map_cons, List.count_cons, counts, Table.returning]
        by_cases fresh : db.Fresh event
        · rw [if_pos (show db.telemetry.lookup event.toTelemetry.eventId = none from fresh)]
          simp [fresh]
        · rw [if_neg (show db.telemetry.lookup event.toTelemetry.eventId ≠ none from fresh)]
          simp [fresh]

/-- Single requests with distinct ids accept exactly the events whose ids are
new at the start. -/
theorem acceptedBy_singles (events : List TelemetryEvent)
    (registered : ∀ event ∈ events, db.Registers (.single event))
    (distinct : (events.map TelemetryEvent.eventId).Nodup) :
    db.acceptedBy settings (events.map Request.single) =
      events.filter fun event => db.Fresh event := by
  induction events generalizing db with
  | nil => rfl
  | cons event rest ih =>
      rw [List.forall_mem_cons] at registered
      rw [List.map_cons, List.nodup_cons] at distinct
      have still : ∀ later ∈ rest,
          ((db.ingest settings (.single event)).Fresh later ↔ db.Fresh later) := by
        intro later member
        rw [Database.fresh_ingest_iff settings registered.1]
        refine and_iff_left fun other isEvent same => ?_
        rw [Request.events, List.mem_singleton] at isEvent
        exact distinct.1 (List.mem_map.mpr ⟨later, member, by rw [← same, isEvent]⟩)
      have sameRest : (rest.filter fun later =>
          (db.ingest settings (.single event)).Fresh later) =
            rest.filter fun later => db.Fresh later :=
        List.filter_congr fun later member => decide_eq_decide.mpr (still later member)
      rw [List.map_cons, Database.acceptedBy, Database.accepted_of_registers registered.1,
        ih (fun later member => (registered.2 later member).ingest settings (.single event))
          distinct.2,
        Database.newlyInserted_single, sameRest]
      by_cases fresh : db.Fresh event <;> simp [fresh]

/-- For every database and every batch of registered batteries without repeated
ids: the batch is answered, its events are answered one by one, both ways end
with the same telemetry and current-state tables, and the batch counts as
inserted and as duplicates what the single requests answer `True` and `False`. -/
theorem batch_stores_like_singles (batch : TelemetryBatchRequest)
    (registered : db.Registers (.batch batch))
    (distinct : (batch.events.map TelemetryEvent.eventId).Nodup) :
    ∃ inserted duplicates after answers last,
      ingestTelemetryBatch settings batch db = .ok ((inserted, duplicates), after) ∧
      ingestOneByOne settings batch.events db = .ok (answers, last) ∧
      after.telemetry.Same last.telemetry ∧
      after.batteryCurrentState.Same last.batteryCurrentState ∧
      inserted = answers.count true ∧ duplicates = answers.count false := by
  have complete : missingIds db.batteries batch.events = [] :=
    (missingIds_eq_nil_iff db (.batch batch)).mpr registered
  have each : ∀ event ∈ batch.events, db.Registers (.single event) := fun event member =>
    Database.registers_single_iff.mpr (registered event member)
  have eachRequest : ∀ request ∈ batch.events.map Request.single, db.Registers request := by
    intro request member
    obtain ⟨event, inBatch, rfl⟩ := List.mem_map.mp member
    exact each event inBatch
  obtain ⟨answers, runs, sameLength, counts⟩ := ingestOneByOne_eq settings batch.events each
  obtain ⟨after, answered⟩ : ∃ after, ingestTelemetryBatch settings batch db =
      .ok ((answers.count true, answers.count false), after) := by
    have split : answers.count false = batch.events.length - answers.count true := by
      rw [← sameLength, ← List.count_true_add_count_false answers, Nat.add_sub_cancel_left]
    rw [split, counts, ingestTelemetryBatch]
    simp only [complete, ne_eq, not_true_eq_false, if_false]
    exact ⟨_, rfl⟩
  obtain rfl : db.ingest settings (.batch batch) = after := by
    simp only [Database.ingest, answered]
  refine ⟨_, _, _, answers, _, answered, runs, ?_, ?_, rfl, rfl⟩
  · rw [Database.telemetry_ingest registered, Database.telemetry_run settings db _ eachRequest,
      List.flatMap_map]
    have flat : (batch.events.flatMap fun event => (Request.single event).events) =
        batch.events := List.flatMap_singleton' batch.events
    rw [flat]
    exact List.Perm.refl _
  · rw [Table.same_iff_lookup]
    intro batteryId
    have ofBatch := Database.currentState_ingest_newest settings db (.batch batch) batteryId
    have ofSingles := Database.currentState_run settings db
      (batch.events.map Request.single) batteryId
    rw [acceptedBy_singles settings batch.events each distinct] at ofSingles
    rw [Database.accepted_of_registers registered] at ofBatch
    exact ofBatch.trans ofSingles.symm

end Batch

/-! ### Any two deliveries of one set of events -/

/-- The requests deliver exactly these events: in any order, split in any way
into single and batch requests, each event once or more, but no batch with a
repeated id. -/
structure Delivers (events : List TelemetryEvent) (requests : List Request) : Prop where
  only : ∀ request ∈ requests, ∀ event ∈ request.events, event ∈ events
  complete : ∀ event ∈ events, ∃ request ∈ requests, event ∈ request.events
  noRepeats : ∀ request ∈ requests, (request.events.map TelemetryEvent.eventId).Nodup

/-- The ids tell the events apart, and so do the timestamps per battery. -/
structure Distinct (events : List TelemetryEvent) : Prop where
  eventId : ∀ first ∈ events, ∀ second ∈ events,
    first.eventId = second.eventId → first = second
  timestamp : ∀ first ∈ events, ∀ second ∈ events, first.batteryId = second.batteryId →
    first.timestamp = second.timestamp → first = second

section Deliveries

variable (settings : Settings) {db : Database} {events : List TelemetryEvent}

/-- A run accepts an event once, and exactly if it delivers the event and the
event's id is new at the start. -/
theorem acceptedBy_spec (distinct : Distinct events) (requests : List Request)
    (registered : ∀ request ∈ requests, db.Registers request)
    (only : ∀ request ∈ requests, ∀ event ∈ request.events, event ∈ events)
    (noRepeats : ∀ request ∈ requests, (request.events.map TelemetryEvent.eventId).Nodup) :
    (db.acceptedBy settings requests).Nodup ∧ ∀ event,
      event ∈ db.acceptedBy settings requests ↔
        event ∈ requests.flatMap Request.events ∧ db.Fresh event := by
  induction requests generalizing db with
  | nil => exact ⟨List.nodup_nil, by simp [Database.acceptedBy]⟩
  | cons request rest ih =>
      rw [List.forall_mem_cons] at registered only noRepeats
      obtain ⟨restNodup, restMem⟩ := ih
        (fun later member => (registered.2 later member).ingest settings request) only.2 noRepeats.2
      -- What the request has taken is not taken again.
      have freshAfter : ∀ event ∈ events, ((db.ingest settings request).Fresh event ↔
          db.Fresh event ∧ event ∉ request.events) := by
        intro event isEvent
        rw [Database.fresh_ingest_iff settings registered.1]
        refine and_congr_right fun _ => ⟨fun unused member => unused event member rfl, ?_⟩
        intro absent other member sameId
        exact absent (distinct.eventId other (only.1 other member) event isEvent sameId ▸ member)
      have restOnly : ∀ event ∈ rest.flatMap Request.events, event ∈ events := by
        intro event member
        obtain ⟨later, inRest, inLater⟩ := List.mem_flatMap.mp member
        exact only.2 later inRest event inLater
      rw [Database.acceptedBy, Database.accepted_of_registers registered.1]
      constructor
      · apply List.Nodup.append
        · exact noRepeats.1.of_map.filter _
        · exact restNodup
        · intro event first later
          obtain ⟨member, freshLater⟩ := (restMem event).mp later
          exact ((freshAfter event (restOnly event member)).mp freshLater).2
            (List.mem_filter.mp first).1
      · intro event
        rw [List.mem_append, restMem, Database.newlyInserted, List.mem_filter, decide_eq_true_eq,
          List.flatMap_cons, List.mem_append]
        constructor
        · rintro (⟨member, fresh⟩ | ⟨member, fresh⟩)
          · exact ⟨Or.inl member, fresh⟩
          · exact ⟨Or.inr member, ((freshAfter event (restOnly event member)).mp fresh).1⟩
        · rintro ⟨member, fresh⟩
          by_cases now : event ∈ request.events
          · exact Or.inl ⟨now, fresh⟩
          · have later := member.resolve_left now
            exact Or.inr ⟨later, (freshAfter event (restOnly event later)).mpr ⟨fresh, now⟩⟩

theorem Delivers.mem_flatMap_iff {requests : List Request} (delivers : Delivers events requests)
    (event : TelemetryEvent) : event ∈ requests.flatMap Request.events ↔ event ∈ events := by
  rw [List.mem_flatMap]
  exact ⟨fun ⟨request, inRequests, member⟩ => delivers.only request inRequests event member,
    delivers.complete event⟩

/-- What `insertAll` finds under an id does not depend on the order in which
events with distinct ids are delivered. -/
theorem firstWith_delivered (distinct : Distinct events) {requests : List Request}
    (delivers : Delivers events requests) (eventId : Uuid) {event : TelemetryEvent}
    (isEvent : event ∈ events) (hasId : event.eventId = eventId) :
    Table.firstWith Telemetry.eventId
      ((requests.flatMap Request.events).map TelemetryEvent.toTelemetry) eventId =
        some event.toTelemetry := by
  cases found : Table.firstWith Telemetry.eventId
      ((requests.flatMap Request.events).map TelemetryEvent.toTelemetry) eventId with
  | none =>
      rw [Table.firstWith, List.find?_eq_none] at found
      have missed := found event.toTelemetry
        (List.mem_map_of_mem ((delivers.mem_flatMap_iff event).mpr isEvent))
      exact absurd (decide_eq_true hasId) missed
  | some reading =>
      obtain ⟨hit, member⟩ := Table.firstWith_some found
      obtain ⟨other, delivered, rfl⟩ := List.mem_map.mp member
      have sameId : other.eventId = eventId := hit
      rw [distinct.eventId other ((delivers.mem_flatMap_iff other).mp delivered) event isEvent
        (sameId.trans hasId.symm)]

theorem firstWith_undelivered {requests : List Request} (delivers : Delivers events requests)
    {eventId : Uuid} (unused : ¬ ∃ event ∈ events, event.eventId = eventId) :
    Table.firstWith Telemetry.eventId
      ((requests.flatMap Request.events).map TelemetryEvent.toTelemetry) eventId = none := by
  rw [Table.firstWith, List.find?_eq_none]
  intro reading delivered
  obtain ⟨event, member, rfl⟩ := List.mem_map.mp delivered
  have isEvent := (delivers.mem_flatMap_iff event).mp member
  exact fun hasId => unused ⟨event, isEvent, of_decide_eq_true hasId⟩

/-- For every database and every finite set of events of registered batteries,
with distinct ids and per battery distinct timestamps, and any two ways of
delivering it: the final telemetry and current-state tables are the same. -/
theorem storage_confluent (settings : Settings) (db : Database) (events : List TelemetryEvent)
    (registered : ∀ event ∈ events, db.batteries.lookup event.batteryId ≠ none)
    (distinct : Distinct events) (first second : List Request)
    (firstDelivers : Delivers events first) (secondDelivers : Delivers events second) :
    (first.foldl (Database.ingest settings) db).telemetry.Same
        (second.foldl (Database.ingest settings) db).telemetry ∧
      (first.foldl (Database.ingest settings) db).batteryCurrentState.Same
        (second.foldl (Database.ingest settings) db).batteryCurrentState := by
  have known : ∀ {requests}, Delivers events requests →
      ∀ request ∈ requests, db.Registers request := fun delivers request inRequests event member =>
    registered event (delivers.only request inRequests event member)
  constructor
  · rw [Table.same_iff_lookup]
    intro eventId
    rw [Database.telemetry_run settings db first (known firstDelivers),
      Database.telemetry_run settings db second (known secondDelivers), Table.lookup_insertAll,
      Table.lookup_insertAll]
    congr 1
    by_cases used : ∃ event ∈ events, event.eventId = eventId
    · obtain ⟨event, isEvent, hasId⟩ := used
      rw [firstWith_delivered distinct firstDelivers eventId isEvent hasId,
        firstWith_delivered distinct secondDelivers eventId isEvent hasId]
    · rw [firstWith_undelivered firstDelivers used, firstWith_undelivered secondDelivers used]
  · rw [Table.same_iff_lookup]
    intro batteryId
    have one := Database.currentState_run settings db first batteryId
    have two := Database.currentState_run settings db second batteryId
    obtain ⟨oneNodup, oneMem⟩ := acceptedBy_spec settings distinct first
      (known firstDelivers) firstDelivers.only firstDelivers.noRepeats
    obtain ⟨twoNodup, twoMem⟩ := acceptedBy_spec settings distinct second
      (known secondDelivers) secondDelivers.only secondDelivers.noRepeats
    have perm : (db.acceptedBy settings first).Perm (db.acceptedBy settings second) := by
      rw [List.perm_ext_iff_of_nodup oneNodup twoNodup]
      intro event
      rw [oneMem, twoMem, firstDelivers.mem_flatMap_iff, secondDelivers.mem_flatMap_iff]
    refine one.trans (Eq.trans ?_ two.symm)
    apply newestFrom_perm _ ((perm.filter _).map _)
    intro rowOne isOne rowTwo isTwo tie
    obtain ⟨eventOne, inOne, rfl⟩ := List.mem_map.mp isOne
    obtain ⟨eventTwo, inTwo, rfl⟩ := List.mem_map.mp isTwo
    obtain ⟨acceptedOne, batteryOne⟩ := List.mem_filter.mp inOne
    obtain ⟨acceptedTwo, batteryTwo⟩ := List.mem_filter.mp inTwo
    have isEvent : ∀ event ∈ db.acceptedBy settings first, event ∈ events := fun event member =>
      (firstDelivers.mem_flatMap_iff event).mp ((oneMem event).mp member).1
    rw [distinct.timestamp eventOne (isEvent _ acceptedOne) eventTwo (isEvent _ acceptedTwo)
      ((of_decide_eq_true batteryOne).trans (of_decide_eq_true batteryTwo).symm) tie]

end Deliveries

end VoltStream.Backend
