/-
Module: VoltStream.Proofs.CheckedDelivery
Purpose: Storage against the way of delivery, with the arithmetic on timestamps that rolls back
  a single request and cuts a batch short after its first commit: for which events a batch
  stores what its events store one by one, and for which all ways of delivery agree.
Trusted boundary: human-reviewed statements of the results
Main exports: Database.Admits, ingestEach, StoresLikeSingles, stores_like_singles_iff,
  ReceivedDelivers, StorageConverges, storage_converges_iff
-/
import VoltStream.Proofs.StorageConfluence
import VoltStream.Proofs.IngestionTotality

namespace VoltStream.Backend

open Relational

/-! ### Admitted events -/

/-- The driver can encode the timestamp, and if the event is new, the window of the
rapid-discharge rule starts at a time that exists and can be encoded. -/
structure Database.Admits (settings : Settings) (binds : AwareDatetime → Bool) (db : Database)
    (received : ReceivedEvent) : Prop where
  bound : binds received.written = true
  window : db.Fresh received.event → HasWindowStart settings binds received.written

section Requests

variable {settings : Settings} {binds : AwareDatetime → Bool} {db : Database}

/-- A request of admitted events does what it does over instants. -/
theorem ingestChecked_of_admits {request : ReceivedRequest}
    (registered : db.Registers request.plain)
    (admits : ∀ received ∈ request.received, db.Admits settings binds received) :
    db.ingestChecked settings binds request = (.ok (), db.ingest settings request.plain) := by
  obtain ⟨alerts, passes⟩ := (passes_ok_iff registered).mpr fun received isNewest =>
    (admits received (mem_of_mem_newestAccepted isNewest).1).window
      (mem_of_mem_newestAccepted isNewest).2
  rw [ingestChecked_of_binds registered fun received member => (admits received member).bound,
    passes, Database.settled, concluded_eq_ingest registered passes]

theorem newestAccepted_single {received : ReceivedEvent} (fresh : db.Fresh received.event) :
    db.newestAccepted (.single received) = [received] := by
  rw [Database.newestAccepted, ReceivedRequest.received, List.filter_singleton,
    decide_eq_true fresh]
  rfl

/-- A single request stores an admitted event, and leaves no trace of any other. -/
theorem ingestChecked_single_cases (settings : Settings) (binds : AwareDatetime → Bool)
    {received : ReceivedEvent}
    (registered : db.batteries.lookup received.event.batteryId ≠ none) :
    db.Admits settings binds received ∧
        db.ingestChecked settings binds (.single received) =
          (.ok (), db.ingest settings (.single received.event)) ∨
      ¬db.Admits settings binds received ∧
        ∃ error, db.ingestChecked settings binds (.single received) = (.error error, db) := by
  have single : db.Registers (ReceivedRequest.plain (.single received)) :=
    Database.registers_single_iff.mpr registered
  by_cases admits : db.Admits settings binds received
  · refine .inl ⟨admits, ingestChecked_of_admits single fun other isOther => ?_⟩
    rwa [List.mem_singleton.mp isOther]
  · refine .inr ⟨admits, ?_⟩
    by_cases bound : binds received.written = true
    · obtain ⟨fresh, noWindow⟩ := Classical.not_imp.mp fun window => admits ⟨bound, window⟩
      rw [ingestChecked_single registered bound]
      cases pass : db.passes settings binds (.single received) with
      | error error => exact ⟨error, rfl⟩
      | ok alerts =>
          refine absurd ((passes_ok_iff single).mp ⟨alerts, pass⟩ received ?_) noWindow
          rw [newestAccepted_single fresh]
          exact List.mem_singleton_self received
    · exact ⟨_, ingestChecked_of_not_binds single (List.mem_singleton_self received)
        (Bool.not_eq_true _ ▸ bound)⟩

/-- A request stores all of its events or none. -/
theorem ingestChecked_cases (settings : Settings) (binds : AwareDatetime → Bool)
    {request : ReceivedRequest} (registered : db.Registers request.plain) :
    (db.ingestChecked settings binds request).2 = db ∨
      (∀ received ∈ request.received, binds received.written = true) ∧
        ∃ alerts, (db.ingestChecked settings binds request).2 = db.concluded request alerts := by
  by_cases bound : ∀ received ∈ request.received, binds received.written = true
  · rw [ingestChecked_of_binds registered bound]
    cases db.passes settings binds request with
    | ok alerts => exact .inr ⟨bound, alerts, rfl⟩
    | error error =>
        cases request with
        | single received => exact .inl rfl
        | batch batch nonempty => exact .inr ⟨bound, db.alerts, rfl⟩
  · push Not at bound
    obtain ⟨received, member, unbound⟩ := bound
    rw [ingestChecked_of_not_binds registered member (Bool.not_eq_true _ ▸ unbound)]
    exact .inl rfl

/-- A batch is stored once the driver has bound its timestamps, whatever the rules do. -/
theorem ingestChecked_batch_stores (settings : Settings) {batch : List ReceivedEvent}
    {nonempty : batch ≠ []}
    (registered : db.Registers (ReceivedRequest.plain (.batch batch nonempty)))
    (bound : ∀ received ∈ batch, binds received.written = true) :
    ∃ alerts, (db.ingestChecked settings binds (.batch batch nonempty)).2 =
      db.concluded (.batch batch nonempty) alerts := by
  rw [ingestChecked_batch registered bound]
  cases db.passes settings binds (.batch batch nonempty) with
  | ok alerts => exact ⟨alerts, rfl⟩
  | error error => exact ⟨db.alerts, rfl⟩

theorem fresh_concluded_iff {request : ReceivedRequest} {alerts : Alerts}
    (event : TelemetryEvent) :
    (db.concluded request alerts).Fresh event ↔
      db.Fresh event ∧ ∀ other ∈ request.received, other.event.eventId ≠ event.eventId := by
  rw [Database.Fresh, Database.concluded, Database.store, Table.lookup_insertAll,
    Option.or_eq_none_iff, Table.firstWith, List.find?_eq_none, plain_events]
  simp [Database.Fresh]

end Requests

/-! ### A batch against single requests -/

section Batch

variable {settings : Settings} {binds : AwareDatetime → Bool} {db : Database}

/-- One single request for each event in turn, with what each returns or raises.  The sender
goes on after an error. -/
def ingestEach (settings : Settings) (binds : AwareDatetime → Bool) :
    List ReceivedEvent → Database → List (Except IngestionError Bool) × Database
  | [], db => ([], db)
  | received :: rest, db =>
      let (answer, next) := ingestTelemetryEventChecked settings binds received db
      let (answers, last) := ingestEach settings binds rest next
      (answer :: answers, last)

/-- The batch is answered, leaves the telemetry and current-state tables that its events leave
one by one, and counts as inserted and as duplicates what these are answered `True` and
`False`. -/
def StoresLikeSingles (settings : Settings) (binds : AwareDatetime → Bool) (db : Database)
    (batch : List ReceivedEvent) : Prop :=
  ∃ inserted duplicates,
    (ingestTelemetryBatchChecked settings binds batch db).1 = .ok (inserted, duplicates) ∧
    (ingestTelemetryBatchChecked settings binds batch db).2.telemetry.Same
      (ingestEach settings binds batch db).2.telemetry ∧
    (ingestTelemetryBatchChecked settings binds batch db).2.batteryCurrentState.Same
      (ingestEach settings binds batch db).2.batteryCurrentState ∧
    inserted = (ingestEach settings binds batch db).1.countP (fun answer => answer = .ok true) ∧
    duplicates = (ingestEach settings binds batch db).1.countP (fun answer => answer = .ok false)

/-- What a single request answers that gets through. -/
theorem ingestTelemetryEventChecked_answer {received : ReceivedEvent} {created : Bool}
    (answered : (ingestTelemetryEventChecked settings binds received db).1 = .ok created) :
    created = decide (db.Fresh received.event) := by
  have isNew : db.telemetry.returning [received.event.toTelemetry] ≠ [] ↔
      db.Fresh received.event := by
    unfold Table.returning Database.Fresh
    split_ifs with fresh
    · exact iff_of_true (List.cons_ne_nil _ _) fresh
    · exact iff_of_false (fun isNew => isNew rfl) fresh
  unfold ingestTelemetryEventChecked at answered
  cases found : db.batteries.lookup received.event.batteryId with
  | none => simp [found] at answered
  | some battery =>
      simp only [found, isNew] at answered
      split_ifs at answered with unbound fresh
      · cases pass : evaluateRulesAndResolveOfflineChecked settings binds
            (db.telemetry.insertAll [received.event.toTelemetry]).rows db.batteries
              (sortedLatestReceived [received]) db.alerts with
        | error error => simp [pass] at answered
        | ok alerts =>
            simp only [pass, Except.ok.injEq] at answered
            rw [← answered, decide_eq_true fresh]
      · rw [← Except.ok.inj answered, decide_eq_false fresh]

/-- An admitted event is answered as over instants, and any other raises. -/
theorem ingestTelemetryEventChecked_cases (settings : Settings) (binds : AwareDatetime → Bool)
    {received : ReceivedEvent}
    (registered : db.batteries.lookup received.event.batteryId ≠ none) :
    db.Admits settings binds received ∧
        ingestTelemetryEventChecked settings binds received db =
          (.ok (decide (db.Fresh received.event)), db.ingest settings (.single received.event)) ∨
      ¬db.Admits settings binds received ∧
        ∃ error, ingestTelemetryEventChecked settings binds received db = (.error error, db) := by
  have request : db.ingestChecked settings binds (.single received) =
      ((ingestTelemetryEventChecked settings binds received db).1.map fun _ => (),
        (ingestTelemetryEventChecked settings binds received db).2) := rfl
  rcases ingestChecked_single_cases settings binds registered with
    ⟨admits, stores⟩ | ⟨refused, error, raises⟩
  · rw [request, Prod.mk.injEq] at stores
    refine .inl ⟨admits, Prod.ext ?_ stores.2⟩
    cases answered : (ingestTelemetryEventChecked settings binds received db).1 with
    | error error => simp [answered, Except.map] at stores
    | ok created => rw [ingestTelemetryEventChecked_answer answered]
  · rw [request, Prod.mk.injEq] at raises
    refine .inr ⟨refused, error, Prod.ext ?_ raises.2⟩
    cases answered : (ingestTelemetryEventChecked settings binds received db).1 with
    | error other => simpa [answered, Except.map] using raises.1
    | ok created => simp [answered, Except.map] at raises

/-- Whatever the rules make of other events, an event without a window is never stored. -/
theorem fresh_ingestEach {received : ReceivedEvent}
    (noWindow : ¬HasWindowStart settings binds received.written) (events : List ReceivedEvent)
    (registered : ∀ other ∈ events, db.batteries.lookup other.event.batteryId ≠ none)
    (tellApart : ∀ other ∈ events, other.event.eventId = received.event.eventId →
      other = received)
    (fresh : db.Fresh received.event) :
    (ingestEach settings binds events db).2.Fresh received.event := by
  induction events generalizing db with
  | nil => exact fresh
  | cons other rest ih =>
      rw [List.forall_mem_cons] at registered tellApart
      rcases ingestTelemetryEventChecked_cases settings binds registered.1 with
        ⟨admits, stores⟩ | ⟨-, error, raises⟩
      · have single : db.Registers (.single other.event) :=
          Database.registers_single_iff.mpr registered.1
        have different : other.event.eventId ≠ received.event.eventId := fun same => by
          rw [tellApart.1 same] at admits
          exact noWindow (admits.window fresh)
        simp only [ingestEach, stores]
        refine ih (fun later member => ?_) tellApart.2 ?_
        · rw [Database.batteries_ingest]
          exact registered.2 later member
        · rw [Database.fresh_ingest_iff settings single]
          refine ⟨fresh, fun event isEvent => ?_⟩
          rwa [List.mem_singleton.mp isEvent]
      · simp only [ingestEach, raises]
        exact ih registered.2 tellApart.2 fresh

/-- Single requests of admitted events do what they do over instants. -/
theorem ingestEach_of_admits (events : List ReceivedEvent)
    (registered : ∀ received ∈ events, db.batteries.lookup received.event.batteryId ≠ none)
    (admits : ∀ received ∈ events, db.Admits settings binds received) {answers : List Bool}
    {last : Database}
    (runs : ingestOneByOne settings (events.map ReceivedEvent.event) db = .ok (answers, last)) :
    ingestEach settings binds events db = (answers.map .ok, last) := by
  induction events generalizing db answers with
  | nil =>
      cases runs
      rfl
  | cons received rest ih =>
      rw [List.forall_mem_cons] at registered admits
      have single : db.Registers (.single received.event) :=
        Database.registers_single_iff.mpr registered.1
      rw [List.map_cons, ingestOneByOne, ingestTelemetryEvent_of_registers settings single] at runs
      obtain ⟨-, stores⟩ | ⟨refused, -⟩ :=
        ingestTelemetryEventChecked_cases settings binds registered.1
      · dsimp only at runs
        cases later : ingestOneByOne settings (rest.map ReceivedEvent.event)
            (db.ingest settings (.single received.event)) with
        | error refusal => simp [later] at runs
        | ok answered =>
            simp only [later, Except.ok.injEq, Prod.mk.injEq] at runs
            obtain ⟨rfl, rfl⟩ := runs
            have rested := ih
              (fun other member => ?_) (fun other member => ?_) later
            · simp only [ingestEach, stores, rested, List.map_cons]
            · rw [Database.batteries_ingest]
              exact registered.2 other member
            · refine ⟨(admits.2 other member).bound, fun fresh => ?_⟩
              exact (admits.2 other member).window
                ((Database.fresh_ingest_iff settings single _).mp fresh).1
      · exact absurd admits.1 refused

/-- What a batch answers that gets through. -/
theorem ingestTelemetryBatchChecked_answer {batch : List ReceivedEvent} {counts : Nat × Nat}
    (answered : (ingestTelemetryBatchChecked settings binds batch db).1 = .ok counts) :
    (∀ received ∈ batch, binds received.written = true) ∧
      counts = ((db.telemetry.returning
          ((batch.map ReceivedEvent.event).map TelemetryEvent.toTelemetry)).length,
        (batch.map ReceivedEvent.event).length - (db.telemetry.returning
          ((batch.map ReceivedEvent.event).map TelemetryEvent.toTelemetry)).length) := by
  unfold ingestTelemetryBatchChecked at answered
  dsimp only at answered
  split_ifs at answered with missing unbound isNew
  · refine ⟨by simpa using unbound, ?_⟩
    split at answered
    · simp at answered
    · exact (Except.ok.inj answered).symm
  · exact ⟨by simpa using unbound, (Except.ok.inj answered).symm⟩

/-- A batch of admitted events is answered as over instants. -/
theorem ingestTelemetryBatchChecked_of_admits {batch : List ReceivedEvent} {nonempty : batch ≠ []}
    (registered : db.Registers (ReceivedRequest.plain (.batch batch nonempty)))
    (admits : ∀ received ∈ batch, db.Admits settings binds received) {counts : Nat × Nat}
    {after : Database}
    (answered : ingestTelemetryBatch settings
      ⟨batch.map ReceivedEvent.event, fun none => nonempty (List.map_eq_nil_iff.mp none)⟩ db =
        .ok (counts, after)) :
    ingestTelemetryBatchChecked settings binds batch db = (.ok counts, after) := by
  have plain : db.ingest settings (ReceivedRequest.plain (.batch batch nonempty)) = after := by
    simp only [ReceivedRequest.plain, Database.ingest, answered]
  have request : db.ingestChecked settings binds (.batch batch nonempty) =
      ((ingestTelemetryBatchChecked settings binds batch db).1.map fun _ => (),
        (ingestTelemetryBatchChecked settings binds batch db).2) := rfl
  have stores := ingestChecked_of_admits registered admits
  rw [request, plain, Prod.mk.injEq] at stores
  refine Prod.ext ?_ stores.2
  cases answer : (ingestTelemetryBatchChecked settings binds batch db).1 with
  | error error => simp [answer, Except.map] at stores
  | ok counted =>
      have complete := (missingIds_eq_nil_iff db _).mpr registered
      rw [(ingestTelemetryBatchChecked_answer answer).2]
      simp only [ingestTelemetryBatch, ReceivedRequest.plain, Request.events] at answered complete
      rw [if_neg (not_not.mpr complete)] at answered
      rw [← (Prod.mk.inj (Except.ok.inj answered)).1]

/-- For every database and every batch of registered batteries without repeated ids: batch and
single requests agree in what they store and count exactly if each event is admitted. -/
theorem stores_like_singles_iff (settings : Settings) (binds : AwareDatetime → Bool)
    (db : Database) (batch : List ReceivedEvent) (nonempty : batch ≠ [])
    (registered : ∀ received ∈ batch, db.batteries.lookup received.event.batteryId ≠ none)
    (distinct : (batch.map fun received => received.event.eventId).Nodup) :
    StoresLikeSingles settings binds db batch ↔
      ∀ received ∈ batch, db.Admits settings binds received := by
  have request : db.Registers (ReceivedRequest.plain (.batch batch nonempty)) := by
    intro event isEvent
    rw [plain_events] at isEvent
    obtain ⟨received, member, rfl⟩ := List.mem_map.mp isEvent
    exact registered received member
  constructor
  · rintro ⟨inserted, duplicates, answered, sameTelemetry, -, -⟩ received member
    have bound := (ingestTelemetryBatchChecked_answer answered).1
    refine ⟨bound received member, fun fresh => ?_⟩
    by_contra noWindow
    have never := fresh_ingestEach noWindow batch registered (fun other isOther sameId =>
      List.inj_on_of_nodup_map distinct isOther member sameId) fresh
    obtain ⟨alerts, stores⟩ := ingestChecked_batch_stores settings request bound
    change (ingestTelemetryBatchChecked settings binds batch db).2 = _ at stores
    rw [Table.same_iff_lookup, stores] at sameTelemetry
    have unstored := (sameTelemetry received.event.eventId).trans never
    exact ((fresh_concluded_iff received.event).mp unstored).2 received member rfl
  · intro admits
    have distinctIds : (((batch.map ReceivedEvent.event).map TelemetryEvent.eventId)).Nodup := by
      rwa [List.map_map]
    obtain ⟨inserted, duplicates, after, answers, last, answered, runs, sameTelemetry,
      sameStates, countsTrue, countsFalse⟩ := batch_stores_like_singles settings
        ⟨batch.map ReceivedEvent.event, fun none => nonempty (List.map_eq_nil_iff.mp none)⟩
        request distinctIds
    have counts : ∀ answer : Bool, (answers.map fun created =>
        (.ok created : Except IngestionError Bool)).countP (fun answered => answered = .ok answer) =
          answers.count answer := by
      intro answer
      rw [List.countP_map, List.count]
      refine List.countP_congr fun given _ => ?_
      simp
    refine ⟨inserted, duplicates, ?_⟩
    rw [ingestTelemetryBatchChecked_of_admits request admits answered,
      ingestEach_of_admits batch registered admits runs, counts, counts]
    exact ⟨rfl, sameTelemetry, sameStates, countsTrue, countsFalse⟩

end Batch

/-- The first instant of the calendar next to a later reading of the same battery: the batch
counts two as inserted, singly only the later one is stored. -/
theorem first_instant_splits_batch :
    ¬StoresLikeSingles Settings.default convertible (Database.registered sampleBatteries)
      [firstReading, inUtc (sampleEvent 2 0 40) (by decide)] := by
  rintro ⟨inserted, duplicates, answered, -, -, counted, -⟩
  have evaluated :
      (ingestTelemetryBatchChecked Settings.default convertible
          [firstReading, inUtc (sampleEvent 2 0 40) (by decide)]
          (Database.registered sampleBatteries)).1 = .ok (2, 0) ∧
        (ingestEach Settings.default convertible
          [firstReading, inUtc (sampleEvent 2 0 40) (by decide)]
          (Database.registered sampleBatteries)).1.countP (fun answer => answer = .ok true) =
            1 := by
    decide +kernel
  rw [evaluated.1, Except.ok.injEq, Prod.mk.injEq] at answered
  rw [evaluated.2, ← answered.1] at counted
  exact absurd counted (by decide)

/-- A batch of a fresh reading and one that is older and stored already. -/
theorem sample_stores_like_singles :
    StoresLikeSingles Settings.default convertible
      ((Database.registered sampleBatteries).ingest Settings.default (.single (sampleEvent 1 0 50)))
      [inUtc (sampleEvent 2 5 40) (by decide), inUtc (sampleEvent 1 0 50) (by decide)] := by
  refine (stores_like_singles_iff Settings.default convertible _ _ (List.cons_ne_nil _ _)
    (by decide +kernel) (by decide)).mpr ?_
  rw [List.forall_mem_cons, List.forall_mem_singleton]
  exact ⟨⟨by decide, fun _ => hasWindowStart_utc _ (by decide)⟩,
    ⟨by decide, fun _ => hasWindowStart_utc _ (by decide)⟩⟩

/-! ### Any two deliveries of one set of events -/

/-- The requests deliver exactly these events: in any order, split in any way into single and
batch requests, each event once or more, but no batch with a repeated id. -/
structure ReceivedDelivers (events : List ReceivedEvent) (requests : List ReceivedRequest) :
    Prop where
  only : ∀ request ∈ requests, ∀ received ∈ request.received, received ∈ events
  complete : ∀ received ∈ events, ∃ request ∈ requests, received ∈ request.received
  noRepeats : ∀ request ∈ requests,
    (request.received.map fun received => received.event.eventId).Nodup

/-- The ids tell the events apart, and so do the timestamps per battery. -/
structure DistinctReceived (events : List ReceivedEvent) : Prop where
  eventId : (events.map fun received => received.event.eventId).Nodup
  timestamp : ∀ first ∈ events, ∀ second ∈ events,
    first.event.batteryId = second.event.batteryId →
      first.event.timestamp = second.event.timestamp → first = second

/-- The database after a request, whether it returns or raises. -/
def Database.after (settings : Settings) (binds : AwareDatetime → Bool) (db : Database)
    (request : ReceivedRequest) : Database :=
  (db.ingestChecked settings binds request).2

/-- All ways of delivering the events leave the same telemetry and current-state tables. -/
def StorageConverges (settings : Settings) (binds : AwareDatetime → Bool) (db : Database)
    (events : List ReceivedEvent) : Prop :=
  ∀ first second, ReceivedDelivers events first → ReceivedDelivers events second →
    (first.foldl (Database.after settings binds) db).telemetry.Same
        (second.foldl (Database.after settings binds) db).telemetry ∧
      (first.foldl (Database.after settings binds) db).batteryCurrentState.Same
        (second.foldl (Database.after settings binds) db).batteryCurrentState

section Deliveries

variable {settings : Settings} {binds : AwareDatetime → Bool} {db : Database}
  {events : List ReceivedEvent}

theorem batteries_after {request : ReceivedRequest} (registered : db.Registers request.plain) :
    (db.after settings binds request).batteries = db.batteries := by
  unfold Database.after
  rcases ingestChecked_cases settings binds registered with unchanged | ⟨-, alerts, concluded⟩
  · rw [unchanged]
  · rw [concluded]
    rfl

theorem registers_after {request other : ReceivedRequest}
    (registered : db.Registers request.plain) (known : db.Registers other.plain) :
    (db.after settings binds request).Registers other.plain := by
  intro event isEvent
  rw [batteries_after registered]
  exact known event isEvent

/-- What has been stored stays stored. -/
theorem fresh_of_after {request : ReceivedRequest}
    (registered : db.Registers request.plain) {event : TelemetryEvent}
    (fresh : (db.after settings binds request).Fresh event) : db.Fresh event := by
  unfold Database.after at fresh
  rcases ingestChecked_cases settings binds registered with unchanged | ⟨-, alerts, concluded⟩
  · rwa [unchanged] at fresh
  · rw [concluded] at fresh
    exact ((fresh_concluded_iff event).mp fresh).1

/-- Deliveries of admitted events do what they do over instants. -/
theorem foldl_after_of_admits (requests : List ReceivedRequest)
    (registered : ∀ request ∈ requests, db.Registers request.plain)
    (admits : ∀ request ∈ requests, ∀ received ∈ request.received,
      db.Admits settings binds received) :
    requests.foldl (Database.after settings binds) db =
      (requests.map ReceivedRequest.plain).foldl (Database.ingest settings) db := by
  induction requests generalizing db with
  | nil => rfl
  | cons request rest ih =>
      rw [List.forall_mem_cons] at registered admits
      have step : db.after settings binds request = db.ingest settings request.plain := by
        rw [Database.after, ingestChecked_of_admits registered.1 admits.1]
      rw [List.foldl_cons, List.map_cons, List.foldl_cons, step]
      refine ih (fun later member => (registered.2 later member).ingest settings request.plain)
        fun later member received isReceived => ?_
      refine ⟨(admits.2 later member received isReceived).bound, fun fresh => ?_⟩
      exact (admits.2 later member received isReceived).window
        ((Database.fresh_ingest_iff settings registered.1 _).mp fresh).1

theorem ReceivedDelivers.plain {requests : List ReceivedRequest}
    (delivers : ReceivedDelivers events requests) :
    Delivers (events.map ReceivedEvent.event) (requests.map ReceivedRequest.plain) where
  only := by
    intro plain isPlain event isEvent
    obtain ⟨request, inRequests, rfl⟩ := List.mem_map.mp isPlain
    rw [plain_events] at isEvent
    obtain ⟨received, member, rfl⟩ := List.mem_map.mp isEvent
    exact List.mem_map_of_mem (delivers.only request inRequests received member)
  complete := by
    intro event isEvent
    obtain ⟨received, isReceived, rfl⟩ := List.mem_map.mp isEvent
    obtain ⟨request, inRequests, member⟩ := delivers.complete received isReceived
    refine ⟨request.plain, List.mem_map_of_mem inRequests, ?_⟩
    rw [plain_events]
    exact List.mem_map_of_mem member
  noRepeats := by
    intro plain isPlain
    obtain ⟨request, inRequests, rfl⟩ := List.mem_map.mp isPlain
    rw [plain_events, List.map_map]
    exact delivers.noRepeats request inRequests

theorem DistinctReceived.plain (distinct : DistinctReceived events) :
    Distinct (events.map ReceivedEvent.event) where
  eventId := by
    intro first isFirst second isSecond sameId
    obtain ⟨one, isOne, rfl⟩ := List.mem_map.mp isFirst
    obtain ⟨two, isTwo, rfl⟩ := List.mem_map.mp isSecond
    rw [List.inj_on_of_nodup_map distinct.eventId isOne isTwo sameId]
  timestamp := by
    intro first isFirst second isSecond sameBattery sameTime
    obtain ⟨one, isOne, rfl⟩ := List.mem_map.mp isFirst
    obtain ⟨two, isTwo, rfl⟩ := List.mem_map.mp isSecond
    rw [distinct.timestamp one isOne two isTwo sameBattery sameTime]

/-- Where the driver can encode no timestamp of a new event, a request changes neither the
telemetry nor the current state. -/
theorem tables_after_of_unbound (settings : Settings) {request : ReceivedRequest}
    (registered : db.Registers request.plain)
    (unbound : ∀ received ∈ request.received, db.Fresh received.event →
      binds received.written = false) :
    (db.after settings binds request).telemetry = db.telemetry ∧
      (db.after settings binds request).batteryCurrentState = db.batteryCurrentState := by
  unfold Database.after
  rcases ingestChecked_cases settings binds registered with unchanged | ⟨bound, alerts, concluded⟩
  · rw [unchanged]
    exact ⟨rfl, rfl⟩
  · have stored : ∀ received ∈ request.received, ¬db.Fresh received.event :=
      fun received member fresh => by
        simpa [bound received member] using unbound received member fresh
    have noneInserted : db.newlyInserted request.plain = [] := by
      rw [Database.newlyInserted, plain_events, List.filter_map, List.map_eq_nil_iff,
        List.filter_eq_nil_iff]
      exact fun received member => by simpa using stored received member
    rw [concluded, Database.concluded, noneInserted]
    refine ⟨Table.insertAll_of_stored fun reading isReading => ?_, rfl⟩
    rw [plain_events, List.map_map] at isReading
    obtain ⟨received, member, rfl⟩ := List.mem_map.mp isReading
    exact stored received member

theorem foldl_after_of_unbound (settings : Settings) (requests : List ReceivedRequest)
    (registered : ∀ request ∈ requests, db.Registers request.plain)
    (unbound : ∀ request ∈ requests, ∀ received ∈ request.received, db.Fresh received.event →
      binds received.written = false) :
    (requests.foldl (Database.after settings binds) db).telemetry = db.telemetry ∧
      (requests.foldl (Database.after settings binds) db).batteryCurrentState =
        db.batteryCurrentState := by
  induction requests generalizing db with
  | nil => exact ⟨rfl, rfl⟩
  | cons request rest ih =>
      rw [List.forall_mem_cons] at registered unbound
      obtain ⟨sameTelemetry, sameStates⟩ :=
        tables_after_of_unbound settings registered.1 unbound.1
      rw [List.foldl_cons, ← sameTelemetry, ← sameStates]
      refine ih (fun later member => registers_after registered.1 (registered.2 later member))
        fun later member received isReceived => ?_
      rw [Database.Fresh, sameTelemetry]
      exact unbound.2 later member received isReceived

theorem fresh_of_foldl_after (requests : List ReceivedRequest)
    (registered : ∀ request ∈ requests, db.Registers request.plain) {event : TelemetryEvent}
    (fresh : (requests.foldl (Database.after settings binds) db).Fresh event) :
    db.Fresh event := by
  induction requests generalizing db with
  | nil => exact fresh
  | cons request rest ih =>
      rw [List.forall_mem_cons] at registered
      exact fresh_of_after registered.1
        (ih (fun later member => registers_after registered.1 (registered.2 later member)) fresh)

/-- The events one by one. -/
def singles (events : List ReceivedEvent) : List ReceivedRequest := events.map .single

theorem foldl_after_singles (events : List ReceivedEvent) :
    (singles events).foldl (Database.after settings binds) db =
      (ingestEach settings binds events db).2 := by
  induction events generalizing db with
  | nil => rfl
  | cons received rest ih => exact ih

theorem registers_singles
    (registered : ∀ received ∈ events, db.batteries.lookup received.event.batteryId ≠ none) :
    ∀ request ∈ singles events, db.Registers request.plain := by
  intro request isRequest
  obtain ⟨received, member, rfl⟩ := List.mem_map.mp isRequest
  exact Database.registers_single_iff.mpr (registered received member)

/-- Singly, an event that can be encoded and has a window is stored. -/
theorem stored_singles {received : ReceivedEvent} (member : received ∈ events)
    (registered : ∀ other ∈ events, db.batteries.lookup other.event.batteryId ≠ none)
    (bound : binds received.written = true)
    (window : HasWindowStart settings binds received.written) :
    ¬((singles events).foldl (Database.after settings binds) db).Fresh received.event := by
  induction events generalizing db with
  | nil => exact absurd member List.not_mem_nil
  | cons other rest ih =>
      rw [List.forall_mem_cons] at registered
      have single := Database.registers_single_iff.mpr registered.1
      have still : ∀ later ∈ rest,
          (db.after settings binds (.single other)).batteries.lookup later.event.batteryId ≠
            none := by
        intro later isLater
        rw [batteries_after single]
        exact registered.2 later isLater
      rw [singles, List.map_cons, List.foldl_cons, ← singles]
      rcases List.mem_cons.mp member with rfl | inRest
      · intro fresh
        have freshAfter := fresh_of_foldl_after _ (registers_singles still) fresh
        rcases ingestChecked_single_cases settings binds registered.1 with
          ⟨-, stores⟩ | ⟨refused, -⟩
        · rw [Database.after, stores, Database.fresh_ingest_iff settings single] at freshAfter
          exact freshAfter.2 received.event List.mem_cons_self rfl
        · exact refused ⟨bound, fun _ => window⟩
      · exact ih inRest still

/-- A batch that can be encoded is stored, and stays stored. -/
theorem stored_batch {received : ReceivedEvent} {batch : List ReceivedEvent} {nonempty : batch ≠ []}
    (later : List ReceivedRequest) (member : received ∈ batch)
    (registered : db.Registers (ReceivedRequest.plain (.batch batch nonempty)))
    (laterRegistered : ∀ request ∈ later, db.Registers request.plain)
    (bound : ∀ other ∈ batch, binds other.written = true) :
    ¬((ReceivedRequest.batch batch nonempty :: later).foldl
        (Database.after settings binds) db).Fresh received.event := by
  intro fresh
  have freshAfter := fresh_of_foldl_after later
    (fun request isLater => registers_after registered (laterRegistered request isLater)) fresh
  obtain ⟨alerts, stores⟩ := ingestChecked_batch_stores settings registered bound
  rw [Database.after, stores, fresh_concluded_iff] at freshAfter
  exact freshAfter.2 received member rfl

theorem delivers_singles : ReceivedDelivers events (singles events) where
  only := by
    intro request isRequest received member
    obtain ⟨single, isSingle, rfl⟩ := List.mem_map.mp isRequest
    rwa [List.mem_singleton.mp member]
  complete := fun received member =>
    ⟨.single received, List.mem_map_of_mem member, List.mem_singleton_self received⟩
  noRepeats := by
    intro request isRequest
    obtain ⟨single, isSingle, rfl⟩ := List.mem_map.mp isRequest
    exact List.nodup_singleton _

theorem ReceivedDelivers.cons {request : ReceivedRequest} {requests : List ReceivedRequest}
    (delivers : ReceivedDelivers events requests)
    (only : ∀ received ∈ request.received, received ∈ events)
    (noRepeats : (request.received.map fun received => received.event.eventId).Nodup) :
    ReceivedDelivers events (request :: requests) where
  only := List.forall_mem_cons.mpr ⟨only, delivers.only⟩
  complete := fun received member =>
    (delivers.complete received member).imp fun _ found =>
      ⟨List.mem_cons_of_mem request found.1, found.2⟩
  noRepeats := List.forall_mem_cons.mpr ⟨noRepeats, delivers.noRepeats⟩

theorem delivers_batch (distinct : DistinctReceived events) (nonempty : events ≠ []) :
    ReceivedDelivers events [.batch events nonempty] where
  only := by
    intro request isRequest received member
    rwa [List.mem_singleton.mp isRequest] at member
  complete := fun received member =>
    ⟨.batch events nonempty, List.mem_singleton_self _, member⟩
  noRepeats := by
    intro request isRequest
    rw [List.mem_singleton.mp isRequest]
    exact distinct.eventId

theorem StorageConverges.fresh_iff (converges : StorageConverges settings binds db events)
    {first second : List ReceivedRequest} (firstDelivers : ReceivedDelivers events first)
    (secondDelivers : ReceivedDelivers events second) (event : TelemetryEvent) :
    (first.foldl (Database.after settings binds) db).Fresh event ↔
      (second.foldl (Database.after settings binds) db).Fresh event := by
  unfold Database.Fresh
  rw [Table.same_iff_lookup.mp (converges first second firstDelivers secondDelivers).1]

end Deliveries

/-- For every database and every set of events of registered batteries, with distinct ids and
per battery distinct timestamps: all ways of delivering them leave the same telemetry and
current-state tables exactly if each event is admitted, or no new event can be encoded. -/
theorem storage_converges_iff (settings : Settings) (binds : AwareDatetime → Bool)
    (db : Database) (events : List ReceivedEvent)
    (registered : ∀ received ∈ events, db.batteries.lookup received.event.batteryId ≠ none)
    (distinct : DistinctReceived events) :
    StorageConverges settings binds db events ↔
      (∀ received ∈ events, db.Admits settings binds received) ∨
        ∀ received ∈ events, db.Fresh received.event → binds received.written = false := by
  have known : ∀ {requests}, ReceivedDelivers events requests →
      ∀ request ∈ requests, db.Registers request.plain := by
    intro requests delivers request inRequests event isEvent
    rw [plain_events] at isEvent
    obtain ⟨received, member, rfl⟩ := List.mem_map.mp isEvent
    exact registered received (delivers.only request inRequests received member)
  constructor
  · intro converges
    by_contra neither
    push Not at neither
    obtain ⟨⟨other, isOther, refused⟩, received, isReceived, fresh, encoded⟩ := neither
    have bound : binds received.written = true := Bool.eq_true_of_not_eq_false encoded
    -- A new event with an encodable timestamp and no window is stored by a batch only.
    have windows : ∀ event ∈ events, db.Fresh event.event → binds event.written = true →
        HasWindowStart settings binds event.written := by
      intro event isEvent isNew canBind
      by_contra noWindow
      have delivers : ReceivedDelivers events (.batch [event] (by simp) :: singles events) :=
        delivers_singles.cons (fun _ member => by rwa [List.mem_singleton.mp member])
          (List.nodup_singleton _)
      obtain ⟨batchKnown, singlesKnown⟩ := List.forall_mem_cons.mp (known delivers)
      refine stored_batch (singles events) (List.mem_singleton_self event) batchKnown singlesKnown
        (fun _ member => by rwa [List.mem_singleton.mp member])
        ((converges.fresh_iff delivers delivers_singles event.event).mpr ?_)
      rw [foldl_after_singles]
      exact fresh_ingestEach noWindow events registered (fun another isAnother sameId =>
        List.inj_on_of_nodup_map distinct.eventId isAnother isEvent sameId) isNew
    -- So the event that is not admitted cannot be encoded, and no batch with it is stored.
    have unbound : binds other.written = false := by
      refine Bool.eq_false_of_not_eq_true fun canBind => refused ⟨canBind, fun isNew => ?_⟩
      exact windows other isOther isNew canBind
    have delivers := delivers_batch distinct (List.ne_nil_of_mem isReceived)
    refine stored_singles isReceived registered bound (windows received isReceived fresh bound)
      ((converges.fresh_iff delivers delivers_singles received.event).mp ?_)
    rw [List.foldl_cons, List.foldl_nil, Database.after, ingestChecked_of_not_binds
      (known delivers _ (List.mem_singleton_self _)) isOther unbound]
    exact fresh
  · rintro (admits | unbound) first second firstDelivers secondDelivers
    · rw [foldl_after_of_admits first (known firstDelivers)
          fun request inRequests received member =>
            admits received (firstDelivers.only request inRequests received member),
        foldl_after_of_admits second (known secondDelivers)
          fun request inRequests received member =>
            admits received (secondDelivers.only request inRequests received member)]
      refine storage_confluent settings db (events.map ReceivedEvent.event) ?_ distinct.plain _ _
        firstDelivers.plain secondDelivers.plain
      intro event isEvent
      obtain ⟨received, member, rfl⟩ := List.mem_map.mp isEvent
      exact registered received member
    · obtain ⟨firstTelemetry, firstStates⟩ := foldl_after_of_unbound settings
        first (known firstDelivers) fun request inRequests received member =>
          unbound received (firstDelivers.only request inRequests received member)
      obtain ⟨secondTelemetry, secondStates⟩ := foldl_after_of_unbound settings
        second (known secondDelivers) fun request inRequests received member =>
          unbound received (secondDelivers.only request inRequests received member)
      rw [firstTelemetry, secondTelemetry, firstStates, secondStates]
      exact ⟨.refl _, .refl _⟩

/-- The first instant of the calendar is stored from a batch, and not singly. -/
theorem first_instant_diverges :
    ¬StorageConverges Settings.default convertible (Database.registered sampleBatteries)
      [firstReading] := by
  intro converges
  have same := (converges (singles [firstReading]) [.batch [firstReading] (by simp)]
    delivers_singles
    (delivers_batch { eventId := by decide, timestamp := by simp } (by simp))).1.length_eq
  revert same
  decide +kernel

/-- Two readings in one batch, and the same two singly, the newer one first and then delivered
again. -/
theorem sample_storage_converges :
    StorageConverges Settings.default convertible (Database.registered sampleBatteries)
        [inUtc (sampleEvent 1 0 50) (by decide), inUtc (sampleEvent 2 5 40) (by decide)] ∧
      ReceivedDelivers
        [inUtc (sampleEvent 1 0 50) (by decide), inUtc (sampleEvent 2 5 40) (by decide)]
        [.single (inUtc (sampleEvent 2 5 40) (by decide)),
          .single (inUtc (sampleEvent 1 0 50) (by decide)),
          .single (inUtc (sampleEvent 2 5 40) (by decide))] := by
  constructor
  · refine (storage_converges_iff Settings.default convertible _ _ (by decide +kernel)
      { eventId := by decide, timestamp := ?_ }).mpr (.inl ?_)
    · simp [inUtc, sampleEvent]
    · rw [List.forall_mem_cons, List.forall_mem_singleton]
      exact ⟨⟨by decide, fun _ => hasWindowStart_utc _ (by decide)⟩,
        ⟨by decide, fun _ => hasWindowStart_utc _ (by decide)⟩⟩
  · exact
      { only := by simp [ReceivedRequest.received]
        complete := by simp [ReceivedRequest.received]
        noRepeats := by simp [ReceivedRequest.received] }

end VoltStream.Backend
