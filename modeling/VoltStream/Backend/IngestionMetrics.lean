/-
Module: VoltStream.Backend.IngestionMetrics
Purpose: The telemetry counters of one backend process: ingestion requests whose
  inserts, commits and counter updates interleave and may fail, over the rows of the
  `telemetry` table.
Trusted boundary: human-reviewed spec of `ingest_telemetry_event` and
  `ingest_telemetry_batch` in `telemetry_service.py`, of the counters in
  `core/metrics.py`, and that a failing commit commits nothing
Main exports: Metrics, Ledger, Stage, IngestionProcess, IngestionProcess.Move,
  IngestionProcess.perform, IngestionProcess.start
-/
import VoltStream.Relational.ReadCommitted
import VoltStream.Backend.Ingestion

namespace VoltStream.Backend

open Relational

/-- `TELEMETRY_RECEIVED`, `TELEMETRY_INSERTED` and `TELEMETRY_DUPLICATES`. -/
structure Metrics where
  received : Nat
  inserted : Nat
  duplicates : Nat
deriving Repr, DecidableEq

/-- What has become of the rows, which the code does not keep: those that this process
has committed; those stored before it or by others; of its own those whose request then
failed; and the events that were counted under either counter. -/
structure Ledger where
  ownRows : List Uuid
  otherRows : List Uuid
  abandoned : List Uuid
  countedInserted : List Uuid
  countedDuplicate : List Uuid
deriving Repr, DecidableEq

/-- How far a request is: before its battery lookup; in its insert, with the values
still to come and the ids returned so far, until its next commit; in its rule
evaluation, for a batch that has committed its new rows; or after its last commit. -/
inductive Stage where
  | idle
  | received (request : Request)
  | inserting (request : Request) (todo : List TelemetryEvent) (insertedIds : List Uuid)
  | evaluating (request : Request) (insertedIds : List Uuid)
  | counting (request : Request) (insertedIds : List Uuid)

def Stage.isIdle : Stage → Bool
  | .idle => true
  | _ => false

structure IngestionProcess (connections : Nat) where
  batteries : Table Battery Battery.batteryId
  telemetry : Uuid → Cell Telemetry
  stages : Fin connections → Stage
  metrics : Metrics
  ledger : Ledger

namespace Request

/-- No battery of the request is unknown. -/
def isRegistered (batteries : Table Battery Battery.batteryId) : Request → Bool
  | .single event => (batteries.lookup event.batteryId).isSome
  | .batch request => missingIds batteries request.events = []

/-- What a request that ends well adds to the two counters. -/
def counts (insertedIds : List Uuid) : Request → Nat × Nat
  | .single _ => if insertedIds ≠ [] then (1, 0) else (0, 1)
  | .batch request => (insertedIds.length, request.events.length - insertedIds.length)

/-- The stage after the first commit: a batch with new rows goes on to its rule
evaluation, and a single request has done its own before. -/
def afterCommit (insertedIds : List Uuid) (request : Request) : Stage :=
  match request with
  | .single _ => .counting request insertedIds
  | .batch _ =>
      if insertedIds ≠ [] then .evaluating request insertedIds else .counting request insertedIds

end Request

namespace IngestionProcess

variable {connections : Nat}

/-- What may happen next: a request arrives, looks up its batteries, inserts its next
row, commits, or updates the counters; it fails before it has committed anything, or
after the first commit of a batch with new rows; a battery is registered; or another
process stores a row. -/
inductive Move (connections : Nat) where
  | receive (session : Fin connections) (request : Request)
  | lookup (session : Fin connections)
  | insertRow (session : Fin connections)
  | commit (session : Fin connections)
  | count (session : Fin connections)
  | fail (session : Fin connections)
  | failAfterCommit (session : Fin connections)
  | register (battery : Battery)
  | otherStores (reading : Telemetry)

/-- The failure of a batch between its two commits. -/
def Move.isFailAfterCommit : Move connections → Bool
  | .failAfterCommit _ => true
  | _ => false

section Operations

variable (process : IngestionProcess connections)

def setStage (session : Fin connections) (stage : Stage) : IngestionProcess connections :=
  { process with stages := Function.update process.stages session stage }

def receive (session : Fin connections) (request : Request) :
    Option (IngestionProcess connections) :=
  match process.stages session with
  | .idle =>
      some { process.setStage session (.received request) with
        metrics.received := process.metrics.received + request.events.length }
  | _ => none

/-- The lookup of the batteries; a request with an unknown one ends with a 404. -/
def lookup (session : Fin connections) : Option (IngestionProcess connections) :=
  match process.stages session with
  | .received request =>
      if request.isRegistered process.batteries then
        some (process.setStage session (.inserting request request.events []))
      else some (process.setStage session .idle)
  | _ => none

/-- The next of the inserted values, `ON CONFLICT DO NOTHING`; `none` means that it
waits for a transaction that is inserting the same id. -/
def insertRow (session : Fin connections) : Option (IngestionProcess connections) :=
  match process.stages session with
  | .inserting request (event :: todo) insertedIds =>
      let cell := process.telemetry event.eventId
      if cell.lockedAgainst session then none
      else
        match cell.view session with
        | some _ => some (process.setStage session (.inserting request todo insertedIds))
        | none =>
            some { process.setStage session
                (.inserting request todo (insertedIds ++ [event.eventId])) with
              telemetry := Function.update process.telemetry event.eventId
                (cell.write session event.toTelemetry) }
  | _ => none

/-- The first commit, which stores the new rows, or the second one of a batch. -/
def commit (session : Fin connections) : Option (IngestionProcess connections) :=
  match process.stages session with
  | .inserting request [] insertedIds =>
      some { process.setStage session (request.afterCommit insertedIds) with
        telemetry := fun eventId => (process.telemetry eventId).commit session
        ledger.ownRows := process.ledger.ownRows ++ insertedIds }
  | .evaluating request insertedIds =>
      some (process.setStage session (.counting request insertedIds))
  | _ => none

/-- The counters are updated, with no `await` after the last commit. -/
def count (session : Fin connections) : Option (IngestionProcess connections) :=
  match process.stages session with
  | .counting request insertedIds =>
      let counts := request.counts insertedIds
      some { process.setStage session .idle with
        metrics.inserted := process.metrics.inserted + counts.1
        metrics.duplicates := process.metrics.duplicates + counts.2
        ledger.countedInserted := process.ledger.countedInserted ++ insertedIds
        ledger.countedDuplicate := process.ledger.countedDuplicate ++
          (request.events.map TelemetryEvent.eventId).diff insertedIds }
  | _ => none

/-- A failure before the first commit: nothing of the request is stored. -/
def fail (session : Fin connections) : Option (IngestionProcess connections) :=
  match process.stages session with
  | .received _ => some (process.setStage session .idle)
  | .inserting _ _ _ =>
      some { process.setStage session .idle with
        telemetry := fun eventId => (process.telemetry eventId).rollback session }
  | _ => none

/-- A failure of the rule evaluation of a batch, or of its second commit. -/
def failAfterCommit (session : Fin connections) : Option (IngestionProcess connections) :=
  match process.stages session with
  | .evaluating _ insertedIds =>
      some { process.setStage session .idle with
        ledger.abandoned := process.ledger.abandoned ++ insertedIds }
  | _ => none

/-- A row committed by another process, unless there is one of its id. -/
def otherStores (reading : Telemetry) : Option (IngestionProcess connections) :=
  let cell := process.telemetry reading.eventId
  if cell.pending = none ∧ cell.committed = none then
    some { process with
      telemetry := Function.update process.telemetry reading.eventId
        (Cell.settled (some reading))
      ledger.otherRows := process.ledger.otherRows ++ [reading.eventId] }
  else none

/-- One move, `none` when it is not possible now. -/
def perform : Move connections → Option (IngestionProcess connections)
  | .receive session request => process.receive session request
  | .lookup session => process.lookup session
  | .insertRow session => process.insertRow session
  | .commit session => process.commit session
  | .count session => process.count session
  | .fail session => process.fail session
  | .failAfterCommit session => process.failAfterCommit session
  | .register battery =>
      some { process with batteries := process.batteries.insertIgnore battery }
  | .otherStores reading => process.otherStores reading

end Operations

def Step (before : IngestionProcess connections) (move : Move connections)
    (after : IngestionProcess connections) : Prop :=
  before.perform move = some after

/-- A process that has just started, over what is stored. -/
def start (batteries : Table Battery Battery.batteryId)
    (telemetry : Table Telemetry Telemetry.eventId) : IngestionProcess connections where
  batteries := batteries
  telemetry eventId := Cell.settled (telemetry.lookup eventId)
  stages _ := .idle
  metrics := { received := 0, inserted := 0, duplicates := 0 }
  ledger :=
    { ownRows := []
      otherRows := telemetry.rows.map Telemetry.eventId
      abandoned := []
      countedInserted := []
      countedDuplicate := [] }

/-- No request is in progress. -/
def Quiescent (process : IngestionProcess connections) : Prop :=
  ∀ session, (process.stages session).isIdle = true

instance (process : IngestionProcess connections) : Decidable process.Quiescent :=
  inferInstanceAs (Decidable (∀ session, (process.stages session).isIdle = true))

end IngestionProcess

end VoltStream.Backend
