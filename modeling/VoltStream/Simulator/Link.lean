/-
Module: VoltStream.Simulator.Link
Purpose: Any number of `send_batch` calls and the backend's batch endpoint with
  an unreliable link between them: POSTs and replies may be lost, delayed or
  overtaken, and a request may fail before or after its first commit.
Trusted boundary: human-reviewed spec of `simulator/client.py` and of the
  telemetry statements and commits of `ingest_telemetry_batch`
Main exports: Attempt, Processing, Link, Link.Move, Link.perform, Link.Step,
  Link.start
-/
import VoltStream.Relational.ReadCommitted
import VoltStream.Relational.Run
import VoltStream.Backend.Ingestion
import VoltStream.Simulator.Client

namespace VoltStream.Simulator

open Relational Backend

/-- One POST of a call. -/
structure Attempt where
  call : Nat
  number : Nat
deriving Repr, DecidableEq

/-- The database session that serves the attempt. -/
def Attempt.session (attempt : Attempt) : SessionId := Nat.pair attempt.call attempt.number

/-- How far the backend is with a request.  The multi-row
`INSERT ... ON CONFLICT DO NOTHING` takes its rows in order; everything else in
front of the first commit, and the whole rule pass after it, leaves telemetry
alone and can only delay or fail the request. -/
inductive Processing where
  | unsent
  | sent
  | inserting (todo : List TelemetryEvent) (insertedIds : List Uuid)
  | stored (insertedIds : List Uuid)
  | answered (reply : Reply)
deriving DecidableEq

/-- The telemetry table as cells, the requests and the calls. -/
structure Link where
  batteries : Table Battery Battery.batteryId
  telemetry : Uuid → Cell Telemetry
  requests : Attempt → Processing
  calls : Nat → Call

namespace Link

/-- What may happen next: a call POSTs, its POST ends without an answer, an
answer arrives, a request is served for one statement, or it fails with a
status. -/
inductive Move where
  | post (call : Nat)
  | error (call : Nat) (error : HttpError)
  | deliver (call : Nat)
  | serve (attempt : Attempt)
  | fail (attempt : Attempt) (code : Nat)
deriving Repr, DecidableEq

def setCall (call : Nat) (state : Call) (link : Link) : Link :=
  { link with calls := Function.update link.calls call state }

def setRequest (attempt : Attempt) (state : Processing) (link : Link) : Link :=
  { link with requests := Function.update link.requests attempt state }

/-- One row of the insert; `none` while another session holds the row. -/
def insertRow (attempt : Attempt) (event : TelemetryEvent) (todo : List TelemetryEvent)
    (insertedIds : List Uuid) (link : Link) : Option Link :=
  let cell := link.telemetry event.eventId
  if cell.lockedAgainst attempt.session then none
  else
    match cell.view attempt.session with
    | some _ => some (link.setRequest attempt (.inserting todo insertedIds))
    | none =>
        some ({ link with
          telemetry := Function.update link.telemetry event.eventId
            (cell.write attempt.session event.toTelemetry) }.setRequest attempt
              (.inserting todo (insertedIds ++ [event.eventId])))

/-- The next statement of a request. -/
def serve (batch : Nat → List TelemetryEvent) (attempt : Attempt) (link : Link) : Option Link :=
  match link.requests attempt with
  | .unsent => none
  | .sent =>
      if missingIds link.batteries (batch attempt.call) ≠ [] then
        some (link.setRequest attempt (.answered (.status 404)))
      else some (link.setRequest attempt (.inserting (batch attempt.call) []))
  | .inserting (event :: todo) insertedIds => link.insertRow attempt event todo insertedIds
  | .inserting [] insertedIds =>
      some ({ link with
        telemetry := fun eventId => (link.telemetry eventId).commit attempt.session }.setRequest
          attempt (.stored insertedIds))
  | .stored insertedIds =>
      let received := (batch attempt.call).length
      some (link.setRequest attempt (.answered (.accepted
        { received := received
          inserted := insertedIds.length
          duplicates := received - insertedIds.length })))
  | .answered _ => none

/-- The request ends with an error status; an open transaction is rolled back. -/
def fail (attempt : Attempt) (code : Nat) (link : Link) : Option Link :=
  match link.requests attempt with
  | .unsent => none
  | .answered _ => none
  | _ =>
      some ({ link with
        telemetry := fun eventId => (link.telemetry eventId).rollback attempt.session }.setRequest
          attempt (.answered (.status code)))

/-- One move, `none` when it is not possible now.  A POST that ends without an
answer may still be served later. -/
def perform (policy : RetryPolicy) (batch : Nat → List TelemetryEvent) (link : Link) :
    Move → Option Link
  | .post call =>
      match link.calls call with
      | .ready number =>
          if batch call = [] then some (link.setCall call (.returned emptyResult))
          else
            some ((link.setCall call (.awaiting number)).setRequest
              { call := call, number := number } .sent)
      | _ => none
  | .error call error =>
      match link.calls call with
      | .awaiting number =>
          some (link.setCall call (Call.afterError policy (batch call).length number error))
      | _ => none
  | .deliver call =>
      match link.calls call with
      | .awaiting number =>
          match link.requests { call := call, number := number } with
          | .answered reply =>
              some (link.setCall call (Call.afterReply policy (batch call).length number reply))
          | _ => none
      | _ => none
  | .serve attempt => link.serve batch attempt
  | .fail attempt code => link.fail attempt code

def Step (policy : RetryPolicy) (batch : Nat → List TelemetryEvent) (before : Link) (move : Move)
    (after : Link) : Prop :=
  before.perform policy batch move = some after

/-- Before the first POST, over what telemetry has stored already. -/
def start (batteries : Table Battery Battery.batteryId)
    (telemetry : Table Telemetry Telemetry.eventId) : Link where
  batteries := batteries
  telemetry eventId := Cell.settled (telemetry.lookup eventId)
  requests _ := .unsent
  calls _ := .start

/-- The row is committed in telemetry, under this primary key. -/
def Stores (link : Link) (eventId : Uuid) (row : Telemetry) : Prop :=
  (link.telemetry eventId).committed = some row

end Link

end VoltStream.Simulator
