/-
Module: VoltStream.Simulator.Drain
Purpose: A started delivery queue with the submissions to it and the caller of `drain`:
  what may run next on the event loop, up to its next `await`.
Trusted boundary: human-reviewed spec of `DeliveryQueue.drain` in
  `simulator/delivery.py`, and that it is called after every `submit` has returned
Main exports: DrainError, DrainState, Draining, Draining.Move, Draining.resume,
  Draining.perform
-/
import VoltStream.Simulator.Delivery

namespace VoltStream.Simulator

/-- What `drain` raises: the error of a worker, or its own `RuntimeError`. -/
inductive DrainError where
  | workerError
  | stoppedBeforeDrained
deriving Repr, DecidableEq

/-- Where the caller of `drain` is: before the call; in its `asyncio.wait`; in its
`sleep(0)`; or through with it. -/
inductive DrainState where
  | notCalled
  | waiting
  | settling
  | returned
  | raised (error : DrainError)
deriving Repr, DecidableEq

/-- Some worker's task is done. -/
def DeliveryQueue.someDone {ε : Type*} {sendWorkers : Nat}
    (delivery : DeliveryQueue ε sendWorkers) : Bool :=
  ∃ worker, (delivery.workers worker).isDone

/-- The queue; the batches whose `submit` waits for room; the caller of `drain`; and
whether the `joined` future of its `queue.join()` is done. -/
structure Draining (ε : Type*) (sendWorkers : Nat) where
  delivery : DeliveryQueue ε sendWorkers
  blocked : List (List ε)
  drain : DrainState
  joined : Bool

namespace Draining

variable {ε : Type*} {sendWorkers : Nat}

/-- What may run next: a `submit`, or a suspended one that finds room; a worker takes a
batch, or its `send` ends; the task of `queue.join()`; or the caller of `drain`. -/
inductive Move (ε : Type*) (sendWorkers : Nat) where
  | submit (batch : List ε)
  | unblock (position : Nat)
  | take (worker : Fin sendWorkers)
  | finish (worker : Fin sendWorkers) (outcome : SendOutcome)
  | join
  | resume
deriving DecidableEq

section Operations

variable (maxBatches : Nat) (session : Draining ε sendWorkers)

/-- The caller of `drain` goes on from where it waits, if what it waits for is there.
It looks for failed workers before it looks at `joined`. -/
def resume : Option (Draining ε sendWorkers) :=
  match session.drain with
  | .notCalled =>
      if session.blocked = [] then some { session with drain := .waiting } else none
  | .waiting =>
      if session.joined || session.delivery.someDone then
        some { session with drain := .settling }
      else none
  | .settling =>
      if session.delivery.hasFailed then
        some { session with drain := .raised .workerError }
      else if !session.joined then
        some { session with drain := .raised .stoppedBeforeDrained }
      else some { session with drain := .returned }
  | .returned => none
  | .raised _ => none

/-- `queue.join()` ends once every batch has its `task_done`; its task lives as long as
the call of `drain`. -/
def join : Option (Draining ε sendWorkers) :=
  if session.drain = .waiting ∨ session.drain = .settling then
    if session.delivery.unfinishedTasks = 0 then some { session with joined := true } else none
  else none

/-- A new submission; there are none once `drain` is called. -/
def submit (batch : List ε) : Option (Draining ε sendWorkers) :=
  match session.drain with
  | .notCalled =>
      let submitted := session.delivery.submit maxBatches batch
      some { session with
        delivery := submitted.2
        blocked := session.blocked ++ submitted.1.toList }
  | _ => none

/-- A suspended submission finds room. -/
def unblock (position : Nat) : Option (Draining ε sendWorkers) :=
  match session.blocked[position]? with
  | some batch =>
      (session.delivery.put maxBatches batch).map fun delivery =>
        { session with delivery := delivery, blocked := session.blocked.eraseIdx position }
  | none => none

/-- One move, `none` when it is not possible now. -/
def perform : Move ε sendWorkers → Option (Draining ε sendWorkers)
  | .submit batch => session.submit maxBatches batch
  | .unblock position => session.unblock maxBatches position
  | .take worker =>
      (session.delivery.take worker).map fun delivery => { session with delivery := delivery }
  | .finish worker outcome =>
      (session.delivery.finish worker outcome).map fun delivery =>
        { session with delivery := delivery }
  | .join => session.join
  | .resume => session.resume

end Operations

def Step (maxBatches : Nat) (before : Draining ε sendWorkers) (move : Move ε sendWorkers)
    (after : Draining ε sendWorkers) : Prop :=
  before.perform maxBatches move = some after

/-- After `start`. -/
def start : Draining ε sendWorkers where
  delivery := .start
  blocked := []
  drain := .notCalled
  joined := false

/-- The batches submitted in the course of these moves. -/
def submitted (moves : List (Move ε sendWorkers)) : List (List ε) :=
  moves.filterMap fun
    | .submit batch => some batch
    | _ => none

/-- The number of turns of the caller of `drain` in the course of these moves. -/
def drainTurns (moves : List (Move ε sendWorkers)) : Nat :=
  moves.countP fun
    | .resume => true
    | _ => false

end Draining

end VoltStream.Simulator
