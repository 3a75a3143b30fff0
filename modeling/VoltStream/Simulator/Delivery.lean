/-
Module: VoltStream.Simulator.Delivery
Purpose: The middle of the send pipeline: the buffer in which events become
  batches, and the bounded queue from which a few workers send them.
Trusted boundary: human-reviewed spec of `simulator/batching.py` and of
  `DeliveryQueue.submit` and `_work` in `simulator/delivery.py`
Main exports: flush, add, SendOutcome, Worker, DeliveryQueue,
  DeliveryQueue.submit, DeliveryQueue.put, DeliveryQueue.take,
  DeliveryQueue.finish, DeliveryQueue.stop
-/
import Mathlib.Algebra.BigOperators.Group.Finset.Basic
import Mathlib.Data.Fintype.Card

namespace VoltStream.Simulator

section Accumulator

variable {ε : Type*}

/-- `BatchAccumulator.flush` up to its `await`: the batch it hands over, if any,
and the buffer it leaves. -/
def flush : List ε → Option (List ε) × List ε
  | [] => (none, [])
  | buffer => (some buffer, [])

/-- `BatchAccumulator.add` up to its `await`. -/
def add (batchSize : Nat) (event : ε) (buffer : List ε) : Option (List ε) × List ε :=
  let appended := buffer ++ [event]
  if batchSize ≤ appended.length then flush appended else (none, appended)

end Accumulator

/-- How a `send` ends: it returns, it raises `BatchDeliveryError`, or it raises
anything else. -/
inductive SendOutcome where
  | success
  | batchDeliveryError
  | otherError
deriving Repr, DecidableEq

/-- A delivery worker: waiting in `get`, in `send` with a batch, ended by an
error, or cancelled, with the batch that it was sending or none. -/
inductive Worker (ε : Type*) where
  | waiting
  | sending (batch : List ε)
  | failed
  | cancelled (unsent : List ε)
deriving Repr, DecidableEq

namespace Worker

variable {ε : Type*}

/-- The worker has ended with an error. -/
def isFailed : Worker ε → Bool
  | .failed => true
  | _ => false

/-- The task has terminated, or is about to without doing anything more. -/
def isDone : Worker ε → Bool
  | .failed => true
  | .cancelled _ => true
  | _ => false

def isSending : Worker ε → Bool
  | .sending _ => true
  | _ => false

/-- The worker's `CancelledError`, wherever it is suspended. -/
def cancel : Worker ε → Worker ε
  | .waiting => .cancelled []
  | .sending batch => .cancelled batch
  | .failed => .failed
  | .cancelled unsent => .cancelled unsent

end Worker

/-- `DeliveryQueue` with its `asyncio.Queue`; `finished` lists the batches whose
`send` has returned or raised, which the code does not keep. -/
structure DeliveryQueue (ε : Type*) (sendWorkers : Nat) where
  queue : List (List ε)
  workers : Fin sendWorkers → Worker ε
  fullLogged : Bool
  batchesSent : Nat
  batchesDropped : Nat
  blockedSubmissions : Nat
  finished : List (List ε)

namespace DeliveryQueue

variable {ε : Type*} {sendWorkers : Nat}

/-- After `start`. -/
def start : DeliveryQueue ε sendWorkers where
  queue := []
  workers _ := .waiting
  fullLogged := false
  batchesSent := 0
  batchesDropped := 0
  blockedSubmissions := 0
  finished := []

section Operations

variable (delivery : DeliveryQueue ε sendWorkers)

def full (maxBatches : Nat) : Bool := maxBatches ≤ delivery.queue.length

/-- `Queue.put` when it does not have to wait; `none` while the queue is full. -/
def put (maxBatches : Nat) (batch : List ε) : Option (DeliveryQueue ε sendWorkers) :=
  if delivery.full maxBatches then none
  else some { delivery with queue := delivery.queue ++ [batch] }

/-- `submit` up to the point where it returns or waits; then it still holds the
batch. -/
def submit (maxBatches : Nat) (batch : List ε) :
    Option (List ε) × DeliveryQueue ε sendWorkers :=
  match delivery.put maxBatches batch with
  | some after => (none, after)
  | none =>
      (some batch, { delivery with
        blockedSubmissions := delivery.blockedSubmissions + 1
        fullLogged := true })

def setWorker (worker : Fin sendWorkers) (state : Worker ε) : DeliveryQueue ε sendWorkers :=
  { delivery with workers := Function.update delivery.workers worker state }

/-- A waiting worker takes the next batch and begins to send it. -/
def take (worker : Fin sendWorkers) : Option (DeliveryQueue ε sendWorkers) :=
  match delivery.workers worker, delivery.queue with
  | .waiting, batch :: rest =>
      some { delivery.setWorker worker (.sending batch) with
        queue := rest
        fullLogged := delivery.fullLogged && !rest.isEmpty }
  | _, _ => none

/-- The `send` of a worker ends.  `task_done` comes in any case. -/
def finish (worker : Fin sendWorkers) (outcome : SendOutcome) :
    Option (DeliveryQueue ε sendWorkers) :=
  match delivery.workers worker with
  | .sending batch =>
      let delivery := { delivery with finished := delivery.finished ++ [batch] }
      match outcome with
      | .success =>
          some { delivery.setWorker worker .waiting with
            batchesSent := delivery.batchesSent + 1 }
      | .batchDeliveryError =>
          some { delivery.setWorker worker .waiting with
            batchesDropped := delivery.batchesDropped + 1 }
      | .otherError => some (delivery.setWorker worker .failed)
  | _ => none

/-- The number of batches that are being sent. -/
def inFlight : Nat :=
  (Finset.univ.filter fun worker => (delivery.workers worker).isSending).card

/-- The number of workers that have ended with an error. -/
def failures : Nat :=
  (Finset.univ.filter fun worker => (delivery.workers worker).isFailed).card

/-- The batches without their `task_done`. -/
def unfinishedTasks : Nat := delivery.queue.length + delivery.inFlight

/-- Some worker has ended with an error. -/
def hasFailed : Bool := ∃ worker, (delivery.workers worker).isFailed

/-- No worker is left to take a batch. -/
def allDone : Bool := ∀ worker, (delivery.workers worker).isDone

/-- `stop`. -/
def stop : DeliveryQueue ε sendWorkers :=
  { delivery with workers := fun worker => (delivery.workers worker).cancel }

end Operations

end DeliveryQueue

end VoltStream.Simulator
