/-
Module: VoltStream.Simulator.Pipeline
Purpose: `run_simulator` once the fleet is registered: its device tasks, its
  delivery workers and its own phases, switching only where they await.
Trusted boundary: human-reviewed spec of `run_simulator` in `simulator/main.py`,
  `_run_battery` in `simulator/fleet.py`, `DeliveryQueue.drain` in
  `simulator/delivery.py` and of the `asyncio` calls they make
Main exports: PipelineConfig, Device, Main, Pipeline, Pipeline.Move,
  Pipeline.perform, Pipeline.Step, Pipeline.start
-/
import VoltStream.Relational.Run
import VoltStream.Simulator.Delivery

namespace VoltStream.Simulator

open Relational

/-- The settings that shape the pipeline, with what `FleetConfig`,
`BatchAccumulator` and `DeliveryQueue` check of them, and the `max_ticks` of the
call. -/
structure PipelineConfig where
  deviceCount : Nat
  batchSize : Nat
  queueMaxBatches : Nat
  sendWorkers : Nat
  maxTicks : Option Nat
  deviceCountBound : 1 ≤ deviceCount
  batchSizeBound : 1 ≤ batchSize
  queueMaxBatchesBound : 1 ≤ queueMaxBatches
  sendWorkersBound : 1 ≤ sendWorkers

/-- Where a `_run_battery` task is: asleep, with the ticks that it has behind it;
suspended in `submit` with a batch; done; or cancelled, with the batch that it
was handing over or none. -/
inductive Device (ε : Type*) where
  | sleeping (ticks : Nat)
  | submitting (ticks : Nat) (batch : List ε)
  | finished
  | cancelled (unsent : List ε)
deriving Repr, DecidableEq

namespace Device

variable {ε : Type*}

/-- The `while` condition, after this many ticks. -/
def next (maxTicks : Option Nat) (ticks : Nat) : Device ε :=
  match maxTicks with
  | none => .sleeping ticks
  | some limit => if ticks < limit then .sleeping ticks else .finished

def isFinished : Device ε → Bool
  | .finished => true
  | _ => false

/-- The task's `CancelledError`, wherever it is suspended. -/
def cancel : Device ε → Device ε
  | .sleeping _ => .cancelled []
  | .submitting _ batch => .cancelled batch
  | .finished => .finished
  | .cancelled unsent => .cancelled unsent

end Device

/-- Where `run_simulator` is: in `asyncio.wait` over the fleet and the workers; in
the `submit` of the final flush; in `drain`, waiting or in its `sleep(0)`; in its
`finally` block; or ended. -/
inductive Main (ε : Type*) where
  | watching
  | flushing (pending : List ε)
  | draining
  | settling
  | stopping (succeeded : Bool)
  | ended (succeeded : Bool)
deriving Repr, DecidableEq

/-- The shutdown has not begun. -/
def Main.isRunning {ε : Type*} : Main ε → Bool
  | .stopping _ => false
  | .ended _ => false
  | _ => true

structure Pipeline (config : PipelineConfig) (ε : Type*) where
  devices : Fin config.deviceCount → Device ε
  buffer : List ε
  delivery : DeliveryQueue ε config.sendWorkers
  main : Main ε

namespace Pipeline

variable {config : PipelineConfig} {ε : Type*}

/-- What may run next, up to its next `await`: a device makes an event and adds it,
or goes on from a full queue; a worker takes a batch, or its `send` ends; or
`run_simulator` goes on. -/
inductive Move (config : PipelineConfig) (ε : Type*) where
  | tick (device : Fin config.deviceCount) (event : ε)
  | unblock (device : Fin config.deviceCount)
  | take (worker : Fin config.sendWorkers)
  | finish (worker : Fin config.sendWorkers) (outcome : SendOutcome)
  | resume
deriving DecidableEq

section Operations

variable (pipeline : Pipeline config ε)

def setDevice (device : Fin config.deviceCount) (state : Device ε) : Pipeline config ε :=
  { pipeline with devices := Function.update pipeline.devices device state }

/-- `fleet_task` is done: `gather` waits for all devices, and none of them raises. -/
def fleetDone : Bool := ∀ device, (pipeline.devices device).isFinished

/-- A device's turn after its sleep. -/
def tick (device : Fin config.deviceCount) (event : ε) : Option (Pipeline config ε) :=
  match pipeline.devices device with
  | .sleeping ticks =>
      let after := Device.next config.maxTicks (ticks + 1)
      match add config.batchSize event pipeline.buffer with
      | (none, buffer) => some { pipeline.setDevice device after with buffer := buffer }
      | (some batch, buffer) =>
          match pipeline.delivery.submit config.queueMaxBatches batch with
          | (none, delivery) =>
              some { pipeline.setDevice device after with
                buffer := buffer
                delivery := delivery }
          | (some held, delivery) =>
              some { pipeline.setDevice device (.submitting ticks held) with
                buffer := buffer
                delivery := delivery }
  | _ => none

/-- A device suspended in `submit` finds room. -/
def unblock (device : Fin config.deviceCount) : Option (Pipeline config ε) :=
  match pipeline.devices device with
  | .submitting ticks batch =>
      (pipeline.delivery.put config.queueMaxBatches batch).map fun delivery =>
        { pipeline.setDevice device (Device.next config.maxTicks (ticks + 1)) with
          delivery := delivery }
  | _ => none

/-- The `finally` block begins: the fleet is cancelled. -/
def beginStop (succeeded : Bool) : Pipeline config ε :=
  { pipeline with
    devices := fun device => (pipeline.devices device).cancel
    main := .stopping succeeded }

/-- `run_simulator` goes on from where it waits, if what it waits for is there.
`asyncio.wait` returns for the fleet or for a failed worker, and the fleet's end
comes first; `drain` returns from its own for either, then looks for failed
workers. -/
def resume : Option (Pipeline config ε) :=
  match pipeline.main with
  | .watching =>
      if pipeline.fleetDone then
        match flush pipeline.buffer with
        | (none, buffer) => some { pipeline with buffer := buffer, main := .draining }
        | (some pending, buffer) =>
            match pipeline.delivery.submit config.queueMaxBatches pending with
            | (none, delivery) =>
                some { pipeline with buffer := buffer, delivery := delivery, main := .draining }
            | (some held, delivery) =>
                some { pipeline with
                  buffer := buffer
                  delivery := delivery
                  main := .flushing held }
      else if pipeline.delivery.hasFailed then some (pipeline.beginStop false)
      else none
  | .flushing pending =>
      (pipeline.delivery.put config.queueMaxBatches pending).map fun delivery =>
        { pipeline with delivery := delivery, main := .draining }
  | .draining =>
      if pipeline.delivery.unfinishedTasks = 0 ∨ pipeline.delivery.hasFailed then
        some { pipeline with main := .settling }
      else none
  | .settling =>
      some (pipeline.beginStop
        (!pipeline.delivery.hasFailed && pipeline.delivery.unfinishedTasks = 0))
  | .stopping succeeded =>
      some { pipeline with delivery := pipeline.delivery.stop, main := .ended succeeded }
  | .ended _ => none

/-- One move, `none` when it is not possible now. -/
def perform : Move config ε → Option (Pipeline config ε)
  | .tick device event => pipeline.tick device event
  | .unblock device => pipeline.unblock device
  | .take worker =>
      (pipeline.delivery.take worker).map fun delivery => { pipeline with delivery := delivery }
  | .finish worker outcome =>
      (pipeline.delivery.finish worker outcome).map fun delivery =>
        { pipeline with delivery := delivery }
  | .resume => pipeline.resume

end Operations

def Step (before : Pipeline config ε) (move : Move config ε) (after : Pipeline config ε) : Prop :=
  before.perform move = some after

/-- Before the first turn of any task. -/
def start (config : PipelineConfig) : Pipeline config ε where
  devices _ := Device.next config.maxTicks 0
  buffer := []
  delivery := .start
  main := .watching

/-- The events passed to `add` in the course of these moves. -/
def produced (moves : List (Move config ε)) : List ε :=
  moves.filterMap fun
    | .tick _ event => some event
    | _ => none

/-- The number of batches taken from the queue in the course of these moves. -/
def batchesTaken (moves : List (Move config ε)) : Nat :=
  moves.countP fun
    | .take _ => true
    | _ => false

end Pipeline

end VoltStream.Simulator
