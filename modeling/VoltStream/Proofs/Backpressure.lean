/-
Module: VoltStream.Proofs.Backpressure
Purpose: Backpressure bounds memory: whatever the schedule and however long the
  backend takes, the events produced and not yet done with are at most what the
  queue, the workers, the devices and one short buffer can hold.
Trusted boundary: none
Main exports: DeliveryQueue.Within, Pipeline.Bounded, Pipeline.bounded_step,
  Pipeline.backlog_bounded
-/
import VoltStream.Proofs.PipelineConservation

namespace VoltStream.Simulator

open Relational

variable {ε : Type*}

/-! ### The queue and its workers -/

namespace DeliveryQueue

variable {sendWorkers maxBatches batchSize : Nat} {delivery after : DeliveryQueue ε sendWorkers}
  {batch : List ε} {worker : Fin sendWorkers}

/-- No more batches are queued than there is room for, and no batch is larger than
the batch size. -/
structure Within (maxBatches batchSize : Nat) (delivery : DeliveryQueue ε sendWorkers) :
    Prop where
  queue : delivery.queue.length ≤ maxBatches
  queued : ∀ batch ∈ delivery.queue, batch.length ≤ batchSize
  workers : ∀ worker, (delivery.workers worker).unsent.length ≤ batchSize

theorem within_enqueue (within : delivery.Within maxBatches batchSize)
    (room : delivery.full maxBatches = false) (small : batch.length ≤ batchSize) :
    ({ delivery with queue := delivery.queue ++ [batch] } :
      DeliveryQueue ε sendWorkers).Within maxBatches batchSize where
  queue := by
    have free : delivery.queue.length < maxBatches := by simpa [full] using room
    simpa using free
  queued := by
    intro other isQueued
    rcases List.mem_append.mp isQueued with earlier | new
    · exact within.queued other earlier
    · rwa [List.mem_singleton.mp new]
  workers := within.workers

theorem within_put (within : delivery.Within maxBatches batchSize)
    (small : batch.length ≤ batchSize) (done : delivery.put maxBatches batch = some after) :
    after.Within maxBatches batchSize := by
  obtain ⟨room, rfl⟩ := put_cases done
  exact within_enqueue within room small

theorem within_submit (within : delivery.Within maxBatches batchSize)
    (small : batch.length ≤ batchSize) {held : Option (List ε)}
    (done : delivery.submit maxBatches batch = (held, after)) :
    after.Within maxBatches batchSize := by
  rcases submit_cases done with ⟨-, room, rfl⟩ | ⟨-, -, rfl⟩
  · exact within_enqueue within room small
  · exact ⟨within.queue, within.queued, within.workers⟩

theorem within_taken (within : delivery.Within maxBatches batchSize)
    (taken : Taken worker batch delivery after) : after.Within maxBatches batchSize := by
  obtain ⟨queue, queued, workers⟩ := within
  rw [taken.queue] at queue queued
  refine ⟨(Nat.le_succ _).trans queue, fun other isQueued => ?_, ?_⟩
  · exact queued other (List.mem_cons_of_mem _ isQueued)
  · rw [taken.workers]
    exact forall_update (fun worker : Worker ε => worker.unsent.length ≤ batchSize) workers
      (queued batch List.mem_cons_self)

theorem within_sent {outcome : SendOutcome} (within : delivery.Within maxBatches batchSize)
    (sent : Sent worker outcome batch delivery after) : after.Within maxBatches batchSize := by
  obtain ⟨queue, queued, workers⟩ := within
  refine ⟨sent.queue ▸ queue, sent.queue ▸ queued, ?_⟩
  rw [sent.workers]
  refine forall_update (fun worker : Worker ε => worker.unsent.length ≤ batchSize) workers ?_
  split <;> exact Nat.zero_le _

theorem within_stop (within : delivery.Within maxBatches batchSize) :
    delivery.stop.Within maxBatches batchSize :=
  ⟨within.queue, within.queued, fun worker =>
    (Worker.unsent_cancel (delivery.workers worker)).symm ▸ within.workers worker⟩

/-- The queue and the workers hold a batch each at most. -/
theorem Within.card_unsent_le (within : delivery.Within maxBatches batchSize) :
    Multiset.card delivery.unsent ≤ (maxBatches + sendWorkers) * batchSize := by
  have queued : delivery.queue.flatten.length ≤ maxBatches * batchSize :=
    (length_flatten_le within.queued).trans (Nat.mul_le_mul_right _ within.queue)
  have sending : ∑ worker, (delivery.workers worker).unsent.length ≤ sendWorkers * batchSize :=
    sum_le_of_forall within.workers
  rw [unsent, Multiset.card_add, Multiset.card_sum, Nat.add_mul]
  exact Nat.add_le_add queued (by simpa using sending)

end DeliveryQueue

/-! ### The whole pipeline -/

namespace Pipeline

variable {config : PipelineConfig} {before after pipeline : Pipeline config ε}
  {move : Move config ε} {moves : List (Move config ε)}

/-- Every task holds a batch at most, and the buffer is short of one, together
with what the final flush holds. -/
structure Bounded (pipeline : Pipeline config ε) : Prop where
  delivery : pipeline.delivery.Within config.queueMaxBatches config.batchSize
  devices : ∀ device, (pipeline.devices device).unsent.length ≤ config.batchSize
  short : pipeline.buffer.length + pipeline.main.held.length < config.batchSize
  flushing : ∀ pending, pipeline.main = .flushing pending → pipeline.fleetDone = true

theorem not_done_of_unfinished {device : Fin config.deviceCount}
    (unfinished : (pipeline.devices device).isFinished = false) : pipeline.fleetDone = false := by
  rw [fleetDone, decide_eq_false_iff_not]
  intro done
  have finished := done device
  rw [unfinished] at finished
  cases finished

/-- While a device is at work the final flush has not begun. -/
theorem Bounded.not_flushing (bounded : pipeline.Bounded) (undone : pipeline.fleetDone = false)
    (pending : List ε) : pipeline.main ≠ .flushing pending := by
  intro phase
  have done := bounded.flushing pending phase
  rw [undone] at done
  cases done

theorem held_of_not_flushing (notFlushing : ∀ pending, pipeline.main ≠ .flushing pending) :
    pipeline.main.held = [] := by
  cases phase : pipeline.main with
  | flushing pending => exact absurd phase (notFlushing pending)
  | watching => rfl
  | draining => rfl
  | settling => rfl
  | stopping succeeded => rfl
  | ended succeeded => rfl

/-- A device that goes on with no batch, or with a batch at most. -/
theorem Bounded.setDevice (bounded : pipeline.Bounded) (device : Fin config.deviceCount)
    {state : Device ε} (small : state.unsent.length ≤ config.batchSize) :
    ∀ other, ((pipeline.setDevice device state).devices other).unsent.length ≤
      config.batchSize :=
  forall_update (fun device : Device ε => device.unsent.length ≤ config.batchSize)
    bounded.devices small

theorem length_unsent_next_le (maxTicks : Option Nat) (ticks bound : Nat) :
    (Device.next maxTicks ticks : Device ε).unsent.length ≤ bound := by
  rw [Device.unsent_next]
  exact Nat.zero_le _

/-- The shutdown moves no event. -/
theorem Bounded.beginStop (bounded : pipeline.Bounded) (succeeded : Bool) :
    (pipeline.beginStop succeeded).Bounded where
  delivery := bounded.delivery
  devices device := by
    change (pipeline.devices device).cancel.unsent.length ≤ config.batchSize
    rw [Device.unsent_cancel]
    exact bounded.devices device
  short := (Nat.le_add_right _ _).trans_lt bounded.short
  flushing _ := nofun

theorem bounded_step (bounded : before.Bounded) (transition : Transition before move after) :
    after.Bounded := by
  have least := config.batchSizeBound
  cases transition with
  | @buffered device event ticks asleep room =>
      have undone := not_done_of_unfinished (by rw [asleep]; rfl)
      have nothing := held_of_not_flushing (bounded.not_flushing undone)
      refine ⟨bounded.delivery, ?_, ?_, fun pending phase => ?_⟩
      · exact bounded.setDevice device (length_unsent_next_le ..)
      · change (before.buffer ++ [event]).length + before.main.held.length < config.batchSize
        rw [nothing, List.length_append]
        exact room
      · exact absurd phase (bounded.not_flushing undone pending)
  | @handedOver device event ticks held delivery state asleep complete submitted goesOn waits =>
      have undone := not_done_of_unfinished (by rw [asleep]; rfl)
      have nothing := held_of_not_flushing (bounded.not_flushing undone)
      have short := bounded.short
      have small : (before.buffer ++ [event]).length ≤ config.batchSize := by
        rw [List.length_append, List.length_singleton]
        omega
      refine ⟨DeliveryQueue.within_submit bounded.delivery small submitted, ?_, ?_,
        fun pending phase => ?_⟩
      · apply bounded.setDevice device
        rcases DeliveryQueue.submit_cases submitted with ⟨rfl, -, -⟩ | ⟨rfl, -, -⟩
        · rw [goesOn rfl]
          exact length_unsent_next_le ..
        · rw [waits _ rfl]
          exact small
      · change ([] : List ε).length + before.main.held.length < config.batchSize
        rw [nothing]
        exact least
      · exact absurd phase (bounded.not_flushing undone pending)
  | @unblocked device ticks batch delivery suspended room =>
      have undone := not_done_of_unfinished (by rw [suspended]; rfl)
      have small : batch.length ≤ config.batchSize := by
        have held := bounded.devices device
        rwa [suspended] at held
      refine ⟨DeliveryQueue.within_put bounded.delivery small room, ?_, bounded.short,
        fun pending phase => ?_⟩
      · exact bounded.setDevice device (length_unsent_next_le ..)
      · exact absurd phase (bounded.not_flushing undone pending)
  | taken takes =>
      exact ⟨DeliveryQueue.within_taken bounded.delivery takes, bounded.devices, bounded.short,
        bounded.flushing⟩
  | sent ends =>
      exact ⟨DeliveryQueue.within_sent bounded.delivery ends, bounded.devices, bounded.short,
        bounded.flushing⟩
  | fleetEnded => exact ⟨bounded.delivery, bounded.devices, least, fun _ => nofun⟩
  | @lastFlush held delivery state watching done pending submitted goesOn waits =>
      have short := bounded.short
      have small : before.buffer.length ≤ config.batchSize := by omega
      refine ⟨DeliveryQueue.within_submit bounded.delivery small submitted, bounded.devices, ?_,
        fun _ _ => done⟩
      change ([] : List ε).length + state.held.length < config.batchSize
      rcases DeliveryQueue.submit_cases submitted with ⟨rfl, -, -⟩ | ⟨rfl, -, -⟩
      · rw [goesOn rfl]
        exact least
      · rw [waits _ rfl, List.length_nil, Nat.zero_add]
        exact (Nat.le_add_right _ _).trans_lt short
  | aborted => exact bounded.beginStop _
  | @flushed pending delivery suspended room =>
      have short := bounded.short
      have small : pending.length ≤ config.batchSize := by
        rw [suspended] at short
        exact (Nat.le_add_left _ _).trans short.le
      exact ⟨DeliveryQueue.within_put bounded.delivery small room, bounded.devices,
        (Nat.le_add_right _ _).trans_lt short, fun _ => nofun⟩
  | settled =>
      exact ⟨bounded.delivery, bounded.devices, (Nat.le_add_right _ _).trans_lt bounded.short,
        fun _ => nofun⟩
  | drained => exact bounded.beginStop _
  | stopped =>
      exact ⟨DeliveryQueue.within_stop bounded.delivery, bounded.devices,
        (Nat.le_add_right _ _).trans_lt bounded.short, fun _ => nofun⟩

theorem bounded_start : (start config : Pipeline config ε).Bounded where
  delivery := ⟨Nat.zero_le _, fun _ impossible => absurd impossible List.not_mem_nil,
    fun _ => Nat.zero_le _⟩
  devices _ := length_unsent_next_le ..
  short := config.batchSizeBound
  flushing _ := nofun

theorem bounded_of_run (run : Trace Step (start config) moves pipeline) : pipeline.Bounded :=
  run.invariant (fun _ => Bounded) bounded_start fun _ _ _ _ bounded step =>
    bounded_step bounded (transition_of_step step)

/-- A bounded pipeline holds a batch for each place in the queue, for each worker
and for each device, and one event less than a batch. -/
theorem Bounded.card_unsent_le (bounded : pipeline.Bounded) :
    Multiset.card pipeline.unsent ≤
      config.batchSize * (config.queueMaxBatches + config.sendWorkers + config.deviceCount) +
        config.batchSize - 1 := by
  have devices : ∑ device, (pipeline.devices device).unsent.length ≤
      config.deviceCount * config.batchSize := sum_le_of_forall bounded.devices
  have delivery := bounded.delivery.card_unsent_le
  have short := bounded.short
  have counted : Multiset.card pipeline.unsent = pipeline.buffer.length +
      (∑ device, (pipeline.devices device).unsent.length) + pipeline.main.held.length +
        Multiset.card pipeline.delivery.unsent := by
    simp [unsent, Multiset.card_sum]
  have shared : config.batchSize *
      (config.queueMaxBatches + config.sendWorkers + config.deviceCount) =
        (config.queueMaxBatches + config.sendWorkers) * config.batchSize +
          config.deviceCount * config.batchSize := by
    ring
  rw [counted, shared]
  omega

/-- At every moment of every run, the shutdown included, the events produced
exceed those of the finished batches by no more than the places for them. -/
theorem backlog_bounded (run : Trace Step (start config) moves pipeline) :
    (produced moves).length ≤ pipeline.delivery.finished.flatten.length +
      (config.batchSize * (config.queueMaxBatches + config.sendWorkers + config.deviceCount) +
        config.batchSize - 1) := by
  have all := congrArg Multiset.card (conserved run)
  rw [contents_eq, Multiset.card_add, Multiset.coe_card, Multiset.coe_card] at all
  have most := (bounded_of_run run).card_unsent_le
  omega

/-- A worker that never gets an answer, a full queue, and a device with a batch. -/
theorem sample_backlog_bounded :
    ∃ pipeline, play perform sampleMoves (start sampleConfig) = some pipeline ∧
      5 ≤ pipeline.delivery.finished.flatten.length + (2 * (1 + 1 + 1) + 2 - 1) := by
  have played : (play perform sampleMoves (start sampleConfig)).isSome = true := by
    decide +kernel
  obtain ⟨pipeline, reached⟩ := Option.isSome_iff_exists.mp played
  exact ⟨pipeline, reached, backlog_bounded (trace_of_play perform reached)⟩

end Pipeline

end VoltStream.Simulator
