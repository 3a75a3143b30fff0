/-
Module: VoltStream.Proofs.PipelineConservation
Purpose: The send pipeline neither loses nor duplicates events: whatever the
  interleaving and the outcomes, what has been produced is, event for event,
  what the buffer, the tasks, the queue and the finished batches hold.
Trusted boundary: none
Main exports: Pipeline.contents, Pipeline.conserved, Pipeline.Live,
  Pipeline.nothing_lost_or_duplicated
-/
import VoltStream.Relational.Family
import VoltStream.Proofs.PipelineSteps

namespace VoltStream.Simulator

open Relational

variable {ε : Type*}

/-! ### Where the events are -/

/-- The batch that a suspended `submit` of the device holds. -/
def Device.held : Device ε → List ε
  | .submitting _ batch => batch
  | _ => []

/-- The batch that the worker is sending. -/
def Worker.inHand : Worker ε → List ε
  | .sending batch => batch
  | _ => []

/-- The batch that the suspended `submit` of the final flush holds. -/
def Main.held : Main ε → List ε
  | .flushing pending => pending
  | _ => []

/-- What the device holds, or held when it was cancelled. -/
def Device.unsent : Device ε → List ε
  | .submitting _ batch => batch
  | .cancelled unsent => unsent
  | _ => []

/-- What the worker is sending, or was sending when it was cancelled. -/
def Worker.unsent : Worker ε → List ε
  | .sending batch => batch
  | .cancelled unsent => unsent
  | _ => []

/-- The device has not been cancelled with a batch. -/
def Device.Alive (device : Device ε) : Prop := device.unsent = device.held

/-- The worker has not been cancelled with a batch. -/
def Worker.Alive (worker : Worker ε) : Prop := worker.unsent = worker.inHand

@[simp] theorem Device.unsent_next (maxTicks : Option Nat) (ticks : Nat) :
    (Device.next maxTicks ticks : Device ε).unsent = [] := by
  unfold Device.next
  split
  · rfl
  · split <;> rfl

theorem Device.alive_next (maxTicks : Option Nat) (ticks : Nat) :
    (Device.next maxTicks ticks : Device ε).Alive := by
  unfold Device.next
  split
  · rfl
  · split <;> rfl

@[simp] theorem Device.unsent_cancel (device : Device ε) :
    device.cancel.unsent = device.unsent := by
  cases device <;> rfl

@[simp] theorem Worker.unsent_cancel (worker : Worker ε) :
    worker.cancel.unsent = worker.unsent := by
  cases worker <;> rfl

/-! ### The queue -/

namespace DeliveryQueue

variable {sendWorkers maxBatches : Nat} {delivery after : DeliveryQueue ε sendWorkers}
  {batch : List ε} {worker : Fin sendWorkers}

/-- The events of the batches whose `send` has not ended. -/
def unsent (delivery : DeliveryQueue ε sendWorkers) : Multiset ε :=
  delivery.queue.flatten + ∑ worker, ((delivery.workers worker).unsent : Multiset ε)

/-- All events that were ever put into the queue. -/
def contents (delivery : DeliveryQueue ε sendWorkers) : Multiset ε :=
  delivery.unsent + delivery.finished.flatten

/-- The batches taken from the queue, by what has become of them. -/
def accounted (delivery : DeliveryQueue ε sendWorkers) : Nat :=
  delivery.batchesSent + delivery.batchesDropped + delivery.inFlight + delivery.failures

theorem contents_enqueue (delivery : DeliveryQueue ε sendWorkers) (batch : List ε) :
    ({ delivery with queue := delivery.queue ++ [batch] } : DeliveryQueue ε sendWorkers).contents =
      delivery.contents + batch := by
  simp only [contents, unsent, List.flatten_append, List.flatten_singleton,
    ← Multiset.coe_add]
  abel

theorem contents_put (done : delivery.put maxBatches batch = some after) :
    after.contents = delivery.contents + batch := by
  obtain ⟨-, rfl⟩ := put_cases done
  exact contents_enqueue delivery batch

theorem contents_submit {held : Option (List ε)}
    (done : delivery.submit maxBatches batch = (held, after)) :
    after.contents + (held.getD [] : List ε) = delivery.contents + batch := by
  rcases submit_cases done with ⟨rfl, -, rfl⟩ | ⟨rfl, -, rfl⟩
  · rw [contents_enqueue]
    exact add_zero _
  · rfl

/-- How the change of one worker shows in a total over the workers. -/
theorem total_workers {M : Type*} [AddCommMonoid M] (weight : Worker ε → M) {state : Worker ε}
    (changed : after.workers = Function.update delivery.workers worker state) :
    (∑ worker, weight (after.workers worker)) + weight (delivery.workers worker) =
      (∑ worker, weight (delivery.workers worker)) + weight state := by
  rw [changed]
  exact sum_update weight delivery.workers worker state

theorem contents_taken (taken : Taken worker batch delivery after) :
    after.contents = delivery.contents := by
  have moved := total_workers (fun worker => (worker.unsent : Multiset ε)) taken.workers
  have idle : (delivery.workers worker).unsent = [] := by rw [taken.waiting]; rfl
  have busy : (Worker.sending batch).unsent = batch := rfl
  rw [idle, busy, Multiset.coe_nil, add_zero] at moved
  simp only [contents, unsent, taken.queue, taken.finished, List.flatten_cons,
    ← Multiset.coe_add, moved]
  abel

theorem contents_sent {outcome : SendOutcome} (sent : Sent worker outcome batch delivery after) :
    after.contents = delivery.contents := by
  have moved := total_workers (fun worker => (worker.unsent : Multiset ε)) sent.workers
  have busy : (delivery.workers worker).unsent = batch := by rw [sent.sending]; rfl
  have idle : (if outcome = .otherError then .failed else .waiting : Worker ε).unsent = [] := by
    split <;> rfl
  rw [busy, idle, Multiset.coe_nil, add_zero] at moved
  simp only [contents, unsent, sent.queue, sent.finished, List.flatten_append,
    List.flatten_singleton, ← Multiset.coe_add, ← moved]
  abel

theorem contents_stop (delivery : DeliveryQueue ε sendWorkers) :
    delivery.stop.contents = delivery.contents := by
  simp only [contents, unsent, stop, Worker.unsent_cancel]

/-! #### The counters -/

theorem inFlight_eq_sum (delivery : DeliveryQueue ε sendWorkers) :
    delivery.inFlight = ∑ worker, if (delivery.workers worker).isSending then 1 else 0 :=
  Finset.card_filter ..

theorem failures_eq_sum (delivery : DeliveryQueue ε sendWorkers) :
    delivery.failures = ∑ worker, if (delivery.workers worker).isFailed then 1 else 0 :=
  Finset.card_filter ..

theorem accounted_put (done : delivery.put maxBatches batch = some after) :
    after.accounted = delivery.accounted := by
  obtain ⟨-, rfl⟩ := put_cases done
  rfl

theorem accounted_submit {held : Option (List ε)}
    (done : delivery.submit maxBatches batch = (held, after)) :
    after.accounted = delivery.accounted := by
  rcases submit_cases done with ⟨-, -, rfl⟩ | ⟨-, -, rfl⟩ <;> rfl

theorem accounted_taken (taken : Taken worker batch delivery after) :
    after.accounted = delivery.accounted + 1 := by
  have sending := total_workers (fun worker => if worker.isSending then 1 else 0) taken.workers
  have failing := total_workers (fun worker => if worker.isFailed then 1 else 0) taken.workers
  rw [taken.waiting, ← inFlight_eq_sum, ← inFlight_eq_sum] at sending
  rw [taken.waiting, ← failures_eq_sum, ← failures_eq_sum] at failing
  rw [accounted, accounted, taken.batchesSent, taken.batchesDropped]
  simp [Worker.isSending, Worker.isFailed] at sending failing
  omega

theorem accounted_sent {outcome : SendOutcome} (sent : Sent worker outcome batch delivery after) :
    after.accounted = delivery.accounted := by
  have sending := total_workers (fun worker => if worker.isSending then 1 else 0) sent.workers
  have failing := total_workers (fun worker => if worker.isFailed then 1 else 0) sent.workers
  have counters := sent.counters
  rw [sent.sending, ← inFlight_eq_sum, ← inFlight_eq_sum] at sending
  rw [sent.sending, ← failures_eq_sum, ← failures_eq_sum] at failing
  unfold accounted
  by_cases other : outcome = .otherError
  · simp [other, Worker.isSending, Worker.isFailed] at sending failing counters
    omega
  · simp [other, Worker.isSending, Worker.isFailed] at sending failing counters
    omega

end DeliveryQueue

/-! ### The whole pipeline -/

namespace Pipeline

variable {config : PipelineConfig} {before after pipeline : Pipeline config ε}
  {move : Move config ε} {moves : List (Move config ε)}

/-- The events that have been produced and whose `send` has not ended. -/
def unsent (pipeline : Pipeline config ε) : Multiset ε :=
  pipeline.buffer + ∑ device, ((pipeline.devices device).unsent : Multiset ε) +
    pipeline.main.held + pipeline.delivery.unsent

/-- All events that the pipeline has seen. -/
def contents (pipeline : Pipeline config ε) : Multiset ε :=
  pipeline.buffer + ∑ device, ((pipeline.devices device).unsent : Multiset ε) +
    pipeline.main.held + pipeline.delivery.contents

theorem contents_eq (pipeline : Pipeline config ε) :
    pipeline.contents = pipeline.unsent + pipeline.delivery.finished.flatten := by
  simp only [contents, unsent, DeliveryQueue.contents, add_assoc]

/-- How the change of one device shows in the total over the devices. -/
theorem unsent_setDevice (pipeline : Pipeline config ε) (device : Fin config.deviceCount)
    (state : Device ε) :
    (∑ other, (((pipeline.setDevice device state).devices other).unsent : Multiset ε)) +
        ((pipeline.devices device).unsent : Multiset ε) =
      (∑ other, ((pipeline.devices other).unsent : Multiset ε)) + (state.unsent : Multiset ε) :=
  sum_update (fun device : Device ε => (device.unsent : Multiset ε)) ..

theorem contents_beginStop (pipeline : Pipeline config ε) (succeeded : Bool)
    (none : pipeline.main.held = []) :
    (pipeline.beginStop succeeded).contents = pipeline.contents := by
  simp only [contents, beginStop, Device.unsent_cancel, none]
  rfl

theorem unsent_of_submission {held : Option (List ε)} {state : Device ε} {next : Device ε}
    {ticks : Nat} (idle : next.unsent = []) (goesOn : held = none → state = next)
    (waits : ∀ batch, held = some batch → state = .submitting ticks batch) :
    state.unsent = held.getD [] := by
  cases held with
  | none => rw [goesOn rfl, idle]; rfl
  | some batch => rw [waits batch rfl]; rfl

theorem held_of_submission {held : Option (List ε)} {state : Main ε}
    (goesOn : held = none → state = .draining)
    (waits : ∀ batch, held = some batch → state = .flushing batch) :
    state.held = held.getD [] := by
  cases held with
  | none => rw [goesOn rfl]; rfl
  | some batch => rw [waits batch rfl]; rfl

/-- One turn moves events on; the only new one is the one it produces. -/
theorem conserved_step (transition : Transition before move after) :
    after.contents = before.contents + (produced [move] : Multiset ε) := by
  cases transition with
  | @buffered device event ticks asleep short =>
      have moved := before.unsent_setDevice device (Device.next config.maxTicks (ticks + 1))
      have idle : (before.devices device).unsent = [] := by rw [asleep]; rfl
      rw [idle, Device.unsent_next, Multiset.coe_nil, add_zero, add_zero] at moved
      change ((before.buffer ++ [event] : List ε) : Multiset ε) + _ + before.main.held +
        before.delivery.contents = before.contents + ([event] : List ε)
      rw [moved, contents, ← Multiset.coe_add]
      abel
  | @handedOver device event ticks held delivery state asleep complete submitted goesOn waits =>
      have moved := before.unsent_setDevice device state
      have idle : (before.devices device).unsent = [] := by rw [asleep]; rfl
      rw [idle, unsent_of_submission (Device.unsent_next _ _) goesOn waits, Multiset.coe_nil,
        add_zero] at moved
      have queued := DeliveryQueue.contents_submit submitted
      rw [← Multiset.coe_add] at queued
      change (0 : Multiset ε) + _ + before.main.held + delivery.contents =
        before.contents + ([event] : List ε)
      calc (0 : Multiset ε) + _ + before.main.held + delivery.contents
          = (∑ other, ((before.devices other).unsent : Multiset ε)) + before.main.held +
              (delivery.contents + (held.getD [] : List ε)) := by rw [moved]; abel
        _ = before.contents + ([event] : List ε) := by rw [queued, contents]; abel
  | @unblocked device ticks batch delivery suspended room =>
      have moved := before.unsent_setDevice device (Device.next config.maxTicks (ticks + 1))
      have holds : (before.devices device).unsent = batch := by rw [suspended]; rfl
      rw [holds, Device.unsent_next, Multiset.coe_nil, add_zero] at moved
      change (before.buffer : Multiset ε) + _ + before.main.held + delivery.contents =
        before.contents + (0 : Multiset ε)
      rw [DeliveryQueue.contents_put room, contents, ← moved]
      abel
  | taken takes =>
      change (before.buffer : Multiset ε) + _ + _ + _ = before.contents + (0 : Multiset ε)
      rw [DeliveryQueue.contents_taken takes, contents, add_zero]
  | sent ends =>
      change (before.buffer : Multiset ε) + _ + _ + _ = before.contents + (0 : Multiset ε)
      rw [DeliveryQueue.contents_sent ends, contents, add_zero]
  | fleetEnded watching done empty =>
      change (0 : Multiset ε) + _ + (0 : Multiset ε) + _ = before.contents + (0 : Multiset ε)
      have nothing : before.main.held = [] := by rw [watching]; rfl
      rw [contents, empty, nothing, Multiset.coe_nil]
      abel
  | @lastFlush held delivery state watching done pending submitted goesOn waits =>
      have queued := DeliveryQueue.contents_submit submitted
      change (0 : Multiset ε) + _ + (state.held : Multiset ε) + delivery.contents =
        before.contents + (0 : Multiset ε)
      rw [held_of_submission goesOn waits, contents, watching]
      calc (0 : Multiset ε) + (∑ other, ((before.devices other).unsent : Multiset ε)) +
              (held.getD [] : List ε) + delivery.contents
          = (∑ other, ((before.devices other).unsent : Multiset ε)) +
              (delivery.contents + (held.getD [] : List ε)) := by abel
        _ = before.buffer + (∑ other, ((before.devices other).unsent : Multiset ε)) +
              (0 : Multiset ε) + before.delivery.contents + 0 := by rw [queued]; abel
  | aborted watching undone failed =>
      rw [contents_beginStop _ _ (by rw [watching]; rfl)]
      exact (add_zero _).symm
  | @flushed pending delivery suspended room =>
      change (before.buffer : Multiset ε) + _ + (0 : Multiset ε) + delivery.contents =
        before.contents + (0 : Multiset ε)
      have holds : before.main.held = pending := by rw [suspended]; rfl
      rw [DeliveryQueue.contents_put room, contents, holds]
      abel
  | settled draining ready =>
      change (before.buffer : Multiset ε) + _ + (0 : Multiset ε) + _ =
        before.contents + (0 : Multiset ε)
      have nothing : before.main.held = [] := by rw [draining]; rfl
      rw [contents, nothing, Multiset.coe_nil, add_zero, add_zero]
  | drained settling =>
      rw [contents_beginStop _ _ (by rw [settling]; rfl)]
      exact (add_zero _).symm
  | stopped stopping =>
      change (before.buffer : Multiset ε) + _ + (0 : Multiset ε) + _ =
        before.contents + (0 : Multiset ε)
      have nothing : before.main.held = [] := by rw [stopping]; rfl
      rw [DeliveryQueue.contents_stop, contents, nothing, Multiset.coe_nil, add_zero, add_zero]

theorem produced_concat (moves : List (Move config ε)) (move : Move config ε) :
    produced (moves ++ [move]) = produced moves ++ produced [move] :=
  List.filterMap_append

/-- What has been produced is what the pipeline has in all its places. -/
theorem conserved (run : Trace Step (start config) moves pipeline) :
    (produced moves : Multiset ε) = pipeline.contents := by
  apply run.invariant fun moves pipeline => (produced moves : Multiset ε) = pipeline.contents
  · simp [produced, contents, start, DeliveryQueue.contents, DeliveryQueue.unsent,
      DeliveryQueue.start, Main.held, Worker.unsent]
  · intro moves state move after same step
    rw [produced_concat, ← Multiset.coe_add, same, conserved_step (transition_of_step step)]

/-! ### Up to the shutdown -/

/-- Every task is alive, the buffer is short of a batch, and every batch taken is
accounted for. -/
structure Live (moves : List (Move config ε)) (pipeline : Pipeline config ε) : Prop where
  buffer : pipeline.buffer.length < config.batchSize
  devices : pipeline.main.isRunning = true → ∀ device, (pipeline.devices device).Alive
  workers : pipeline.main.isRunning = true → ∀ worker, (pipeline.delivery.workers worker).Alive
  taken : pipeline.main.isRunning = true → batchesTaken moves = pipeline.delivery.accounted

theorem batchesTaken_concat (moves : List (Move config ε)) (move : Move config ε) :
    batchesTaken (moves ++ [move]) = batchesTaken moves + batchesTaken [move] :=
  List.countP_append ..

/-- Putting a batch into the queue concerns no worker. -/
theorem alive_put {maxBatches : Nat} {batch : List ε}
    {first second : DeliveryQueue ε config.sendWorkers}
    (done : first.put maxBatches batch = some second)
    (alive : ∀ worker, (first.workers worker).Alive) :
    ∀ worker, (second.workers worker).Alive := by
  obtain ⟨-, rfl⟩ := DeliveryQueue.put_cases done
  exact alive

theorem alive_submit {maxBatches : Nat} {batch : List ε} {held : Option (List ε)}
    {first second : DeliveryQueue ε config.sendWorkers}
    (done : first.submit maxBatches batch = (held, second))
    (alive : ∀ worker, (first.workers worker).Alive) :
    ∀ worker, (second.workers worker).Alive := by
  rcases DeliveryQueue.submit_cases done with ⟨-, -, rfl⟩ | ⟨-, -, rfl⟩ <;> exact alive

theorem live_step (live : Live moves before) (transition : Transition before move after) :
    Live (moves ++ [move]) after := by
  obtain ⟨buffer, devices, workers, taken⟩ := live
  have short : ([] : List ε).length < config.batchSize := config.batchSizeBound
  have counted : batchesTaken (moves ++ [move]) = batchesTaken moves + batchesTaken [move] :=
    batchesTaken_concat moves move
  cases transition with
  | buffered asleep room =>
      refine ⟨by simpa using room, fun running => ?_, workers, fun running => ?_⟩
      · exact forall_update Device.Alive (devices running) (Device.alive_next ..)
      · rw [counted, taken running]
        rfl
  | @handedOver device event ticks held delivery state asleep complete submitted goesOn waits =>
      refine ⟨short, fun running => ?_, fun running => ?_, fun running => ?_⟩
      · refine forall_update Device.Alive (devices running) ?_
        cases held with
        | none =>
            rw [goesOn rfl]
            exact Device.alive_next ..
        | some batch => rw [waits batch rfl]; rfl
      · exact alive_submit submitted (workers running)
      · rw [counted, taken running]
        exact (DeliveryQueue.accounted_submit submitted).symm
  | @unblocked device ticks batch delivery suspended room =>
      refine ⟨buffer, fun running => ?_, fun running => ?_, fun running => ?_⟩
      · exact forall_update Device.Alive (devices running) (Device.alive_next ..)
      · exact alive_put room (workers running)
      · rw [counted, taken running]
        exact (DeliveryQueue.accounted_put room).symm
  | @taken worker batch delivery takes =>
      refine ⟨buffer, devices, fun running => ?_, fun running => ?_⟩
      · dsimp only
        rw [takes.workers]
        exact forall_update Worker.Alive (workers running) rfl
      · rw [counted, taken running]
        exact (DeliveryQueue.accounted_taken takes).symm
  | @sent worker outcome batch delivery ends =>
      refine ⟨buffer, devices, fun running => ?_, fun running => ?_⟩
      · dsimp only
        rw [ends.workers]
        refine forall_update Worker.Alive (workers running) ?_
        split <;> rfl
      · rw [counted, taken running]
        exact (DeliveryQueue.accounted_sent ends).symm
  | fleetEnded watching done empty =>
      have running : before.main.isRunning = true := by rw [watching]; rfl
      exact ⟨short, fun _ => devices running, fun _ => workers running, fun _ => by
        rw [counted, taken running]; rfl⟩
  | @lastFlush held delivery state watching done pending submitted goesOn waits =>
      have running : before.main.isRunning = true := by rw [watching]; rfl
      refine ⟨short, fun _ => devices running, fun _ => ?_, fun _ => ?_⟩
      · exact alive_submit submitted (workers running)
      · rw [counted, taken running]
        exact (DeliveryQueue.accounted_submit submitted).symm
  | aborted => exact ⟨buffer, Bool.noConfusion, Bool.noConfusion, Bool.noConfusion⟩
  | @flushed pending delivery suspended room =>
      have running : before.main.isRunning = true := by rw [suspended]; rfl
      refine ⟨buffer, fun _ => devices running, fun _ => ?_, fun _ => ?_⟩
      · exact alive_put room (workers running)
      · rw [counted, taken running]
        exact (DeliveryQueue.accounted_put room).symm
  | settled draining ready =>
      have running : before.main.isRunning = true := by rw [draining]; rfl
      exact ⟨buffer, fun _ => devices running, fun _ => workers running, fun _ => by
        rw [counted, taken running]; rfl⟩
  | drained => exact ⟨buffer, Bool.noConfusion, Bool.noConfusion, Bool.noConfusion⟩
  | stopped => exact ⟨buffer, Bool.noConfusion, Bool.noConfusion, Bool.noConfusion⟩

theorem live_start : Live [] (start config : Pipeline config ε) where
  buffer := config.batchSizeBound
  devices _ _ := Device.alive_next ..
  workers _ _ := rfl
  taken _ := by
    simp [batchesTaken, DeliveryQueue.accounted, DeliveryQueue.inFlight, DeliveryQueue.failures,
      start, DeliveryQueue.start, Worker.isSending, Worker.isFailed]

theorem live_of_run (run : Trace Step (start config) moves pipeline) : Live moves pipeline :=
  run.invariant Live live_start fun _ _ _ _ live step => live_step live (transition_of_step step)

/-- Until the shutdown every event ever passed to `add` is in exactly one place:
counted with multiplicity, the produced events are those of the buffer, of the
suspended submissions, of the queue, of the batches being sent and of the
finished ones.  A batch that `add` hands over has the full size, and the batches
taken are those sent, dropped, in flight or failed with their worker. -/
theorem nothing_lost_or_duplicated (run : Trace Step (start config) moves pipeline)
    (running : pipeline.main.isRunning = true) :
    (produced moves : Multiset ε) =
        pipeline.buffer +
        ((∑ device, ((pipeline.devices device).held : Multiset ε)) + pipeline.main.held) +
        pipeline.delivery.queue.flatten +
        (∑ worker, ((pipeline.delivery.workers worker).inHand : Multiset ε)) +
        pipeline.delivery.finished.flatten ∧
      (∀ event batch rest, add config.batchSize event pipeline.buffer = (some batch, rest) →
        batch.length = config.batchSize) ∧
      batchesTaken moves = pipeline.delivery.batchesSent + pipeline.delivery.batchesDropped +
        pipeline.delivery.inFlight + pipeline.delivery.failures := by
  have live := live_of_run run
  refine ⟨?_, ?_, live.taken running⟩
  · rw [conserved run, contents, DeliveryQueue.contents, DeliveryQueue.unsent]
    have devices : ∀ device, (pipeline.devices device).unsent = (pipeline.devices device).held :=
      live.devices running
    have workers : ∀ worker, (pipeline.delivery.workers worker).unsent =
      (pipeline.delivery.workers worker).inHand := live.workers running
    simp only [devices, workers]
    abel
  · intro event batch rest handed
    rw [add_eq] at handed
    split at handed
    · next complete =>
        obtain ⟨same, -⟩ := Prod.mk.inj handed
        have short := live.buffer
        rw [← Option.some.inj same, List.length_append, List.length_singleton]
        omega
    · cases handed

/-- One device with five events to make, batches of two, room for one of them in
the queue, one worker. -/
def sampleConfig : PipelineConfig where
  deviceCount := 1
  batchSize := 2
  queueMaxBatches := 1
  sendWorkers := 1
  maxTicks := some 5
  deviceCountBound := by decide
  batchSizeBound := by decide
  queueMaxBatchesBound := by decide
  sendWorkersBound := by decide

def sampleDevice : Fin sampleConfig.deviceCount := ⟨0, Nat.one_pos⟩

def sampleWorker : Fin sampleConfig.sendWorkers := ⟨0, Nat.one_pos⟩

/-- One batch is in flight, a second one queued, the fifth event waits in the
final flush. -/
def sampleMoves : List (Move sampleConfig Nat) :=
  [.tick sampleDevice 1, .tick sampleDevice 2, .take sampleWorker, .tick sampleDevice 3,
    .tick sampleDevice 4, .tick sampleDevice 5, .resume]

theorem sample_nothing_lost_or_duplicated :
    ∃ pipeline, play perform sampleMoves (start sampleConfig) = some pipeline ∧
      ([1, 2, 3, 4, 5] : Multiset Nat) =
        pipeline.buffer +
        ((∑ device, ((pipeline.devices device).held : Multiset Nat)) + pipeline.main.held) +
        pipeline.delivery.queue.flatten +
        (∑ worker, ((pipeline.delivery.workers worker).inHand : Multiset Nat)) +
        pipeline.delivery.finished.flatten ∧
      (∀ event batch rest, add 2 event pipeline.buffer = (some batch, rest) →
        batch.length = 2) ∧
      1 = pipeline.delivery.batchesSent + pipeline.delivery.batchesDropped +
        pipeline.delivery.inFlight + pipeline.delivery.failures := by
  have played : (play perform sampleMoves (start sampleConfig)).map
      (fun pipeline => pipeline.main.isRunning) = some true := by decide +kernel
  obtain ⟨pipeline, reached, running⟩ := Option.map_eq_some_iff.mp played
  exact ⟨pipeline, reached, nothing_lost_or_duplicated (trace_of_play perform reached) running⟩

end Pipeline

end VoltStream.Simulator
