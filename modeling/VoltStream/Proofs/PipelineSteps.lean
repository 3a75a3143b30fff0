/-
Module: VoltStream.Proofs.PipelineSteps
Purpose: What one turn of a task can do to the send pipeline.
Trusted boundary: none
Main exports: DeliveryQueue.submit_cases, DeliveryQueue.Taken,
  DeliveryQueue.Sent, Pipeline.Transition, Pipeline.transition_of_step
-/
import VoltStream.Simulator.Pipeline

namespace VoltStream.Simulator

variable {ε : Type*}

/-! ### The buffer -/

theorem flush_eq (buffer : List ε) :
    flush buffer = (if buffer.isEmpty then none else some buffer, []) := by
  cases buffer <;> rfl

/-- Below the batch size `add` keeps the event; at it, it hands everything over. -/
theorem add_eq (batchSize : Nat) (event : ε) (buffer : List ε) :
    add batchSize event buffer =
      if batchSize ≤ buffer.length + 1 then (some (buffer ++ [event]), [])
      else (none, buffer ++ [event]) := by
  simp only [add, flush_eq, List.length_append, List.length_singleton]
  split <;> simp

/-! ### The queue -/

namespace DeliveryQueue

variable {sendWorkers maxBatches : Nat} {delivery after : DeliveryQueue ε sendWorkers}
  {batch : List ε} {worker : Fin sendWorkers}

theorem put_cases (done : delivery.put maxBatches batch = some after) :
    delivery.full maxBatches = false ∧
      after = { delivery with queue := delivery.queue ++ [batch] } := by
  unfold put at done
  split at done
  · cases done
  · next room => exact ⟨by simpa using room, (Option.some.inj done).symm⟩

/-- A submission goes into the queue, or has to wait for room and is counted. -/
theorem submit_cases {held : Option (List ε)}
    (done : delivery.submit maxBatches batch = (held, after)) :
    held = none ∧ delivery.full maxBatches = false ∧
        after = { delivery with queue := delivery.queue ++ [batch] } ∨
      held = some batch ∧ delivery.full maxBatches = true ∧
        after = { delivery with
          blockedSubmissions := delivery.blockedSubmissions + 1
          fullLogged := true } := by
  unfold submit put at done
  by_cases full : delivery.full maxBatches
  · rw [if_pos full] at done
    obtain ⟨rfl, rfl⟩ := Prod.mk.inj done
    exact Or.inr ⟨rfl, full, rfl⟩
  · rw [if_neg full] at done
    obtain ⟨rfl, rfl⟩ := Prod.mk.inj done
    exact Or.inl ⟨rfl, by simpa using full, rfl⟩

/-- A waiting worker has taken the next batch. -/
structure Taken (worker : Fin sendWorkers) (batch : List ε)
    (before after : DeliveryQueue ε sendWorkers) : Prop where
  waiting : before.workers worker = .waiting
  queue : before.queue = batch :: after.queue
  finished : after.finished = before.finished
  workers : after.workers = Function.update before.workers worker (.sending batch)
  batchesSent : after.batchesSent = before.batchesSent
  batchesDropped : after.batchesDropped = before.batchesDropped

theorem take_cases (done : delivery.take worker = some after) :
    ∃ batch, Taken worker batch delivery after := by
  unfold take at done
  split at done
  · next batch rest idle queued =>
      obtain rfl := Option.some.inj done
      exact ⟨batch, idle, queued, rfl, rfl, rfl, rfl⟩
  · cases done

/-- A `send` has ended: the batch is finished, the queue as it was, and the worker
waits for the next batch or has failed; one of the three is counted. -/
structure Sent (worker : Fin sendWorkers) (outcome : SendOutcome) (batch : List ε)
    (before after : DeliveryQueue ε sendWorkers) : Prop where
  sending : before.workers worker = .sending batch
  queue : after.queue = before.queue
  finished : after.finished = before.finished ++ [batch]
  workers : after.workers = Function.update before.workers worker
    (if outcome = .otherError then .failed else .waiting)
  counters : after.batchesSent + after.batchesDropped + (if outcome = .otherError then 1 else 0) =
    before.batchesSent + before.batchesDropped + 1

theorem finish_cases {outcome : SendOutcome} (done : delivery.finish worker outcome = some after) :
    ∃ batch, Sent worker outcome batch delivery after := by
  unfold finish at done
  split at done
  · next batch sending =>
      refine ⟨batch, ?_⟩
      cases outcome with
      | success =>
          obtain rfl := Option.some.inj done
          exact ⟨sending, rfl, rfl, rfl, Nat.add_right_comm delivery.batchesSent 1 _⟩
      | batchDeliveryError =>
          obtain rfl := Option.some.inj done
          exact ⟨sending, rfl, rfl, rfl, rfl⟩
      | otherError =>
          obtain rfl := Option.some.inj done
          exact ⟨sending, rfl, rfl, rfl, rfl⟩
  · cases done

end DeliveryQueue

/-! ### The whole pipeline -/

namespace Pipeline

variable {config : PipelineConfig}

/-- Everything a turn can do. -/
inductive Transition (before : Pipeline config ε) :
    Move config ε → Pipeline config ε → Prop where
  | buffered {device : Fin config.deviceCount} {event : ε} {ticks : Nat}
      (asleep : before.devices device = .sleeping ticks)
      (short : before.buffer.length + 1 < config.batchSize) :
      Transition before (.tick device event)
        { before.setDevice device (Device.next config.maxTicks (ticks + 1)) with
          buffer := before.buffer ++ [event] }
  | handedOver {device : Fin config.deviceCount} {event : ε} {ticks : Nat}
      {held : Option (List ε)} {delivery : DeliveryQueue ε config.sendWorkers} {state : Device ε}
      (asleep : before.devices device = .sleeping ticks)
      (complete : config.batchSize ≤ before.buffer.length + 1)
      (submitted : before.delivery.submit config.queueMaxBatches (before.buffer ++ [event]) =
        (held, delivery))
      (goesOn : held = none → state = Device.next config.maxTicks (ticks + 1))
      (waits : ∀ batch, held = some batch → state = .submitting ticks batch) :
      Transition before (.tick device event)
        { before.setDevice device state with buffer := [], delivery := delivery }
  | unblocked {device : Fin config.deviceCount} {ticks : Nat} {batch : List ε}
      {delivery : DeliveryQueue ε config.sendWorkers}
      (suspended : before.devices device = .submitting ticks batch)
      (room : before.delivery.put config.queueMaxBatches batch = some delivery) :
      Transition before (.unblock device)
        { before.setDevice device (Device.next config.maxTicks (ticks + 1)) with
          delivery := delivery }
  | taken {worker : Fin config.sendWorkers} {batch : List ε}
      {delivery : DeliveryQueue ε config.sendWorkers}
      (takes : DeliveryQueue.Taken worker batch before.delivery delivery) :
      Transition before (.take worker) { before with delivery := delivery }
  | sent {worker : Fin config.sendWorkers} {outcome : SendOutcome} {batch : List ε}
      {delivery : DeliveryQueue ε config.sendWorkers}
      (ends : DeliveryQueue.Sent worker outcome batch before.delivery delivery) :
      Transition before (.finish worker outcome) { before with delivery := delivery }
  | fleetEnded (watching : before.main = .watching) (done : before.fleetDone = true)
      (empty : before.buffer = []) :
      Transition before .resume { before with buffer := [], main := .draining }
  | lastFlush {held : Option (List ε)} {delivery : DeliveryQueue ε config.sendWorkers}
      {state : Main ε} (watching : before.main = .watching) (done : before.fleetDone = true)
      (pending : before.buffer ≠ [])
      (submitted : before.delivery.submit config.queueMaxBatches before.buffer = (held, delivery))
      (goesOn : held = none → state = .draining)
      (waits : ∀ batch, held = some batch → state = .flushing batch) :
      Transition before .resume { before with buffer := [], delivery := delivery, main := state }
  | aborted (watching : before.main = .watching) (undone : before.fleetDone = false)
      (failed : before.delivery.hasFailed = true) :
      Transition before .resume (before.beginStop false)
  | flushed {pending : List ε} {delivery : DeliveryQueue ε config.sendWorkers}
      (suspended : before.main = .flushing pending)
      (room : before.delivery.put config.queueMaxBatches pending = some delivery) :
      Transition before .resume { before with delivery := delivery, main := .draining }
  | settled (draining : before.main = .draining)
      (ready : before.delivery.unfinishedTasks = 0 ∨ before.delivery.hasFailed = true) :
      Transition before .resume { before with main := .settling }
  | drained (settling : before.main = .settling) :
      Transition before .resume (before.beginStop
        (!before.delivery.hasFailed && before.delivery.unfinishedTasks = 0))
  | stopped {succeeded : Bool} (stopping : before.main = .stopping succeeded) :
      Transition before .resume
        { before with delivery := before.delivery.stop, main := .ended succeeded }

variable {before after : Pipeline config ε}

theorem tick_cases {device : Fin config.deviceCount} {event : ε}
    (done : before.tick device event = some after) :
    Transition before (.tick device event) after := by
  unfold tick at done
  split at done
  · next ticks asleep =>
      rw [add_eq] at done
      by_cases complete : config.batchSize ≤ before.buffer.length + 1
      · rw [if_pos complete] at done
        dsimp only at done
        split at done
        · next delivery submitted =>
            obtain rfl := Option.some.inj done
            exact .handedOver asleep complete submitted (fun _ => rfl)
              fun _ impossible => by cases impossible
        · next held delivery submitted =>
            obtain rfl := Option.some.inj done
            refine .handedOver asleep complete submitted (fun impossible => by cases impossible) ?_
            intro batch same
            rw [Option.some.inj same]
      · rw [if_neg complete] at done
        obtain rfl := Option.some.inj done
        exact .buffered asleep (Nat.lt_of_not_le complete)
  · cases done

theorem unblock_cases {device : Fin config.deviceCount}
    (done : before.unblock device = some after) :
    Transition before (.unblock device) after := by
  unfold unblock at done
  split at done
  · next ticks batch suspended =>
      obtain ⟨delivery, room, rfl⟩ := Option.map_eq_some_iff.mp done
      exact .unblocked suspended room
  · cases done

theorem watch_cases (watching : before.main = .watching) (done : before.resume = some after) :
    Transition before .resume after := by
  unfold resume at done
  rw [watching, flush_eq] at done
  dsimp only at done
  by_cases ended : before.fleetDone = true
  · rw [if_pos ended] at done
    by_cases empty : before.buffer = []
    · rw [empty] at done
      obtain rfl := Option.some.inj done
      exact .fleetEnded watching ended empty
    · rw [if_neg (by simpa using empty)] at done
      dsimp only at done
      split at done
      · next delivery submitted =>
          obtain rfl := Option.some.inj done
          exact .lastFlush watching ended empty submitted (fun _ => rfl)
            fun _ impossible => by cases impossible
      · next held delivery submitted =>
          obtain rfl := Option.some.inj done
          refine .lastFlush watching ended empty submitted
            (fun impossible => by cases impossible) ?_
          intro batch same
          rw [Option.some.inj same]
  · rw [if_neg ended] at done
    split at done
    · next failed =>
        obtain rfl := Option.some.inj done
        exact .aborted watching (by simpa using ended) failed
    · cases done

theorem resume_cases (done : before.resume = some after) :
    Transition before .resume after := by
  cases phase : before.main with
  | watching => exact watch_cases phase done
  | flushing pending =>
      simp only [resume, phase] at done
      obtain ⟨delivery, room, rfl⟩ := Option.map_eq_some_iff.mp done
      exact .flushed phase room
  | draining =>
      simp only [resume, phase] at done
      split at done
      · next ready =>
          obtain rfl := Option.some.inj done
          exact .settled phase ready
      · cases done
  | settling =>
      simp only [resume, phase] at done
      obtain rfl := Option.some.inj done
      exact .drained phase
  | stopping succeeded =>
      simp only [resume, phase] at done
      obtain rfl := Option.some.inj done
      exact .stopped phase
  | ended succeeded =>
      simp only [resume, phase] at done
      cases done

theorem transition_of_step {move : Move config ε} (step : Step before move after) :
    Transition before move after := by
  cases move with
  | tick device event => exact tick_cases step
  | unblock device => exact unblock_cases step
  | take worker =>
      obtain ⟨delivery, takes, rfl⟩ := Option.map_eq_some_iff.mp step
      obtain ⟨batch, taken⟩ := DeliveryQueue.take_cases takes
      exact .taken taken
  | finish worker outcome =>
      obtain ⟨delivery, ends, rfl⟩ := Option.map_eq_some_iff.mp step
      obtain ⟨batch, sent⟩ := DeliveryQueue.finish_cases ends
      exact .sent sent
  | resume => exact resume_cases step

end Pipeline

end VoltStream.Simulator
