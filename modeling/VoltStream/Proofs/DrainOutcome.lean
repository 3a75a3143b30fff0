/-
Module: VoltStream.Proofs.DrainOutcome
Purpose: `drain` does not take loss for delivery: it returns only if every batch has been
  sent or counted as dropped, and raises if a worker has failed.
Trusted boundary: human-reviewed statement that a call is bound to raise (`BoundToRaise`)
Main exports: DeliveryQueue.batches, Draining.Transition, Draining.transition_of_step,
  Draining.Sound, Draining.sound_of_run, Draining.drain_never_mistakes_loss
-/
import VoltStream.Relational.Run
import VoltStream.Simulator.Drain
import VoltStream.Proofs.PipelineConservation

namespace VoltStream.Simulator

open Relational

variable {ε : Type*}

/-! ### Whole batches in the queue -/

/-- The batch that the worker is sending. -/
def Worker.batch : Worker ε → Multiset (List ε)
  | .sending batch => {batch}
  | _ => 0

/-- The worker has not been cancelled: if it is done, by an error. -/
def Worker.Uncancelled (worker : Worker ε) : Prop :=
  worker.isDone = true → worker.isFailed = true

namespace DeliveryQueue

variable {sendWorkers maxBatches : Nat} {delivery after : DeliveryQueue ε sendWorkers}
  {batch : List ε} {worker : Fin sendWorkers} {outcome : SendOutcome}

/-- All batches that were ever put into the queue. -/
def batches (delivery : DeliveryQueue ε sendWorkers) : Multiset (List ε) :=
  delivery.queue + (∑ worker, (delivery.workers worker).batch) + delivery.finished

theorem batches_enqueue (delivery : DeliveryQueue ε sendWorkers) (batch : List ε) :
    ({ delivery with queue := delivery.queue ++ [batch] } : DeliveryQueue ε sendWorkers).batches =
      delivery.batches + {batch} := by
  simp only [batches, ← Multiset.coe_add, Multiset.coe_singleton]
  abel

theorem batches_put (done : delivery.put maxBatches batch = some after) :
    after.batches = delivery.batches + {batch} := by
  obtain ⟨-, rfl⟩ := put_cases done
  exact batches_enqueue delivery batch

theorem batches_submit {held : Option (List ε)}
    (done : delivery.submit maxBatches batch = (held, after)) :
    after.batches + (held.toList : Multiset (List ε)) = delivery.batches + {batch} := by
  rcases submit_cases done with ⟨rfl, -, rfl⟩ | ⟨rfl, -, rfl⟩
  · rw [batches_enqueue]
    exact add_zero _
  · rfl

theorem batches_taken (taken : Taken worker batch delivery after) :
    after.batches = delivery.batches := by
  have moved := total_workers Worker.batch taken.workers
  have idle : (Worker.waiting : Worker ε).batch = 0 := rfl
  have busy : (Worker.sending batch).batch = {batch} := rfl
  rw [taken.waiting, idle, busy, add_zero] at moved
  simp only [batches, taken.queue, taken.finished, moved, ← Multiset.cons_coe,
    ← Multiset.singleton_add]
  abel

theorem batches_sent (sent : Sent worker outcome batch delivery after) :
    after.batches = delivery.batches := by
  have moved := total_workers Worker.batch sent.workers
  have idle : (if outcome = .otherError then .failed else .waiting : Worker ε).batch = 0 := by
    split <;> rfl
  have busy : (Worker.sending batch).batch = {batch} := rfl
  rw [sent.sending, idle, busy, add_zero] at moved
  simp only [batches, sent.queue, sent.finished, ← moved, ← Multiset.coe_add,
    Multiset.coe_singleton]
  abel

/-! ### Failures -/

/-- No worker has been cancelled. -/
def Uncancelled (delivery : DeliveryQueue ε sendWorkers) : Prop :=
  ∀ worker, (delivery.workers worker).Uncancelled

theorem Uncancelled.taken (uncancelled : delivery.Uncancelled)
    (taken : Taken worker batch delivery after) : after.Uncancelled := by
  unfold Uncancelled
  rw [taken.workers]
  exact forall_update Worker.Uncancelled uncancelled fun done => done

theorem Uncancelled.sent (uncancelled : delivery.Uncancelled)
    (sent : Sent worker outcome batch delivery after) : after.Uncancelled := by
  unfold Uncancelled
  rw [sent.workers]
  refine forall_update Worker.Uncancelled uncancelled ?_
  split
  · exact fun _ => rfl
  · exact fun done => done

/-- Without cancellations a worker that is done has failed. -/
theorem Uncancelled.someDone (uncancelled : delivery.Uncancelled) :
    delivery.someDone = delivery.hasFailed := by
  rw [DeliveryQueue.someDone, hasFailed, decide_eq_decide]
  constructor
  · rintro ⟨worker, done⟩
    exact ⟨worker, uncancelled worker done⟩
  · rintro ⟨worker, failed⟩
    refine ⟨worker, ?_⟩
    cases state : delivery.workers worker with
    | failed => rfl
    | cancelled => rfl
    | waiting => rw [state] at failed; cases failed
    | sending => rw [state] at failed; cases failed

/-- A failed worker stays one. -/
theorem hasFailed_of_update {state : Worker ε}
    (alive : (delivery.workers worker).isFailed = false)
    (changed : after.workers = Function.update delivery.workers worker state)
    (failed : delivery.hasFailed = true) : after.hasFailed = true := by
  obtain ⟨other, isFailed⟩ := of_decide_eq_true failed
  refine decide_eq_true ⟨other, ?_⟩
  have apart : other ≠ worker := by
    rintro rfl
    rw [alive] at isFailed
    cases isFailed
  rwa [changed, Function.update_of_ne apart]

theorem hasFailed_taken (taken : Taken worker batch delivery after)
    (failed : delivery.hasFailed = true) : after.hasFailed = true :=
  hasFailed_of_update (by rw [taken.waiting]; rfl) taken.workers failed

theorem hasFailed_sent (sent : Sent worker outcome batch delivery after)
    (failed : delivery.hasFailed = true) : after.hasFailed = true :=
  hasFailed_of_update (by rw [sent.sending]; rfl) sent.workers failed

theorem failures_eq_zero (none : delivery.hasFailed = false) : delivery.failures = 0 := by
  rw [failures, Finset.card_eq_zero, Finset.filter_eq_empty_iff]
  exact fun worker _ isFailed => of_decide_eq_false none ⟨worker, isFailed⟩

/-! ### With nothing unfinished -/

theorem Taken.unfinished (taken : Taken worker batch delivery after) :
    delivery.unfinishedTasks ≠ 0 := by
  rw [unfinishedTasks, taken.queue, List.length_cons]
  omega

theorem Sent.unfinished (sent : Sent worker outcome batch delivery after) :
    delivery.unfinishedTasks ≠ 0 := by
  have inFlight : 0 < delivery.inFlight :=
    Finset.card_pos.mpr ⟨worker, Finset.mem_filter.mpr
      ⟨Finset.mem_univ worker, by rw [sent.sending]; rfl⟩⟩
  rw [unfinishedTasks]
  omega

/-- With nothing unfinished, all batches are finished ones. -/
theorem batches_of_unfinishedTasks (none : delivery.unfinishedTasks = 0) :
    delivery.batches = delivery.finished := by
  obtain ⟨empty, idle⟩ := Nat.add_eq_zero_iff.mp none
  have inHand : (∑ worker, (delivery.workers worker).batch) = 0 := by
    refine Finset.sum_eq_zero fun worker _ => ?_
    have notSending := (Finset.filter_eq_empty_iff.mp (Finset.card_eq_zero.mp idle))
      (Finset.mem_univ worker)
    cases state : delivery.workers worker with
    | sending batch => rw [state] at notSending; exact absurd rfl notSending
    | waiting => rfl
    | failed => rfl
    | cancelled => rfl
  rw [batches, inHand, List.length_eq_zero_iff.mp empty, Multiset.coe_nil, zero_add, zero_add]

end DeliveryQueue

/-! ### The session -/

/-- The turns that the caller of `drain` still needs. -/
def DrainState.turnsLeft : DrainState → Nat
  | .notCalled => 3
  | .waiting => 2
  | .settling => 1
  | .returned => 0
  | .raised _ => 0

namespace Draining

variable {sendWorkers maxBatches : Nat} {before after session : Draining ε sendWorkers}
  {move : Move ε sendWorkers} {moves : List (Move ε sendWorkers)}

/-- Everything a turn can do. -/
inductive Transition (maxBatches : Nat) (before : Draining ε sendWorkers) :
    Move ε sendWorkers → Draining ε sendWorkers → Prop where
  | submitted {batch : List ε} {held : Option (List ε)} {delivery : DeliveryQueue ε sendWorkers}
      (isOpen : before.drain = .notCalled)
      (goes : before.delivery.submit maxBatches batch = (held, delivery)) :
      Transition maxBatches before (.submit batch)
        { before with delivery := delivery, blocked := before.blocked ++ held.toList }
  | unblocked {position : Nat} {batch : List ε} {delivery : DeliveryQueue ε sendWorkers}
      (suspended : before.blocked[position]? = some batch)
      (room : before.delivery.put maxBatches batch = some delivery) :
      Transition maxBatches before (.unblock position)
        { before with delivery := delivery, blocked := before.blocked.eraseIdx position }
  | taken {worker : Fin sendWorkers} {batch : List ε} {delivery : DeliveryQueue ε sendWorkers}
      (takes : DeliveryQueue.Taken worker batch before.delivery delivery) :
      Transition maxBatches before (.take worker) { before with delivery := delivery }
  | sent {worker : Fin sendWorkers} {outcome : SendOutcome} {batch : List ε}
      {delivery : DeliveryQueue ε sendWorkers}
      (ends : DeliveryQueue.Sent worker outcome batch before.delivery delivery) :
      Transition maxBatches before (.finish worker outcome) { before with delivery := delivery }
  | joined (called : before.drain ≠ .notCalled)
      (finished : before.delivery.unfinishedTasks = 0) :
      Transition maxBatches before .join { before with joined := true }
  | called (isOpen : before.drain = .notCalled) (none : before.blocked = []) :
      Transition maxBatches before .resume { before with drain := .waiting }
  | woken (waiting : before.drain = .waiting)
      (done : before.joined = true ∨ before.delivery.someDone = true) :
      Transition maxBatches before .resume { before with drain := .settling }
  | failed (settling : before.drain = .settling) (failure : before.delivery.hasFailed = true) :
      Transition maxBatches before .resume { before with drain := .raised .workerError }
  | stopped (settling : before.drain = .settling) (sound : before.delivery.hasFailed = false)
      (unjoined : before.joined = false) :
      Transition maxBatches before .resume { before with drain := .raised .stoppedBeforeDrained }
  | drained (settling : before.drain = .settling) (sound : before.delivery.hasFailed = false)
      (done : before.joined = true) :
      Transition maxBatches before .resume { before with drain := .returned }

theorem resume_cases (done : before.resume = some after) :
    Transition maxBatches before .resume after := by
  unfold resume at done
  split at done
  · next isOpen =>
      split at done
      · next none =>
          obtain rfl := Option.some.inj done
          exact .called isOpen none
      · cases done
  · next waiting =>
      split at done
      · next ready =>
          obtain rfl := Option.some.inj done
          exact .woken waiting (by simpa using ready)
      · cases done
  · next settling =>
      split at done
      · next failure =>
          obtain rfl := Option.some.inj done
          exact .failed settling failure
      · next sound =>
          split at done
          · next unjoined =>
              obtain rfl := Option.some.inj done
              exact .stopped settling (by simpa using sound) (by simpa using unjoined)
          · next joined =>
              obtain rfl := Option.some.inj done
              exact .drained settling (by simpa using sound) (by simpa using joined)
  · cases done
  · cases done

theorem transition_of_step (step : Step maxBatches before move after) :
    Transition maxBatches before move after := by
  cases move with
  | submit batch =>
      replace step : before.submit maxBatches batch = some after := step
      unfold submit at step
      split at step
      · next isOpen =>
          obtain rfl := Option.some.inj step
          exact .submitted isOpen rfl
      · cases step
  | unblock position =>
      replace step : before.unblock maxBatches position = some after := step
      unfold unblock at step
      split at step
      · next batch suspended =>
          obtain ⟨delivery, room, rfl⟩ := Option.map_eq_some_iff.mp step
          exact .unblocked suspended room
      · cases step
  | take worker =>
      obtain ⟨delivery, done, rfl⟩ := Option.map_eq_some_iff.mp step
      obtain ⟨batch, taken⟩ := DeliveryQueue.take_cases done
      exact .taken taken
  | finish worker outcome =>
      obtain ⟨delivery, done, rfl⟩ := Option.map_eq_some_iff.mp step
      obtain ⟨batch, sent⟩ := DeliveryQueue.finish_cases done
      exact .sent sent
  | join =>
      replace step : before.join = some after := step
      unfold join at step
      split at step
      · next inside =>
          have called : before.drain ≠ .notCalled := by
            rcases inside with waiting | settling
            · rw [waiting]
              nofun
            · rw [settling]
              nofun
          split at step
          · next finished =>
              obtain rfl := Option.some.inj step
              exact .joined called finished
          · cases step
      · cases step
  | resume => exact resume_cases step

/-! #### What every run keeps -/

/-- No batch is lost: those submitted wait for room, or have gone through the queue; and
the counters say how many. -/
structure Conserved (moves : List (Move ε sendWorkers)) (session : Draining ε sendWorkers) :
    Prop where
  batches : (submitted moves : Multiset (List ε)) = session.blocked + session.delivery.batches
  counted : (submitted moves).length =
    session.blocked.length + session.delivery.queue.length + session.delivery.accounted

/-- The state of `drain` is what it has seen. -/
structure Sound (session : Draining ε sendWorkers) : Prop where
  uncancelled : session.delivery.Uncancelled
  blocked : session.drain ≠ .notCalled → session.blocked = []
  joined : session.joined = true →
    session.drain ≠ .notCalled ∧ session.delivery.unfinishedTasks = 0
  settling : session.drain = .settling →
    session.joined = true ∨ session.delivery.hasFailed = true
  returned : session.drain = .returned →
    session.joined = true ∧ session.delivery.hasFailed = false
  raised : ∀ error, session.drain = .raised error →
    error = .workerError ∧ session.delivery.hasFailed = true

theorem submitted_append (moves : List (Move ε sendWorkers)) (move : Move ε sendWorkers) :
    submitted (moves ++ [move]) = submitted moves ++ submitted [move] :=
  List.filterMap_append

/-- A turn that leaves the queue and the suspended submissions alone. -/
theorem Conserved.still (conserved : Conserved moves before) (quiet : submitted [move] = [])
    (delivery : after.delivery = before.delivery) (blocked : after.blocked = before.blocked) :
    Conserved (moves ++ [move]) after := by
  constructor
  · rw [submitted_append, quiet, List.append_nil, delivery, blocked, conserved.batches]
  · rw [submitted_append, quiet, List.append_nil, delivery, blocked, conserved.counted]

theorem conserved_step (conserved : Conserved moves before)
    (transition : Transition maxBatches before move after) :
    Conserved (moves ++ [move]) after := by
  obtain ⟨batches, counted⟩ := id conserved
  cases transition with
  | @submitted batch held delivery isOpen goes =>
      have one : submitted [(.submit batch : Move ε sendWorkers)] = [batch] := rfl
      constructor
      · rw [submitted_append, one, ← Multiset.coe_add, batches, ← Multiset.coe_add,
          Multiset.coe_singleton, add_assoc, ← DeliveryQueue.batches_submit goes]
        abel
      · rw [submitted_append, one, List.length_append, counted, List.length_append,
          DeliveryQueue.accounted_submit goes]
        rcases DeliveryQueue.submit_cases goes with ⟨rfl, -, rfl⟩ | ⟨rfl, -, rfl⟩ <;> simp <;> omega
  | @unblocked position batch delivery suspended room =>
      have none : submitted [(.unblock position : Move ε sendWorkers)] = [] := rfl
      obtain ⟨within, isBatch⟩ := List.getElem?_eq_some_iff.mp suspended
      have split := List.getElem_cons_eraseIdx_perm within
      rw [isBatch] at split
      constructor
      · rw [submitted_append, none, List.append_nil, batches, DeliveryQueue.batches_put room,
          ← Multiset.coe_eq_coe.mpr split, ← Multiset.cons_coe, ← Multiset.singleton_add]
        abel
      · have lengths := split.length_eq
        rw [submitted_append, none, List.append_nil, counted, DeliveryQueue.accounted_put room,
          ← lengths, List.length_cons]
        obtain ⟨-, rfl⟩ := DeliveryQueue.put_cases room
        simp
        omega
  | @taken worker batch delivery takes =>
      have none : submitted [(.take worker : Move ε sendWorkers)] = [] := rfl
      constructor
      · rw [submitted_append, none, List.append_nil, batches, DeliveryQueue.batches_taken takes]
      · rw [submitted_append, none, List.append_nil, counted]
        change _ = before.blocked.length + delivery.queue.length + delivery.accounted
        rw [DeliveryQueue.accounted_taken takes, takes.queue, List.length_cons]
        omega
  | @sent worker outcome batch delivery ends =>
      have none : submitted [(.finish worker outcome : Move ε sendWorkers)] = [] := rfl
      constructor
      · rw [submitted_append, none, List.append_nil, batches, DeliveryQueue.batches_sent ends]
      · rw [submitted_append, none, List.append_nil, counted, DeliveryQueue.accounted_sent ends,
          ends.queue]
  | joined => exact conserved.still rfl rfl rfl
  | called => exact conserved.still rfl rfl rfl
  | woken => exact conserved.still rfl rfl rfl
  | failed => exact conserved.still rfl rfl rfl
  | stopped => exact conserved.still rfl rfl rfl
  | drained => exact conserved.still rfl rfl rfl

/-- Before and after a turn of a worker everything is as sound, if it keeps the failures
and comes before everything is finished. -/
theorem Sound.work {delivery : DeliveryQueue ε sendWorkers} (sound : Sound before)
    (uncancelled : delivery.Uncancelled) (unfinished : before.delivery.unfinishedTasks ≠ 0)
    (kept : before.delivery.hasFailed = true → delivery.hasFailed = true) :
    Sound { before with delivery := delivery } where
  uncancelled := uncancelled
  blocked := sound.blocked
  joined done := absurd (sound.joined done).2 unfinished
  settling phase := (sound.settling phase).imp_right kept
  returned phase := absurd (sound.joined (sound.returned phase).1).2 unfinished
  raised error phase := (sound.raised error phase).imp_right kept

/-- Before the call of `drain` nothing can be wrong with it. -/
theorem Sound.submission {delivery : DeliveryQueue ε sendWorkers} (sound : Sound before)
    (isOpen : before.drain = .notCalled) (same : delivery.workers = before.delivery.workers)
    (blocked : List (List ε)) :
    Sound { before with delivery := delivery, blocked := blocked } where
  uncancelled worker := by
    change (delivery.workers worker).Uncancelled
    rw [same]
    exact sound.uncancelled worker
  blocked called := absurd isOpen called
  joined done := absurd isOpen (sound.joined done).1
  settling phase := by cases isOpen.symm.trans phase
  returned phase := by cases isOpen.symm.trans phase
  raised error phase := by cases isOpen.symm.trans phase

theorem sound_step (sound : Sound before) (transition : Transition maxBatches before move after) :
    Sound after := by
  cases transition with
  | submitted isOpen goes =>
      refine sound.submission isOpen ?_ _
      rcases DeliveryQueue.submit_cases goes with ⟨-, -, rfl⟩ | ⟨-, -, rfl⟩ <;> rfl
  | unblocked suspended room =>
      have isOpen : before.drain = .notCalled := by
        by_contra called
        rw [sound.blocked called] at suspended
        cases suspended
      refine sound.submission isOpen ?_ _
      obtain ⟨-, rfl⟩ := DeliveryQueue.put_cases room
      rfl
  | taken takes =>
      exact sound.work (sound.uncancelled.taken takes) takes.unfinished
        (DeliveryQueue.hasFailed_taken takes)
  | sent ends =>
      exact sound.work (sound.uncancelled.sent ends) ends.unfinished
        (DeliveryQueue.hasFailed_sent ends)
  | joined called finished =>
      exact
        { sound with
          joined := fun _ => ⟨called, finished⟩
          settling := fun _ => .inl rfl
          returned := fun phase => ⟨rfl, (sound.returned phase).2⟩ }
  | called isOpen none =>
      exact ⟨sound.uncancelled, fun _ => none, fun done => absurd isOpen (sound.joined done).1,
        nofun, nofun, nofun⟩
  | woken waiting done =>
      have called : before.drain ≠ .notCalled := by
        rw [waiting]
        nofun
      refine ⟨sound.uncancelled, fun _ => sound.blocked called,
        fun joined => ⟨nofun, (sound.joined joined).2⟩, fun _ => ?_, nofun, nofun⟩
      exact done.imp_right fun someDone => sound.uncancelled.someDone ▸ someDone
  | failed settling failure =>
      have called : before.drain ≠ .notCalled := by
        rw [settling]
        nofun
      refine ⟨sound.uncancelled, fun _ => sound.blocked called,
        fun joined => ⟨nofun, (sound.joined joined).2⟩, nofun, nofun, ?_⟩
      rintro error ⟨⟩
      exact ⟨rfl, failure⟩
  | stopped settling clean unjoined =>
      -- what has woken the caller is still there
      rcases sound.settling settling with done | failure
      · rw [done] at unjoined
        cases unjoined
      · rw [failure] at clean
        cases clean
  | drained settling clean done =>
      have called : before.drain ≠ .notCalled := by
        rw [settling]
        nofun
      exact ⟨sound.uncancelled, fun _ => sound.blocked called,
        fun joined => ⟨nofun, (sound.joined joined).2⟩, nofun, fun _ => ⟨done, clean⟩, nofun⟩

theorem sound_start : Sound (start : Draining ε sendWorkers) where
  uncancelled _ done := by cases done
  blocked called := absurd rfl called
  joined done := by cases done
  settling phase := by cases phase
  returned phase := by cases phase
  raised error phase := by cases phase

theorem conserved_start : Conserved [] (start : Draining ε sendWorkers) where
  batches := by simp [submitted, start, DeliveryQueue.batches, DeliveryQueue.start, Worker.batch]
  counted := by
    simp [submitted, start, DeliveryQueue.accounted, DeliveryQueue.start, DeliveryQueue.inFlight,
      DeliveryQueue.failures, Worker.isSending, Worker.isFailed]

theorem conserved_of_run (run : Trace (Step maxBatches) start moves session) :
    Conserved moves session :=
  run.invariant Conserved conserved_start fun _ _ _ _ conserved step =>
    conserved_step conserved (transition_of_step step)

theorem sound_of_run (sound : Sound before)
    (run : Trace (Step maxBatches) before moves after) : Sound after :=
  run.invariant (fun _ => Sound) sound fun _ _ _ _ sound step =>
    sound_step sound (transition_of_step step)

/-! #### The turns of `drain` -/

theorem drainTurns_append (moves : List (Move ε sendWorkers)) (move : Move ε sendWorkers) :
    drainTurns (moves ++ [move]) = drainTurns moves + drainTurns [move] :=
  List.countP_append

/-- Each turn of the caller is one less to come. -/
theorem turnsLeft_step (transition : Transition maxBatches before move after) :
    after.drain.turnsLeft + drainTurns [move] = before.drain.turnsLeft := by
  cases transition with
  | submitted => rfl
  | unblocked => rfl
  | taken => rfl
  | sent => rfl
  | joined => rfl
  | called isOpen => rw [isOpen]; rfl
  | woken waiting => rw [waiting]; rfl
  | failed settling => rw [settling]; rfl
  | stopped settling => rw [settling]; rfl
  | drained settling => rw [settling]; rfl

theorem turnsLeft_of_run (run : Trace (Step maxBatches) before moves after) :
    after.drain.turnsLeft + drainTurns moves = before.drain.turnsLeft := by
  refine run.invariant
    (fun moves state => state.drain.turnsLeft + drainTurns moves = before.drain.turnsLeft) rfl ?_
  intro moves state move next left step
  rw [drainTurns_append, Nat.add_comm (drainTurns moves), ← Nat.add_assoc,
    turnsLeft_step (transition_of_step step), left]

theorem hasFailed_step (transition : Transition maxBatches before move after)
    (failed : before.delivery.hasFailed = true) : after.delivery.hasFailed = true := by
  cases transition with
  | submitted isOpen goes =>
      rcases DeliveryQueue.submit_cases goes with ⟨-, -, rfl⟩ | ⟨-, -, rfl⟩ <;> exact failed
  | unblocked suspended room =>
      obtain ⟨-, rfl⟩ := DeliveryQueue.put_cases room
      exact failed
  | taken takes => exact DeliveryQueue.hasFailed_taken takes failed
  | sent ends => exact DeliveryQueue.hasFailed_sent ends failed
  | joined => exact failed
  | called => exact failed
  | woken => exact failed
  | failed => exact failed
  | stopped => exact failed
  | drained => exact failed

theorem hasFailed_of_run (failed : before.delivery.hasFailed = true)
    (run : Trace (Step maxBatches) before moves after) : after.delivery.hasFailed = true :=
  run.invariant (fun _ state => state.delivery.hasFailed = true) failed
    fun _ _ _ _ failed step => hasFailed_step (transition_of_step step) failed

/-- Once a worker has failed, the caller of `drain` never has to wait. -/
theorem resume_isSome (sound : Sound session) (failed : session.delivery.hasFailed = true)
    (called : session.drain ≠ .notCalled) (inside : 0 < session.drain.turnsLeft) :
    session.resume.isSome := by
  unfold resume
  cases phase : session.drain with
  | notCalled => exact absurd phase called
  | waiting => simp [sound.uncancelled.someDone, failed]
  | settling => simp [failed]
  | returned => rw [phase] at inside; cases inside
  | raised => rw [phase] at inside; cases inside

/-- Without a turn left, the caller has returned or raised, and with a failed worker it
can only have raised. -/
theorem raised_of_turnsLeft (sound : Sound session) (failed : session.delivery.hasFailed = true)
    (ended : session.drain.turnsLeft = 0) : session.drain = .raised .workerError := by
  cases phase : session.drain with
  | notCalled => rw [phase] at ended; cases ended
  | waiting => rw [phase] at ended; cases ended
  | settling => rw [phase] at ended; cases ended
  | returned => cases (sound.returned phase).2.symm.trans failed
  | raised error => rw [(sound.raised error phase).1]

/-- However the session goes on, `drain` does not return; while its caller is inside, it
can always take its next turn; and when it has had its turns, it has raised the error of
a worker. -/
def BoundToRaise (maxBatches : Nat) (session : Draining ε sendWorkers) : Prop :=
  ∀ later last, Trace (Step maxBatches) session later last →
    last.drain ≠ .returned ∧
    (last.drain ≠ .notCalled → 0 < last.drain.turnsLeft → last.resume.isSome) ∧
    (session.drain.turnsLeft ≤ drainTurns later → last.drain = .raised .workerError)

/-- If `drain` has returned, every submitted batch has had its `send`, each was sent or
counted as dropped, and no worker has failed.  If a worker has failed, `drain` raises. -/
theorem drain_never_mistakes_loss (run : Trace (Step maxBatches) start moves session) :
    (session.drain = .returned →
      session.delivery.finished.Perm (submitted moves) ∧
      session.delivery.batchesSent + session.delivery.batchesDropped =
        (submitted moves).length ∧
      session.delivery.hasFailed = false) ∧
    (session.delivery.hasFailed = true → BoundToRaise maxBatches session) := by
  have sound := sound_of_run sound_start run
  constructor
  · intro returned
    obtain ⟨joined, clean⟩ := sound.returned returned
    obtain ⟨called, finished⟩ := sound.joined joined
    obtain ⟨empty, idle⟩ := Nat.add_eq_zero_iff.mp finished
    obtain ⟨batches, counted⟩ := conserved_of_run run
    rw [sound.blocked called] at batches counted
    refine ⟨?_, ?_, clean⟩
    · rw [DeliveryQueue.batches_of_unfinishedTasks finished, Multiset.coe_nil, zero_add] at batches
      exact (Multiset.coe_eq_coe.mp batches).symm
    · rw [counted, List.length_nil, empty, DeliveryQueue.accounted, idle,
        DeliveryQueue.failures_eq_zero clean]
      omega
  · intro failed later last continued
    have soundLast := sound_of_run sound continued
    have failedLast := hasFailed_of_run failed continued
    have turns := turnsLeft_of_run continued
    refine ⟨fun returned => ?_, resume_isSome soundLast failedLast, fun enough => ?_⟩
    · cases (soundLast.returned returned).2.symm.trans failedLast
    · exact raised_of_turnsLeft soundLast failedLast (by omega)

/-- Two batches through a queue with room for one: one is sent and one dropped. -/
def sampleDelivered : List (Move Nat 2) :=
  [.submit [1], .submit [2], .take 0, .unblock 0, .take 1, .resume, .finish 0 .success,
    .finish 1 .batchDeliveryError, .join, .resume, .resume]

/-- The last batch ends its worker, and the queue is joined before the caller looks. -/
def sampleRefused : List (Move Nat 2) :=
  [.submit [1], .resume, .take 0, .finish 0 .otherError, .join, .resume]

/-- From the first run `drain` returns; in the second it is bound to raise. -/
theorem sample_drain_never_mistakes_loss :
    (∃ session, play (perform 1) sampleDelivered start = some session ∧
      session.delivery.finished.Perm [[1], [2]] ∧
      session.delivery.batchesSent + session.delivery.batchesDropped = 2 ∧
      session.delivery.hasFailed = false) ∧
    ∃ session, play (perform 1) sampleRefused start = some session ∧
      session.joined = true ∧ BoundToRaise 1 session := by
  constructor
  · have played : (play (perform 1) sampleDelivered start).map (fun session => session.drain) =
        some .returned := by
      decide +kernel
    obtain ⟨session, reached, returned⟩ := Option.map_eq_some_iff.mp played
    exact ⟨session, reached,
      (drain_never_mistakes_loss (trace_of_play (perform 1) reached)).1 returned⟩
  · have played : (play (perform 1) sampleRefused start).map
        (fun session => (session.joined, session.delivery.hasFailed)) = some (true, true) := by
      decide +kernel
    obtain ⟨session, reached, state⟩ := Option.map_eq_some_iff.mp played
    obtain ⟨joined, failed⟩ := Prod.mk.inj state
    exact ⟨session, reached, joined,
      (drain_never_mistakes_loss (trace_of_play (perform 1) reached)).2 failed⟩

end Draining

end VoltStream.Simulator
