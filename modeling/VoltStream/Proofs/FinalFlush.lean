/-
Module: VoltStream.Proofs.FinalFlush
Purpose: When the simulator waits on a queue that nobody empties: the final flush
  runs between the two places that watch the workers, so a worker that fails
  before or during it goes unnoticed.
Trusted boundary: none
Main exports: Pipeline.Stranded, Pipeline.SparesFlush, Pipeline.stranded_stuck,
  Pipeline.stranded_step_iff, Pipeline.never_stranded_iff
-/
import VoltStream.Proofs.Backpressure

namespace VoltStream.Simulator

open Relational

variable {ε : Type*}

namespace Pipeline

variable {config : PipelineConfig} {before after pipeline : Pipeline config ε}
  {move : Move config ε}

/-- `run_simulator` is suspended in `submit` on a full queue, and every delivery
worker has terminated. -/
def Stranded (pipeline : Pipeline config ε) : Prop :=
  ∃ pending, pipeline.main = .flushing pending ∧
    pipeline.delivery.full config.queueMaxBatches = true ∧ pipeline.delivery.allDone = true

/-- A stranded simulator stays so: no task has a move left. -/
theorem stranded_stuck (bounded : pipeline.Bounded) (stranded : pipeline.Stranded)
    (move : Move config ε) : pipeline.perform move = none := by
  obtain ⟨pending, suspended, full, done⟩ := stranded
  have fleet := of_decide_eq_true (bounded.flushing pending suspended)
  have workers := of_decide_eq_true done
  cases move with
  | tick device event =>
      have ended := fleet device
      simp only [perform, tick]
      cases state : pipeline.devices device with
      | sleeping ticks => rw [state] at ended; cases ended
      | submitting ticks batch => rfl
      | finished => rfl
      | cancelled unsent => rfl
  | unblock device =>
      have ended := fleet device
      simp only [perform, unblock]
      cases state : pipeline.devices device with
      | sleeping ticks => rfl
      | submitting ticks batch => rw [state] at ended; cases ended
      | finished => rfl
      | cancelled unsent => rfl
  | take worker =>
      have ended := workers worker
      simp only [perform, DeliveryQueue.take]
      cases state : pipeline.delivery.workers worker with
      | waiting => rw [state] at ended; cases ended
      | sending batch => rfl
      | failed => rfl
      | cancelled unsent => rfl
  | finish worker outcome =>
      have ended := workers worker
      simp only [perform, DeliveryQueue.finish]
      cases state : pipeline.delivery.workers worker with
      | waiting => rfl
      | sending batch => rw [state] at ended; cases ended
      | failed => rfl
      | cancelled unsent => rfl
  | resume => simp only [perform, resume, suspended, DeliveryQueue.put, full, if_true]; rfl

/-! ### The moves that strand it -/

/-- The move does not strand the final flush: `run_simulator` does not begin it with
events left, a full queue and no worker; and while it is suspended on a full
queue, the last worker does not end with an error. -/
def SparesFlush (before : Pipeline config ε) : Move config ε → Prop
  | .resume =>
      ¬ (before.main = .watching ∧ before.fleetDone = true ∧ before.buffer ≠ [] ∧
        before.delivery.full config.queueMaxBatches = true ∧ before.delivery.allDone = true)
  | .finish worker outcome =>
      ¬ (outcome = .otherError ∧ (before.delivery.workers worker).isSending = true ∧
        (∃ pending, before.main = .flushing pending) ∧
        before.delivery.full config.queueMaxBatches = true ∧
        ∀ other, other ≠ worker → (before.delivery.workers other).isDone = true)
  | _ => True

/-- The pipeline after a turn; a turn that is not possible changes nothing. -/
def turn (pipeline : Pipeline config ε) (move : Move config ε) : Pipeline config ε :=
  (pipeline.perform move).getD pipeline

theorem turn_cases (pipeline : Pipeline config ε) (move : Move config ε) :
    pipeline.perform move = none ∧ pipeline.turn move = pipeline ∨
      Transition pipeline move (pipeline.turn move) := by
  unfold turn
  cases performed : pipeline.perform move with
  | none => exact Or.inl ⟨rfl, rfl⟩
  | some after => exact Or.inr (transition_of_step performed)

theorem not_stranded_of_main (other : ∀ pending, pipeline.main ≠ .flushing pending) :
    ¬ pipeline.Stranded :=
  fun stranded => other _ stranded.choose_spec.1

/-- Everyone is done after one worker's change exactly if that worker is and all
others were. -/
theorem allDone_update {sendWorkers : Nat} {first second : DeliveryQueue ε sendWorkers}
    {worker : Fin sendWorkers} {state : Worker ε}
    (changed : second.workers = Function.update first.workers worker state) :
    second.allDone = true ↔ state.isDone = true ∧
      ∀ other, other ≠ worker → (first.workers other).isDone = true := by
  rw [DeliveryQueue.allDone, decide_eq_true_eq, changed]
  constructor
  · intro all
    refine ⟨?_, fun other different => ?_⟩
    · have own := all worker
      rwa [Function.update_self] at own
    · have own := all other
      rwa [Function.update_of_ne different] at own
  · rintro ⟨own, others⟩ other
    by_cases same : other = worker
    · subst same
      rwa [Function.update_self]
    · rw [Function.update_of_ne same]
      exact others other same

/-- The end of a `send` strands the flush exactly if the move does not spare it. -/
theorem stranded_sent_iff {worker : Fin config.sendWorkers} {outcome : SendOutcome}
    {batch : List ε} {delivery : DeliveryQueue ε config.sendWorkers}
    (ends : DeliveryQueue.Sent worker outcome batch before.delivery delivery) :
    ({ before with delivery := delivery } : Pipeline config ε).Stranded ↔
      ¬ before.SparesFlush (.finish worker outcome) := by
  have sending : (before.delivery.workers worker).isSending = true := by
    rw [ends.sending]
    rfl
  have failed : (if outcome = .otherError then .failed else .waiting : Worker ε).isDone = true ↔
      outcome = .otherError := by
    split
    · next other => exact ⟨fun _ => other, fun _ => rfl⟩
    · next other => exact ⟨nofun, fun same => absurd same other⟩
  simp only [Stranded, SparesFlush, DeliveryQueue.full, ends.queue, not_not,
    allDone_update ends.workers, failed]
  constructor
  · rintro ⟨pending, suspended, full, other, others⟩
    exact ⟨other, sending, ⟨pending, suspended⟩, full, others⟩
  · rintro ⟨other, -, ⟨pending, suspended⟩, full, others⟩
    exact ⟨pending, suspended, full, other, others⟩

/-- The final flush begins stranded exactly if the move does not spare it. -/
theorem stranded_lastFlush_iff {held : Option (List ε)}
    {delivery : DeliveryQueue ε config.sendWorkers} {state : Main ε}
    (watching : before.main = .watching) (done : before.fleetDone = true)
    (pending : before.buffer ≠ [])
    (submitted : before.delivery.submit config.queueMaxBatches before.buffer = (held, delivery))
    (goesOn : held = none → state = .draining)
    (waits : ∀ batch, held = some batch → state = .flushing batch) :
    ({ before with buffer := [], delivery := delivery, main := state } :
      Pipeline config ε).Stranded ↔ ¬ before.SparesFlush .resume := by
  rw [SparesFlush, not_not]
  rcases DeliveryQueue.submit_cases submitted with ⟨rfl, room, rfl⟩ | ⟨rfl, full, rfl⟩
  · constructor
    · rintro ⟨held, suspended, -, -⟩
      rw [goesOn rfl] at suspended
      cases suspended
    · rintro ⟨-, -, -, full, -⟩
      rw [room] at full
      cases full
  · constructor
    · rintro ⟨held, -, -, allDone⟩
      exact ⟨watching, done, pending, full, allDone⟩
    · rintro ⟨-, -, -, -, allDone⟩
      exact ⟨before.buffer, waits _ rfl, full, allDone⟩

theorem spares_resume (phase : before.main ≠ .watching) : before.SparesFlush .resume :=
  fun strands => phase strands.1

/-- A turn strands a bounded pipeline exactly if it does not spare the flush. -/
theorem stranded_step_iff (bounded : before.Bounded)
    (transition : Transition before move after) :
    ¬ after.Stranded ↔ before.SparesFlush move := by
  cases transition with
  | buffered asleep =>
      exact iff_of_true (not_stranded_of_main
        (bounded.not_flushing (not_done_of_unfinished (by rw [asleep]; rfl)))) trivial
  | handedOver asleep =>
      exact iff_of_true (not_stranded_of_main
        (bounded.not_flushing (not_done_of_unfinished (by rw [asleep]; rfl)))) trivial
  | unblocked suspended =>
      exact iff_of_true (not_stranded_of_main
        (bounded.not_flushing (not_done_of_unfinished (by rw [suspended]; rfl)))) trivial
  | taken takes =>
      refine iff_of_true ?_ trivial
      rintro ⟨-, -, -, allDone⟩
      cases ((allDone_update takes.workers).mp allDone).1
  | sent ends => rw [stranded_sent_iff ends, not_not]
  | fleetEnded watching done empty =>
      exact iff_of_true (not_stranded_of_main fun _ => nofun)
        fun strands => strands.2.2.1 empty
  | lastFlush watching done pending submitted goesOn waits =>
      rw [stranded_lastFlush_iff watching done pending submitted goesOn waits, not_not]
  | aborted watching undone =>
      refine iff_of_true (not_stranded_of_main fun _ => nofun) fun strands => ?_
      rw [undone] at strands
      cases strands.2.1
  | flushed suspended =>
      exact iff_of_true (not_stranded_of_main fun _ => nofun)
        (spares_resume (by rw [suspended]; nofun))
  | settled draining =>
      exact iff_of_true (not_stranded_of_main fun _ => nofun)
        (spares_resume (by rw [draining]; nofun))
  | drained settling =>
      exact iff_of_true (not_stranded_of_main fun _ => nofun)
        (spares_resume (by rw [settling]; nofun))
  | stopped stopping =>
      exact iff_of_true (not_stranded_of_main fun _ => nofun)
        (spares_resume (by rw [stopping]; nofun))

/-- A turn that is not possible spares the flush. -/
theorem spares_of_impossible (impossible : before.perform move = none) :
    before.SparesFlush move := by
  cases move with
  | tick => trivial
  | unblock => trivial
  | take => trivial
  | finish worker outcome =>
      rintro ⟨rfl, sending, -⟩
      cases state : before.delivery.workers worker with
      | sending batch =>
          simp only [perform, DeliveryQueue.finish, state] at impossible
          cases impossible
      | waiting => rw [state] at sending; cases sending
      | failed => rw [state] at sending; cases sending
      | cancelled unsent => rw [state] at sending; cases sending
  | resume =>
      rintro ⟨watching, done, -, full, -⟩
      cases buffer : before.buffer <;>
        simp [perform, resume, watching, done, buffer, flush, DeliveryQueue.submit,
          DeliveryQueue.put, full] at impossible

theorem turn_bounded (bounded : before.Bounded) : (before.turn move).Bounded := by
  rcases turn_cases before move with ⟨-, same⟩ | transition
  · rwa [same]
  · exact bounded_step bounded transition

theorem stranded_turn_iff (bounded : before.Bounded) (spared : ¬ before.Stranded) :
    ¬ (before.turn move).Stranded ↔ before.SparesFlush move := by
  rcases turn_cases before move with ⟨impossible, same⟩ | transition
  · rw [same]
    exact iff_of_true spared (spares_of_impossible impossible)
  · exact stranded_step_iff bounded transition

/-- Over every configuration, interleaving and outcome: the simulator never waits
on a queue that nobody is emptying exactly if every turn spares the final flush. -/
theorem never_stranded_iff (config : PipelineConfig) (moves : List (Move config ε)) :
    (∀ reached ∈ visited turn (start config) moves, ¬ reached.Stranded) ↔
      ∀ taking ∈ taken turn (start config) moves, taking.1.SparesFlush taking.2 :=
  visited_iff_taken_within turn (fun _ _ bounded (_ : True) => turn_bounded bounded)
    (fun _ _ bounded (_ : True) spared => stranded_turn_iff bounded spared) bounded_start
    (not_stranded_of_main fun _ => nofun) moves fun _ _ => trivial

/-- The worker's `send` is refused while the last event waits for room. -/
theorem refused_send_strands_flush :
    ∃ pipeline, play perform (sampleMoves ++ [.finish sampleWorker .otherError])
        (start sampleConfig) = some pipeline ∧ pipeline.Stranded := by
  have played : (play perform (sampleMoves ++ [.finish sampleWorker .otherError])
      (start sampleConfig)).map (fun pipeline => (pipeline.main,
        pipeline.delivery.full sampleConfig.queueMaxBatches, pipeline.delivery.allDone)) =
      some (.flushing [5], true, true) := by
    decide +kernel
  obtain ⟨pipeline, reached, state⟩ := Option.map_eq_some_iff.mp played
  obtain ⟨suspended, rest⟩ := Prod.mk.inj state
  obtain ⟨full, allDone⟩ := Prod.mk.inj rest
  exact ⟨pipeline, reached, [5], suspended, full, allDone⟩

end Pipeline

end VoltStream.Simulator
