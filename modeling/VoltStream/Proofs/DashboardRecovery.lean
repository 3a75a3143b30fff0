/-
Module: VoltStream.Proofs.DashboardRecovery
Purpose: Whether the dashboard recovers from a failed first request: the page shows a
  summary that has arrived exactly if the first request was answered, and not by an error
  with a message.
Trusted boundary: human-reviewed statement that an answer clears the page (`Move.Settles`)
Main exports: Move.answer, answers, Answered, answered_of_run, Move.Settles,
  fleetDashboardPage_eq_iff, renders_iff, failed_request_hides_updates
-/
import VoltStream.Numeric.Decimal
import VoltStream.Proofs.DashboardHistory

namespace VoltStream.Frontend

open Relational Mount

variable {τ : Type}

/-! ### The answer to the first request -/

/-- The error that an answer to the first request leaves, if any. -/
def Move.answer : Move τ → Option (Option String)
  | .snapshotFetched _ => some none
  | .snapshotFailed err => some (some err.message)
  | _ => none

/-- The answers to the first request before the component is unmounted. -/
def answers (moves : List (Move τ)) : List (Option String) := (heard moves).filterMap Move.answer

theorem answers_concat (moves : List (Move τ)) (move : Move τ) :
    answers (moves ++ [move]) =
      answers moves ++ (if moves.any Move.isUnmount then none else move.answer).toList :=
  filterMap_heard_concat rfl moves move

/-- A move that is no answer leaves loading and error alone. -/
theorem Move.answer_of_not_isAnswer {move : Move τ} (none : move.isAnswer = false) :
    move.answer = Option.none ∧ ∀ state : RealtimeFleetSummaryState τ,
      (state.react move).loading = state.loading ∧ (state.react move).error = state.error := by
  cases move with
  | snapshotFetched data => cases none
  | snapshotFailed err => cases none
  | _ => exact ⟨rfl, fun _ => ⟨rfl, rfl⟩⟩

/-- What an answer leaves of a state that is loading. -/
theorem Move.answer_of_isAnswer {move : Move τ} (isAnswer : move.isAnswer = true)
    {state : RealtimeFleetSummaryState τ} (noError : state.error = none) :
    (state.react move).loading = false ∧ move.answer = some (state.react move).error := by
  cases move with
  | snapshotFetched data => exact ⟨rfl, congrArg some noError.symm⟩
  | snapshotFailed err => exact ⟨rfl, rfl⟩
  | _ => cases isAnswer

/-- Nothing has answered the first request, or one answer has left what it leaves. -/
structure Answered (moves : List (Move τ)) (mount : Mount τ) : Prop where
  pending : mount.snapshotPending = true → answers moves = []
  left :
    answers moves = [] ∧ mount.state.loading = true ∧ mount.state.error = none ∨
      answers moves = [mount.state.error] ∧ mount.state.loading = false

variable {moves : List (Move τ)} {move : Move τ} {before after last : Mount τ}

theorem answered_step (cancelled : before.cancelled = moves.any Move.isUnmount)
    (answered : Answered moves before) (step : before.Step move after) :
    Answered (moves ++ [move]) after := by
  have transition := transition_of_step step
  have stillPending : after.snapshotPending = true →
      before.snapshotPending = true ∧ move.isAnswer = false := by
    intro pending
    rw [transition.snapshotPending, Bool.and_eq_true, Bool.not_eq_true'] at pending
    exact pending
  have state := transition.state
  have same := answers_concat moves move
  rw [cancelled] at state
  cases unmounted : moves.any Move.isUnmount with
  | true =>
      rw [unmounted] at state same
      obtain same : answers (moves ++ [move]) = answers moves := same.trans (List.append_nil _)
      obtain state : after.state = before.state := state
      refine ⟨fun pending => same.trans (answered.pending (stillPending pending).1), ?_⟩
      rw [same, state]
      exact answered.left
  | false =>
      rw [unmounted] at state same
      obtain same : answers (moves ++ [move]) = answers moves ++ move.answer.toList := same
      obtain state : after.state = before.state.react move := state
      cases isAnswer : move.isAnswer with
      | false =>
          obtain ⟨noAnswer, alone⟩ := Move.answer_of_not_isAnswer isAnswer
          obtain ⟨loading, error⟩ := alone before.state
          rw [noAnswer, Option.toList_none, List.append_nil] at same
          refine ⟨fun pending => same.trans (answered.pending (stillPending pending).1), ?_⟩
          rw [same, state, loading, error]
          exact answered.left
      | true =>
          -- The request was pending, so that this is the first answer.
          have none := answered.pending (transition.answers isAnswer)
          have noError : before.state.error = Option.none := by
            rcases answered.left with ⟨-, -, noError⟩ | ⟨one, -⟩
            · exact noError
            · rw [none] at one
              cases one
          obtain ⟨loading, answer⟩ := Move.answer_of_isAnswer isAnswer noError
          refine ⟨fun pending => ?_, .inr ?_⟩
          · rw [isAnswer] at stillPending
            cases (stillPending pending).2
          · rw [same, state, none, answer]
            exact ⟨rfl, loading⟩

theorem answered_of_run (run : Trace Step mounted moves last) : Answered moves last := by
  induction run with
  | nil => exact ⟨fun _ => rfl, .inl ⟨rfl, rfl, rfl⟩⟩
  | @snoc before after moves move run step ih =>
      exact answered_step (cancelled_of_run run) ih step

/-! ### What the page shows -/

/-- The move answers the first request, and not by an error with a message. -/
def Move.Settles : Move τ → Prop
  | .snapshotFetched _ => True
  | .snapshotFailed err => err.message = ""
  | _ => False

variable (toFixed : Nat → ℚ → String)

/-- The page shows the summary that the hook holds exactly if nothing is loading and there
is no error with a message. -/
theorem fleetDashboardPage_eq_iff {state : RealtimeFleetSummaryState τ} {snapshot : Snapshot τ}
    (held : state.summary = some snapshot) :
    fleetDashboardPage toFixed state =
        summaryPage toFixed state.connectionState snapshot.summary ↔
      state.loading = false ∧ state.error.filter (fun error => error ≠ "") = none := by
  unfold fleetDashboardPage summaryPage
  cases state.loading with
  | true => simp
  | false =>
      rw [held]
      cases state.error.filter (fun error => error ≠ "") with
      | none => simp
      | some error => simp

/-- A move that settles the page is an answer without an error that the page shows. -/
theorem exists_settles_iff :
    (∃ move ∈ heard moves, move.Settles) ↔
      ∃ error ∈ answers moves, error.filter (fun error => error ≠ "") = none := by
  constructor
  · rintro ⟨move, isHeard, settles⟩
    cases move with
    | snapshotFetched data => exact ⟨none, List.mem_filterMap.mpr ⟨_, isHeard, rfl⟩, rfl⟩
    | snapshotFailed err =>
        refine ⟨some err.message, List.mem_filterMap.mpr ⟨_, isHeard, rfl⟩, ?_⟩
        rw [show err.message = "" from settles]
        rfl
    | _ => cases settles
  · rintro ⟨error, isAnswer, quiet⟩
    obtain ⟨move, isHeard, answer⟩ := List.mem_filterMap.mp isAnswer
    refine ⟨move, isHeard, ?_⟩
    cases move with
    | snapshotFetched data => trivial
    | snapshotFailed err =>
        obtain rfl := Option.some.inj answer
        have silent : err.message = "" := by simpa using quiet
        exact silent
    | _ => cases answer

/-- Once a summary has arrived, the page shows it exactly if the first request was answered
before, and not by an error with a message. -/
theorem renders_iff (run : Trace Step mounted moves last) {delivery : Channel × Snapshot τ}
    (arrived : (deliveries moves).getLast? = some delivery) :
    fleetDashboardPage toFixed last.state =
        summaryPage toFixed last.state.connectionState delivery.2.summary ↔
      ∃ move ∈ heard moves, move.Settles := by
  have held : last.state.summary = some delivery.2 := by
    rw [summary_of_run run, arrived, Option.map_some]
  rw [fleetDashboardPage_eq_iff toFixed held, exists_settles_iff]
  rcases (answered_of_run run).left with ⟨none, loading, -⟩ | ⟨one, loaded⟩
  · rw [none, loading]
    simp
  · rw [one, loaded]
    simp

/-! ### A failed first request -/

/-- `Number.prototype.toFixed` of a number below `10^21`, which is not negative. -/
def toFixedOfNonneg (digits : Nat) (value : ℚ) : String :=
  let scaled := ⌊value * 10 ^ digits + 1 / 2⌋.toNat
  let characters := Numeric.zeroPadded (digits + 1) scaled
  String.ofList (characters.rdrop digits ++ '.' :: characters.rtake digits)

theorem sample_renders :
    ∃ last, Trace Step mounted promptResponses last ∧
      fleetDashboardPage toFixedOfNonneg last.state =
        summaryPage toFixedOfNonneg last.state.connectionState (idleFleet 3 6).summary := by
  have run : Trace Step mounted promptResponses _ := trace_of_play perform rfl
  refine ⟨_, run, ?_⟩
  have arrived : (deliveries promptResponses).getLast? = some (.events, idleFleet 3 6) := rfl
  exact (renders_iff toFixedOfNonneg run arrived).mpr ⟨_, List.mem_cons_self, trivial⟩

/-- The backend is down when the page is opened, and then comes up. -/
def failedRequest : List (Move Nat) :=
  [.snapshotFailed (.error "Failed to fetch"), .errored false, .opened,
    .fleetUpdate (idleFleet 2 3)]

/-- The connection is live and a summary has arrived, and the page asks whether the
backend is running. -/
theorem failed_request_hides_updates :
    ∃ last, Trace Step mounted failedRequest last ∧
      last.state.summary = some (idleFleet 2 3) ∧ last.state.connectionState = .live ∧
      fleetDashboardPage toFixedOfNonneg last.state =
        .paragraphs
          ["Could not load fleet summary: Failed to fetch",
            "Is the backend running at http://localhost:8000?"] ∧
      fleetDashboardPage toFixedOfNonneg last.state ≠
        summaryPage toFixedOfNonneg last.state.connectionState (idleFleet 2 3).summary := by
  refine ⟨_, trace_of_play perform rfl, rfl, rfl, rfl, ?_⟩
  intro same
  cases same

end VoltStream.Frontend
