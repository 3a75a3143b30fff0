/-
Module: VoltStream.Proofs.RetryLoop
Purpose: What one `send_batch` call does over every sequence of outcomes: how many
  POSTs it makes, when it sleeps, and how it ends.
Trusted boundary: none
Main exports: stopsAt, Call.afterOutcome, sendLoop_step, sendLoop_eq,
  send_batch_attempts
-/
import VoltStream.Simulator.Client

namespace VoltStream.Simulator

variable {ε κ : Type*}

/-! ### One turn -/

/-- What the call makes of the outcome of an attempt. -/
def Call.afterOutcome (policy : RetryPolicy) (eventCount attempt : Nat) : PostOutcome → Call
  | .success result => .returned result
  | .failure error => Call.afterError policy eventCount attempt error

/-- A turn of the loop does what the call's state machine says. -/
theorem sendLoop_step (policy : RetryPolicy) (draws : Nat → ℚ) (outcomes : Nat → PostOutcome)
    (body : List κ) (requestId : String) (turns attempt : Nat) :
    sendLoop policy draws outcomes body requestId (turns + 1) attempt =
      match Call.afterOutcome policy body.length attempt (outcomes attempt) with
      | .returned result => ([.post body requestId], .returned result)
      | .raised error => ([.post body requestId], .raised error)
      | _ =>
          let (acts, ending) := sendLoop policy draws outcomes body requestId turns (attempt + 1)
          (.post body requestId ::
            .sleep ((policy.delayFor attempt (draws attempt)).getD 0) :: acts, ending) := by
  rw [sendLoop]
  cases outcomes attempt with
  | success result => rfl
  | failure error =>
      cases retryable : isRetryable error with
      | false => simp [Call.afterOutcome, Call.afterError, retryable]
      | true =>
          by_cases more : attempt < policy.maxAttempts
          · cases ceiling : policy.delayCeiling attempt with
            | none =>
                simp [Call.afterOutcome, Call.afterError, RetryPolicy.delayFor, retryable, more,
                  ceiling]
            | some seconds =>
                simp [Call.afterOutcome, Call.afterError, RetryPolicy.delayFor, retryable, more,
                  ceiling]
          · simp [Call.afterOutcome, Call.afterError, retryable, more]

/-! ### All turns -/

/-- The first of these attempts whose outcome is no retryable failure, or the last
attempt that the policy allows. -/
def stopsFrom (outcomes : Nat → PostOutcome) (maxAttempts attempt turns : Nat) : Nat :=
  ((List.range' attempt turns).find? fun index =>
    !(outcomes index).isRetryableFailure).getD maxAttempts

/-- The attempt after which a call stops. -/
def stopsAt (outcomes : Nat → PostOutcome) (maxAttempts : Nat) : Nat :=
  stopsFrom outcomes maxAttempts 1 maxAttempts

/-- How a call ends that makes nothing more of the outcome of its attempt. -/
def endingOf (eventCount attempt : Nat) : PostOutcome → SendEnd
  | .success result => .returned result
  | .failure error =>
      if isRetryable error then .raised (.batchDelivery eventCount attempt error)
      else .raised (.refused error)

section Endings

variable {eventCount attempt : Nat} {outcome : PostOutcome}

theorem endingOf_eq_returned_iff {result : BatchResult} :
    endingOf eventCount attempt outcome = .returned result ↔ outcome = .success result := by
  cases outcome with
  | success found => simp [endingOf]
  | failure raised =>
      simp only [endingOf]
      split <;> simp

theorem endingOf_eq_refused_iff {error : HttpError} :
    endingOf eventCount attempt outcome = .raised (.refused error) ↔
      outcome = .failure error ∧ isRetryable error = false := by
  cases outcome with
  | success found => simp [endingOf]
  | failure raised =>
      cases retryable : isRetryable raised with
      | false =>
          simp only [endingOf, retryable, Bool.false_eq_true, if_false, SendEnd.raised.injEq,
            SendError.refused.injEq, PostOutcome.failure.injEq]
          exact ⟨fun same => ⟨same, same ▸ retryable⟩, And.left⟩
      | true =>
          simp only [endingOf, retryable, if_true, SendEnd.raised.injEq, reduceCtorEq,
            PostOutcome.failure.injEq, false_iff]
          rintro ⟨rfl, refused⟩
          rw [retryable] at refused
          cases refused

theorem endingOf_eq_batchDelivery_iff {count attempts : Nat} {error : HttpError} :
    endingOf eventCount attempt outcome = .raised (.batchDelivery count attempts error) ↔
      outcome.isRetryableFailure = true ∧ count = eventCount ∧ attempts = attempt ∧
        outcome = .failure error := by
  cases outcome with
  | success found => simp [endingOf, PostOutcome.isRetryableFailure]
  | failure raised =>
      cases retryable : isRetryable raised with
      | false => simp [endingOf, PostOutcome.isRetryableFailure, retryable]
      | true =>
          simp only [endingOf, PostOutcome.isRetryableFailure, retryable, if_true,
            SendEnd.raised.injEq, SendError.batchDelivery.injEq, PostOutcome.failure.injEq,
            true_and]
          exact and_congr eq_comm (and_congr_left' eq_comm)

theorem endingOf_ne_assertionError : endingOf eventCount attempt outcome ≠ .assertionError := by
  cases outcome with
  | success found => simp [endingOf]
  | failure raised =>
      simp only [endingOf]
      split <;> simp

end Endings

section Loop

variable {policy : RetryPolicy} {draws : Nat → ℚ} {outcomes : Nat → PostOutcome}
  {delay : Nat → ℚ}

theorem stopsFrom_cons_of_stop {maxAttempts attempt turns : Nat}
    (stop : (outcomes attempt).isRetryableFailure = false) :
    stopsFrom outcomes maxAttempts attempt (turns + 1) = attempt := by
  rw [stopsFrom, List.range'_succ, List.find?_cons_of_pos (by simpa using stop), Option.getD_some]

theorem stopsFrom_cons_of_retry {maxAttempts attempt turns : Nat}
    (retry : (outcomes attempt).isRetryableFailure = true) :
    stopsFrom outcomes maxAttempts attempt (turns + 1) =
      stopsFrom outcomes maxAttempts (attempt + 1) turns := by
  rw [stopsFrom, List.range'_succ, List.find?_cons_of_neg (by simpa using retry), stopsFrom]

/-- The attempt is one of those asked about, unless all of these are retryable
failures. -/
theorem stopsFrom_cases (outcomes : Nat → PostOutcome) (maxAttempts attempt turns : Nat) :
    (attempt ≤ stopsFrom outcomes maxAttempts attempt turns ∧
        stopsFrom outcomes maxAttempts attempt turns < attempt + turns ∧
        (outcomes (stopsFrom outcomes maxAttempts attempt turns)).isRetryableFailure = false) ∨
      (stopsFrom outcomes maxAttempts attempt turns = maxAttempts ∧
        ∀ index, attempt ≤ index → index < attempt + turns →
          (outcomes index).isRetryableFailure = true) := by
  unfold stopsFrom
  cases found : (List.range' attempt turns).find? fun index =>
      !(outcomes index).isRetryableFailure with
  | some index =>
      obtain ⟨least, below⟩ := List.mem_range'_1.mp (List.mem_of_find?_eq_some found)
      exact Or.inl ⟨least, below, by simpa using List.find?_some found⟩
  | none =>
      rw [List.find?_eq_none] at found
      refine Or.inr ⟨rfl, fun index least below => ?_⟩
      simpa using found index (List.mem_range'_1.mpr ⟨least, below⟩)

/-- With the turns that the policy leaves it, the loop POSTs and sleeps in turns up
to the attempt it stops at. -/
theorem sendLoop_eq
    (numbers : ∀ attempt, 1 ≤ attempt → attempt < policy.maxAttempts →
      policy.delayFor attempt (draws attempt) = some (delay attempt))
    (body : List κ) (requestId : String) (turns : Nat) {attempt : Nat} (first : 1 ≤ attempt)
    (left : attempt + turns = policy.maxAttempts) :
    sendLoop policy draws outcomes body requestId (turns + 1) attempt =
      ((List.range' attempt
          (stopsFrom outcomes policy.maxAttempts attempt (turns + 1) - attempt)).flatMap
            (fun index => [.post body requestId, .sleep (delay index)]) ++
          [.post body requestId],
        endingOf body.length (stopsFrom outcomes policy.maxAttempts attempt (turns + 1))
          (outcomes (stopsFrom outcomes policy.maxAttempts attempt (turns + 1)))) := by
  induction turns generalizing attempt with
  | zero =>
      have last : stopsFrom outcomes policy.maxAttempts attempt 1 = attempt := by
        cases retry : (outcomes attempt).isRetryableFailure with
        | false => exact stopsFrom_cons_of_stop retry
        | true =>
            rw [stopsFrom_cons_of_retry retry, ← left]
            rfl
      have noMore : ¬ attempt < policy.maxAttempts := by omega
      rw [sendLoop_step, last, Nat.sub_self]
      cases outcomes attempt with
      | success result => rfl
      | failure error =>
          cases retryable : isRetryable error with
          | false => simp [Call.afterOutcome, Call.afterError, endingOf, retryable]
          | true => simp [Call.afterOutcome, Call.afterError, endingOf, retryable, noMore]
  | succ turns ih =>
      have more : attempt < policy.maxAttempts := by omega
      rw [sendLoop_step]
      cases retry : (outcomes attempt).isRetryableFailure with
      | false =>
          rw [stopsFrom_cons_of_stop retry, Nat.sub_self]
          cases outcome : outcomes attempt with
          | success result => rfl
          | failure error =>
              rw [outcome] at retry
              have refused : isRetryable error = false := retry
              simp [Call.afterOutcome, Call.afterError, endingOf, refused]
      | true =>
          have later : attempt + 1 ≤
              stopsFrom outcomes policy.maxAttempts (attempt + 1) (turns + 1) := by
            rcases stopsFrom_cases outcomes policy.maxAttempts (attempt + 1) (turns + 1) with
              ⟨least, -⟩ | ⟨last, -⟩
            · exact least
            · rw [last]
              exact more
          have delayed := numbers attempt first more
          have waits : Call.afterOutcome policy body.length attempt (outcomes attempt) =
              .ready (attempt + 1) := by
            obtain ⟨error, outcome, retryable⟩ := PostOutcome.exists_error retry
            obtain ⟨ceiling, isCeiling, -⟩ := Option.map_eq_some_iff.mp delayed
            simp [outcome, Call.afterOutcome, Call.afterError, retryable, more, isCeiling]
          rw [stopsFrom_cons_of_retry retry, waits]
          dsimp only
          rw [ih (Nat.le_succ_of_le first) (by omega), delayed, Option.getD_some]
          have count : stopsFrom outcomes policy.maxAttempts (attempt + 1) (turns + 1) - attempt =
              stopsFrom outcomes policy.maxAttempts (attempt + 1) (turns + 1) - (attempt + 1) +
                1 := by
            omega
          rw [count, List.range'_succ, List.flatMap_cons]
          rfl

end Loop

def ClientAct.isPost : ClientAct κ → Bool
  | .post _ _ => true
  | .sleep _ => false

/-- The POSTs of a call and the sleeps between them. -/
theorem countP_acts (body : List κ) (requestId : String) (delay : Nat → ℚ) (indices : List Nat) :
    (indices.flatMap fun index =>
        [ClientAct.post body requestId, ClientAct.sleep (delay index)]).countP
      ClientAct.isPost = indices.length ∧
    (indices.flatMap fun index =>
        [ClientAct.post body requestId, ClientAct.sleep (delay index)]).countP
      (fun act => !act.isPost) = indices.length := by
  induction indices with
  | nil => exact ⟨rfl, rfl⟩
  | cons index rest ih =>
      obtain ⟨posts, sleeps⟩ := ih
      rw [List.flatMap_cons, List.countP_append, List.countP_append, posts, sleeps,
        List.length_cons]
      exact ⟨Nat.add_comm .., Nat.add_comm ..⟩

/-- For every policy, all outcomes and every batch with an event, as long as
`delay_for` gives numbers: the call makes `k` POSTs of one body under one
`X-Request-ID`, with a sleep between any two, where the `k`-th outcome is the first
that is no retryable failure, or the last one allowed; and that outcome decides how
it ends. -/
theorem send_batch_attempts (policy : RetryPolicy) (draws : Nat → ℚ)
    (outcomes : Nat → PostOutcome) (eventToJsonSafe : ε → κ) (requestId : String)
    (events : List ε) (nonempty : events ≠ []) (delay : Nat → ℚ)
    (numbers : ∀ attempt, 1 ≤ attempt → attempt < policy.maxAttempts →
      policy.delayFor attempt (draws attempt) = some (delay attempt)) :
    let body := events.map eventToJsonSafe
    let k := stopsAt outcomes policy.maxAttempts
    let acts := (sendBatch policy draws outcomes eventToJsonSafe requestId events).1
    let ending := (sendBatch policy draws outcomes eventToJsonSafe requestId events).2
    acts = (List.range' 1 (k - 1)).flatMap
        (fun attempt => [.post body requestId, .sleep (delay attempt)]) ++
          [.post body requestId] ∧
      acts.countP ClientAct.isPost = k ∧ acts.countP (fun act => !act.isPost) = k - 1 ∧
      (∀ result, ending = .returned result ↔ outcomes k = .success result) ∧
      (∀ error, ending = .raised (.refused error) ↔
        outcomes k = .failure error ∧ isRetryable error = false) ∧
      (∀ eventCount attempts error,
        ending = .raised (.batchDelivery eventCount attempts error) ↔
          (∀ attempt, 1 ≤ attempt → attempt ≤ policy.maxAttempts →
            (outcomes attempt).isRetryableFailure = true) ∧
          eventCount = events.length ∧ attempts = policy.maxAttempts ∧
          outcomes policy.maxAttempts = .failure error) ∧
      ending ≠ .assertionError := by
  intro body k acts ending
  obtain ⟨turns, isTurns⟩ : ∃ turns, policy.maxAttempts = turns + 1 :=
    Nat.exists_eq_add_of_le' policy.maxAttemptsBound
  have stop := stopsFrom_cases outcomes policy.maxAttempts 1 policy.maxAttempts
  change (1 ≤ k ∧ k < 1 + policy.maxAttempts ∧ (outcomes k).isRetryableFailure = false) ∨
    (k = policy.maxAttempts ∧ ∀ index, 1 ≤ index → index < 1 + policy.maxAttempts →
      (outcomes index).isRetryableFailure = true) at stop
  have least : 1 ≤ k := by
    rcases stop with ⟨least, -⟩ | ⟨last, -⟩
    · exact least
    · rw [last]
      exact policy.maxAttemptsBound
  have runs : sendBatch policy draws outcomes eventToJsonSafe requestId events =
      ((List.range' 1 (k - 1)).flatMap
        (fun attempt => [.post body requestId, .sleep (delay attempt)]) ++
          [.post body requestId], endingOf events.length k (outcomes k)) := by
    cases events with
    | nil => exact absurd rfl nonempty
    | cons event rest =>
        have looped : sendLoop policy draws outcomes body requestId (turns + 1) 1 = _ :=
          sendLoop_eq numbers body requestId turns (le_refl 1) (by omega)
        rw [← isTurns] at looped
        rw [List.length_map] at looped
        exact looped
  have isActs : acts = (List.range' 1 (k - 1)).flatMap
      (fun attempt => [.post body requestId, .sleep (delay attempt)]) ++
        [.post body requestId] := congrArg Prod.fst runs
  have isEnding : ending = endingOf events.length k (outcomes k) := congrArg Prod.snd runs
  obtain ⟨posts, sleeps⟩ := countP_acts body requestId delay (List.range' 1 (k - 1))
  refine ⟨isActs, ?_, ?_, fun result => ?_, fun error => ?_, fun eventCount attempts error => ?_,
    ?_⟩
  · rw [isActs, List.countP_append, posts, List.length_range']
    exact Nat.sub_add_cancel least
  · rw [isActs, List.countP_append, sleeps, List.length_range']
    rfl
  · rw [isEnding]
    exact endingOf_eq_returned_iff
  · rw [isEnding]
    exact endingOf_eq_refused_iff
  · rw [isEnding, endingOf_eq_batchDelivery_iff]
    rcases stop with ⟨-, below, stops⟩ | ⟨last, retried⟩
    · refine iff_of_false (fun gaveUp => ?_) fun gaveUp => ?_
      · rw [stops] at gaveUp
        cases gaveUp.1
      · have again := gaveUp.1 k least (by omega)
        rw [stops] at again
        cases again
    · have all : ∀ attempt, 1 ≤ attempt → attempt ≤ policy.maxAttempts →
          (outcomes attempt).isRetryableFailure = true :=
        fun attempt first within => retried attempt first (by omega)
      rw [last]
      exact and_congr_left' (iff_of_true (all _ policy.maxAttemptsBound le_rfl) all)
  · rw [isEnding]
    exact endingOf_ne_assertionError

/-- A batch of one event that the backend first answers with a `503`. -/
def sampleOutcomes (attempt : Nat) : PostOutcome :=
  if attempt = 1 then .failure (.status 503)
  else .success { received := 1, inserted := 1, duplicates := 0 }

/-- The call POSTs twice, sleeps once in between and returns the body. -/
theorem sample_send_batch_attempts :
    ((sendBatch RetryPolicy.default (fun _ => 1) sampleOutcomes id "request" [7]).1.countP
        ClientAct.isPost = stopsAt sampleOutcomes 10) ∧
      stopsAt sampleOutcomes 10 = 2 ∧
      (sendBatch RetryPolicy.default (fun _ => 1) sampleOutcomes id "request" [7]).2 =
        .returned { received := 1, inserted := 1, duplicates := 0 } := by
  have attempts := send_batch_attempts RetryPolicy.default (fun _ => 1) sampleOutcomes id
    "request" [7] (by decide)
    (fun attempt => min 30 (1 / 2 * 2 ^ (attempt - 1)))
    (fun attempt first below => by
      have small : ¬ 1024 ≤ attempt - 1 := by
        have : attempt < 10 := below
        omega
      simp [RetryPolicy.delayFor, RetryPolicy.delayCeiling, RetryPolicy.default, small])
  have stop : stopsAt sampleOutcomes 10 = 2 := by decide
  obtain ⟨-, posts, -, returns, -⟩ := attempts
  refine ⟨posts, stop, (returns _).mpr ?_⟩
  change sampleOutcomes (stopsAt sampleOutcomes 10) = _
  rw [stop]
  rfl

end VoltStream.Simulator
