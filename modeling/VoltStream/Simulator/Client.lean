/-
Module: VoltStream.Simulator.Client
Purpose: The simulator's HTTP client: which failures are retried, how long it
  waits between attempts, and what a `send_batch` call makes of each outcome.
Trusted boundary: human-reviewed spec of `simulator/retry.py` and of
  `BackendClient.send_batch` in `simulator/client.py`
Main exports: HttpError, isRetryable, RetryPolicy, RetryPolicy.delayCeiling,
  RetryPolicy.delayFor, BatchResult, SendError, Reply, Call, Call.afterError,
  Call.afterReply, PostOutcome, ClientAct, SendEnd, sendBatch
-/
import VoltStream.Backend.Schema

namespace VoltStream.Simulator

/-- `httpx.HTTPError`: an error status, no proper answer at all
(`TransportError`), or one of its other subclasses. -/
inductive HttpError where
  | status (code : Nat)
  | transport
  | other
deriving Repr, DecidableEq

/-- `_RETRYABLE_STATUS_CODES`. -/
def retryableStatusCodes : List Nat := [408, 425, 429]

/-- `is_retryable`. -/
def isRetryable : HttpError → Bool
  | .status code => code ∈ retryableStatusCodes ∨ 500 ≤ code
  | .transport => true
  | .other => false

/-- `RetryPolicy`; what `__post_init__` checks is a field. -/
structure RetryPolicy where
  maxAttempts : Nat
  baseDelaySeconds : ℚ
  maxDelaySeconds : ℚ
  maxAttemptsBound : 1 ≤ maxAttempts
  baseDelayBound : 0 < baseDelaySeconds
  maxDelayBound : baseDelaySeconds ≤ maxDelaySeconds

/-- The defaults of `RetryPolicy`. -/
def RetryPolicy.default : RetryPolicy where
  maxAttempts := 10
  baseDelaySeconds := 1 / 2
  maxDelaySeconds := 30
  maxAttemptsBound := by decide
  baseDelayBound := by norm_num
  maxDelayBound := by norm_num

/-- `delay_ceiling`.  `none` is the `OverflowError` of turning `2 ** (attempt - 1)`
into a double; below that, doubling a double is exact. -/
def RetryPolicy.delayCeiling (policy : RetryPolicy) (attempt : Nat) : Option ℚ :=
  if 1024 ≤ attempt - 1 then none
  else some (min policy.maxDelaySeconds (policy.baseDelaySeconds * 2 ^ (attempt - 1)))

/-- `delay_for`: `uniform(0, ceiling)`, where `draw` is what `random()` gives. -/
def RetryPolicy.delayFor (policy : RetryPolicy) (attempt : Nat) (draw : ℚ) : Option ℚ :=
  (policy.delayCeiling attempt).map fun ceiling => ceiling * draw

/-- The body of a `201`: how many events were received, stored and known. -/
structure BatchResult where
  received : Nat
  inserted : Nat
  duplicates : Nat
deriving Repr, DecidableEq

/-- What `send_batch` raises: the original error of a refusal,
`BatchDeliveryError`, or what `delay_for` raises. -/
inductive SendError where
  | refused (error : HttpError)
  | batchDelivery (eventCount attempts : Nat) (lastError : HttpError)
  | overflow
deriving Repr, DecidableEq

/-- What the backend answers to one POST. -/
inductive Reply where
  | accepted (result : BatchResult)
  | status (code : Nat)
deriving Repr, DecidableEq

/-- Where a `send_batch` call is: about to POST its `attempt`-th attempt, waiting
for the answer, or done. -/
inductive Call where
  | ready (attempt : Nat)
  | awaiting (attempt : Nat)
  | returned (result : BatchResult)
  | raised (error : SendError)
deriving Repr, DecidableEq

namespace Call

def start : Call := .ready 1

/-- The call has returned or raised. -/
def Ended : Call → Prop
  | .ready _ => False
  | .awaiting _ => False
  | .returned _ => True
  | .raised _ => True

/-- The `except httpx.HTTPError` block. -/
def afterError (policy : RetryPolicy) (eventCount attempt : Nat) (error : HttpError) : Call :=
  if isRetryable error then
    if attempt < policy.maxAttempts then
      match policy.delayCeiling attempt with
      | some _ => .ready (attempt + 1)
      | none => .raised .overflow
    else .raised (.batchDelivery eventCount attempt error)
  else .raised (.refused error)

/-- `raise_for_status` and what follows it. -/
def afterReply (policy : RetryPolicy) (eventCount attempt : Nat) : Reply → Call
  | .accepted result => .returned result
  | .status code => afterError policy eventCount attempt (.status code)

end Call

/-- The result of a call without events, for which nothing is sent. -/
def emptyResult : BatchResult := { received := 0, inserted := 0, duplicates := 0 }

/-! ### A whole call -/

/-- How a POST ends: with the parsed body of a good answer, or with an error. -/
inductive PostOutcome where
  | success (result : BatchResult)
  | failure (error : HttpError)
deriving Repr, DecidableEq

/-- A failure that may not happen again. -/
def PostOutcome.isRetryableFailure : PostOutcome → Bool
  | .success _ => false
  | .failure error => isRetryable error

theorem PostOutcome.exists_error {outcome : PostOutcome}
    (retry : outcome.isRetryableFailure = true) :
    ∃ error, outcome = .failure error ∧ isRetryable error = true := by
  cases outcome with
  | success result => cases retry
  | failure error => exact ⟨error, rfl, retry⟩

/-- What a call does to the outside: it POSTs a body under an `X-Request-ID`, or
sleeps. -/
inductive ClientAct (κ : Type*) where
  | post (body : List κ) (requestId : String)
  | sleep (seconds : ℚ)
deriving Repr, DecidableEq

/-- How `send_batch` ends; the last is the `AssertionError` behind its loop. -/
inductive SendEnd where
  | returned (result : BatchResult)
  | raised (error : SendError)
  | assertionError
deriving Repr, DecidableEq

section SendBatch

variable {ε κ : Type*} (policy : RetryPolicy) (draws : Nat → ℚ) (outcomes : Nat → PostOutcome)

/-- The `for` loop of `send_batch` with this many turns left, at its `attempt`-th
one; `draws` and `outcomes` say what `rng` and the POST give at each attempt. -/
def sendLoop (body : List κ) (requestId : String) : Nat → Nat → List (ClientAct κ) × SendEnd
  | 0, _ => ([], .assertionError)
  | turns + 1, attempt =>
      let post : ClientAct κ := .post body requestId
      match outcomes attempt with
      | .success result => ([post], .returned result)
      | .failure error =>
          let retryable := isRetryable error
          let willRetry := retryable && decide (attempt < policy.maxAttempts)
          if willRetry then
            -- The delay is computed first: an `OverflowError` leaves the call.
            match policy.delayFor attempt (draws attempt) with
            | none => ([post], .raised .overflow)
            | some delay =>
                let (acts, ending) := sendLoop body requestId turns (attempt + 1)
                (post :: .sleep delay :: acts, ending)
          else if !retryable then ([post], .raised (.refused error))
          else ([post], .raised (.batchDelivery body.length attempt error))

/-- `send_batch`.  The body is built once, by `_event_to_json_safe`, and so is the
`X-Request-ID`. -/
def sendBatch (eventToJsonSafe : ε → κ) (requestId : String) (events : List ε) :
    List (ClientAct κ) × SendEnd :=
  match events with
  | [] => ([], .returned emptyResult)
  | _ :: _ =>
      sendLoop policy draws outcomes (events.map eventToJsonSafe) requestId policy.maxAttempts 1

end SendBatch

end VoltStream.Simulator
