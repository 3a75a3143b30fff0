/-
Module: VoltStream.Simulator.Backoff
Purpose: The retry policies that `__post_init__` lets through, over doubles with infinities
  and NaN, their backoff, and how a `send_batch` call under them ends.
Trusted boundary: human-reviewed spec of `simulator/retry.py` and of how
  `BackendClient.send_batch` ends; a sleep returns
Main exports: AdmittedPolicy, AdmittedPolicy.delayCeiling, AdmittedPolicy.sendEnding,
  AdmittedPolicy.sendBatchEnding, RetryPolicy.toAdmitted, sendLoop_ending
-/
import VoltStream.Numeric.Double
import VoltStream.Simulator.Client

namespace VoltStream.Simulator

open Numeric

/-- `RetryPolicy` over doubles: each field says that a check of `__post_init__` does not
raise, which a comparison with NaN never makes it do. -/
structure AdmittedPolicy where
  maxAttempts : Nat
  baseDelaySeconds : Double
  maxDelaySeconds : Double
  maxAttemptsBound : ¬maxAttempts < 1
  baseDelayBound : ¬baseDelaySeconds.le .zero = true
  maxDelayBound : ¬maxDelaySeconds.lt baseDelaySeconds = true

namespace AdmittedPolicy

variable (policy : AdmittedPolicy)

/-- `delay_ceiling`.  `none` is the `OverflowError` of turning `2 ** (attempt - 1)` into a
double, which comes before the product and so before the cap. -/
def delayCeiling (attempt : Nat) : Option Double :=
  if 1024 ≤ attempt - 1 then none
  else some (Double.minimum policy.maxDelaySeconds
    (policy.baseDelaySeconds.mulPowTwo (attempt - 1)))

/-- How the `for` loop of `send_batch` ends with this many turns left, at its `attempt`-th
one.  Of the delay only matters that it can be computed. -/
def sendEnding (outcomes : Nat → PostOutcome) (eventCount : Nat) : Nat → Nat → SendEnd
  | 0, _ => .assertionError
  | turns + 1, attempt =>
      match outcomes attempt with
      | .success result => .returned result
      | .failure error =>
          let retryable := isRetryable error
          let willRetry := retryable && decide (attempt < policy.maxAttempts)
          if willRetry then
            match policy.delayCeiling attempt with
            | none => .raised .overflow
            | some _ => sendEnding outcomes eventCount turns (attempt + 1)
          else if !retryable then .raised (.refused error)
          else .raised (.batchDelivery eventCount attempt error)

/-- How `send_batch` ends. -/
def sendBatchEnding (outcomes : Nat → PostOutcome) (eventCount : Nat) : SendEnd :=
  if eventCount = 0 then .returned emptyResult
  else policy.sendEnding outcomes eventCount policy.maxAttempts 1

end AdmittedPolicy

/-! ### Policies of finite delays -/

/-- A policy whose delays are rationals that are doubles. -/
def RetryPolicy.toAdmitted (policy : RetryPolicy) (base : IsDouble policy.baseDelaySeconds)
    (most : IsDouble policy.maxDelaySeconds) : AdmittedPolicy where
  maxAttempts := policy.maxAttempts
  baseDelaySeconds := .finite policy.baseDelaySeconds base
  maxDelaySeconds := .finite policy.maxDelaySeconds most
  maxAttemptsBound := not_lt.mpr policy.maxAttemptsBound
  baseDelayBound := by
    rw [Double.le_of_number rfl rfl, not_le]
    exact WithBot.coe_lt_coe.mpr (WithTop.coe_lt_coe.mpr policy.baseDelayBound)
  maxDelayBound := by
    rw [Double.lt_of_number rfl rfl, not_lt]
    exact WithBot.coe_le_coe.mpr (WithTop.coe_le_coe.mpr policy.maxDelayBound)

/-- Over doubles, such a policy has the ceilings that it has over the rationals: where the
product is infinite, the rational one is above every double. -/
theorem RetryPolicy.delayCeiling_toAdmitted (policy : RetryPolicy)
    (base : IsDouble policy.baseDelaySeconds) (most : IsDouble policy.maxDelaySeconds)
    (attempt : Nat) :
    ((policy.toAdmitted base most).delayCeiling attempt).map Double.number =
      (policy.delayCeiling attempt).map fun ceiling : ℚ =>
        some ((ceiling : WithTop ℚ) : WithBot (WithTop ℚ)) := by
  rw [AdmittedPolicy.delayCeiling, RetryPolicy.delayCeiling]
  split
  · rfl
  · rw [Option.map_some, Option.map_some]
    refine congrArg some ?_
    change (Double.minimum (.finite policy.maxDelaySeconds most)
      ((Double.finite policy.baseDelaySeconds base).mulPowTwo (attempt - 1))).number = _
    by_cases fits : |policy.baseDelaySeconds * 2 ^ (attempt - 1)| < doubleLimit
    · rw [Double.mulPowTwo, dif_pos fits, Double.number_minimum rfl rfl, WithTop.coe_min,
        WithBot.coe_min]
    · have positive : 0 < policy.baseDelaySeconds * 2 ^ (attempt - 1) :=
        mul_pos policy.baseDelayBound (by positivity)
      have beyond : policy.maxDelaySeconds ≤ policy.baseDelaySeconds * 2 ^ (attempt - 1) := by
        rw [abs_of_pos positive, not_lt] at fits
        exact ((le_abs_self _).trans most.abs_lt.le).trans fits
      rw [Double.mulPowTwo, dif_neg fits, decide_eq_false policy.baseDelayBound.not_gt,
        Double.number_minimum rfl rfl, min_eq_left (WithBot.coe_le_coe.mpr le_top),
        min_eq_left beyond]

/-- The loop ends as the one that also says what it sends. -/
theorem sendLoop_ending {κ : Type*} (policy : RetryPolicy)
    (base : IsDouble policy.baseDelaySeconds) (most : IsDouble policy.maxDelaySeconds)
    (draws : Nat → ℚ) (outcomes : Nat → PostOutcome) (body : List κ) (requestId : String)
    (turns attempt : Nat) :
    (sendLoop policy draws outcomes body requestId turns attempt).2 =
      (policy.toAdmitted base most).sendEnding outcomes body.length turns attempt := by
  induction turns generalizing attempt with
  | zero => rfl
  | succ turns ih =>
      rw [sendLoop, AdmittedPolicy.sendEnding]
      cases outcomes attempt with
      | success result => rfl
      | failure error =>
          dsimp only
          by_cases willRetry : (isRetryable error && decide (attempt < policy.maxAttempts)) = true
          · rw [if_pos willRetry]
            refine Eq.trans ?_ (if_pos willRetry).symm
            rw [RetryPolicy.delayFor, RetryPolicy.delayCeiling, AdmittedPolicy.delayCeiling]
            by_cases tooLarge : 1024 ≤ attempt - 1
            · rw [if_pos tooLarge, if_pos tooLarge]
              rfl
            · rw [if_neg tooLarge, if_neg tooLarge]
              exact ih (attempt + 1)
          · rw [if_neg willRetry]
            refine Eq.trans ?_ (if_neg willRetry).symm
            split <;> rfl

end VoltStream.Simulator
