/-
Module: VoltStream.Proofs.BackoffRange
Purpose: Which of the policies that `__post_init__` lets through have a well-defined
  backoff, and what becomes of a call under one that has not.
Trusted boundary: none
Main exports: AdmittedPolicy.EndsAsMeant, AdmittedPolicy.WellDefined,
  AdmittedPolicy.sendBatchEnding_overflow, AdmittedPolicy.sendBatchEnding_endsAsMeant,
  AdmittedPolicy.wellDefined_iff
-/
import VoltStream.Simulator.Backoff

namespace VoltStream.Simulator

open Numeric

namespace AdmittedPolicy

variable {policy : AdmittedPolicy}

/-- The ways in which `send_batch` is meant to end. -/
def EndsAsMeant : SendEnd → Prop
  | .returned _ => True
  | .raised (.refused _) => True
  | .raised (.batchDelivery ..) => True
  | .raised .overflow => False
  | .assertionError => False

/-- The ceiling of every attempt can be computed and lies between the two delays, later
ceilings are no smaller, and every call ends in a result, `BatchDeliveryError` or the
backend's refusal. -/
structure WellDefined (policy : AdmittedPolicy) : Prop where
  defined : ∀ attempt, 1 ≤ attempt → attempt ≤ policy.maxAttempts →
    ∃ ceiling, policy.delayCeiling attempt = some ceiling ∧
      policy.baseDelaySeconds.le ceiling = true ∧ ceiling.le policy.maxDelaySeconds = true
  monotone : ∀ attempt later ceiling laterCeiling, 1 ≤ attempt → attempt ≤ later →
    later ≤ policy.maxAttempts → policy.delayCeiling attempt = some ceiling →
    policy.delayCeiling later = some laterCeiling → ceiling.le laterCeiling = true
  ends : ∀ outcomes eventCount, EndsAsMeant (policy.sendBatchEnding outcomes eventCount)

/-! ### Ceilings -/

theorem delayCeiling_eq_none_iff {attempt : Nat} :
    policy.delayCeiling attempt = none ↔ 1025 ≤ attempt := by
  rw [delayCeiling]
  split
  · exact iff_of_true rfl (by omega)
  · exact iff_of_false (by simp) (by omega)

theorem delayCeiling_of_lt {attempt : Nat} (small : attempt < 1025) :
    policy.delayCeiling attempt = some (Double.minimum policy.maxDelaySeconds
      (policy.baseDelaySeconds.mulPowTwo (attempt - 1))) :=
  if_neg (by omega)

/-- Without NaN, the base delay is positive and no more than the greatest one. -/
theorem delays_of_numbers {base most : WithBot (WithTop ℚ)}
    (isBase : policy.baseDelaySeconds.number = some base)
    (isMost : policy.maxDelaySeconds.number = some most) :
    Double.zero.lt policy.baseDelaySeconds = true ∧ base ≤ most := by
  constructor
  · rw [Double.lt_of_number rfl isBase]
    exact not_le.mp fun notPositive =>
      policy.baseDelayBound ((Double.le_of_number isBase rfl).mpr notPositive)
  · exact not_lt.mp fun smaller =>
      policy.maxDelayBound ((Double.lt_of_number isMost isBase).mpr smaller)

/-- Without NaN, a ceiling is the smaller of the greatest delay and a product that is no
less than the base delay; products of later attempts are no smaller. -/
theorem ceiling_number {base most : WithBot (WithTop ℚ)}
    (isBase : policy.baseDelaySeconds.number = some base)
    (isMost : policy.maxDelaySeconds.number = some most) :
    ∃ products : Nat → WithBot (WithTop ℚ), Monotone products ∧ base ≤ products 0 ∧
      ∀ power, (Double.minimum policy.maxDelaySeconds
        (policy.baseDelaySeconds.mulPowTwo power)).number = some (min most (products power)) := by
  obtain ⟨positive, -⟩ := delays_of_numbers isBase isMost
  choose products isProduct using Double.number_mulPowTwo isBase
  refine ⟨products, fun power more less => ?_, ?_, fun power => ?_⟩
  · exact (Double.le_of_number (isProduct power) (isProduct more)).mp
      (Double.mulPowTwo_le positive less)
  · have first := isProduct 0
    rw [Double.mulPowTwo_zero, isBase] at first
    exact (Option.some.inj first).le
  · exact Double.number_minimum isMost (isProduct power)

/-! ### Endings -/

/-- A turn that may try again does so, if it can compute the delay. -/
theorem sendEnding_retry {outcomes : Nat → PostOutcome} {eventCount turns attempt : Nat}
    (retry : (outcomes attempt).isRetryableFailure = true) (more : attempt < policy.maxAttempts) :
    policy.sendEnding outcomes eventCount (turns + 1) attempt =
      match policy.delayCeiling attempt with
      | none => .raised .overflow
      | some _ => policy.sendEnding outcomes eventCount turns (attempt + 1) := by
  obtain ⟨error, outcome, retryable⟩ := PostOutcome.exists_error retry
  rw [sendEnding, outcome]
  cases policy.delayCeiling attempt <;>
    simp only [retryable, more, decide_true, Bool.and_self, if_true]

/-- A turn that may not try again ends as meant. -/
theorem sendEnding_last {outcomes : Nat → PostOutcome} {eventCount turns attempt : Nat}
    (last : (outcomes attempt).isRetryableFailure = false ∨ ¬attempt < policy.maxAttempts) :
    EndsAsMeant (policy.sendEnding outcomes eventCount (turns + 1) attempt) := by
  rw [sendEnding]
  cases outcome : outcomes attempt with
  | success result => trivial
  | failure error =>
      rw [outcome] at last
      cases retryable : isRetryable error with
      | false => simp [retryable, EndsAsMeant]
      | true =>
          have noMore : ¬attempt < policy.maxAttempts :=
            last.resolve_left (by simp [PostOutcome.isRetryableFailure, retryable])
          simp [retryable, noMore, EndsAsMeant]

/-- As long as the delays between its attempts can be computed, the loop ends as meant. -/
theorem sendEnding_endsAsMeant (few : policy.maxAttempts ≤ 1025)
    (outcomes : Nat → PostOutcome) (eventCount turns : Nat) {attempt : Nat}
    (left : attempt + turns = policy.maxAttempts) :
    EndsAsMeant (policy.sendEnding outcomes eventCount (turns + 1) attempt) := by
  induction turns generalizing attempt with
  | zero => exact sendEnding_last (.inr (by omega))
  | succ turns ih =>
      cases retry : (outcomes attempt).isRetryableFailure with
      | false => exact sendEnding_last (.inl retry)
      | true =>
          rw [sendEnding_retry retry (by omega), delayCeiling_of_lt (by omega)]
          exact ih (by omega)

/-- The 1025th turn after failures that may not happen again cannot compute its delay. -/
theorem sendEnding_overflow (many : 1026 ≤ policy.maxAttempts) {outcomes : Nat → PostOutcome}
    (outage : ∀ attempt, (outcomes attempt).isRetryableFailure = true) (eventCount turns : Nat)
    {attempt : Nat} (before : attempt ≤ 1025) (room : 1026 ≤ attempt + turns) :
    policy.sendEnding outcomes eventCount turns attempt = .raised .overflow := by
  induction turns generalizing attempt with
  | zero => omega
  | succ turns ih =>
      rw [sendEnding_retry (outage attempt) (by omega)]
      rcases Nat.lt_or_ge attempt 1025 with sooner | now
      · rw [delayCeiling_of_lt sooner]
        exact ih sooner (by omega)
      · rw [delayCeiling_eq_none_iff.mpr now]

/-- Under a policy of 1026 attempts or more, an outage that outlasts 1025 of them ends the
call with an `OverflowError`. -/
theorem sendBatchEnding_overflow (many : 1026 ≤ policy.maxAttempts)
    {outcomes : Nat → PostOutcome}
    (outage : ∀ attempt, (outcomes attempt).isRetryableFailure = true) {eventCount : Nat}
    (some : eventCount ≠ 0) :
    policy.sendBatchEnding outcomes eventCount = .raised .overflow := by
  rw [sendBatchEnding, if_neg some]
  exact sendEnding_overflow many outage _ _ (by omega) (by omega)

theorem sendBatchEnding_endsAsMeant (few : policy.maxAttempts ≤ 1025)
    (outcomes : Nat → PostOutcome) (eventCount : Nat) :
    EndsAsMeant (policy.sendBatchEnding outcomes eventCount) := by
  obtain ⟨turns, isCount⟩ : ∃ turns, policy.maxAttempts = turns + 1 :=
    ⟨policy.maxAttempts - 1, by have := policy.maxAttemptsBound; omega⟩
  rw [sendBatchEnding]
  split
  · trivial
  · rw [isCount]
    exact sendEnding_endsAsMeant few outcomes eventCount turns (by omega)

/-! ### Which policies -/

/-- For every policy that `__post_init__` lets through: the backoff is well defined exactly
if no more than 1024 attempts are allowed and neither delay is NaN. -/
theorem wellDefined_iff (policy : AdmittedPolicy) :
    policy.WellDefined ↔ policy.maxAttempts ≤ 1024 ∧ policy.baseDelaySeconds ≠ .nan ∧
      policy.maxDelaySeconds ≠ .nan := by
  have bound := policy.maxAttemptsBound
  constructor
  · intro wellDefined
    obtain ⟨ceiling, -, least, most⟩ := wellDefined.defined 1 (by omega) (by omega)
    refine ⟨?_, ?_, ?_⟩
    · by_contra many
      obtain ⟨late, defined, -⟩ := wellDefined.defined 1025 (by omega) (by omega)
      rw [delayCeiling_eq_none_iff.mpr (Nat.le_refl _)] at defined
      cases defined
    · intro isNan
      rw [isNan] at least
      cases least
    · intro isNan
      rw [isNan, Double.le_iff] at most
      obtain ⟨one, two, -, isTwo, -⟩ := most
      cases isTwo
  · rintro ⟨few, baseNumber, mostNumber⟩
    obtain ⟨base, isBase⟩ := Option.ne_none_iff_exists'.mp
      (mt Double.number_eq_none_iff.mp baseNumber)
    obtain ⟨most, isMost⟩ := Option.ne_none_iff_exists'.mp
      (mt Double.number_eq_none_iff.mp mostNumber)
    obtain ⟨products, rising, first, isCeiling⟩ := ceiling_number isBase isMost
    have within := (delays_of_numbers isBase isMost).2
    refine ⟨fun attempt _ inRange => ⟨_, delayCeiling_of_lt (by omega), ?_, ?_⟩, ?_, ?_⟩
    · rw [Double.le_of_number isBase (isCeiling _)]
      exact le_min within (first.trans (rising (Nat.zero_le _)))
    · rw [Double.le_of_number (isCeiling _) isMost]
      exact min_le_left ..
    · intro attempt later ceiling laterCeiling _ ordered inRange isFirst isLater
      rw [delayCeiling_of_lt (by omega)] at isFirst isLater
      obtain rfl := Option.some.inj isFirst
      obtain rfl := Option.some.inj isLater
      rw [Double.le_of_number (isCeiling _) (isCeiling _)]
      exact min_le_min_left _ (rising (Nat.sub_le_sub_right ordered 1))
    · exact sendBatchEnding_endsAsMeant (by omega)

theorem isDouble_default_delays :
    IsDouble RetryPolicy.default.baseDelaySeconds ∧
      IsDouble RetryPolicy.default.maxDelaySeconds := by
  constructor
  · have half := @isDouble_div_pow 1 (by decide) 1 (by decide)
    norm_num at half
    exact half
  · have thirty := @isDouble_div_pow 30 (by decide) 0 (by decide)
    norm_num at thirty
    exact thirty

/-- The default delays, and 1025 attempts. -/
def samplePolicy : AdmittedPolicy :=
  { RetryPolicy.default.toAdmitted isDouble_default_delays.1 isDouble_default_delays.2 with
    maxAttempts := 1025
    maxAttemptsBound := by decide }

/-- It passes `__post_init__`, and has no ceiling for its last attempt. -/
theorem many_attempts_break_backoff : ¬samplePolicy.WellDefined := by
  intro wellDefined
  obtain ⟨ceiling, defined, -⟩ := wellDefined.defined 1025 (by decide) (Nat.le_refl _)
  rw [delayCeiling_eq_none_iff.mpr (Nat.le_refl _)] at defined
  cases defined

end AdmittedPolicy

end VoltStream.Simulator
