/-
Module: VoltStream.Numeric.Double
Purpose: Doubles as data: which rationals are doubles, the infinities and NaN, how they
  compare, which of them is nearest to a rational, and their products with powers of two,
  which are exact as long as they are finite.
Trusted boundary: human-reviewed spec of IEEE 754 binary64; the two zeros are one
Main exports: IsDouble, isDouble_div_pow, isDouble_mul_pow, roundHalfEven, Rounds,
  Rounds.floor_eq, Rounds.nonneg, Double, Double.nearest, Double.nearest_of_isDouble,
  Double.number, Double.le, Double.lt, Double.minimum, Double.mulPowTwo, Double.mulPowTwo_le
-/
import Mathlib

namespace VoltStream.Numeric

/-- A whole number of less than 54 bits, times a power of two from the least to the
greatest exponent. -/
def IsDouble (value : ℚ) : Prop :=
  ∃ (significand : Int) (exponent : Nat), |significand| < 2 ^ 53 ∧ exponent ≤ 2045 ∧
    value * 2 ^ 1074 = significand * 2 ^ exponent

/-- Whole numbers of less than 54 bits, and their parts by powers of two. -/
theorem isDouble_div_pow {significand : Int} (small : |significand| < 2 ^ 53) {power : Nat}
    (low : power ≤ 1074) : IsDouble (significand / 2 ^ power) := by
  refine ⟨significand, 1074 - power, small, by omega, ?_⟩
  rw [div_mul_eq_mul_div, mul_div_assoc, pow_sub₀ (2 : ℚ) two_ne_zero low, div_eq_mul_inv]

/-- The least power of two that is too large for a double. -/
def doubleLimit : ℚ := 2 ^ 1024

theorem doubleLimit_scaled : doubleLimit * 2 ^ 1074 = 2 ^ 53 * 2 ^ 2045 := by
  rw [doubleLimit, ← pow_add, ← pow_add]

theorem IsDouble.abs_lt {value : ℚ} (isDouble : IsDouble value) : |value| < doubleLimit := by
  obtain ⟨significand, exponent, small, low, same⟩ := isDouble
  have scaled : |value| * 2 ^ 1074 < doubleLimit * 2 ^ 1074 := by
    calc |value| * 2 ^ 1074 = |value * 2 ^ 1074| := by
          rw [abs_mul, abs_of_pos (by positivity : (0 : ℚ) < 2 ^ 1074)]
      _ = (|significand| : Int) * 2 ^ exponent := by
          rw [same, abs_mul, abs_of_pos (by positivity : (0 : ℚ) < 2 ^ exponent), Int.cast_abs]
      _ < 2 ^ 53 * 2 ^ exponent := by
          exact mul_lt_mul_of_pos_right (by exact_mod_cast small) (by positivity)
      _ ≤ 2 ^ 53 * 2 ^ 2045 := by
          exact mul_le_mul_of_nonneg_left (pow_le_pow_right₀ one_le_two low) (by positivity)
      _ = doubleLimit * 2 ^ 1074 := doubleLimit_scaled.symm
  exact lt_of_mul_lt_mul_right scaled (by positivity)

/-- A product with a power of two is a double unless it is too large. -/
theorem isDouble_mul_pow {value : ℚ} (isDouble : IsDouble value) (power : Nat)
    (fits : |value * 2 ^ power| < doubleLimit) : IsDouble (value * 2 ^ power) := by
  obtain ⟨significand, exponent, small, low, same⟩ := isDouble
  have scaled : value * 2 ^ power * 2 ^ 1074 = significand * 2 ^ (exponent + power) := by
    rw [mul_right_comm, same, pow_add, mul_assoc]
  rcases Nat.le_total (exponent + power) 2045 with within | beyond
  · exact ⟨significand, exponent + power, small, within, scaled⟩
  · -- What the exponent has too much goes to the significand.
    obtain ⟨surplus, isSum⟩ := Nat.exists_eq_add_of_le beyond
    refine ⟨significand * 2 ^ surplus, 2045, ?_, Nat.le_refl _, ?_⟩
    · have bounded : |(significand : ℚ) * 2 ^ surplus| * 2 ^ 2045 < 2 ^ 53 * 2 ^ 2045 := by
        calc |(significand : ℚ) * 2 ^ surplus| * 2 ^ 2045
            = |value * 2 ^ power * 2 ^ 1074| := by
              rw [scaled, isSum, pow_add, ← abs_of_pos (by positivity : (0 : ℚ) < 2 ^ 2045),
                ← abs_mul, abs_of_pos (by positivity : (0 : ℚ) < 2 ^ 2045), mul_assoc,
                mul_comm (2 ^ surplus)]
          _ = |value * 2 ^ power| * 2 ^ 1074 := by
              rw [abs_mul, abs_of_pos (by positivity : (0 : ℚ) < 2 ^ 1074)]
          _ < doubleLimit * 2 ^ 1074 := by
              exact mul_lt_mul_of_pos_right fits (by positivity)
          _ = 2 ^ 53 * 2 ^ 2045 := doubleLimit_scaled
      have small := lt_of_mul_lt_mul_right bounded (by positivity)
      exact_mod_cast small
    · rw [scaled, isSum, pow_add, Int.cast_mul, Int.cast_pow, Int.cast_ofNat, mul_assoc,
        mul_comm (2 ^ 2045)]

/-! ### Rounding -/

/-- Rounding to a whole number, a half to the even one. -/
def roundHalfEven (value : ℚ) : Int :=
  let low := value.floor
  let fraction := value - low
  if fraction < 1 / 2 then low
  else if 1 / 2 < fraction then low + 1
  else if low % 2 = 0 then low else low + 1

theorem roundHalfEven_intCast (whole : Int) : roundHalfEven whole = whole := by
  have floor : (whole : ℚ).floor = whole := Rat.floor_intCast whole
  rw [roundHalfEven, floor]
  norm_num

theorem roundHalfEven_nonneg {value : ℚ} (nonneg : 0 ≤ value) : 0 ≤ roundHalfEven value := by
  have low : (0 : Int) ≤ value.floor := Rat.le_floor_iff.mpr (by exact_mod_cast nonneg)
  unfold roundHalfEven
  simp only
  split_ifs
  · exact low
  · exact Int.add_nonneg low Int.one_nonneg
  · exact low
  · exact Int.add_nonneg low Int.one_nonneg

/-- A whole number is not passed. -/
theorem roundHalfEven_le {value : ℚ} {whole : Int} (atMost : value ≤ whole) :
    roundHalfEven value ≤ whole := by
  have low : value.floor ≤ whole := by exact_mod_cast (Rat.floor_le value).trans atMost
  rcases low.lt_or_eq with below | isWhole
  · unfold roundHalfEven
    simp only
    split_ifs <;> omega
  · have same : value = whole := le_antisymm atMost (isWhole ▸ Rat.floor_le value)
    rw [same, roundHalfEven_intCast]

theorem le_roundHalfEven {value : ℚ} {whole : Int} (atLeast : (whole : ℚ) ≤ value) :
    whole ≤ roundHalfEven value := by
  have low : whole ≤ value.floor := Rat.le_floor_iff.mpr atLeast
  unfold roundHalfEven
  simp only
  split_ifs <;> omega

/-- What every rounding to doubles does, whatever its direction: it keeps the order, and the
doubles. -/
structure Rounds (round : ℚ → ℚ) : Prop where
  monotone : Monotone round
  exact : ∀ value, IsDouble value → round value = value

/-- Exact arithmetic. -/
theorem rounds_id : Rounds id := ⟨monotone_id, fun _ _ => rfl⟩

theorem Rounds.zero {round : ℚ → ℚ} (rounds : Rounds round) : round 0 = 0 :=
  rounds.exact 0 ⟨0, 0, by norm_num, by norm_num, by norm_num⟩

theorem Rounds.nonneg {round : ℚ → ℚ} (rounds : Rounds round) {value : ℚ}
    (nonneg : 0 ≤ value) : 0 ≤ round value :=
  rounds.zero.symm.trans_le (rounds.monotone nonneg)

/-- Rounding does not take a value to another whole part, if the value is an eighth away
from the next whole number. -/
theorem Rounds.floor_eq {round : ℚ → ℚ} (rounds : Rounds round) {value : ℚ} {whole : Int}
    (atLeast : whole ≤ value) (below : value ≤ whole + 7 / 8) (small : |whole| < 2 ^ 49) :
    ⌊round value⌋ = whole := by
  have least : round whole = whole := by
    refine rounds.exact _ ?_
    have isDouble := @isDouble_div_pow whole (small.trans (by norm_num)) 0 (by norm_num)
    simpa using isDouble
  have most : round (whole + 7 / 8) = whole + 7 / 8 := by
    refine rounds.exact _ ?_
    obtain ⟨negative, positive⟩ := abs_lt.mp small
    have significand : |8 * whole + 7| < 2 ^ 53 := abs_lt.mpr ⟨by linarith, by linarith⟩
    have isDouble := isDouble_div_pow significand (show 3 ≤ 1074 by norm_num)
    have same : ((8 * whole + 7 : Int) : ℚ) / 2 ^ 3 = whole + 7 / 8 := by
      push_cast
      ring
    exact same ▸ isDouble
  rw [Int.floor_eq_iff]
  constructor
  · exact least.symm.trans_le (rounds.monotone atLeast)
  · exact ((rounds.monotone below).trans_eq most).trans_lt (by linarith)

/-! ### The nearest double -/

/-- The exponent of the last binary place that a double has room for at this value. -/
def lastPlace (value : ℚ) : Int := max (-1074) (Int.log 2 |value| - 52)

/-- What is left of the value in the places up to the last one. -/
def significand (value : ℚ) : Int := roundHalfEven (value / 2 ^ lastPlace value)

theorem abs_lt_lastPlace (value : ℚ) : |value| < 2 ^ (53 + lastPlace value) := by
  calc |value| < 2 ^ (Int.log 2 |value| + 1) := Int.lt_zpow_succ_log_self (by norm_num) _
    _ ≤ 2 ^ (53 + lastPlace value) := by
      refine zpow_le_zpow_right₀ (by norm_num) ?_
      have := le_max_right (-1074) (Int.log 2 |value| - 52)
      rw [← lastPlace] at this
      omega

theorem abs_significand_le (value : ℚ) : |significand value| ≤ 2 ^ 53 := by
  have place : (0 : ℚ) < 2 ^ lastPlace value := by positivity
  have scaled : |value / 2 ^ lastPlace value| ≤ 2 ^ 53 := by
    rw [abs_div, abs_of_pos place, div_le_iff₀ place]
    have below := (abs_lt_lastPlace value).le
    rwa [zpow_add₀ two_ne_zero] at below
  obtain ⟨atLeast, atMost⟩ := abs_le.mp scaled
  refine abs_le.mpr ⟨le_roundHalfEven ?_, roundHalfEven_le ?_⟩
  · exact_mod_cast atLeast
  · exact_mod_cast atMost

/-- A significand of up to 53 bits, or the one that carries over. -/
theorem isDouble_of_significand {significand place : Int} (small : |significand| ≤ 2 ^ 53)
    (least : -1074 ≤ place) (fits : |(significand : ℚ) * 2 ^ place| < doubleLimit) :
    IsDouble (significand * 2 ^ place) := by
  obtain ⟨power, isPower⟩ := Int.eq_ofNat_of_zero_le (show 0 ≤ place + 1074 by omega)
  have parts : (2 : ℚ) ^ place = 2 ^ power / 2 ^ 1074 := by
    rw [show place = (power : Int) - (1074 : Nat) by push_cast; omega,
      zpow_sub₀ two_ne_zero, zpow_natCast, zpow_natCast]
  rcases small.lt_or_eq with small | carries
  · have product : (significand : ℚ) * 2 ^ place = significand / 2 ^ 1074 * 2 ^ power := by
      rw [parts, mul_div_assoc', div_mul_eq_mul_div]
    rw [product] at fits ⊢
    exact isDouble_mul_pow (isDouble_div_pow small le_rfl) power fits
  · obtain ⟨half, isHalf, smallHalf⟩ : ∃ half : Int, significand = half * 2 ∧ |half| < 2 ^ 53 := by
      rcases (abs_eq (by norm_num)).mp carries with rfl | rfl
      · exact ⟨2 ^ 52, by norm_num, by norm_num⟩
      · exact ⟨-2 ^ 52, by norm_num, by norm_num⟩
    have product : (significand : ℚ) * 2 ^ place = half / 2 ^ 1074 * 2 ^ (power + 1) := by
      rw [parts, isHalf, Int.cast_mul, Int.cast_ofNat, pow_succ' (2 : ℚ) power, mul_div_assoc',
        div_mul_eq_mul_div, mul_assoc]
    rw [product] at fits ⊢
    exact isDouble_mul_pow (isDouble_div_pow smallHalf le_rfl) (power + 1) fits

/-- A double has no place behind the last one. -/
theorem significand_of_isDouble {value : ℚ} (isDouble : IsDouble value) :
    (significand value : ℚ) * 2 ^ lastPlace value = value := by
  obtain ⟨whole, power, small, -, same⟩ := isDouble
  have isProduct : value = whole * 2 ^ ((power : Int) - 1074) := by
    rw [zpow_sub₀ two_ne_zero, zpow_natCast, ← mul_div_assoc, ← same]
    norm_num
  have place : (0 : ℚ) < 2 ^ lastPlace value := by positivity
  suffices isWhole : ∃ integer : Int, value / 2 ^ lastPlace value = integer by
    obtain ⟨integer, isInteger⟩ := isWhole
    rw [significand, isInteger, roundHalfEven_intCast, ← isInteger, div_mul_cancel₀ _ place.ne']
  by_cases isZero : value = 0
  · exact ⟨0, by rw [isZero, zero_div, Int.cast_zero]⟩
  · have below : |value| < 2 ^ ((53 : Int) + (power - 1074)) := by
      rw [isProduct, abs_mul, abs_of_pos (by positivity : (0 : ℚ) < 2 ^ ((power : Int) - 1074)),
        zpow_add₀ two_ne_zero]
      refine mul_lt_mul_of_pos_right ?_ (by positivity)
      exact_mod_cast small
    have log : Int.log 2 |value| < 53 + (power - 1074) :=
      (Int.lt_zpow_iff_log_lt (by norm_num) (abs_pos.mpr isZero)).mp below
    obtain ⟨surplus, isSurplus⟩ := Int.eq_ofNat_of_zero_le
      (show 0 ≤ (power : Int) - 1074 - lastPlace value by rw [lastPlace]; omega)
    refine ⟨whole * 2 ^ surplus, ?_⟩
    rw [div_eq_iff place.ne', Int.cast_mul, mul_assoc]
    nth_rewrite 1 [isProduct]
    rw [Int.cast_pow, Int.cast_ofNat, ← zpow_natCast, ← isSurplus, ← zpow_add₀ two_ne_zero]
    congr 2
    omega

/-! ### Data -/

/-- A double, an infinity or NaN. -/
inductive Double where
  | finite (value : ℚ) (isDouble : IsDouble value)
  | infinity (negative : Bool)
  | nan

namespace Double

/-- Neither an infinity nor NaN. -/
def isFinite : Double → Bool
  | .finite _ _ => true
  | .infinity _ => false
  | .nan => false

/-- The nearest double, of two the one with the even significand; infinite beyond them. -/
def nearest (value : ℚ) : Double :=
  if fits : |(significand value : ℚ) * 2 ^ lastPlace value| < doubleLimit then
    .finite (significand value * 2 ^ lastPlace value)
      (isDouble_of_significand (abs_significand_le value) (le_max_left ..) fits)
  else .infinity (value < 0)

/-- A double is the nearest one to itself. -/
theorem nearest_of_isDouble {value : ℚ} (isDouble : IsDouble value) :
    nearest value = .finite value isDouble := by
  have same := significand_of_isDouble isDouble
  have fits : |(significand value : ℚ) * 2 ^ lastPlace value| < doubleLimit :=
    same.symm ▸ isDouble.abs_lt
  rw [nearest, dif_pos fits]
  simp only [same]

/-- Where the double stands among the numbers; NaN does not. -/
def number : Double → Option (WithBot (WithTop ℚ))
  | .finite value _ => some ((value : WithTop ℚ) : WithBot (WithTop ℚ))
  | .infinity true => some ⊥
  | .infinity false => some ((⊤ : WithTop ℚ) : WithBot (WithTop ℚ))
  | .nan => none

/-- `first <= second`: never for NaN. -/
def le (first second : Double) : Bool :=
  match first.number, second.number with
  | some one, some two => one ≤ two
  | _, _ => false

/-- `first < second`: never for NaN. -/
def lt (first second : Double) : Bool :=
  match first.number, second.number with
  | some one, some two => one < two
  | _, _ => false

/-- `min(first, second)`: the first unless the second is smaller. -/
def minimum (first second : Double) : Double := if second.lt first then second else first

def zero : Double :=
  .finite 0 ⟨0, 0, by norm_num, by norm_num, by norm_num⟩

/-- The product with a power of two of at most 1023, which is a double itself: exact, or
infinite where it is too large. -/
def mulPowTwo (power : Nat) : Double → Double
  | .finite value isDouble =>
      if fits : |value * 2 ^ power| < doubleLimit then
        .finite (value * 2 ^ power) (isDouble_mul_pow isDouble power fits)
      else .infinity (value < 0)
  | .infinity negative => .infinity negative
  | .nan => .nan

theorem number_eq_none_iff {datum : Double} : datum.number = none ↔ datum = .nan := by
  cases datum with
  | finite value isDouble => simp [number]
  | infinity negative => cases negative <;> simp [number]
  | nan => simp [number]

theorem le_iff {first second : Double} :
    first.le second = true ↔
      ∃ one two, first.number = some one ∧ second.number = some two ∧ one ≤ two := by
  unfold le
  cases first.number <;> cases second.number <;> simp

theorem le_of_number {first second : Double} {one two : WithBot (WithTop ℚ)}
    (isOne : first.number = some one) (isTwo : second.number = some two) :
    first.le second = true ↔ one ≤ two := by
  rw [le, isOne, isTwo]
  exact decide_eq_true_iff

theorem lt_of_number {first second : Double} {one two : WithBot (WithTop ℚ)}
    (isOne : first.number = some one) (isTwo : second.number = some two) :
    first.lt second = true ↔ one < two := by
  rw [lt, isOne, isTwo]
  exact decide_eq_true_iff

/-- Without NaN, the minimum is that of the numbers. -/
theorem number_minimum {first second : Double} {one two : WithBot (WithTop ℚ)}
    (isOne : first.number = some one) (isTwo : second.number = some two) :
    (minimum first second).number = some (min one two) := by
  rw [minimum]
  split
  · next smaller =>
      rw [isTwo, min_eq_right ((lt_of_number isTwo isOne).mp smaller).le]
  · next notSmaller =>
      rw [isOne, min_eq_left (not_lt.mp fun smaller =>
        notSmaller ((lt_of_number isTwo isOne).mpr smaller))]

@[simp] theorem mulPowTwo_zero (datum : Double) : datum.mulPowTwo 0 = datum := by
  cases datum with
  | finite value isDouble =>
      have fits : |value * 2 ^ 0| < doubleLimit := by
        rw [pow_zero, mul_one]
        exact isDouble.abs_lt
      rw [mulPowTwo, dif_pos fits]
      simp only [pow_zero, mul_one]
  | infinity negative => rfl
  | nan => rfl

/-- Only NaN has products that are NaN. -/
theorem number_mulPowTwo {datum : Double} {place : WithBot (WithTop ℚ)}
    (isNumber : datum.number = some place) (power : Nat) :
    ∃ product, (datum.mulPowTwo power).number = some product := by
  rw [← Option.isSome_iff_exists, Option.isSome_iff_ne_none, Ne, number_eq_none_iff]
  cases datum with
  | finite value isDouble =>
      rw [mulPowTwo]
      split <;> simp
  | infinity negative => simp [mulPowTwo]
  | nan => cases isNumber

/-- Larger powers take what is positive further up. -/
theorem mulPowTwo_le {datum : Double} (positive : zero.lt datum = true) {power more : Nat}
    (less : power ≤ more) : (datum.mulPowTwo power).le (datum.mulPowTwo more) = true := by
  cases datum with
  | finite value isDouble =>
      have above : 0 < value := by simpa [lt, number, zero] using positive
      have larger : value * 2 ^ power ≤ value * 2 ^ more := by
        gcongr
        norm_num
      by_cases fits : |value * 2 ^ more| < doubleLimit
      · have fitsToo : |value * 2 ^ power| < doubleLimit := by
          rw [abs_of_pos (by positivity)] at fits ⊢
          exact larger.trans_lt fits
        rw [mulPowTwo, mulPowTwo, dif_pos fits, dif_pos fitsToo]
        exact (le_of_number rfl rfl).mpr (WithBot.coe_le_coe.mpr (WithTop.coe_le_coe.mpr larger))
      · have toInfinity : (Double.finite value isDouble).mulPowTwo more = .infinity false := by
          rw [mulPowTwo, dif_neg fits, decide_eq_false above.not_gt]
        obtain ⟨product, isProduct⟩ := @number_mulPowTwo (.finite value isDouble) _ rfl power
        rw [toInfinity]
        exact (le_of_number isProduct rfl).mpr le_top
  | infinity negative =>
      cases negative with
      | true => cases positive
      | false => rfl
  | nan => cases positive

end Double

end VoltStream.Numeric
