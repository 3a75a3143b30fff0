/-
Module: VoltStream.Text.Numeral
Purpose: Numbers as `json.dumps` writes them and as `JSON.parse` reads them.
Trusted boundary: human-reviewed spec of the numbers of JSON, of `json.dumps` of an `int` and
  of a `float`, and of the numbers of JavaScript
Main exports: IsNumeral, readNumeral, printInt, PythonNumber, PythonNumber.print,
  PythonNumber.toScript, readNumber, ReadsBack, readNumeral_printInt_append,
  readNumeral_printInt, isNumeral_of_readNumeral, readNumber_print, isNumeral_print,
  print_of_toScript_none
-/
import VoltStream.Numeric.Decimal
import VoltStream.Numeric.Double

namespace VoltStream.Text

open Numeric

/-- A character of a number. -/
def IsNumeral (character : Char) : Prop :=
  character.isDigit ∨ character ∈ ['-', '+', '.', 'e', 'E']

instance : DecidablePred IsNumeral := fun _ => inferInstanceAs (Decidable (_ ∨ _))

/-! ### The value of a number -/

/-- The digits that a text starts with, of which there is one at least, and what comes after
them. -/
def readDigits (text : List Char) : Option (List Char × List Char) :=
  if text.takeWhile Char.isDigit = [] then none
  else some (text.takeWhile Char.isDigit, text.dropWhile Char.isDigit)

/-- The digits of the integer, which has no zero in front. -/
def readWhole (text : List Char) : Option (List Char × List Char) :=
  (readDigits text).bind fun found =>
    if found.1.head? = some '0' ∧ found.1 ≠ ['0'] then none else some found

/-- The digits after the point, if there is one. -/
def readFraction : List Char → Option (List Char × List Char)
  | '.' :: text => readDigits text
  | text => some ([], text)

/-- The text has digits only. -/
def readPower (text : List Char) : Option Int :=
  (readDigits text).bind fun found => if found.2 = [] then some (readDecimal found.1) else none

/-- The exponent that the rest of a number is; it may be missing. -/
def readExponent : List Char → Option Int
  | [] => some 0
  | mark :: text =>
      if mark ≠ 'e' ∧ mark ≠ 'E' then none
      else
        match text with
        | '-' :: power => (readPower power).map fun exponent => -exponent
        | '+' :: power => readPower power
        | power => readPower power

/-- A number without a sign. -/
def readUnsigned (text : List Char) : Option ℚ := do
  let (whole, afterWhole) ← readWhole text
  let (fraction, afterFraction) ← readFraction afterWhole
  let exponent ← readExponent afterFraction
  return readDecimal (whole ++ fraction) * 10 ^ (exponent - fraction.length)

/-- The exact value of a number of JSON. -/
def readNumeral : List Char → Option ℚ
  | '-' :: text => (readUnsigned text).map fun value => -value
  | text => readUnsigned text

/-- A number as `JSON.parse` has it: the nearest double. -/
def readNumber (text : List Char) : Option Double := (readNumeral text).map Double.nearest

/-! ### The numbers of Python -/

/-- The text of an integer. -/
def printInt (value : Int) : List Char :=
  if value < 0 then '-' :: zeroPadded 1 value.natAbs else zeroPadded 1 value.natAbs

/-- An `int` or a `float`. -/
inductive PythonNumber where
  | int (value : Int)
  | float (value : Double)

/-- What `json.dumps` writes, with what `repr` makes of a finite float. -/
def PythonNumber.print (repr : ℚ → List Char) : PythonNumber → List Char
  | .int value => printInt value
  | .float (.finite value _) => repr value
  | .float (.infinity false) => ['I', 'n', 'f', 'i', 'n', 'i', 't', 'y']
  | .float (.infinity true) => ['-', 'I', 'n', 'f', 'i', 'n', 'i', 't', 'y']
  | .float .nan => ['N', 'a', 'N']

/-- The number as JavaScript has it, of those that are numbers of JSON. -/
def PythonNumber.toScript : PythonNumber → Option Double
  | .int value => some (.nearest value)
  | .float (.finite value isDouble) => some (.finite value isDouble)
  | .float (.infinity _) => none
  | .float .nan => none

/-- What is documented of `repr`: it makes a decimal number of a finite float, of which the
float is the nearest double. -/
def ReadsBack (repr : ℚ → List Char) : Prop :=
  ∀ value, IsDouble value →
    ∃ exact, readNumeral (repr value) = some exact ∧ Double.nearest exact = Double.nearest value

/-! ### Numbers have the characters of numbers -/

theorem isNumeral_of_isDigit {character : Char} (isDigit : character.isDigit = true) :
    IsNumeral character := Or.inl isDigit

theorem readDigits_eq_some {text digits rest : List Char}
    (found : readDigits text = some (digits, rest)) :
    text = digits ++ rest ∧ digits ≠ [] ∧ ∀ character ∈ digits, IsNumeral character := by
  unfold readDigits at found
  split at found
  · cases found
  · next notEmpty =>
      cases found
      exact ⟨List.takeWhile_append_dropWhile.symm, notEmpty, fun character inDigits =>
        isNumeral_of_isDigit (List.mem_takeWhile_imp inDigits)⟩

theorem readWhole_eq_some {text digits rest : List Char}
    (found : readWhole text = some (digits, rest)) : readDigits text = some (digits, rest) := by
  obtain ⟨digits', isDigits, checked⟩ := Option.bind_eq_some_iff.mp found
  split at checked
  · cases checked
  · rwa [← Option.some.inj checked]

theorem readFraction_eq_some {text digits rest : List Char}
    (found : readFraction text = some (digits, rest)) :
    ∃ front, text = front ++ rest ∧ ∀ character ∈ front, IsNumeral character := by
  unfold readFraction at found
  split at found
  · next text =>
      obtain ⟨rfl, -, all⟩ := readDigits_eq_some found
      exact ⟨'.' :: digits, rfl, List.forall_mem_cons.mpr ⟨by decide, all⟩⟩
  · cases found
    exact ⟨[], rfl, nofun⟩

theorem isNumeral_of_readPower {text : List Char} {exponent : Int}
    (found : readPower text = some exponent) : ∀ character ∈ text, IsNumeral character := by
  obtain ⟨⟨digits, rest⟩, isDigits, checked⟩ := Option.bind_eq_some_iff.mp found
  obtain ⟨rfl, -, all⟩ := readDigits_eq_some isDigits
  split at checked
  · next isEnd =>
      rw [show rest = [] from isEnd, List.append_nil]
      exact all
  · cases checked

theorem isNumeral_of_readExponent {text : List Char} {exponent : Int}
    (found : readExponent text = some exponent) : ∀ character ∈ text, IsNumeral character := by
  cases text with
  | nil => exact nofun
  | cons mark text =>
      simp only [readExponent] at found
      split at found
      · cases found
      · next isMark =>
          have numeral : IsNumeral mark := by
            rw [not_and_or, not_not, not_not] at isMark
            rcases isMark with rfl | rfl <;> decide
          refine List.forall_mem_cons.mpr ⟨numeral, ?_⟩
          split at found
          · obtain ⟨power, isPower, -⟩ := Option.map_eq_some_iff.mp found
            exact List.forall_mem_cons.mpr ⟨by decide, isNumeral_of_readPower isPower⟩
          · exact List.forall_mem_cons.mpr ⟨by decide, isNumeral_of_readPower found⟩
          · exact isNumeral_of_readPower found

theorem isNumeral_of_readUnsigned {text : List Char} {value : ℚ}
    (found : readUnsigned text = some value) :
    text ≠ [] ∧ ∀ character ∈ text, IsNumeral character := by
  obtain ⟨⟨whole, afterWhole⟩, isWhole, found⟩ := Option.bind_eq_some_iff.mp found
  obtain ⟨⟨fraction, afterFraction⟩, isFraction, found⟩ := Option.bind_eq_some_iff.mp found
  obtain ⟨exponent, isExponent, -⟩ := Option.bind_eq_some_iff.mp found
  obtain ⟨rfl, notEmpty, allWhole⟩ := readDigits_eq_some (readWhole_eq_some isWhole)
  obtain ⟨front, rfl, allFront⟩ := readFraction_eq_some isFraction
  exact ⟨List.append_ne_nil_of_left_ne_nil notEmpty _, List.forall_mem_append.mpr ⟨allWhole,
    List.forall_mem_append.mpr ⟨allFront, isNumeral_of_readExponent isExponent⟩⟩⟩

/-- What has a value consists of digits, signs, points and the letters of an exponent. -/
theorem isNumeral_of_readNumeral {text : List Char} {value : ℚ}
    (found : readNumeral text = some value) :
    text ≠ [] ∧ ∀ character ∈ text, IsNumeral character := by
  unfold readNumeral at found
  split at found
  · obtain ⟨unsigned, isUnsigned, -⟩ := Option.map_eq_some_iff.mp found
    exact ⟨List.cons_ne_nil _ _,
      List.forall_mem_cons.mpr ⟨by decide, (isNumeral_of_readUnsigned isUnsigned).2⟩⟩
  · exact isNumeral_of_readUnsigned found

/-! ### What is written of a number is read back -/

theorem isDigit_zeroPadded (width value : Nat) :
    ∀ character ∈ zeroPadded width value, character.isDigit = true := by
  intro character isCharacter
  obtain ⟨digit, small, rfl⟩ := mem_zeroPadded isCharacter
  have all : ∀ digit < 10, (Nat.digitChar digit).isDigit = true := by decide
  exact all digit small

theorem zeroPadded_ne_nil (value : Nat) : zeroPadded 1 value ≠ [] := by
  rw [← List.length_pos_iff, length_zeroPadded]
  omega

/-- Only the number 0 starts with a zero. -/
theorem head?_zeroPadded {value : Nat} (positive : value ≠ 0) :
    (zeroPadded 1 value).head? ≠ some '0' := by
  have digits : Nat.digits 10 value ≠ [] := Nat.digits_ne_nil_iff_ne_zero.mpr positive
  have enough : 1 ≤ (Nat.digits 10 value).length := List.length_pos_iff.mpr digits
  have last := Nat.getLast_digit_ne_zero 10 positive
  have small : (Nat.digits 10 value).getLast digits < 10 :=
    Nat.digits_lt_base (by norm_num) (List.getLast_mem digits)
  have zero : ∀ digit < 10, Nat.digitChar digit = '0' → digit = 0 := by decide
  rw [zeroPadded, Nat.digitsAppend, Nat.sub_eq_zero_of_le enough, List.replicate_zero,
    List.append_nil, List.head?_map, List.head?_reverse, List.getLast?_eq_some_getLast digits,
    Option.map_some]
  exact fun isZero => last (zero _ small (Option.some.inj isZero))

/-- The digits of a number in front of something else. -/
theorem readWhole_zeroPadded (value : Nat) {rest : List Char}
    (ends : ∀ character ∈ rest.head?, character.isDigit = false) :
    readWhole (zeroPadded 1 value ++ rest) = some (zeroPadded 1 value, rest) := by
  have all := isDigit_zeroPadded 1 value
  have stops : rest.takeWhile Char.isDigit = [] ∧ rest.dropWhile Char.isDigit = rest := by
    cases rest with
    | nil => exact ⟨rfl, rfl⟩
    | cons next later =>
        have notDigit := ends next rfl
        exact ⟨List.takeWhile_cons_of_neg (by simp [notDigit]),
          List.dropWhile_cons_of_neg (by simp [notDigit])⟩
  have digits : readDigits (zeroPadded 1 value ++ rest) = some (zeroPadded 1 value, rest) := by
    rw [readDigits, List.takeWhile_append_of_pos all, List.dropWhile_append_of_pos all, stops.1,
      stops.2, List.append_nil, if_neg (zeroPadded_ne_nil value)]
  have noZero : ¬((zeroPadded 1 value).head? = some '0' ∧ zeroPadded 1 value ≠ ['0']) := by
    rintro ⟨isZero, notZero⟩
    by_cases positive : value = 0
    · exact notZero (positive ▸ rfl)
    · exact head?_zeroPadded positive isZero
  rw [readWhole, digits, Option.bind_some, if_neg noZero]

/-- The rest of a number is not one of its digits, and has no fraction. -/
def StartsExponent (rest : List Char) : Prop :=
  ∀ character ∈ rest.head?, character.isDigit = false ∧ character ≠ '.'

theorem readFraction_of_startsExponent {rest : List Char} (starts : StartsExponent rest) :
    readFraction rest = some ([], rest) := by
  unfold readFraction
  split
  · exact absurd rfl (starts '.' rfl).2
  · rfl

theorem readUnsigned_zeroPadded (value : Nat) {rest : List Char} (starts : StartsExponent rest) :
    readUnsigned (zeroPadded 1 value ++ rest) =
      (readExponent rest).map fun exponent => (value : ℚ) * 10 ^ exponent := by
  have whole := readWhole_zeroPadded value fun character isNext => (starts character isNext).1
  rw [readUnsigned, whole]
  simp only [Option.bind_eq_bind, Option.bind_some, readFraction_of_startsExponent starts]
  cases readExponent rest with
  | none => rfl
  | some exponent => simp [readDecimal_zeroPadded]

/-- An integer in front of an exponent is read as their product. -/
theorem readNumeral_printInt_append (value : Int) {rest : List Char}
    (starts : StartsExponent rest) :
    readNumeral (printInt value ++ rest) =
      (readExponent rest).map fun exponent => (value : ℚ) * 10 ^ exponent := by
  have unsigned := readUnsigned_zeroPadded value.natAbs starts
  unfold printInt
  split
  · next negative =>
      rw [List.cons_append, readNumeral, unsigned, Option.map_map]
      refine congrArg (Option.map · _) (funext fun exponent => ?_)
      rw [Function.comp_apply, Nat.cast_natAbs, abs_of_neg negative]
      push_cast
      ring
  · next notNegative =>
      have noSign : readNumeral (zeroPadded 1 value.natAbs ++ rest) =
          readUnsigned (zeroPadded 1 value.natAbs ++ rest) := by
        obtain ⟨digit, digits, isCons⟩ := List.exists_cons_of_ne_nil
          (zeroPadded_ne_nil value.natAbs)
        have isDigit := isDigit_zeroPadded 1 value.natAbs digit (isCons ▸ List.mem_cons_self)
        rw [isCons, List.cons_append]
        unfold readNumeral
        split
        · next isSigned =>
            obtain rfl := (List.cons.inj isSigned).1
            exact absurd isDigit (by decide)
        · rfl
      rw [noSign, unsigned, Nat.cast_natAbs, abs_of_nonneg (not_lt.mp notNegative)]

/-- An integer is read as itself. -/
theorem readNumeral_printInt (value : Int) : readNumeral (printInt value) = some (value : ℚ) := by
  have read := @readNumeral_printInt_append value [] nofun
  rw [List.append_nil] at read
  rw [read, readExponent, Option.map_some, zpow_zero, mul_one]

/-- Nothing but an infinity or NaN is written as something that is no number. -/
theorem readNumber_print {repr : ℚ → List Char} (readsBack : ReadsBack repr)
    {value : PythonNumber} {number : Double} (isNumber : value.toScript = some number) :
    readNumber (value.print repr) = some number := by
  cases value with
  | int value =>
      rw [PythonNumber.toScript] at isNumber
      rw [PythonNumber.print, readNumber, readNumeral_printInt, Option.map_some, isNumber]
  | float value =>
      cases value with
      | finite value isDouble =>
          obtain ⟨exact, isExact, nearest⟩ := readsBack value isDouble
          rw [PythonNumber.print, readNumber, isExact, Option.map_some, nearest,
            Double.nearest_of_isDouble isDouble]
          exact isNumber
      | infinity negative => cases isNumber
      | nan => cases isNumber

/-- Such a number is written in the characters of numbers. -/
theorem isNumeral_print {repr : ℚ → List Char} (readsBack : ReadsBack repr)
    {value : PythonNumber} {number : Double} (isNumber : value.toScript = some number) :
    value.print repr ≠ [] ∧ ∀ character ∈ value.print repr, IsNumeral character := by
  obtain ⟨exact, isExact, -⟩ := Option.map_eq_some_iff.mp (readNumber_print readsBack isNumber)
  exact isNumeral_of_readNumeral isExact

/-- The others are written as names. -/
theorem print_of_toScript_none (repr : ℚ → List Char) {value : PythonNumber}
    (noNumber : value.toScript = none) :
    value.print repr ∈ [['I', 'n', 'f', 'i', 'n', 'i', 't', 'y'],
      ['-', 'I', 'n', 'f', 'i', 'n', 'i', 't', 'y'], ['N', 'a', 'N']] := by
  cases value with
  | int value => cases noNumber
  | float value =>
      cases value with
      | finite value isDouble => cases noNumber
      | infinity negative => cases negative <;> simp [PythonNumber.print]
      | nan => simp [PythonNumber.print]

end VoltStream.Text
