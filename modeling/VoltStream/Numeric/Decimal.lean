/-
Module: VoltStream.Numeric.Decimal
Purpose: Numbers printed in decimal digits, with zeros in front up to a width.
Trusted boundary: none
Main exports: zeroPadded, readDecimal, mem_zeroPadded, length_zeroPadded_eq_iff,
  readDecimal_zeroPadded, zeroPadded_injective
-/
import Mathlib

namespace VoltStream.Numeric

/-- The decimal digits of a number, with zeros in front up to a width, which a large
number exceeds. -/
def zeroPadded (width value : Nat) : List Char :=
  (Nat.digitsAppend 10 width value).reverse.map Nat.digitChar

/-- The number that decimal digits stand for. -/
def readDecimal (characters : List Char) : Nat :=
  Nat.ofDigits 10 (characters.reverse.map fun character => character.toNat - '0'.toNat)

section

variable {width value : Nat}

/-- Every character is the character of a digit. -/
theorem mem_zeroPadded {character : Char} (isCharacter : character ∈ zeroPadded width value) :
    ∃ digit < 10, Nat.digitChar digit = character := by
  obtain ⟨digit, isDigit, same⟩ := List.mem_map.mp isCharacter
  exact ⟨digit, Nat.lt_of_mem_digitsAppend (by norm_num) width digit (List.mem_reverse.mp isDigit),
    same⟩

theorem length_zeroPadded (width value : Nat) :
    (zeroPadded width value).length = max width (Nat.digits 10 value).length := by
  rw [zeroPadded, List.length_map, List.length_reverse, Nat.digitsAppend, List.length_append,
    List.length_replicate]
  omega

/-- The width is enough exactly for the numbers below its power of ten. -/
theorem length_zeroPadded_eq_iff :
    (zeroPadded width value).length = width ↔ value < 10 ^ width := by
  rw [length_zeroPadded, max_eq_left_iff, Nat.digits_length_le_iff (by norm_num)]

theorem toNat_digitChar : ∀ digit < 10, (Nat.digitChar digit).toNat - '0'.toNat = digit := by
  decide

/-- The number can be read back. -/
theorem readDecimal_zeroPadded (width value : Nat) :
    readDecimal (zeroPadded width value) = value := by
  have digits : (zeroPadded width value).reverse.map (fun character =>
      character.toNat - '0'.toNat) = Nat.digitsAppend 10 width value := by
    rw [zeroPadded, ← List.map_reverse, List.reverse_reverse, List.map_map]
    refine (List.map_congr_left fun digit isDigit => ?_).trans (List.map_id _)
    exact toNat_digitChar digit (Nat.lt_of_mem_digitsAppend (by norm_num) width digit isDigit)
  rw [readDecimal, digits, Nat.digitsAppend, Nat.ofDigits_append_replicate_zero,
    Nat.ofDigits_digits]

theorem zeroPadded_injective (width : Nat) : Function.Injective (zeroPadded width) :=
  Function.LeftInverse.injective (readDecimal_zeroPadded width)

end

end VoltStream.Numeric
