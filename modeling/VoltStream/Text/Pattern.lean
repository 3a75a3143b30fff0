/-
Module: VoltStream.Text.Pattern
Purpose: Patterns over text that have no choices in them: at a place of a text such a
  pattern fits in one way or not at all.
Trusted boundary: human-reviewed spec of the anchors `^` and `$`, of single characters
  and of sequences, without flags
Main exports: Pattern, Pattern.rest, Pattern.fits, Pattern.literal, Pattern.times,
  Pattern.fits_anchored_iff, Pattern.fits_literal_times_iff
-/
import Mathlib

namespace VoltStream.Text

/-- `start` is `^`, `finish` is `$`, and `one` a single character of a class. -/
inductive Pattern where
  | start
  | finish
  | one (accepts : Char → Bool)
  | empty
  | seq (first second : Pattern)

namespace Pattern

/-- Where `$` fits: at the end, and in front of a line feed that is the last character. -/
def IsEnd (text : List Char) : Prop := text = [] ∨ text = ['\n']

instance (text : List Char) : Decidable (IsEnd text) := inferInstanceAs (Decidable (_ ∨ _))

/-- What is left of a text after the pattern, if it fits here: whether here is the start
of the text goes in and comes out with it. -/
def rest : Pattern → Bool × List Char → Option (Bool × List Char)
  | .start, (atStart, text) => if atStart then some (atStart, text) else none
  | .finish, (atStart, text) => if IsEnd text then some (atStart, text) else none
  | .one _, (_, []) => none
  | .one accepts, (_, character :: text) => if accepts character then some (false, text) else none
  | .empty, place => some place
  | .seq first second, place => (first.rest place).bind second.rest

/-- `match`: the pattern fits at the start of the text, whatever comes after it. -/
def fits (pattern : Pattern) (text : List Char) : Bool := (pattern.rest (true, text)).isSome

/-- Patterns one after the other. -/
def inOrder (patterns : List Pattern) : Pattern := patterns.foldr seq empty

/-- Exactly these characters. -/
def literal (characters : List Char) : Pattern :=
  inOrder (characters.map fun expected => one fun character => character == expected)

/-- `{count}`. -/
def times (count : Nat) (pattern : Pattern) : Pattern := inOrder (List.replicate count pattern)

/-- Two sequences, one after the other, are one sequence. -/
theorem rest_inOrder_append (first second : List Pattern) (place : Bool × List Char) :
    (inOrder (first ++ second)).rest place =
      ((inOrder first).rest place).bind (inOrder second).rest := by
  induction first generalizing place with
  | nil => rfl
  | cons pattern others ih =>
      change ((pattern.rest place).bind (inOrder (others ++ second)).rest) =
        ((pattern.rest place).bind (inOrder others).rest).bind (inOrder second).rest
      rw [Option.bind_assoc]
      exact congrArg _ (funext ih)

/-- Character classes, one after the other, take as many characters off the text, each of
its class. -/
theorem rest_classes_eq_some_iff (classes : List (Char → Bool)) (place left : Bool × List Char) :
    (inOrder (classes.map one)).rest place = some left ↔
      ∃ taken, List.Forall₂ (fun accepts character => accepts character = true) classes taken ∧
        place.2 = taken ++ left.2 ∧ left.1 = (place.1 && taken.isEmpty) := by
  induction classes generalizing place with
  | nil =>
      obtain ⟨atStart, text⟩ := place
      obtain ⟨stillAtStart, remaining⟩ := left
      constructor
      · intro same
        obtain ⟨rfl, rfl⟩ := Prod.mk.inj (Option.some.inj same)
        exact ⟨[], .nil, rfl, (Bool.and_true _).symm⟩
      · rintro ⟨taken, fitting, isText, isStart⟩
        obtain rfl := List.forall₂_nil_left_iff.mp fitting
        simp only [List.nil_append, List.isEmpty_nil, Bool.and_true] at isText isStart
        rw [isText, isStart]
        rfl
  | cons accepts others ih =>
      obtain ⟨atStart, text⟩ := place
      change ((one accepts).rest (atStart, text)).bind (inOrder (others.map one)).rest = _ ↔ _
      cases text with
      | nil =>
          refine iff_of_false (by simp [rest]) ?_
          rintro ⟨taken, fitting, isText, -⟩
          cases fitting with
          | cons => exact absurd isText (by simp)
      | cons character text =>
          by_cases accepted : accepts character = true
          · rw [rest, if_pos accepted, Option.bind_some, ih]
            constructor
            · rintro ⟨taken, fitting, isText, isStart⟩
              exact ⟨character :: taken, .cons accepted fitting,
                congrArg (List.cons character) isText,
                by rw [isStart, Bool.false_and, List.isEmpty_cons, Bool.and_false]⟩
            · rintro ⟨taken, fitting, isText, isStart⟩
              cases fitting with
              | cons _ fitting =>
                  have isRest : text = _ := (List.cons.inj isText).2
                  refine ⟨_, fitting, isRest, ?_⟩
                  rw [isStart, List.isEmpty_cons, Bool.and_false, Bool.false_and]
          · rw [rest, if_neg accepted, Option.bind_none]
            refine iff_of_false (by simp) ?_
            rintro ⟨taken, fitting, isText, -⟩
            cases fitting with
            | cons fits _ =>
                obtain ⟨rfl, -⟩ := List.cons.inj isText
                exact accepted fits

/-- `^` and `$` around character classes: the text is one character of each class, with or
without a line feed after them. -/
theorem fits_anchored_iff (classes : List (Char → Bool)) (text : List Char) :
    (seq start (seq (inOrder (classes.map one)) finish)).fits text = true ↔
      ∃ taken ending,
        List.Forall₂ (fun accepts character => accepts character = true) classes taken ∧
          IsEnd ending ∧ text = taken ++ ending := by
  have whole : (seq start (seq (inOrder (classes.map one)) finish)).fits text =
      (((inOrder (classes.map one)).rest (true, text)).bind finish.rest).isSome := by
    simp only [fits, rest, if_true, Option.bind_some]
  rw [whole, Option.isSome_iff_exists]
  constructor
  · rintro ⟨place, reached⟩
    obtain ⟨left, isLeft, atEnd⟩ := Option.bind_eq_some_iff.mp reached
    obtain ⟨taken, fitting, isText, -⟩ := (rest_classes_eq_some_iff classes _ left).mp isLeft
    refine ⟨taken, left.2, fitting, ?_, isText⟩
    by_contra notEnd
    rw [rest, if_neg notEnd] at atEnd
    exact absurd atEnd (by simp)
  · rintro ⟨taken, ending, fitting, atEnd, isText⟩
    have reached : (inOrder (classes.map one)).rest (true, text) =
        some (true && taken.isEmpty, ending) :=
      (rest_classes_eq_some_iff classes _ _).mpr ⟨taken, fitting, isText, rfl⟩
    exact ⟨_, by rw [reached, Option.bind_some, rest, if_pos atEnd]⟩

/-- The classes of a literal take that literal. -/
theorem forall₂_literal_iff (expected taken : List Char) :
    List.Forall₂ (fun accepts character => accepts character = true)
        (expected.map fun wanted character => character == wanted) taken ↔ taken = expected := by
  rw [List.forall₂_map_left_iff]
  simp only [beq_iff_eq]
  constructor
  · intro fitting
    have same := fitting.flip
    rwa [List.forall₂_eq_eq_eq] at same
  · rintro rfl
    exact List.forall₂_same.mpr fun _ _ => rfl

/-- A class taken some number of times takes as many characters of it. -/
theorem forall₂_replicate_iff (count : Nat) (accepts : Char → Bool) (taken : List Char) :
    List.Forall₂ (fun accepts character => accepts character = true)
        (List.replicate count accepts) taken ↔
      taken.length = count ∧ ∀ character ∈ taken, accepts character = true := by
  induction count generalizing taken with
  | zero =>
      rw [List.replicate_zero, List.forall₂_nil_left_iff, List.length_eq_zero_iff]
      exact ⟨fun isEmpty => ⟨isEmpty, by simp [isEmpty]⟩, And.left⟩
  | succ count ih =>
      rw [List.replicate_succ]
      cases taken with
      | nil => exact iff_of_false (by simp) (by simp)
      | cons character others =>
          rw [List.forall₂_cons, ih, List.length_cons, Nat.succ_inj, List.forall_mem_cons,
            and_left_comm]

/-- A literal and then a class some number of times, between `^` and `$`. -/
theorem fits_literal_times_iff (expected : List Char) (count : Nat) (accepts : Char → Bool)
    (text : List Char) :
    (seq start (seq (literal expected) (seq (times count (one accepts)) finish))).fits text =
        true ↔
      ∃ taken ending, taken.length = count ∧ (∀ character ∈ taken, accepts character = true) ∧
        IsEnd ending ∧ text = expected ++ taken ++ ending := by
  have asClasses : (seq start (seq (literal expected)
        (seq (times count (one accepts)) finish))).fits text =
      (seq start (seq (inOrder (((expected.map fun wanted character => character == wanted) ++
        List.replicate count accepts).map one)) finish)).fits text := by
    simp only [fits, rest, if_true, Option.bind_some, List.map_append, rest_inOrder_append,
      List.map_map, List.map_replicate, Option.bind_assoc]
    rfl
  rw [asClasses, fits_anchored_iff]
  constructor
  · rintro ⟨taken, ending, fitting, atEnd, rfl⟩
    obtain ⟨front, back, fittingFront, fittingBack, rfl⟩ :
        ∃ front back,
          List.Forall₂ (fun accepts character => accepts character = true)
            (expected.map fun wanted character => character == wanted) front ∧
          List.Forall₂ (fun accepts character => accepts character = true)
            (List.replicate count accepts) back ∧ taken = front ++ back := by
      have front := List.forall₂_take expected.length fitting
      have back := List.forall₂_drop expected.length fitting
      rw [List.take_left' (List.length_map _)] at front
      rw [List.drop_left' (List.length_map _)] at back
      exact ⟨_, _, front, back, (List.take_append_drop ..).symm⟩
    obtain rfl := (forall₂_literal_iff _ _).mp fittingFront
    obtain ⟨isCount, all⟩ := (forall₂_replicate_iff _ _ _).mp fittingBack
    exact ⟨back, ending, isCount, all, atEnd, rfl⟩
  · rintro ⟨taken, ending, isCount, all, atEnd, rfl⟩
    exact ⟨expected ++ taken, ending, List.rel_append ((forall₂_literal_iff _ _).mpr rfl)
      ((forall₂_replicate_iff _ _ _).mpr ⟨isCount, all⟩), atEnd, rfl⟩

end Pattern

end VoltStream.Text
