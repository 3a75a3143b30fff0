/-
Module: VoltStream.Backend.Datetime
Purpose: Timezone-aware datetimes with their range, and the arithmetic on them that
  can leave it.
Trusted boundary: human-reviewed spec of Python's `datetime` and `timedelta`
Main exports: ArithmeticError, datetimeMin, datetimeMax, AwareDatetime,
  AwareDatetime.instant, AwareDatetime.plus, AwareDatetime.minus, AwareDatetime.utc,
  checkedTimedelta, floatTimedelta, ReadDatetime
-/
import VoltStream.Backend.Schema

namespace VoltStream.Backend

open Numeric

/-- What Python raises where an operation has no result. -/
inductive ArithmeticError where
  | zeroDivisionError
  | overflowError
deriving Repr, DecidableEq

/-- One day, in microseconds. -/
def microsecondsPerDay : Int := 86400000000

/-- `datetime.min`, on a clock that shows 0 at the start of 1970. -/
def datetimeMin : Int := -62135596800000000

/-- `datetime.max`, on the same clock. -/
def datetimeMax : Int := 253402300799999999

/-- A `datetime` with a fixed offset from UTC.  What its clock shows is in range; the
instant that it stands for need not be. -/
structure AwareDatetime where
  wall : Int
  utcoffset : Int
  wallBounds : datetimeMin ≤ wall ∧ wall ≤ datetimeMax
  utcoffsetBounds : -microsecondsPerDay < utcoffset ∧ utcoffset < microsecondsPerDay
deriving Repr, DecidableEq

/-- A `timedelta` of this many microseconds exists. -/
def InTimedeltaRange (delta : Int) : Prop :=
  -999999999 * microsecondsPerDay ≤ delta ∧ delta < 1000000000 * microsecondsPerDay

instance (delta : Int) : Decidable (InTimedeltaRange delta) :=
  inferInstanceAs (Decidable (_ ∧ _))

/-- `timedelta(minutes=...)`, which raises outside its range. -/
def checkedTimedelta (minutes : ℚ) : Except ArithmeticError Int :=
  if InTimedeltaRange (timedeltaMinutes minutes) then .ok (timedeltaMinutes minutes)
  else .error .overflowError

/-- `timedelta(minutes=...)` of a float: the whole minutes are exact, and the microseconds of
the rest are rounded to a float before they are rounded to a whole number. -/
def floatTimedelta (round : ℚ → ℚ) (minutes : ℚ) : Int :=
  let whole := if 0 ≤ minutes then minutes.floor else minutes.ceil
  whole * 60000000 + roundHalfEven (round ((minutes - whole) * 60000000))

namespace AwareDatetime

/-- The instant, by which aware datetimes are compared. -/
def instant (self : AwareDatetime) : Timestamp := self.wall - self.utcoffset

/-- `self + delta`: the clock moves, the offset stays. -/
def plus (self : AwareDatetime) (delta : Int) : Except ArithmeticError AwareDatetime :=
  if wallBounds : datetimeMin ≤ self.wall + delta ∧ self.wall + delta ≤ datetimeMax then
    .ok { self with wall := self.wall + delta, wallBounds := wallBounds }
  else .error .overflowError

/-- `self - delta`. -/
def minus (self : AwareDatetime) (delta : Int) : Except ArithmeticError AwareDatetime :=
  self.plus (-delta)

/-- The hour that the clock shows. -/
def hour (self : AwareDatetime) : Int := hourOfDay self.wall

/-- A datetime in UTC, as the driver reads a `timestamptz` column. -/
def utc (instant : Timestamp) (bounds : datetimeMin ≤ instant ∧ instant ≤ datetimeMax) :
    AwareDatetime where
  wall := instant
  utcoffset := 0
  wallBounds := bounds
  utcoffsetBounds := by decide

@[simp] theorem utc_instant (instant : Timestamp)
    (bounds : datetimeMin ≤ instant ∧ instant ≤ datetimeMax) :
    (utc instant bounds).instant = instant := Int.sub_zero instant

theorem plus_eq_ok_iff (self : AwareDatetime) (delta : Int) :
    (∃ later, self.plus delta = .ok later) ↔
      datetimeMin ≤ self.wall + delta ∧ self.wall + delta ≤ datetimeMax := by
  unfold plus
  split
  · next bounds => exact iff_of_true ⟨_, rfl⟩ bounds
  · next bounds => exact iff_of_false (fun ⟨_, ok⟩ => by cases ok) bounds

theorem plus_instant {self later : AwareDatetime} {delta : Int}
    (ok : self.plus delta = .ok later) : later.instant = self.instant + delta := by
  unfold plus at ok
  split at ok
  · cases ok
    exact add_sub_right_comm ..
  · cases ok

theorem minus_instant {self earlier : AwareDatetime} {delta : Int}
    (ok : self.minus delta = .ok earlier) : earlier.instant = self.instant - delta := by
  rw [plus_instant ok, Int.sub_eq_add_neg]

end AwareDatetime

/-- A `datetime` out of the database: with an offset from UTC, or naive. -/
inductive ReadDatetime where
  | aware (datetime : AwareDatetime)
  | naive (wall : Int) (wallBounds : datetimeMin ≤ wall ∧ wall ≤ datetimeMax)
deriving Repr, DecidableEq

namespace ReadDatetime

/-- The clock of the datetime.  A naive one does its arithmetic as one in UTC does. -/
def clock : ReadDatetime → AwareDatetime
  | .aware datetime => datetime
  | .naive wall wallBounds => .utc wall wallBounds

def isNaive : ReadDatetime → Bool
  | .aware _ => false
  | .naive _ _ => true

/-- `self - delta`. -/
def minus (delta : Int) : ReadDatetime → Except ArithmeticError ReadDatetime
  | .aware datetime => (datetime.minus delta).map .aware
  | .naive wall _ =>
      if wallBounds : datetimeMin ≤ wall - delta ∧ wall - delta ≤ datetimeMax then
        .ok (.naive (wall - delta) wallBounds)
      else .error .overflowError

/-- `self < other`, `none` for the `TypeError` between a naive datetime and one that is not. -/
def less (self other : ReadDatetime) : Option Bool :=
  if self.isNaive = other.isNaive then some (self.clock.instant < other.clock.instant) else none

end ReadDatetime

end VoltStream.Backend
