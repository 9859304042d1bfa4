import Interpolation.Calendar.Moment

/-!
# Moving along the calendar

A duration moves a date or a moment, and two dates or moments are a duration apart. Durations are
added, multiplied and divided exactly; a result between two microseconds goes to the nearer one, a
tie to the even one. Every result must lie within the calendar.

Moments that know their distance to universal time are compared as instants; they are never compared
with moments that do not.

Main definitions:

* `CalendarFault`: why there is no result.
* `Date.plus`, `moveBy`, `Date.since`, `distance`: moves and distances.
* `Duration.times`, `Duration.dividedBy`, `Duration.scaled`: multiples and parts.
* `orderOfMoments?`, `Clock.order?`: the order of moments and of times of day.
-/

namespace Interpolation.Calendar

open Interpolation.Number

/-- Why a computation with dates, times and durations has no result. -/
inductive CalendarFault where
  /-- The date lies outside of the calendar. -/
  | beyondCalendar
  /-- A duration of too many days. -/
  | tooLong (days : Int)
  /-- A duration whose days are beyond a machine integer. -/
  | farTooLong
  /-- The distance between a moment that knows its distance to universal time, and one that does
  not. -/
  | unequalDifference
  /-- The order of two such moments, or of two such times of day. -/
  | unequalComparison (noun : String)
  | dateWithMoment
  | ratioOfNoNumber
  | ratioOfInfinity
deriving DecidableEq, Repr

namespace CalendarFault

/-- The kind under which a fault is reported. -/
def label : CalendarFault → String
  | beyondCalendar | tooLong _ | farTooLong | ratioOfInfinity => "OverflowError"
  | unequalDifference | unequalComparison _ | dateWithMoment => "TypeError"
  | ratioOfNoNumber => "ValueError"

/-- What is told about a fault. -/
def message : CalendarFault → String
  | beyondCalendar => "date value out of range"
  | tooLong days => "days=" ++ toString days ++ "; must have magnitude <= 999999999"
  | farTooLong => "Python int too large to convert to C int"
  | unequalDifference => "can't subtract offset-naive and offset-aware datetimes"
  | unequalComparison noun => "can't compare offset-naive and offset-aware " ++ noun
  | dateWithMoment => "can't compare datetime.datetime to datetime.date"
  | ratioOfNoNumber => "cannot convert NaN to integer ratio"
  | ratioOfInfinity => "cannot convert Infinity to integer ratio"

end CalendarFault

/-- The number of microseconds of a day. -/
def microsPerDay : Int := 86400000000

namespace Duration

/-- The duration of so many microseconds. -/
def ofMicros (n : Int) : Except CalendarFault Duration :=
  let days := n / microsPerDay
  if days.natAbs > 2 ^ 31 - 1 then .error .farTooLong
  else if days.natAbs > 999999999 then .error (.tooLong days)
  else .ok ⟨n⟩

/-- The integer nearest to a quotient, a tie to the even one. -/
def nearest (n d : Int) : Int :=
  let q := Binary.roundQuotient n.natAbs d.natAbs
  if (n < 0) != (d < 0) then -(q : Int) else q

/-- A multiple. -/
def times (d : Duration) (n : Int) : Except CalendarFault Duration := ofMicros (d.micros * n)

/-- A part; the divisor is not zero. -/
def dividedBy (d : Duration) (n : Int) : Except CalendarFault Duration :=
  ofMicros (nearest d.micros n)

/-- The exact quotient of integers that a float stands for. -/
def ratio (x : Float) : Except CalendarFault (Int × Int) :=
  match Binary.ofFloat x with
  | .notANumber => .error .ratioOfNoNumber
  | .infinite _ => .error .ratioOfInfinity
  | .finite negative m e =>
    let n : Int := if negative then -(m : Int) else m
    .ok (n * 2 ^ e.toNat, 2 ^ (-e).toNat)

/-- The duration times a quotient of integers. -/
def scaled (d : Duration) (num den : Int) : Except CalendarFault Duration :=
  ofMicros (nearest (d.micros * num) den)

end Duration

namespace Date

/-- The date so many days later. -/
def shift (d : Date) (days : Int) : Except CalendarFault Date :=
  let n := (d.ordinal : Int) + days
  if n < 1 ∨ n > 3652059 then .error .beyondCalendar else .ok (ofOrdinal n.toNat)

/-- The date a duration later; only whole days count. -/
def plus (d : Date) (d' : Duration) : Except CalendarFault Date :=
  d.shift (d'.micros / microsPerDay)

/-- The date a duration earlier; only whole days count. -/
def minus (d : Date) (d' : Duration) : Except CalendarFault Date :=
  d.shift (-(d'.micros / microsPerDay))

/-- The duration from one date to another. -/
def since (d e : Date) : Duration := ⟨((d.ordinal : Int) - e.ordinal) * microsPerDay⟩

end Date

/-- The microseconds from the beginning of a day to a time of day, as the clock shows it. -/
def Clock.micros (c : Clock) : Int := (c.seconds : Int) * 1000000 + c.micro

/-- The microseconds from the beginning of the calendar to a date and a time of day. -/
def instantOf (d : Date) (c : Clock) : Int := (d.ordinal : Int) * microsPerDay + c.micros

/-- The microseconds of a distance to universal time. -/
def offsetMicros (c : Clock) : Int := (c.offset.getD 0) * 1000000

/-- A date and a time of day moved by a duration. -/
def moveBy (d : Date) (c : Clock) (micros : Int) : Except CalendarFault (Date × Clock) := do
  let total := c.micros + micros
  let date ← d.shift (total / microsPerDay)
  let rest := (total % microsPerDay).toNat
  let seconds := rest / 1000000
  return (date, ⟨seconds / 3600, seconds / 60 % 60, seconds % 60, rest % 1000000, c.offset⟩)

/-- The duration from one moment to another; both know their distance to universal time, or
neither does. -/
def distance (d : Date) (c : Clock) (e : Date) (b : Clock) : Except CalendarFault Duration :=
  if c.offset.isSome != b.offset.isSome then .error .unequalDifference
  else .ok ⟨instantOf d c - offsetMicros c - (instantOf e b - offsetMicros b)⟩

/-- The order of two moments, unless only one of them knows its distance to universal time. -/
def orderOfMoments? (d : Date) (c : Clock) (e : Date) (b : Clock) : Option Ordering :=
  if c.offset.isSome != b.offset.isSome then none
  else some (compare (instantOf d c - offsetMicros c) (instantOf e b - offsetMicros b))

/-- The order of two times of day, unless only one of them knows its distance to universal time. -/
def Clock.order? (c b : Clock) : Option Ordering :=
  if c.offset.isSome != b.offset.isSome then none
  else some (compare (c.micros - offsetMicros c) (b.micros - offsetMicros b))

end Interpolation.Calendar
