import Interpolation.Calendar.Moment

/-!
# Weeks, and dates and times in their standard notation

A day of the calendar is also the day of a week, and the weeks of a year are numbered: the first one
is that which holds the first Thursday of the year. So a few days at the ends of a year may be told
as days of another year.

A date is written as year, month and day, or as year, week and day of the week, and a time of day as
hours, minutes and seconds, with or without marks between the parts; a distance to universal time may
follow. A reader takes the text for what stands at fixed places, so it asks for characters by their
places.

Main definitions:

* `Date.weekday`, `Date.dayOfYear`: the day within its week and its year.
* `Date.isoWeek`, `Date.ofIsoWeek`: the day as one of a numbered week, and back.
* `Date.weekFrom`: the number of a week when weeks begin on a given day and the first one is whole.
* `isoDate?`: the parts of a date at the beginning of a text.
* `isoTime?`: the parts of a time of day from a place on.
* `dateEnd`: where a date ends behind which a time of day stands.
-/

namespace Interpolation.Calendar

/-! ## Weeks -/

namespace Date

/-- The day of the week, counted from Monday. -/
def weekday (d : Date) : Nat := (d.ordinal + 6) % 7

/-- The day of the year, counted from one. -/
def dayOfYear (d : Date) : Nat := d.ordinal - daysBefore d.year

/-- The ordinal of the Monday with which the numbered weeks of a year begin. -/
def firstMonday (year : Nat) : Int :=
  let newYear : Int := daysBefore year + 1
  let weekday := (newYear + 6) % 7
  newYear - weekday + (if weekday > 3 then 7 else 0)

/-- The year, the number of the week and the day of the week. -/
def isoWeek (d : Date) : Nat × Nat × Nat :=
  let day (year : Nat) : Int := d.ordinal - firstMonday year
  let year :=
    if day d.year < 0 then d.year - 1
    else if 0 ≤ day (d.year + 1) then d.year + 1
    else d.year
  (year, (day year / 7).toNat + 1, d.weekday + 1)

/-- What is wrong with the number of a week. -/
inductive WeekFault where
  | year (n : Int)
  | week (n : Int)
  | day (n : Int)
deriving DecidableEq, Repr

/-- How it is told. -/
def WeekFault.message : WeekFault → String
  | year n => "Year is out of range: " ++ toString n
  | week n => "Invalid week: " ++ toString n
  | day n => "Invalid day: " ++ toString n ++ " (range is [1, 7])"

/-- Whether the weeks of a year are 53. -/
def hasLongWeeks (year : Nat) : Bool :=
  let weekday := (daysBefore year + 7) % 7
  weekday == 3 || (weekday == 2 && isLeap year)

/-- The ordinal of a day of a numbered week. -/
def ofIsoWeek (year week day : Int) : Except WeekFault Int :=
  if year < 1 ∨ 9999 < year then .error (.year year)
  else if week < 1 ∨ 53 < week ∨ (week = 53 ∧ !hasLongWeeks year.toNat) then .error (.week week)
  else if day < 1 ∨ 7 < day then .error (.day day)
  else .ok (firstMonday year.toNat + (week - 1) * 7 + (day - 1))

/-- The number of the week when weeks begin on a day, counted from Sunday, and days before the first
one belong to week zero. -/
def weekFrom (start : Nat) (d : Date) : Nat :=
  (d.dayOfYear + 6 - (d.weekday + 1 + 7 - start) % 7) / 7

end Date

/-! ## The standard notation -/

/-- The parts of a time of day with a distance to universal time in seconds; they may be beyond their
bounds. -/
structure TimeParts where
  /-- The hour. -/
  hour : Nat
  /-- The minute. -/
  minute : Nat
  /-- The second. -/
  second : Nat
  /-- The microsecond. -/
  micro : Nat
  /-- The distance to universal time in seconds. -/
  offset : Option Int

/-- The character at a place; behind the end stands one that is nothing. -/
def charAt (s : Array Char) (i : Nat) : Char := s[i]?.getD '\x00'

/-- The number of so many digits from a place on. -/
def digitsAt? (s : Array Char) (i : Nat) : (count : Nat) → Option Nat
  | 0 => some 0
  | count + 1 =>
    let c := charAt s (i + count)
    if c.isDigit then (digitsAt? s i count).map fun n => 10 * n + (c.toNat - 48) else none

/-- The parts of a date at the beginning of a text, of which so many characters count. -/
def isoDate? (s : Array Char) (length : Nat) : Option (Int × Int × Int) := do
  let year ← digitsAt? s 0 4
  let separated := charAt s 4 == '-'
  let i := if separated then 5 else 4
  if charAt s i = 'W' then
    let week ← digitsAt? s (i + 1) 2
    let place := i + 3
    let day ←
      if place < length then
        if separated then if charAt s place = '-' then digitsAt? s (place + 1) 1 else none
        else digitsAt? s place 1
      else some 1
    let n ← (Date.ofIsoWeek year week day).toOption
    if n < 1 then none
    else
      -- the last week of the last year reaches beyond the calendar
      let d := Date.ofOrdinal n.toNat
      return (d.year, d.month, d.day)
  else
    let month ← digitsAt? s i 2
    if separated ∧ charAt s (i + 2) ≠ '-' then none
    else
      let day ← digitsAt? s (if separated then i + 3 else i + 2) 2
      return (year, month, day)

/-- The microseconds that digits from a place on stand for, before another place, and the place
behind all of them. -/
def isoFraction? (s : Array Char) (i stop : Nat) : Option (Nat × Nat) := do
  let count := min 6 (stop - i)
  let n ← digitsAt? s i count
  let rest := ((s.toList.drop (i + count)).takeWhile Char.isDigit).length
  return (n * 10 ^ (if count = 0 then 0 else 6 - count), i + count + rest)

/-- Hours, minutes, seconds and microseconds from a place on, before another place, and whether more
stands behind them. `parts` are those that were read, the last one first; `separated` tells whether
marks stand between them. -/
def isoClock? (s : Array Char) (stop : Nat) :
    (left : Nat) → (parts : List Nat) → (separated : Bool) → (i : Nat) →
      Option (List Nat × Nat × Bool)
  | 0, parts, _, i => do
    let (micro, place) ← isoFraction? s i stop
    return (parts.reverse, micro, charAt s place != '\x00')
  | left + 1, parts, separated, i => do
    let n ← digitsAt? s i 2
    let c := charAt s (i + 2)
    let separated := if parts.isEmpty then c == ':' else separated
    if stop ≤ i + 3 then return ((n :: parts).reverse, 0, c != '\x00')
    else if separated && c == ':' then isoClock? s stop left (n :: parts) separated (i + 3)
    else if c = '.' ∨ c = ',' then isoClock? s stop 0 (n :: parts) separated (i + 3)
    else if !separated then isoClock? s stop left (n :: parts) separated (i + 2)
    else none

/-- The parts of a time of day from a place on. -/
def isoTime? (s : Array Char) (i : Nat) : Option TimeParts := do
  let isSign (c : Char) : Bool := c == '+' || c == '-' || c == 'Z'
  let stop := i + ((s.toList.drop i).takeWhile fun c => !isSign c).length
  let (parts, micro, more) ← isoClock? s stop 3 [] true i
  let part (ps : List Nat) (i : Nat) : Nat := (ps[i]?).getD 0
  let time (offset : Option Int) : TimeParts :=
    ⟨part parts 0, part parts 1, part parts 2, micro, offset⟩
  if stop = s.size then if more then none else return time none
  else if charAt s stop = 'Z' then if stop + 1 = s.size then return time (some 0) else none
  else
    let (zone, _, more) ← isoClock? s s.size 3 [] true (stop + 1)
    if more then none
    else
      let seconds : Int := part zone 0 * 3600 + part zone 1 * 60 + part zone 2
      return time (some (if charAt s stop = '-' then -seconds else seconds))

/-- The place where a date ends behind which a time of day stands. -/
def dateEnd (s : Array Char) : Nat :=
  let n := s.size
  if n = 7 then 7
  else if charAt s 4 = '-' then
    if charAt s 5 ≠ 'W' then 10
    else if 8 < n ∧ charAt s 8 = '-' then
      if 10 < n ∧ (charAt s 10).isDigit then 8 else 10
    else 8
  else if charAt s 4 = 'W' then
    let digits := ((s.toList.drop 7).takeWhile Char.isDigit).length
    if digits < 2 then 7 + digits else if digits % 2 = 1 then 7 else 8
  else 8

end Interpolation.Calendar
