import Interpolation.Number.Layout

/-!
# Dates, times of day and durations

The calendar values that a context may hold, with their plain texts and their texts in JSON
documents.

Main definitions:

* `Date`, `Clock`, `Duration`: a day of the calendar, a time of day, a span of time.
* `Date.ofParts?`, `Clock.ofParts?`: the valid ones.
* `text` and `jsonText` of each: how they are written.
-/

namespace Interpolation.Calendar

open Interpolation.Number (FloatLayout.padded)

/-- A number with at least two digits. -/
def two (n : Nat) : String := Number.FloatLayout.padded 2 n

/-- A day of the calendar. -/
structure Date where
  /-- The year, from 1 to 9999. -/
  year : Nat
  /-- The month, from 1 to 12. -/
  month : Nat
  /-- The day of the month. -/
  day : Nat
deriving DecidableEq, Repr

/-- A time of day, with the distance to universal time in seconds when it is known. -/
structure Clock where
  /-- The hour, from 0 to 23. -/
  hour : Nat
  /-- The minute. -/
  minute : Nat
  /-- The second. -/
  second : Nat
  /-- The microsecond. -/
  micro : Nat
  /-- The distance to universal time in seconds. -/
  offset : Option Int
deriving DecidableEq, Repr

/-- A span of time in microseconds. -/
structure Duration where
  /-- The number of microseconds. -/
  micros : Int
deriving DecidableEq, Repr

/-- Whether the year has a 29th of February. -/
def isLeap (year : Nat) : Bool := year % 4 == 0 && (year % 100 != 0 || year % 400 == 0)

/-- The number of days of a month. -/
def daysIn (year month : Nat) : Nat :=
  match month with
  | 2 => if isLeap year then 29 else 28
  | 4 | 6 | 9 | 11 => 30
  | _ => 31

namespace Duration

/-- The least duration. -/
def least : Duration := ⟨-999999999 * 86400000000⟩

/-- The greatest duration. -/
def greatest : Duration := ⟨1000000000 * 86400000000 - 1⟩

/-- Days, seconds of the day and microseconds; only the days carry the sign. -/
def parts (d : Duration) : Int × Nat × Nat :=
  let perDay : Int := 86400000000
  let rest := (d.micros % perDay).toNat
  (d.micros / perDay, rest / 1000000, rest % 1000000)

/-- The duration in full: its days, seconds and microseconds that are not zero. -/
def full (d : Duration) : String :=
  let (days, seconds, micros) := d.parts
  let part (name : String) (n : Int) : List String :=
    if n = 0 then [] else [name ++ "=" ++ toString n]
  let parts := part "days" days ++ part "seconds" seconds ++ part "microseconds" micros
  "datetime.timedelta("
    ++ String.intercalate ", " (if parts.isEmpty then ["0"] else parts) ++ ")"

end Duration

/-- What is wrong with the parts of a date or a time. -/
inductive PartError where
  | year (n : Nat)
  | month
  | day
  | hour
  | minute
  | second
  | offset (minutes : Int)
deriving DecidableEq, Repr

/-- How the error is told. -/
def PartError.message : PartError → String
  | .year n => "year " ++ toString n ++ " is out of range"
  | .month => "month must be in 1..12"
  | .day => "day is out of range for month"
  | .hour => "hour must be in 0..23"
  | .minute => "minute must be in 0..59"
  | .second => "second must be in 0..59"
  | .offset minutes =>
    "offset must be a timedelta strictly between -timedelta(hours=24) and timedelta(hours=24), not "
      ++ (Duration.mk (minutes * 60000000)).full ++ "."

namespace Date

/-- The date with the given parts, if there is one. -/
def ofParts (year month day : Nat) : Except PartError Date :=
  if year < 1 ∨ year > 9999 then .error (.year year)
  else if month < 1 ∨ month > 12 then .error .month
  else if day < 1 ∨ day > daysIn year month then .error .day
  else .ok ⟨year, month, day⟩

/-- The first date. -/
def first : Date := ⟨1, 1, 1⟩

/-- The last date. -/
def last : Date := ⟨9999, 12, 31⟩

/-- The date as year, month and day. -/
def text (d : Date) : String :=
  Number.FloatLayout.padded 4 d.year ++ "-" ++ two d.month ++ "-" ++ two d.day

/-- The number of days from the beginning of year one to the beginning of a year. -/
def daysBefore (year : Nat) : Nat :=
  let y := year - 1
  y * 365 + y / 4 - y / 100 + y / 400

/-- The number of days since the last day before year one. -/
def ordinal (d : Date) : Nat :=
  (List.range (d.month - 1)).foldl (fun days m => days + daysIn d.year (m + 1)) (daysBefore d.year)
    + d.day

/-- Walks through the months of a year to the one that holds the given day of the year. -/
def inYear (year : Nat) (day : Nat) : (month left : Nat) → Date
  | month, 0 => ⟨year, month, day⟩
  | month, left + 1 =>
    if day ≤ daysIn year month then ⟨year, month, day⟩
    else inYear year (day - daysIn year month) (month + 1) left

/-- The date with an ordinal. -/
def ofOrdinal (n : Nat) : Date :=
  let guess := n / 366 + 1
  let year := ((List.range (guess / 400 + 4)).map (guess + ·)).foldl
    (fun best y => if daysBefore y < n then y else best) guess
  inYear year (n - daysBefore year) 1 11

end Date

/-- A distance to universal time as sign, hours and minutes, and seconds when there are some. -/
def offsetText (seconds : Int) : String :=
  let n := seconds.natAbs
  (if seconds < 0 then "-" else "+") ++ two (n / 3600) ++ ":" ++ two (n / 60 % 60)
    ++ (if n % 60 = 0 then "" else ":" ++ two (n % 60))

namespace Clock

/-- The time with the given parts, if there is one. -/
def ofParts (hour minute second micro : Nat) (offset : Option Int) : Except PartError Clock :=
  if hour > 23 then .error .hour
  else if minute > 59 then .error .minute
  else if second > 59 then .error .second
  else .ok ⟨hour, minute, second, micro, offset⟩

/-- Hours, minutes and seconds, with the microseconds when there are some. -/
def digits (c : Clock) : String :=
  two c.hour ++ ":" ++ two c.minute ++ ":" ++ two c.second
    ++ (if c.micro = 0 then "" else "." ++ Number.FloatLayout.padded 6 c.micro)

/-- The time of day with its distance to universal time. -/
def text (c : Clock) : String := c.digits ++ (c.offset.map offsetText).getD ""

/-- The time of day in a JSON document: universal time is marked by a letter. -/
def jsonText (c : Clock) : String :=
  c.digits ++ match c.offset with
    | none => ""
    | some 0 => "Z"
    | some n => offsetText n

/-- The beginning of a day. -/
def first : Clock := ⟨0, 0, 0, 0, none⟩

/-- The last moment of a day. -/
def last : Clock := ⟨23, 59, 59, 999999, none⟩

/-- The number of seconds since midnight. -/
def seconds (c : Clock) : Nat := c.hour * 3600 + c.minute * 60 + c.second

end Clock

namespace Duration

/-- Days, hours, minutes and seconds. -/
def text (d : Duration) : String :=
  let (days, seconds, micros) := d.parts
  let dayText :=
    if days = 0 then ""
    else toString days ++ (if days = 1 ∨ days = -1 then " day, " else " days, ")
  dayText ++ toString (seconds / 3600) ++ ":" ++ two (seconds / 60 % 60) ++ ":"
    ++ two (seconds % 60) ++ (if micros = 0 then "" else "." ++ Number.FloatLayout.padded 6 micros)

/-- The digits of a fraction of a second without the zeros at their end. -/
def fractionText (micros : Nat) : String :=
  String.ofList (((Number.FloatLayout.padded 6 micros).toList.reverse.dropWhile (· == '0')).reverse)

/-- The duration in a JSON document: a sign, years of 365 days and days, hours, minutes and
seconds, each part only when it is not zero. -/
def jsonText (d : Duration) : String :=
  let n := d.micros.natAbs
  let days := n / 86400000000
  let seconds := n / 1000000 % 86400
  let micros := n % 1000000
  let part (k : Nat) (letter : String) := if k = 0 then "" else toString k ++ letter
  let secondText :=
    if seconds % 60 = 0 ∧ micros = 0 then ""
    else toString (seconds % 60) ++ (if micros = 0 then "" else "." ++ fractionText micros) ++ "S"
  let time := part (seconds / 3600) "H" ++ part (seconds / 60 % 60) "M" ++ secondText
  let day := part (days / 365) "Y" ++ part (days % 365) "D"
  (if d.micros < 0 then "-P" else "P") ++ day
    ++ (if time ≠ "" then "T" ++ time else if day = "" then "T0S" else "")

end Duration

end Interpolation.Calendar
