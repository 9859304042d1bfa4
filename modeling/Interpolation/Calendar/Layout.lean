import Interpolation.Calendar.Span
import Interpolation.Calendar.Iso

/-!
# Layouts of dates and times

A layout is a text with directives: a percent sign, marks for how the field is filled up, a width, a
letter for another calendar, and the letter of the field. What is no directive stays as it is.

Main definitions:

* `zoneName`, `zoneDigits`: how a distance to universal time is told.
* `Occasion`: what is written.
* `Occasion.write`: the text of a layout.
-/

namespace Interpolation.Calendar

/-- The names of the days of the week, Monday first. -/
def dayNames : List String :=
  ["Monday", "Tuesday", "Wednesday", "Thursday", "Friday", "Saturday", "Sunday"]

/-- The names of the months. -/
def monthNames : List String :=
  ["January", "February", "March", "April", "May", "June", "July", "August", "September",
   "October", "November", "December"]

/-- The name of a distance to universal time. -/
def zoneName (seconds : Int) : String :=
  if seconds = 0 then "UTC" else "UTC" ++ offsetText seconds

/-- A distance to universal time without marks between its parts. -/
def zoneDigits (seconds : Int) : String :=
  String.ofList ((offsetText seconds).toList.filter (· != ':'))

/-- A date with a time of day, as it is written in a layout. -/
structure Occasion where
  /-- The day. -/
  date : Date
  /-- The time of day. -/
  clock : Clock

namespace Occasion

variable (m : Occasion)

/-- The name of the day. -/
def dayName : String := dayNames[m.date.weekday]?.getD ""

/-- The name of the month. -/
def monthName : String := monthNames[m.date.month - 1]?.getD ""

/-- The hour of half a day. -/
def halfHour : Nat := if m.clock.hour % 12 = 0 then 12 else m.clock.hour % 12

/-- The seconds since the beginning of the year 1970. -/
def sinceEpoch : Int := ((m.date.ordinal : Int) - 719163) * 86400 + m.clock.seconds

/-- A field of a layout. -/
inductive Field where
  /-- A number with a least number of digits, and what it is filled up with. -/
  | number (digits : Nat) (fill : Char) (n : Int)
  /-- A text, and the text in the other case. -/
  | word (s other : String)
  /-- A layout of its own. -/
  | parts (layout : String)

/-- A name, which is capital in the other case. -/
def name (s : String) : Field := .word s s.toUpper

/-- The field of a letter. -/
def field? (c : Char) : Option Field :=
  let d := m.date
  let t := m.clock
  let two (n : Nat) : Field := .number 2 '0' n
  let half := if t.hour < 12 then "AM" else "PM"
  match c with
  | 'a' => some (name (String.ofList (m.dayName.toList.take 3)))
  | 'A' => some (name m.dayName)
  | 'b' | 'h' => some (name (String.ofList (m.monthName.toList.take 3)))
  | 'B' => some (name m.monthName)
  | 'c' => some (.parts "%a %b %e %H:%M:%S %Y")
  | 'C' => some (.number 1 '0' (d.year / 100 : Nat))
  | 'd' => some (two d.day)
  | 'D' | 'x' => some (.parts "%m/%d/%y")
  | 'e' => some (.number 2 ' ' d.day)
  | 'F' => some (.parts "%Y-%m-%d")
  | 'g' => some (two (d.isoWeek.1 % 100))
  | 'G' => some (.number 1 '0' d.isoWeek.1)
  | 'H' => some (two t.hour)
  | 'I' => some (two m.halfHour)
  | 'j' => some (.number 3 '0' d.dayOfYear)
  | 'k' => some (.number 2 ' ' t.hour)
  | 'l' => some (.number 2 ' ' m.halfHour)
  | 'm' => some (two d.month)
  | 'M' => some (two t.minute)
  | 'n' => some (.word "\n" "\n")
  | 'p' => some (.word half half.toLower)
  | 'P' => some (.word half.toLower half.toLower)
  | 'r' => some (.parts "%I:%M:%S %p")
  | 'R' => some (.parts "%H:%M")
  | 's' => some (.number 1 '0' m.sinceEpoch)
  | 'S' => some (two t.second)
  | 't' => some (.word "\t" "\t")
  | 'T' | 'X' => some (.parts "%H:%M:%S")
  | 'u' => some (.number 1 '0' (d.weekday + 1 : Nat))
  | 'U' => some (two (d.weekFrom 0))
  | 'V' => some (two d.isoWeek.2.1)
  | 'w' => some (.number 1 '0' ((d.weekday + 1) % 7 : Nat))
  | 'W' => some (two (d.weekFrom 1))
  | 'y' => some (two (d.year % 100))
  | 'Y' => some (.number 1 '0' d.year)
  | 'z' | 'Z' => some (.word "" "")
  | '%' => some (.word "%" "%")
  | _ => none

/-- The letters of fields that the letter of another calendar may stand before. -/
def alternatives : Char → List Char
  | 'E' => "cnprstuxyzCPRTXYZ%".toList
  | 'O' => "bdeghjklmnprstuwyzBCGHIMPRSTUVWZ%".toList
  | _ => []

/-- What stands between a percent sign and the letter of a field. -/
structure Marks where
  /-- What the field is filled up with, if something else than usual. -/
  fill : Option Char
  /-- Whether all letters are capital. -/
  upper : Bool
  /-- Whether the case of the letters is changed. -/
  change : Bool
  /-- The least width. -/
  width : Nat

/-- The marks behind a percent sign, and the rest. -/
def readMarks (k : Marks) : List Char → Marks × List Char
  | [] => (k, [])
  | c :: s =>
    if c = '_' ∨ c = '-' ∨ c = '0' then readMarks { k with fill := some c } s
    else if c = '^' then readMarks { k with upper := true } s
    else if c = '#' then readMarks { k with change := true } s
    else
      let digits := (c :: s).takeWhile Char.isDigit
      let width : Nat := digits.foldl (fun n d => 10 * n + (d.toNat - 48)) 0
      ({ k with width := width }, (c :: s).drop digits.length)

/-- A text filled up to a width. -/
def Marks.filled (k : Marks) (s : List Char) : List Char :=
  List.replicate (k.width - s.length) (if k.fill = some '0' then '0' else ' ') ++ s

/-- A number filled up to its number of digits and to a width. -/
def Marks.number (k : Marks) (digits : Nat) (fill : Char) (n : Int) : List Char :=
  let shown := Nat.toDigits 10 n.natAbs
  let sign : List Char := if n < 0 then ['-'] else []
  let fill := match k.fill with
    | some '_' => ' '
    | some '0' => '0'
    | _ => fill
  if k.fill = some '-' then k.filled (sign ++ shown)
  else
    let room := List.replicate (max digits k.width - (sign.length + shown.length)) fill
    if fill = '0' then sign ++ room ++ shown else room ++ sign ++ shown

/-- The text of a layout; fields that are layouts themselves are written down to a number of
levels. -/
def writeTo : (levels fuel : Nat) → (upper : Bool) → List Char → List Char
  | _, 0, _, _ => []
  | _, _, _, [] => []
  | levels, fuel + 1, upper, '%' :: s =>
    let (k, rest) := readMarks ⟨none, upper, false, 0⟩ s
    let (other, rest) := match rest with
      | 'E' :: rest => (some 'E', rest)
      | 'O' :: rest => (some 'O', rest)
      | rest => (none, rest)
    let c := rest.head?
    let allowed := match other, c with
      | some o, some c => (alternatives o).contains c
      | _, _ => true
    let after := writeTo levels fuel upper (rest.drop 1)
    match if allowed then c.bind m.field? else none with
    | some (.number digits fill n) => k.number digits fill n ++ after
    | some (.word t o) =>
      let t := if k.change then o else if k.upper then t.toUpper else t
      k.filled t.toList ++ after
    | some (.parts layout) =>
      match levels with
      | 0 => after
      | levels + 1 => k.filled (writeTo levels layout.length k.upper layout.toList) ++ after
    | none => k.filled ('%' :: s.take (s.length - (rest.drop 1).length)) ++ after
  | levels, fuel + 1, upper, c :: s => c :: writeTo levels fuel upper s

/-- The text of a layout in which the fields are filled that a library for the calendar knows. -/
def write (layout : List Char) : List Char := m.writeTo 1 layout.length false layout

/-- The layout in which those fields are filled that the calendar of the system knows nothing of: the
microseconds, and the distance to universal time with its name. -/
def prepared : List Char → List Char
  | '%' :: c :: s =>
    let after := prepared s
    if c = 'z' then ((m.clock.offset.map zoneDigits).getD "").toList ++ after
    else if c = 'Z' then ((m.clock.offset.map zoneName).getD "").toList ++ after
    else if c = 'f' then (Number.FloatLayout.padded 6 m.clock.micro).toList ++ after
    else '%' :: c :: after
  | c :: s => c :: prepared s
  | [] => []

/-- The text of a layout. -/
def layOut (layout : List Char) : List Char :=
  m.write (m.prepared (layout.takeWhile (· != '\x00')))

/-- The date and the time of day as a clock shows them. -/
def dial : String := String.ofList (m.write "%a %b %e %H:%M:%S ".toList)
  ++ Number.FloatLayout.padded 4 m.date.year

end Occasion

end Interpolation.Calendar
