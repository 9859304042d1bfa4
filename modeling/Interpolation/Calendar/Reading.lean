import Interpolation.Calendar.Moment

/-!
# Reading dates and times

A date has four digits for the year and two for month and day; a time of day may follow, with a
fraction of a second and a distance to universal time.

Main definitions:

* `readMoment`: the date, and the time of day if there is one, that a text stands for.
-/

namespace Interpolation.Calendar

/-- Between `low` and `high` digits at the beginning, their value, and the rest. -/
def takeNumber? (low high : Nat) (s : List Char) : Option (Nat × List Char) :=
  let digits := (s.take high).takeWhile Char.isDigit
  if digits.length < low then none
  else some (digits.foldl (fun n c => n * 10 + (c.toNat - '0'.toNat)) 0, s.drop digits.length)

/-- The rest behind a character. -/
def skip? (c : Char) : List Char → Option (List Char)
  | d :: s => if c = d then some s else none
  | [] => none

/-- Whether the character is a blank inside of a line. -/
def isGap (c : Char) : Bool := c = ' ' || c = '\t'

/-- Microseconds from the digits of a fraction; digits behind the sixth do not count. -/
def microsOf (digits : List Char) : Nat :=
  ((digits ++ List.replicate 6 '0').take 6).foldl (fun n c => n * 10 + (c.toNat - '0'.toNat)) 0

/-- The distance to universal time at the end of a text, in minutes. -/
def readOffset? (s : List Char) : Option (Option Int) := do
  match s.dropWhile isGap with
  | [] => if s.isEmpty then some none else none
  | ['Z'] => some (some 0)
  | sign :: rest =>
    if sign ≠ '+' ∧ sign ≠ '-' then none
    else
      let (hours, rest) ← takeNumber? 1 2 rest
      let minutes ← match rest with
        | [] => some 0
        | rest => do
          let (minutes, rest) ← takeNumber? 2 2 (← skip? ':' rest)
          if rest.isEmpty then some minutes else none
      let total : Int := hours * 60 + minutes
      some (some (if sign = '-' then -total else total))

/-- The parts of a time of day. -/
structure ClockParts where
  /-- The hour. -/
  hour : Nat
  /-- The minute. -/
  minute : Nat
  /-- The second. -/
  second : Nat
  /-- The microsecond. -/
  micro : Nat
  /-- The distance to universal time in minutes. -/
  offset : Option Int

/-- The parts of a time of day that fills the text. -/
def readClock? (s : List Char) : Option ClockParts := do
  let (hour, s) ← takeNumber? 1 2 s
  let (minute, s) ← takeNumber? 2 2 (← skip? ':' s)
  let (second, s) ← takeNumber? 2 2 (← skip? ':' s)
  let (micro, s) := match s with
    | '.' :: s => (microsOf (s.takeWhile Char.isDigit), s.dropWhile Char.isDigit)
    | s => (0, s)
  return ⟨hour, minute, second, micro, ← readOffset? s⟩

/-- What separates the time of day from the date: a letter or blanks. -/
def skipSeparator? : List Char → Option (List Char)
  | c :: s =>
    if c = 'T' ∨ c = 't' then some s
    else if isGap c then some (s.dropWhile isGap)
    else none
  | [] => none

/-- The distance to universal time in seconds; it is less than a day. -/
def ClockParts.zone (p : ClockParts) : Except PartError (Option Int) :=
  match p.offset with
  | some minutes =>
    if minutes.natAbs ≥ 24 * 60 then .error (.offset minutes) else .ok (some (minutes * 60))
  | none => .ok none

/-- The parts of a date and of the time of day behind it. -/
def readMomentParts? (s : List Char) :
    Option ((Nat × Nat × Nat) × Option ClockParts) := do
  let (year, s) ← takeNumber? 4 4 s
  let (month, s) ← takeNumber? 1 2 (← skip? '-' s)
  let (day, s) ← takeNumber? 1 2 (← skip? '-' s)
  if s.isEmpty then return ((year, month, day), none)
  else return ((year, month, day), some (← readClock? (← skipSeparator? s)))

/-- The date, and the time of day if there is one, that a text stands for. A text of another form
stands for nothing; one of the right form may still have a part out of its range. -/
def readMoment (s : List Char) : Option (Except PartError (Date × Option Clock)) := do
  let ((year, month, day), clock) ← readMomentParts? s
  return match clock with
    | none => (Date.ofParts year month day).map (·, none)
    | some parts => do
      let zone ← parts.zone
      let date ← Date.ofParts year month day
      return (date, some (← Clock.ofParts parts.hour parts.minute parts.second parts.micro zone))

end Interpolation.Calendar
