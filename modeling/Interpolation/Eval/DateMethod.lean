import Interpolation.Calendar.Iso
import Interpolation.Calendar.Layout
import Interpolation.Eval.Answer

/-!
# Methods of dates, times of day and durations

Dates and times tell their parts, are written in layouts, change some of their parts, and are made
from numbers, weeks and texts. The zone of the place is universal time.

Main definitions:

* `Occasion.make`, `Occasion.makeDate`: moments and dates of parts that may be out of bounds.
* `dateMethod`, `momentMethod`, `clockMethod`, `zoneMethod`, `durationMethod`: the methods.
-/

namespace Interpolation

open Interpolation.Text Interpolation.Number Interpolation.Calendar

/-! ## Arguments -/

/-- An error about a value. -/
def valueFault (text : String) : Fault := .refused "ValueError" text

/-- The number that an argument stands for where a small machine integer is expected. -/
def Value.requireNumber (v : Value) : Except Fault Int := do
  let n ← v.requireInt
  let refuse (text : String) : Fault := .refused "OverflowError" text
  if n < -2 ^ 63 ∨ 2 ^ 63 ≤ n then throw (refuse "Python int too large to convert to C long")
  if 2 ^ 31 ≤ n then throw (refuse "signed integer is greater than maximum")
  if n < -2 ^ 31 then throw (refuse "signed integer is less than minimum")
  return n

/-- The distance to universal time that an argument stands for. -/
def Value.requireZone (v : Value) : Except Fault (Option Int) :=
  match v.content with
  | .none => .ok Option.none
  | .zone n => .ok (some n)
  | _ =>
    .error (.refused "TypeError" ("tzinfo argument must be None or of a tzinfo subclass, not type "
      ++ quote v.typeWord))

/-- Refuses what is no text that can be handed over as it is. -/
def requirePlain (callee : String) (place : Nat) (v : Value) : Except Fault Unit :=
  match v.text? with
  | some t => do
    let _ ← encoded t
    if t.toList.contains '\x00' then throw (valueFault "embedded null character")
  | none => .error (.argumentType callee place "str" v.typeWord)

/-- The only argument of a function that counts its arguments before anything else. -/
def onlyArgument (name : String) (a : Arguments) : Except Fault Value := do
  a.unnamed name
  match a.positional with
  | [v] => return v
  | vs =>
    throw (.refused "TypeError" (name ++ "() takes exactly 1 argument (" ++ toString vs.length
      ++ " given)"))

/-! ## Making dates and times -/

/-- The date of parts that may be out of bounds. -/
def makeDate (year month day : Int) : Except Fault Date :=
  if year < 1 ∨ 9999 < year then .error (valueFault ("year " ++ toString year ++ " is out of range"))
  else (Date.ofParts year.toNat month.toNat day.toNat).mapError fun e => valueFault e.message

/-- The time of day of parts that may be out of bounds. -/
def makeClock (hour minute second micro : Int) (offset : Option Int) : Except Fault Clock :=
  if hour < 0 then .error (valueFault PartError.hour.message)
  else if 23 < hour then .error (valueFault PartError.hour.message)
  else if minute < 0 then .error (valueFault PartError.minute.message)
  else if 59 < minute then .error (valueFault PartError.minute.message)
  else if second < 0 ∨ 59 < second then .error (valueFault PartError.second.message)
  else if micro < 0 ∨ 999999 < micro then
    .error (valueFault "microsecond must be in 0..999999")
  else .ok ⟨hour.toNat, minute.toNat, second.toNat, micro.toNat, offset⟩

/-- The date with an ordinal that may be out of bounds. -/
def dateOfOrdinal (n : Int) : Except Fault Date :=
  if n < 1 then .error (valueFault "ordinal must be >= 1")
  else
    let d := Date.ofOrdinal n.toNat
    if 3652059 < n then
      -- how many years lie in so many days is found out by groups of four hundred years
      let far := Date.ofOrdinal ((n - 1) % 146097 + 1).toNat
      .error (valueFault ("year " ++ toString (far.year + (n - 1) / 146097 * 400)
        ++ " is out of range"))
    else .ok d

/-- The date and the time of day of universal time, so many microseconds after the beginning of the
year 1970. -/
def momentAt (micros : Int) : Except Fault (Date × Clock) := do
  let days := micros / microsPerDay + 719163
  if days.natAbs > 365 * 2 ^ 31 then
    throw (.refused "OSError" "[Errno 75] Value too large for defined data type")
  if days < 1 then
    let far := Date.ofOrdinal ((days - 1) % 146097 + 1).toNat
    throw (valueFault ("year " ++ toString ((far.year : Int) + (days - 1) / 146097 * 400)
      ++ " is out of range"))
  let d ← dateOfOrdinal days
  let rest := (micros % microsPerDay).toNat
  let seconds := rest / 1000000
  return (d, ⟨seconds / 3600, seconds / 60 % 60, seconds % 60, rest % 1000000, none⟩)

/-- The microseconds that an argument stands for that tells seconds; a fraction is rounded to the
nearest microsecond, or left out if whole seconds are asked for. -/
def microsOfStamp (whole : Bool) (v : Value) : Except Fault Int := do
  let far : Fault := .refused "OverflowError" "timestamp out of range for platform time_t"
  let micros ← match v.content with
    | .float x =>
      if x.isNaN then throw (valueFault "Invalid value NaN (not a number)")
      else if x.isInf then throw far
      else
        let seconds := if whole then x.floor else if x < 0 then x.ceil else x.floor
        let fraction := (x - seconds) * 1000000
        let roundedInt (x : Float) : Int :=
          match Binary.ofFloat x with
          | .finite negative m e =>
            let n := Binary.roundQuotient (m * 2 ^ e.toNat) (2 ^ (-e).toNat)
            if negative then -(n : Int) else n
          | _ => 0
        pure (roundedInt seconds * 1000000 + if whole then 0 else roundedInt fraction)
    | _ => do pure ((← v.requireInt) * 1000000)
  if micros / 1000000 < -2 ^ 63 ∨ 2 ^ 63 ≤ micros / 1000000 then throw far
  return micros

/-- The date, and the time of day if there is one, of a text in the standard notation. -/
def readIso (read : Array Char → Option α) (v : Value) : Except Fault α :=
  match v.text? with
  | none => .error (.refused "TypeError" "fromisoformat: argument must be str")
  | some t =>
    -- the reader looks at the bytes of the text
    let bytes := (utf8Encode t.toList).map fun b => Char.ofNat b.toNat
    match read bytes.toArray with
    | some a => .ok a
    | none => .error (valueFault ("Invalid isoformat string: " ++ quote t))

/-- A time of day of parts that were read. -/
def clockOf (p : TimeParts) : Except Fault Clock := do
  match p.offset with
  | some n =>
    if 86400 ≤ n.natAbs then
      throw (valueFault ("offset must be a timedelta strictly between -timedelta(hours=24) and "
        ++ "timedelta(hours=24), not " ++ (Duration.mk (n * 1000000)).full ++ "."))
  | none => pure ()
  makeClock p.hour p.minute p.second p.micro p.offset

/-- The date of a text. -/
def readDate (v : Value) : Except Fault Date := do
  let (year, month, day) ← readIso (fun s =>
    if s.size = 7 ∨ s.size = 8 ∨ s.size = 10 then isoDate? s s.size else none) v
  makeDate year month day

/-- The length of a character by its first byte. -/
def byteCount (c : Char) : Nat :=
  if c.toNat < 0x80 then 1
  else if c.toNat / 16 = 0xe then 3
  else if c.toNat / 16 = 0xf then 4
  else 2

/-- The moment of a text. -/
def readMomentText (v : Value) : Except Fault (Date × Clock) := do
  let ((year, month, day), time) ← readIso (fun s => do
    let stop := dateEnd s
    let date ← isoDate? s stop
    if stop < s.size then return (date, ← isoTime? s (stop + byteCount (charAt s stop)))
    else return (date, ⟨0, 0, 0, 0, none⟩)) v
  let clock := clockOf time
  -- the distance to universal time is looked at first, and the time of day last
  match time.offset, clock with
  | some n, .error f => if 86400 ≤ n.natAbs then throw f else pure ()
  | _, _ => pure ()
  return (← makeDate year month day, ← clock)

/-- The time of day of a text. -/
def readClockText (v : Value) : Except Fault Clock := do
  clockOf (← readIso (fun s => isoTime? s (if charAt s 0 = 'T' then 1 else 0)) v)

/-! ## Answers -/

/-- A date as an answer. -/
def Answer.date (d : Date) : Answer := .atom (.date d)

/-- A moment as an answer. -/
def Answer.moment (m : Date × Clock) : Answer := .atom (.datetime m.1 m.2)

/-- A distance to universal time, if there is one, in some form. -/
def Answer.ofOffset (offset : Option Int) (f : Int → Answer) : Answer :=
  (offset.map f).getD .nothing

/-- The distance to universal time as a duration. -/
def Answer.zoneDuration (seconds : Int) : Answer := .atom (.duration ⟨seconds * 1000000⟩)

/-- The parts of a moment. -/
def Answer.timeTuple (m : Date × Clock) (summer : Int) : Answer :=
  .record .moment ([m.1.year, m.1.month, m.1.day, m.2.hour, m.2.minute, m.2.second, m.1.weekday,
    m.1.dayOfYear].map (fun n : Nat => Answer.int n) ++ [.int summer])

/-- The layout that an argument stands for. -/
def layoutArgument (a : Arguments) : Except Fault (List Char) := do
  let text (v : Value) : Except Fault (List Char) :=
    match v.text? with
    | some t => .ok t.toList
    | none => .error (.argumentType "strftime" 1 "str" v.typeWord)
  let vs ← Parameters.read ⟨"strftime()", ["format"], 1, 1⟩ (fun _ v => discard (text v)) a
  text (argumentAt vs 0 .none)

/-- A text in the layout that is asked for. -/
def laidOut (m : Date × Clock) (a : Arguments) : Except Fault Answer := do
  let layout ← layoutArgument a
  let _ ← encoded (String.ofList layout)
  return .text (String.ofList (Occasion.layOut ⟨m.1, m.2⟩ layout))

/-- The arguments of a method that changes parts of a date or a time of day. `numbers` are the places
of those that are numbers. -/
def partArguments (names : List String) (placed : Nat) (numbers : List Nat) (a : Arguments) :
    Except Fault (List (Option Value)) :=
  Parameters.read ⟨"replace()", names, placed, 0⟩
    (fun i v => if numbers.contains i then discard v.requireNumber else .ok ()) a

/-- The numbers that arguments change. -/
def changedParts (vs : List (Option Value)) (old : List Nat) : Except Fault (List Int) :=
  (old.zip vs).mapM fun (n, v) =>
    match v with
    | some v => v.requireNumber
    | none => .ok (n : Int)

/-- Refuses what can be no second reading of a time of day. -/
def requireFold (v : Option Value) : Except Fault Unit := do
  match v with
  | none => return ()
  | some v => do
    let n ← v.requireNumber
    if n ≠ 0 ∧ n ≠ 1 then throw (valueFault "fold must be either 0 or 1")

/-- The distance to universal time that an argument changes. -/
def changedZone (v : Option Value) (old : Option Int) : Except Fault (Option Int) :=
  match v with
  | some v => v.requireZone
  | none => .ok old

/-- A number of a list. -/
def partAt (ns : List Int) (i : Nat) : Int := (ns[i]?).getD 0

/-- A time of day to some exactness. -/
def Calendar.Clock.exactTo (c : Clock) (exactness : String) : Except Fault String :=
  let hours := two c.hour
  let minutes := hours ++ ":" ++ two c.minute
  let seconds := minutes ++ ":" ++ two c.second
  let zone := (c.offset.map offsetText).getD ""
  match exactness with
  | "auto" => .ok c.text
  | "hours" => .ok (hours ++ zone)
  | "minutes" => .ok (minutes ++ zone)
  | "seconds" => .ok (seconds ++ zone)
  | "milliseconds" => .ok (seconds ++ "." ++ FloatLayout.padded 3 (c.micro / 1000) ++ zone)
  | "microseconds" => .ok (seconds ++ "." ++ FloatLayout.padded 6 c.micro ++ zone)
  | _ => .error (valueFault "Unknown timespec value")

/-- The exactness that an argument stands for. -/
def exactnessOf (v : Option Value) : String := (v.bind Value.text?).getD "auto"

/-! ## Dates -/

/-- A method of a date that it shares with moments. -/
def sharedDateMethod (owner : String) (m : Date × Clock) (make : Date → Answer) (name : String)
    (a : Arguments) : Except Fault Answer := do
  let callee := owner ++ "." ++ name
  let d := m.1
  match name with
  | "weekday" => do a.nothing callee; return .int d.weekday
  | "isoweekday" => do a.nothing callee; return .int (d.weekday + 1 : Nat)
  | "toordinal" => do a.nothing callee; return .int d.ordinal
  | "isocalendar" => do
    a.nothing callee
    let (year, week, day) := d.isoWeek
    return .record .week [.int year, .int week, .int day]
  | "strftime" => laidOut m a
  | "fromordinal" => do return make (← dateOfOrdinal (← (← onlyArgument name a).requireNumber))
  | "fromisocalendar" => do
    let vs ← Parameters.read ⟨"fromisocalendar()", ["year", "week", "day"], 3, 3⟩
      (fun _ v => discard v.requireNumber) a
    let ns ← vs.mapM fun v => (v.getD .none).requireNumber
    let n ← (Date.ofIsoWeek (partAt ns 0) (partAt ns 1) (partAt ns 2)).mapError fun f =>
      valueFault f.message
    return make (← dateOfOrdinal n)
  | _ => throw (.notCallable "builtin_function_or_method")

/-- A method of a date. -/
def dateMethod (d : Date) (name : String) (a : Arguments) : Except Fault Answer := do
  let callee := "date." ++ name
  match name with
  | "ctime" => do a.nothing callee; return .text (Occasion.dial ⟨d, .first⟩)
  | "isoformat" => do a.nothing callee; return .text d.text
  | "timetuple" => do a.nothing callee; return .timeTuple (d, .first) (-1)
  | "replace" => do
    let vs ← partArguments ["year", "month", "day"] 3 [0, 1, 2] a
    let ns ← changedParts vs [d.year, d.month, d.day]
    return .date (← makeDate (partAt ns 0) (partAt ns 1) (partAt ns 2))
  | "fromisoformat" => do return .date (← readDate (← a.one callee))
  | "fromtimestamp" => do
    return .date (← momentAt (← microsOfStamp true (← a.one callee))).1
  | _ => sharedDateMethod "date" (d, .first) .date name a

/-! ## Moments -/

/-- A moment in another zone. -/
def inZone (m : Date × Clock) (zone : Int) : Except Fault (Date × Clock) := do
  let (d, c) ← (moveBy m.1 m.2 (zone * 1000000 - offsetMicros m.2)).mapError .calendar
  return (d, { c with offset := some zone })

/-- The seconds from the beginning of the year 1970 to a moment. -/
def stampOf (m : Date × Clock) : Except Fault Float :=
  let micros := instantOf m.1 m.2 - offsetMicros m.2 - 719163 * microsPerDay
  match m.2.offset with
  | some _ => .ok (Binary.nearest (micros < 0) micros.natAbs 1000000)
  | none =>
    if m.1 = .first then .error (valueFault "year 0 is out of range")
    else
      let whole := micros / 1000000
      .ok (Binary.nearest (whole < 0) whole.natAbs 1 + Float.ofNat m.2.micro / 1000000)

/-- A moment with some of its parts changed. -/
def changedMoment (m : Date × Clock) (a : Arguments) : Except Fault Answer := do
  let (d, c) := m
  let vs ← partArguments ["year", "month", "day", "hour", "minute", "second", "microsecond",
    "tzinfo", "fold"] 8 [0, 1, 2, 3, 4, 5, 6, 8] a
  let ns ← changedParts vs [d.year, d.month, d.day, c.hour, c.minute, c.second, c.micro]
  requireFold (vs[8]?).join
  let part := partAt ns
  let date ← makeDate (part 0) (part 1) (part 2)
  let clock ← makeClock (part 3) (part 4) (part 5) (part 6) none
  return .moment (date, { clock with offset := ← changedZone (vs[7]?).join c.offset })

/-- A moment of universal time in the zone that is asked for, or without one. -/
def momentIn (micros : Int) (zone : Option Int) : Except Fault Answer := do
  let m ← momentAt micros
  match zone with
  | some n => return .moment (← inZone m n)
  | none => return .moment m

/-- What a method answers that asks the clock, which shows some microseconds. -/
def clockAnswer (type name : String) (micros : Nat) (a : Arguments) : Except Fault Answer := do
  match type, name with
  | "date", _ => do
    a.nothing "date.today"
    return .date (← momentAt micros).1
  | _, "now" => do
    let vs ← Parameters.read ⟨"now()", ["tz"], 1, 0⟩ (fun _ _ => .ok ()) a
    momentIn micros (← (argumentAt vs 0 .none).requireZone)
  | _, _ => do
    a.nothing ("datetime." ++ name)
    momentIn micros none

/-- A moment put together from a date and a time of day. -/
def combined (a : Arguments) : Except Fault Answer := do
  let wrong (place : Nat) (expected : String) (v : Value) : Fault :=
    .argumentType "combine" place expected v.typeWord
  let date (v : Value) : Except Fault Date :=
    match v.content with
    | .date d | .datetime d _ => .ok d
    | _ => .error (wrong 1 "datetime.date" v)
  let clock (v : Value) : Except Fault Clock :=
    match v.content with
    | .time c => .ok c
    | _ => .error (wrong 2 "datetime.time" v)
  let check (i : Nat) (v : Value) : Except Fault Unit :=
    match i with
    | 0 => discard (date v)
    | 1 => discard (clock v)
    | _ => .ok ()
  let vs ← Parameters.read ⟨"combine()", ["date", "time", "tzinfo"], 3, 2⟩ check a
  let d ← date (argumentAt vs 0 .none)
  let c ← clock (argumentAt vs 1 .none)
  return .moment (d, { c with offset := ← changedZone (vs[2]?).join c.offset })

/-- A moment in the standard notation. -/
def momentText (m : Date × Clock) (a : Arguments) : Except Fault Answer := do
  let character (v : Value) : Except Fault Char :=
    match v.text?.map String.toList with
    | some [c] => .ok c
    | _ => .error (.argumentType "isoformat" 1 "a unicode character" v.typeWord)
  let check (i : Nat) (v : Value) : Except Fault Unit :=
    if i = 0 then discard (character v) else requirePlain "isoformat" 2 v
  let vs ← Parameters.read ⟨"isoformat()", ["sep", "timespec"], 2, 0⟩ check a
  let sep ← character (argumentAt vs 0 (.str "T"))
  return .text (m.1.text ++ String.singleton sep ++ (← m.2.exactTo (exactnessOf (vs[1]?).join)))

/-- A method of a moment. -/
def momentMethod (m : Date × Clock) (name : String) (a : Arguments) : Except Fault Answer := do
  let callee := "datetime." ++ name
  let (d, c) := m
  match name with
  | "ctime" => do a.nothing callee; return .text (Occasion.dial ⟨d, c⟩)
  | "date" => do a.nothing callee; return .date d
  | "time" => do a.nothing callee; return .atom (.time { c with offset := none })
  | "timetz" => do a.nothing callee; return .atom (.time c)
  | "utcoffset" => do a.nothing callee; return .ofOffset c.offset .zoneDuration
  | "tzname" => do a.nothing callee; return .ofOffset c.offset fun n => .text (zoneName n)
  | "dst" => do a.nothing callee; return .nothing
  | "timetuple" => do a.nothing callee; return .timeTuple m (-1)
  | "utctimetuple" => do
    a.nothing callee
    return .timeTuple (← inZone m 0) 0
  | "timestamp" => do a.nothing callee; return .atom (.float (← stampOf m))
  | "isoformat" => momentText m a
  | "replace" => changedMoment m a
  | "astimezone" => do
    let vs ← Parameters.read ⟨"astimezone()", ["tz"], 1, 0⟩ (fun _ _ => .ok ()) a
    return .moment (← inZone m ((← (argumentAt vs 0 .none).requireZone).getD 0))
  | "combine" => combined a
  | "fromisoformat" => do return .moment (← readMomentText (← a.one callee))
  | "fromtimestamp" => do
    let vs ← Parameters.read ⟨"fromtimestamp()", ["timestamp", "tz"], 2, 1⟩ (fun _ _ => .ok ()) a
    let zone ← (argumentAt vs 1 .none).requireZone
    let micros ← microsOfStamp false (argumentAt vs 0 .none)
    let answer ← momentIn micros zone
    -- the zone of the place is asked about the day before as well
    if zone.isNone ∧ micros / microsPerDay + 719163 < 2 then
      throw (valueFault "year 0 is out of range")
    return answer
  | "utcfromtimestamp" => do
    momentIn (← microsOfStamp false (← onlyArgument name a)) none
  | _ => sharedDateMethod "datetime" m (fun d => .moment (d, .first)) name a

/-! ## Times of day, zones and durations -/

/-- A method of a time of day. -/
def clockMethod (c : Clock) (name : String) (a : Arguments) : Except Fault Answer := do
  let callee := "time." ++ name
  match name with
  | "utcoffset" => do a.nothing callee; return .ofOffset c.offset .zoneDuration
  | "tzname" => do a.nothing callee; return .ofOffset c.offset fun n => .text (zoneName n)
  | "dst" => do a.nothing callee; return .nothing
  | "isoformat" => do
    let vs ← Parameters.read ⟨"isoformat()", ["timespec"], 1, 0⟩
      (fun _ v => requirePlain "isoformat" 1 v) a
    return .text (← c.exactTo (exactnessOf (vs[0]?).join))
  | "strftime" => laidOut (⟨1900, 1, 1⟩, c) a
  | "replace" => do
    let vs ← partArguments ["hour", "minute", "second", "microsecond", "tzinfo", "fold"] 5
      [0, 1, 2, 3, 5] a
    let ns ← changedParts vs [c.hour, c.minute, c.second, c.micro]
    requireFold (vs[5]?).join
    let part := partAt ns
    let clock ← makeClock (part 0) (part 1) (part 2) (part 3) none
    return .atom (.time { clock with offset := ← changedZone (vs[4]?).join c.offset })
  | "fromisoformat" => do return .atom (.time (← readClockText (← a.one callee)))
  | _ => throw (.notCallable "builtin_function_or_method")

/-- A method of a distance to universal time. -/
def zoneMethod (zone : Int) (name : String) (a : Arguments) : Except Fault Answer := do
  let v ← a.one ("timezone." ++ name)
  match name, v.content with
  | "fromutc", .datetime d c =>
    if c.offset = some zone then do
      let (d, c) ← (moveBy d c (zone * 1000000)).mapError .calendar
      return .moment (d, c)
    else throw (valueFault "fromutc: dt.tzinfo is not self")
  | "fromutc", _ => throw (.refused "TypeError" "fromutc: argument must be a datetime")
  | "utcoffset", .datetime .. | "utcoffset", .none => return .zoneDuration zone
  | "tzname", .datetime .. | "tzname", .none => return .text (zoneName zone)
  | "dst", .datetime .. | "dst", .none => return .nothing
  | _, _ =>
    throw (.refused "TypeError" (name ++ "(dt) argument must be a datetime instance or None, not "
      ++ v.typeWord))

/-- A method of a duration. -/
def durationMethod (d : Duration) (name : String) (a : Arguments) : Except Fault Answer := do
  a.nothing ("timedelta." ++ name)
  return .atom (.float (Binary.nearest (d.micros < 0) d.micros.natAbs 1000000))

end Interpolation
