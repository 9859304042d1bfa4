import Interpolation.Value.Equality

/-!
# Arithmetic on numbers and durations

Integers are exact; an operation with a float rounds its integer side first; a quotient of integers
is the float nearest to it. Decimals are kept apart from floats. Remainders take the sign of the
divisor, except those of decimals. Durations move dates, and are multiplied and divided by numbers.

The operators are told on contents, which need no store; an operator that is not defined on two
contents has no result here.

Main definitions:

* `Content.sum?`, `difference?`, `product?`, `quotient?`, `floorQuotient?`, `rest?`, `power?`: the
  operators.
* `Content.negative?`, `Content.positive?`: the signs.
* `Content.magnitude?`: the absolute value.
-/

namespace Interpolation

open Interpolation.Number Interpolation.Calendar

/-- A result of decimals as a result of an expression. -/
def ofDecimalResult (r : DecimalResult Decimal) : Except Fault Content :=
  (r.mapError .signal).map .decimal

/-- A result of the calendar as a result of an expression. -/
def ofCalendar {α : Type} (r : Except CalendarFault α) : Except Fault α := r.mapError .calendar

namespace Content

/-- The two sides of an operation as numbers of one type. -/
inductive Sides where
  | integers (a b : Int)
  | floats (a b : Float)
  | decimals (a b : Decimal)
  /-- Real and imaginary part of each side. -/
  | complexes (a b c d : Float)

/-- The float of a real number that is no decimal. -/
def toFloat? : Content → Option (Except Fault Float)
  | .float x => some (.ok x)
  | v => v.int?.map fun n =>
    match floatOfInt? n with
    | some x => .ok x
    | Option.none => .error (.excess .integerAsFloat)

/-- The decimal of an exact number. -/
def toDecimal? : Content → Option Decimal
  | .decimal d => some d
  | v => v.int?.map Decimal.ofInt

/-- The parts of a number that may have an imaginary one. -/
def toComplex? : Content → Option (Except Fault (Float × Float))
  | .complex re im => some (.ok (re, im))
  | v => v.toFloat?.map fun r => r.map (·, 0)

/-- Whether the content has an imaginary part. -/
def isComplex : Content → Bool
  | .complex .. => true
  | _ => false

/-- The two sides as numbers of one type, when both are numbers that go together. -/
def sides? (a b : Content) : Option (Except Fault Sides) :=
  match a.int?, b.int? with
  | some m, some n => some (.ok (.integers m n))
  | _, _ =>
    if a.isDecimal || b.isDecimal then
      match a.toDecimal?, b.toDecimal? with
      | some x, some y => some (.ok (.decimals x y))
      | _, _ => Option.none
    else if a.isComplex || b.isComplex then
      match a.toComplex?, b.toComplex? with
      | some x, some y => some (do
        let (p, q) ← x
        let (r, s) ← y
        return .complexes p q r s)
      | _, _ => Option.none
    else
      match a.toFloat?, b.toFloat? with
      | some x, some y => some (do return .floats (← x) (← y))
      | _, _ => Option.none

/-- A move of a date or a moment by a duration. -/
def moved? (a : Content) (d : Duration) : Option (Except Fault Content) :=
  match a with
  | .date e => some ((ofCalendar (e.plus d)).map .date)
  | .datetime e c =>
    some ((ofCalendar (moveBy e c d.micros)).map fun (e, c) => .datetime e c)
  | _ => Option.none

/-- The sum of numbers or durations, or a date moved by a duration. -/
def sum? (a b : Content) : Option (Except Fault Content) :=
  match sides? a b with
  | some s => some do
    match ← s with
    | .integers m n => return .int (m + n)
    | .floats x y => return .float (x + y)
    | .decimals x y => ofDecimalResult (x.add y)
    | .complexes p q r s => return .complex (p + r) (q + s)
  | Option.none =>
    match a, b with
    | .duration x, .duration y =>
      some ((ofCalendar (Duration.ofMicros (x.micros + y.micros))).map .duration)
    | a, .duration d => a.moved? d
    | .duration d, b => b.moved? d
    | _, _ => Option.none

/-- The difference of numbers, durations, dates or moments, or a date moved back by a duration. -/
def difference? (a b : Content) : Option (Except Fault Content) :=
  match sides? a b with
  | some s => some do
    match ← s with
    | .integers m n => return .int (m - n)
    | .floats x y => return .float (x - y)
    | .decimals x y => ofDecimalResult (x.subtract y)
    | .complexes p q r s => return .complex (p - r) (q - s)
  | Option.none =>
    match a, b with
    | .duration x, .duration y =>
      some ((ofCalendar (Duration.ofMicros (x.micros - y.micros))).map .duration)
    | .date x, .duration y => some ((ofCalendar (x.minus y)).map .date)
    | .datetime x c, .duration y =>
      some ((ofCalendar (moveBy x c (-y.micros))).map fun (e, c) => .datetime e c)
    | .date x, .date y => some (.ok (.duration (x.since y)))
    | .datetime x c, .datetime y d => some ((ofCalendar (distance x c y d)).map .duration)
    | _, _ => Option.none

/-- A duration multiplied by a number. -/
def multipleOf? (d : Duration) (a : Content) : Option (Except Fault Content) :=
  match a, a.int? with
  | _, some n => some ((ofCalendar (d.times n)).map .duration)
  | .float x, Option.none => some (do
    let (num, den) ← ofCalendar (Duration.ratio x)
    return .duration (← ofCalendar (d.scaled num den)))
  | _, Option.none => Option.none

/-- The product of numbers, or a multiple of a duration. -/
def product? (a b : Content) : Option (Except Fault Content) :=
  match sides? a b with
  | some s => some do
    match ← s with
    | .integers m n => return .int (m * n)
    | .floats x y => return .float (x * y)
    | .decimals x y => ofDecimalResult (x.multiply y)
    | .complexes p q r s => return .complex (p * r - q * s) (p * s + q * r)
  | Option.none =>
    match a, b with
    | .duration d, b => multipleOf? d b
    | a, .duration d => multipleOf? d a
    | _, _ => Option.none

/-- The quotient of numbers with imaginary parts: the greater part of the divisor is divided out
first. -/
def complexQuotient (a b c d : Float) : Except Fault Content :=
  if c.abs >= d.abs then
    if c.abs == 0 then .error (.zeroDivisor .complexQuotient)
    else
      let ratio := d / c
      let den := c + d * ratio
      .ok (.complex ((a + b * ratio) / den) ((b - a * ratio) / den))
  else if d.abs >= c.abs then
    let ratio := c / d
    let den := c * ratio + d
    .ok (.complex ((a * ratio + b) / den) ((b * ratio - a) / den))
  else .ok (.complex Binary.nan Binary.nan)

/-- A part of a duration. -/
def partOf? (d : Duration) (a : Content) : Option (Except Fault Content) :=
  match a, a.int? with
  | .duration e, _ => some (
    if e.micros = 0 then .error (.zeroDivisor .quotient)
    else .ok (.float (Binary.nearest ((d.micros < 0) != (e.micros < 0)) d.micros.natAbs
      e.micros.natAbs)))
  | _, some n => some (
    if n = 0 then .error (.zeroDivisor .floorQuotient)
    else (ofCalendar (d.dividedBy n)).map .duration)
  | .float x, Option.none => some (do
    let (num, den) ← ofCalendar (Duration.ratio x)
    if num = 0 then throw (.zeroDivisor .floorQuotient)
    return .duration (← ofCalendar (d.scaled den num)))
  | _, Option.none => Option.none

/-- The quotient: a float unless decimals are divided, or a part of a duration. -/
def quotient? (a b : Content) : Option (Except Fault Content) :=
  match sides? a b with
  | some s => some do
    match ← s with
    | .integers m n =>
      if n = 0 then .error (.zeroDivisor .quotient)
      else
        match Binary.nearest? ((m < 0) != (n < 0)) m.natAbs n.natAbs with
        | some x => return .float x
        | Option.none => .error (.excess .quotientAsFloat)
    | .floats x y =>
      if y == 0 then .error (.zeroDivisor .floatQuotient) else return .float (x / y)
    | .decimals x y => ofDecimalResult (x.divide y)
    | .complexes p q r s => complexQuotient p q r s
  | Option.none =>
    match a with
    | .duration d => partOf? d b
    | _ => Option.none

/-- The remainder of two floats that has the sign of the left side, from the exact values. -/
def floatRest (x y : Float) : Float :=
  match Binary.ofFloat x, Binary.ofFloat y with
  | .finite a m e, .finite _ n f =>
    let low := min e f
    let r := (m * 2 ^ (e - low).toNat) % (n * 2 ^ (f - low).toNat)
    if low ≥ 0 then Binary.nearest a (r * 2 ^ low.toNat) 1
    else Binary.nearest a r (2 ^ (-low).toNat)
  | .finite .., .infinite _ => x
  | _, _ => Binary.nan

/-- Zero with the sign of a float. -/
def zeroLike (x : Float) : Float :=
  match Binary.ofFloat x with
  | .finite negative _ _ | .infinite negative => Binary.nearest negative 0 1
  | .notANumber => x

/-- The remainder of two floats that has the sign of the divisor. -/
def floatRemainder (x y : Float) : Float :=
  let r := floatRest x y
  if r == 0 then zeroLike y else if (y < 0) != (r < 0) then r + y else r

/-- The greatest whole number not above the quotient of two floats: the left side without the
remainder, divided and rounded to a whole number. -/
def floatFloorQuotient (x y : Float) : Float :=
  let r := floatRest x y
  let q := (x - r) / y
  let q := if r != 0 && (y < 0) != (r < 0) then q - 1 else q
  if q == 0 then zeroLike (x / y)
  else
    let whole := q.floor
    if q - whole > 0.5 then whole + 1 else whole

/-- The greatest whole number not above the quotient; that of decimals is cut. -/
def floorQuotient? (a b : Content) : Option (Except Fault Content) :=
  match sides? a b with
  | some (.ok (.complexes ..)) => Option.none
  | some s => some do
    match ← s with
    | .integers m n =>
      if n = 0 then .error (.zeroDivisor .floorQuotient) else return .int (Int.fdiv m n)
    | .floats x y =>
      if y == 0 then .error (.zeroDivisor .floatFloorQuotient)
      else return .float (floatFloorQuotient x y)
    | .decimals x y => ofDecimalResult (x.floorDivide y)
    | .complexes .. => return .none
  | Option.none =>
    match a, b with
    | .duration x, .duration y => some (
      if y.micros = 0 then .error (.zeroDivisor .floorQuotient)
      else .ok (.int (Int.fdiv x.micros y.micros)))
    | .duration x, b => b.int?.map fun n =>
      if n = 0 then .error (.zeroDivisor .floorQuotient)
      else (ofCalendar (Duration.ofMicros (Int.fdiv x.micros n))).map .duration
    | _, _ => Option.none

/-- The remainder, with the sign of the divisor; that of decimals has the sign of the left side. -/
def rest? (a b : Content) : Option (Except Fault Content) :=
  match sides? a b with
  | some (.ok (.complexes ..)) => Option.none
  | some s => some do
    match ← s with
    | .integers m n =>
      if n = 0 then .error (.zeroDivisor .remainder) else return .int (Int.fmod m n)
    | .floats x y =>
      if y == 0 then .error (.zeroDivisor .floatRemainder)
      else return .float (floatRemainder x y)
    | .decimals x y => ofDecimalResult (x.remainder y)
    | .complexes .. => return .none
  | Option.none =>
    match a, b with
    | .duration x, .duration y => some (
      if y.micros = 0 then .error (.zeroDivisor .remainder)
      else .ok (.duration ⟨Int.fmod x.micros y.micros⟩))
    | _, _ => Option.none

/-- A power of floats; the power of a negative one to a fraction has an imaginary part. -/
def floatPower (x y : Float) : Except Fault Content :=
  if x == 0 && y < 0 && !y.isInf then .error (.zeroDivisor .power)
  else if x < 0 && !x.isInf && !y.isInf && !y.isNaN && y.floor != y then
    let length := Float.pow (-x) y
    let angle := Float.atan2 0 x * y
    .ok (.complex (length * angle.cos) (length * angle.sin))
  else
    let z := Float.pow x y
    if z.isInf && !x.isInf && !y.isInf then .error (.excess .power) else .ok (.float z)

/-- The power of numbers; of integers an integer unless the exponent is negative. -/
def power? (a b : Content) : Option (Except Fault Content) :=
  match sides? a b with
  | some (.ok (.complexes ..)) => Option.none
  | some s => some do
    match ← s with
    | .integers m n =>
      if 0 ≤ n then return .int (m ^ n.toNat)
      else
        match floatOfInt? m, floatOfInt? n with
        | some x, some y => floatPower x y
        | _, _ => .error (.excess .integerAsFloat)
    | .floats x y => floatPower x y
    | .decimals x y => ofDecimalResult (x.power y)
    | .complexes .. => return .none
  | Option.none => Option.none

/-- The number or duration with the other sign. -/
def negative? : Content → Option (Except Fault Content)
  | .float x => some (.ok (.float (-x)))
  | .complex re im => some (.ok (.complex (-re) (-im)))
  | .decimal d => some (ofDecimalResult d.negate)
  | .duration d => some ((ofCalendar (Duration.ofMicros (-d.micros))).map .duration)
  | v => v.int?.map fun n => .ok (.int (-n))

/-- The number or duration itself; a decimal is brought to the precision. -/
def positive? : Content → Option (Except Fault Content)
  | .float x => some (.ok (.float x))
  | .complex re im => some (.ok (.complex re im))
  | .decimal d => some (ofDecimalResult d.plus)
  | .duration d => some (.ok (.duration d))
  | v => v.int?.map fun n => .ok (.int n)

/-- The absolute value of a number or duration. -/
def magnitude? : Content → Option (Except Fault Content)
  | .float x => some (.ok (.float x.abs))
  | .complex re im => some (.ok (.float (Float.sqrt (re * re + im * im))))
  | .decimal d => some (ofDecimalResult d.magnitude)
  | .duration d => some ((ofCalendar (Duration.ofMicros d.micros.natAbs)).map .duration)
  | v => v.int?.map fun n => .ok (.int n.natAbs)

end Content

end Interpolation
