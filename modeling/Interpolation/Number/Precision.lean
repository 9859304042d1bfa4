import Interpolation.Number.Decimal

/-!
# Decimal arithmetic with a precision

The result of an operation on decimals has at most 28 digits; what is exact with more is rounded, a
tie to the even digit. Exponents are bounded too: beyond the upper bound there is no result, below
the lower one digits are lost. What has no result at all ends with a signal.

Main definitions:

* `DecimalSignal`: why an operation has no result.
* `Decimal.finish`: a result brought into the bounds.
* `Decimal.add`, `subtract`, `multiply`, `divide`, `floorDivide`, `remainder`, `power`: the
  operations.
* `Decimal.quantize`: a number with a given last place.
-/

namespace Interpolation.Number

/-- Why an operation on decimals has no result. -/
inductive DecimalSignal where
  | invalid
  /-- Zero divided by zero. -/
  | undefinedQuotient
  /-- A whole quotient with more digits than the precision. -/
  | impossibleQuotient
  | zeroDivisor
  | overflow
deriving DecidableEq, Repr

namespace DecimalSignal

/-- The kind under which a signal is reported. -/
def label : DecimalSignal → String
  | invalid | undefinedQuotient | impossibleQuotient => "InvalidOperation"
  | zeroDivisor => "DivisionByZero"
  | overflow => "Overflow"

/-- The name of the condition that is met. -/
def condition : DecimalSignal → String
  | invalid => "InvalidOperation"
  | undefinedQuotient => "DivisionUndefined"
  | impossibleQuotient => "DivisionImpossible"
  | zeroDivisor => "DivisionByZero"
  | overflow => "Overflow"

end DecimalSignal

/-- The result of an operation on decimals, or why there is none. -/
abbrev DecimalResult (α : Type) := Except DecimalSignal α

namespace Decimal

/-- The number of digits of a result. -/
def precision : Nat := 28

/-- The greatest exponent of a first digit. -/
def greatestExponent : Int := 999999

/-- The least exponent of a first digit of a number with all its digits. -/
def leastExponent : Int := -999999

/-- The least exponent of a last digit. -/
def leastPlace : Int := leastExponent - precision + 1

/-- A coefficient without its last digits, a tie to the even side. -/
def dropDigits (c : Nat) (count : Nat) : Nat := Binary.roundQuotient c (10 ^ count)

/-- A coefficient without all its digits but the first ones; rounding up may need one more digit,
which then is dropped too. -/
def roundTo (digits : Nat) (c : Nat) (e : Int) : Nat × Int :=
  let count := digitCount c
  if count ≤ digits then (c, e)
  else
    let excess := count - digits
    let r := dropDigits c excess
    if digitCount r > digits then (r / 10, e + excess + 1) else (r, e + excess)

/-- A result brought into the bounds of precision and exponent. -/
def finish (negative : Bool) (c : Nat) (e : Int) : DecimalResult Decimal :=
  if c = 0 then .ok (.finite negative 0 (max leastPlace (min greatestExponent e)))
  else if leading c e < leastPlace - 1 then .ok (.finite negative 0 leastPlace)
  else
    let (c, e) :=
      if leading c e < leastExponent ∧ e < leastPlace then
        (dropDigits c (leastPlace - e).toNat, leastPlace)
      else roundTo precision c e
    let (c, e) := roundTo precision c e
    if c ≠ 0 ∧ leading c e > greatestExponent then .error .overflow
    else .ok (.finite negative c e)

/-- The result of an operation on something that is no number. -/
def passOn : Decimal → DecimalResult Decimal
  | .notANumber negative false payload =>
    .ok (.notANumber negative false (payload % 10 ^ precision))
  | _ => .error .invalid

/-- What is no number among two operands, signals first. -/
def notNumber? (a b : Decimal) : Option Decimal :=
  if a.isSignal then some a
  else if b.isSignal then some b
  else if a.isNotANumber then some a
  else if b.isNotANumber then some b
  else none

/-- A finite number within the bounds; an infinity stays. -/
def plus (d : Decimal) : DecimalResult Decimal :=
  match d with
  | .notANumber .. => passOn d
  | .infinite _ => .ok d
  | .finite negative c e => finish (negative && c != 0) c e

/-- The number with the other sign; zero has none. -/
def negate (d : Decimal) : DecimalResult Decimal :=
  match d with
  | .notANumber .. => passOn d
  | .infinite negative => .ok (.infinite (!negative))
  | .finite negative c e => finish (!negative && c != 0) c e

/-- The number without its sign. -/
def magnitude (d : Decimal) : DecimalResult Decimal :=
  match d with
  | .notANumber .. => passOn d
  | .infinite _ => .ok (.infinite false)
  | .finite _ c e => finish false c e

/-- The sum of two numbers with signs. A number that is far below the last digit of the result
counts only as not being nothing. -/
def addFinite (a : Bool) (m : Nat) (e : Int) (b : Bool) (n : Nat) (f : Int) :
    DecimalResult Decimal :=
  let shrunk (c : Nat) (k : Int) (big : Nat) (place : Int) : Nat × Int :=
    let far := min (place - 1) (leading big place - precision - 1)
    if c ≠ 0 ∧ big ≠ 0 ∧ leading c k < far - 1 then (1, far - 1)
    else if c = 0 ∧ big ≠ 0 then (0, max k (far - 1))
    else (c, k)
  let (m', e') := shrunk m e n f
  let (n', f') := shrunk n f m e
  let low := min e' f'
  let x : Int := (if a then -(m' : Int) else m') * 10 ^ (e' - low).toNat
  let y : Int := (if b then -(n' : Int) else n') * 10 ^ (f' - low).toNat
  let sum := x + y
  finish (if sum = 0 then a && b else sum < 0) sum.natAbs low

/-- The sum. -/
def add (a b : Decimal) : DecimalResult Decimal :=
  match notNumber? a b with
  | some d => passOn d
  | none =>
    match a, b with
    | .infinite x, .infinite y => if x = y then .ok a else .error .invalid
    | .infinite _, _ => .ok a
    | _, .infinite _ => .ok b
    | .finite x m e, .finite y n f => addFinite x m e y n f
    | a, _ => passOn a

/-- The number with the other sign, as it is. -/
def opposite : Decimal → Decimal
  | .finite negative c e => .finite (!negative) c e
  | .infinite negative => .infinite (!negative)
  | d => d

/-- The difference. -/
def subtract (a b : Decimal) : DecimalResult Decimal := add a b.opposite

/-- The product. -/
def multiply (a b : Decimal) : DecimalResult Decimal :=
  match notNumber? a b with
  | some d => passOn d
  | none =>
    match a, b with
    | .finite x m e, .finite y n f => finish (x != y) (m * n) (e + f)
    | .infinite x, .infinite y => .ok (.infinite (x != y))
    | .infinite x, .finite y c _ | .finite y c _, .infinite x =>
      if c = 0 then .error .invalid else .ok (.infinite (x != y))
    | a, _ => passOn a

/-- Moves zeros at the end of a coefficient into the exponent as long as it stays below a bound. -/
def dropZerosTo (bound : Int) : (fuel : Nat) → Nat → Int → Nat × Int
  | 0, c, e => (c, e)
  | fuel + 1, c, e =>
    if e < bound ∧ c % 10 = 0 then dropZerosTo bound fuel (c / 10) (e + 1) else (c, e)

/-- The quotient of two numbers that are not zero, with one digit more than the given number of
digits, the last of them not a tie unless the quotient is exact. -/
def quotientDigits (digits m : Nat) (e : Int) (n : Nat) (f : Int) : Nat × Int :=
  let shift : Int := (digitCount n : Int) - digitCount m + digits + 1
  let num := m * 10 ^ shift.toNat
  let den := n * 10 ^ (-shift).toNat
  let q := num / den
  if num % den ≠ 0 then (if q % 5 = 0 then q + 1 else q, e - f - shift)
  else dropZerosTo (e - f) (digits + 2) q (e - f - shift)

/-- The quotient of two numbers that are not zero. -/
def divideFinite (negative : Bool) (m : Nat) (e : Int) (n : Nat) (f : Int) :
    DecimalResult Decimal :=
  let (q, k) := quotientDigits precision m e n f
  finish negative q k

/-- The quotient. -/
def divide (a b : Decimal) : DecimalResult Decimal :=
  match notNumber? a b with
  | some d => passOn d
  | none =>
    match a, b with
    | .infinite _, .infinite _ => .error .invalid
    | .infinite x, .finite y _ _ => .ok (.infinite (x != y))
    | .finite x _ _, .infinite y => .ok (.finite (x != y) 0 leastPlace)
    | .finite x m e, .finite y n f =>
      if n = 0 then .error (if m = 0 then .undefinedQuotient else .zeroDivisor)
      else if m = 0 then finish (x != y) 0 (e - f)
      else divideFinite (x != y) m e n f
    | a, _ => passOn a

/-- The whole quotient of two numbers and what is left, both without signs; the quotient must not
have more digits than the precision. -/
def divideWhole (m : Nat) (e : Int) (n : Nat) (f : Int) : DecimalResult (Nat × Nat × Int) :=
  let low := min e f
  if m = 0 then .ok (0, 0, low)
  else
    let apart := leading m e - leading n f
    if apart ≤ -2 then .ok (0, m * 10 ^ (e - low).toNat, low)
    else if apart > precision then .error .impossibleQuotient
    else
      let x := m * 10 ^ (e - low).toNat
      let y := n * 10 ^ (f - low).toNat
      if x / y < 10 ^ precision then .ok (x / y, x % y, low) else .error .impossibleQuotient

/-- The whole part of the quotient. -/
def floorDivide (a b : Decimal) : DecimalResult Decimal :=
  match notNumber? a b with
  | some d => passOn d
  | none =>
    match a, b with
    | .infinite _, .infinite _ => .error .invalid
    | .infinite x, .finite y _ _ => .ok (.infinite (x != y))
    | .finite x _ _, .infinite y => .ok (.finite (x != y) 0 0)
    | .finite x m e, .finite y n f =>
      if n = 0 then .error (if m = 0 then .undefinedQuotient else .zeroDivisor)
      else do
        let (q, _) ← divideWhole m e n f
        return .finite (x != y) q 0
    | a, _ => passOn a

/-- What is left of the first number when the second is taken away as often as possible; it has the
sign of the first. -/
def remainder (a b : Decimal) : DecimalResult Decimal :=
  match notNumber? a b with
  | some d => passOn d
  | none =>
    match a, b with
    | .infinite _, _ => .error .invalid
    | .finite x m e, .infinite _ => finish x m e
    | .finite x m e, .finite _ n f =>
      if n = 0 then .error (if m = 0 then .undefinedQuotient else .invalid)
      else do
        let (_, r, k) ← divideWhole m e n f
        finish x r k
    | a, _ => passOn a

/-! ## Powers -/

/-- The integer of a whole number. -/
def whole? : Decimal → Option Int
  | .finite negative c e =>
    if 0 ≤ e then
      let n := c * 10 ^ (min e 100).toNat
      some (if negative then -(n : Int) else n)
    else
      let unit := 10 ^ (min (-e) (digitCount c + 1)).toNat
      if c % unit = 0 then some (if negative then -(c / unit : Nat) else (c / unit : Nat)) else none
  | _ => none

/-- The sum of a series whose terms fall, in units of the last working place. -/
def sumSeries (next : Nat → Int → Int) : (fuel n : Nat) → (term total : Int) → Int
  | 0, _, _, total => total
  | fuel + 1, n, term, total =>
    if term = 0 then total
    else sumSeries next fuel (n + 1) (next n term) (total + term)

/-- The sum of the odd powers of a fraction divided by their exponents; `power` is the next power,
`square` the step between two of them, and `one` the unit of the last working place. -/
def sumOddPowers (one square : Int) : (fuel n : Nat) → (power total : Int) → Int
  | 0, _, _, total => total
  | fuel + 1, n, power, total =>
    if power = 0 then total
    else sumOddPowers one square fuel (n + 1) (power * square / one) (total + power / (2 * n + 1))

section Places

variable (places : Nat)

/-- The natural logarithm of a fraction near one, in units of the last working place. -/
def logOfRatio (num den : Int) : Int :=
  let one : Int := 10 ^ places
  let z := (num - den) * one / (num + den)
  2 * sumOddPowers one (z * z / one) (5 * places) 0 z 0

/-- The natural logarithm of ten, in units of the last working place. -/
def logOfTen : Int := 3 * logOfRatio places 2 1 + logOfRatio places 5 4

/-- The natural logarithm of a positive number, in units of the last working place. The first digit
is brought near to one by halves. -/
def logarithm (c : Nat) (e : Int) : Int :=
  let first := leading c e
  let halve (x : Nat × Int × Int) : Nat × Int × Int :=
    if x.2.1 * 3 > x.2.2 * 4 then (x.1 + 1, x.2.1, x.2.2 * 2) else x
  let (halves, num, den) :=
    halve (halve (halve (halve (0, ((c : Int), ((10 ^ (digitCount c - 1) : Nat) : Int))))))
  first * logOfTen places + halves * logOfRatio places 2 1 + logOfRatio places num den

/-- The exponential of a number in units of the last working place, as a coefficient with an
exponent. -/
def exponential (x : Int) : Nat × Int :=
  let one : Int := 10 ^ places
  let k := Int.fdiv x (logOfTen places)
  let r := x - k * logOfTen places
  let total :=
    sumSeries (fun n term => term * (r / 64) / one / ((n : Int) + 1)) (5 * places) 0 one 0
  let square (y : Int) : Int := y * y / one
  let y := square (square (square (square (square (square total)))))
  (y.toNat, k - places)

end Places

/-- A positive number to the power of a number: the exponential of the product with the logarithm,
each of the three steps rounded to more digits than the precision. -/
def powerBroken (c : Nat) (e : Int) (y : Decimal) : DecimalResult Decimal :=
  match y with
  | .finite negative n f =>
    if leading n f > 30 then
      if (compareMagnitudes c e 1 0 == .gt) == !negative then .error .overflow
      else .ok (.finite false 0 leastPlace)
    else
      let digits := max (digitCount c) precision + 23
      let places := 2 * digits + 40
      let log := logarithm places c e
      let (l, low) := roundTo digits log.natAbs (-places)
      let (p, low) := roundTo digits (l * n) (low + f)
      let shift := low + places
      let product : Int := if 0 ≤ shift then p * 10 ^ shift.toNat
        else p / 10 ^ (min (-shift) (places + digits)).toNat
      let (r, k) := exponential places (if negative != (log < 0) then -product else product)
      let (r, k) := roundTo digits r k
      if leading r k > greatestExponent then .error .overflow else finish false r k
  | d => passOn d

/-- The bits of a number below its first one, the highest first. -/
def lowerBits (k : Nat) : List Bool := (List.range k.log2).reverse.map k.testBit

/-- A number to the power of an integer, by squares: each step is rounded to the precision and as
many further digits as the integer has, and two more. -/
def powerWhole (negative : Bool) (c : Nat) (e : Int) (n : Int) : DecimalResult Decimal :=
  let k := n.natAbs
  let digits := precision + digitCount k + 2 + (if n < 0 then 1 else 0)
  let (c, e) :=
    if n < 0 then
      let (q, f) := quotientDigits digits 1 0 c e
      roundTo digits q f
    else (c, e)
  let step (x : Nat × Int) (bit : Bool) : Nat × Int :=
    let (r, f) := roundTo digits (x.1 * x.1) (2 * x.2)
    if bit then roundTo digits (r * c) (f + e) else (r, f)
  let (r, f) := (lowerBits k).foldl step (c, e)
  finish (negative && k % 2 == 1) r f

/-- One with zeros behind the point. -/
def oneWithPlaces (negative : Bool) (places : Nat) : Decimal :=
  let places := min places (precision - 1)
  .finite negative (10 ^ places) (-places)

/-- The power. A negative number has powers only for whole exponents. -/
def power (a b : Decimal) : DecimalResult Decimal :=
  match notNumber? a b with
  | some d => passOn d
  | none =>
    match b with
    | .finite negative n _ =>
      if n = 0 then (if a.isZero then .error .invalid else .ok (.finite false 1 0))
      else
        match a, b.whole? with
        | .infinite x, whole =>
          if x && whole.isNone then .error .invalid
          else
            let sign := x && (whole.getD 0) % 2 == 1
            .ok (if negative then .finite sign 0 0 else .infinite sign)
        | .finite x c e, some k =>
          let sign := x && k % 2 == 1
          if c = 0 then .ok (if negative then .infinite sign else .finite sign 0 0)
          else if compareMagnitudes c e 1 0 == .eq then
            .ok (oneWithPlaces sign (if negative then 0 else ((-e) * k).toNat))
          else powerWhole x c e k
        | .finite x c e, none =>
          if c = 0 then .ok (if negative then .infinite false else .finite false 0 0)
          else if x then .error .invalid
          else if compareMagnitudes c e 1 0 == .eq then .ok (oneWithPlaces false precision)
          else powerBroken c e b
        | a, _ => passOn a
    | .infinite negative =>
      match a with
      | .finite x c e =>
        if x && c ≠ 0 then .error .invalid
        else
          match c == 0, compareMagnitudes c e 1 0 with
          | false, .eq => .ok (oneWithPlaces false precision)
          | false, .gt => .ok (if negative then .finite false 0 0 else .infinite false)
          | _, _ => .ok (if negative then .infinite false else .finite false 0 0)
      | .infinite x =>
        if x then .error .invalid
        else .ok (if negative then .finite false 0 0 else .infinite false)
      | d => passOn d
    | d => passOn d

/-! ## Places -/

/-- The number with its last digit at a place; it must fit into the precision. -/
def quantize (d : Decimal) (place : Int) : DecimalResult Decimal :=
  match d with
  | .notANumber .. => passOn d
  | .infinite _ => .error .invalid
  | .finite negative c e =>
    if place < leastPlace ∨ place > greatestExponent then .error .invalid
    else if c = 0 then .ok (.finite negative 0 place)
    else if leading c e > greatestExponent ∨ leading c e - place + 1 > precision then
      .error .invalid
    else
      let r := if place ≤ e then c * 10 ^ (e - place).toNat
        else if leading c e < place - 1 then 0
        else dropDigits c (place - e).toNat
      if digitCount r > precision then .error .invalid else .ok (.finite negative r place)

/-- The integer nearest to a finite number by a way of rounding quotients. -/
def toWhole? (round : Int → Nat → Int) : Decimal → Option Int
  | .finite negative c e =>
    let n : Int := if negative then -(c : Int) else c
    some (if 0 ≤ e then n * 10 ^ e.toNat
      else round n (10 ^ (min (-e) (digitCount c + 2)).toNat))
  | _ => none

/-- The greatest integer not above a number. -/
def floor? (d : Decimal) : Option Int := d.toWhole? fun n unit => Int.fdiv n unit

/-- The least integer not below a number. -/
def ceiling? (d : Decimal) : Option Int := d.toWhole? fun n unit => -(Int.fdiv (-n) unit)

/-- The integer without the fraction. -/
def truncate? (d : Decimal) : Option Int := d.toWhole? fun n unit => Int.tdiv n unit

/-- The nearest integer, a tie to the even one. -/
def round? (d : Decimal) : Option Int :=
  d.toWhole? fun n unit =>
    let r := Binary.roundQuotient n.natAbs unit
    if n < 0 then -(r : Int) else r

end Decimal

end Interpolation.Number
