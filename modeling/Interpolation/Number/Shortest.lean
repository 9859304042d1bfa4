import Interpolation.Number.Binary

/-!
# The shortest decimal that reads back

Among the decimals that a reader rounds to a given float, the text of the float is one with the
fewest digits, and of those the nearest. For one digit, two digits and so on, the two neighbours of
the value on that decimal grid are tried in exact arithmetic; the first grid on which a neighbour
falls into the interval that rounds to the float gives the digits.

Main definitions:

* `Interval`: the value and the bounds of what rounds to it, over a common denominator.
* `shortest`: a coefficient `c` and an exponent `k` for the decimal `c * 10 ^ k`.
-/

namespace Interpolation.Number

/-- A positive float and the reals that round to it, as numerators over `den`. -/
structure Interval where
  /-- The lower bound. -/
  low : Nat
  /-- The value. -/
  value : Nat
  /-- The upper bound. -/
  high : Nat
  /-- The common denominator. -/
  den : Nat
  /-- Whether the bounds themselves round to the float. -/
  closed : Bool

/-- The interval of `m * 2 ^ e`. Below a power of two the floats lie twice as close. -/
def Interval.of (m : Nat) (e : Int) : Interval :=
  let narrow := m == 2 ^ 52 && e > -1074
  let low := if narrow then 4 * m - 1 else 4 * m - 2
  let scale := 2 ^ (e - 2).toNat
  { low := low * scale, value := 4 * m * scale, high := (4 * m + 2) * scale,
    den := 2 ^ (2 - e).toNat, closed := m % 2 == 0 }

/-- Whether the quotient `num / den` rounds to the float of the interval. -/
def Interval.holds (i : Interval) (num den : Nat) : Bool :=
  let x := num * i.den
  if i.closed then i.low * den ≤ x && x ≤ i.high * den
  else i.low * den < x && x < i.high * den

/-- The distance of `num / den` to the value, over the denominator `den * i.den`. -/
def Interval.distance (i : Interval) (num den : Nat) : Nat :=
  let x := num * i.den
  let y := i.value * den
  if x ≤ y then y - x else x - y

/-- The point of the grid of multiples of `10 ^ k` that is the best decimal for the interval, if
one of the two neighbours of the value is in it. -/
def Interval.onGrid? (i : Interval) (k : Int) : Option Nat :=
  let up := 10 ^ k.toNat
  let down := 10 ^ (-k).toNat
  let below := i.value * down / (i.den * up)
  let inBelow := i.holds (below * up) down
  let inAbove := i.holds ((below + 1) * up) down
  if inBelow && inAbove then
    let toBelow := i.distance (below * up) down
    let toAbove := i.distance ((below + 1) * up) down
    some (if toBelow < toAbove || (toBelow == toAbove && below % 2 == 0) then below else below + 1)
  else if inBelow then some below
  else if inAbove then some (below + 1)
  else none

/-- The number of decimal digits of a positive integer. -/
def digitCount (n : Nat) : Nat := (Nat.toDigits 10 n).length

/-- An exponent `k` for which the value is below `10 ^ k` and not below `10 ^ (k - 1)`. -/
def Interval.magnitude (i : Interval) : Int :=
  let whole := i.value / i.den
  if whole > 0 then digitCount whole
  else
    let inverse := i.den / i.value
    let k : Int := -(digitCount inverse : Int) + 1
    if i.value * 10 ^ (1 - k).toNat < i.den then k - 1
    else if i.value * 10 ^ (-k).toNat < i.den then k
    else k + 1

/-- Tries the grids that leave `digits` digits, one digit more each time. -/
def Interval.search (i : Interval) (magnitude : Int) : (digits more : Nat) → Nat × Int
  | digits, 0 => (i.value * 10 ^ (digits - magnitude).toNat / i.den, magnitude - digits)
  | digits, more + 1 =>
    match i.onGrid? (magnitude - digits) with
    | some c => if c = 0 then i.search magnitude (digits + 1) more else (c, magnitude - digits)
    | none => i.search magnitude (digits + 1) more

/-- Moves the zeros at the end of a coefficient into the exponent. -/
def dropZeros (c : Nat) (k : Int) : Nat × Int :=
  if h : c ≠ 0 ∧ c % 10 = 0 then dropZeros (c / 10) (k + 1) else (c, k)
termination_by c
decreasing_by omega

/-- The shortest decimal `c * 10 ^ k` that rounds to `m * 2 ^ e`, for a mantissa above zero. -/
def shortest (m : Nat) (e : Int) : Nat × Int :=
  let i := Interval.of m e
  let (c, k) := i.search i.magnitude 1 17
  dropZeros c k

end Interpolation.Number
