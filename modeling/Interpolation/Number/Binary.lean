/-!
# Binary fractions and their exact values

A finite float is an integer times a power of two. This module takes floats apart into these
integers and rounds quotients of integers back to the nearest float, a tie to the even one, so that
all other number operations can be done exactly on integers.

Main definitions:

* `Binary`: a float taken apart.
* `Binary.ofFloat`, `Binary.nearest`: the two directions.
-/

namespace Interpolation.Number

/- A power of numbers is the one of the core library also where algebra is imported. -/
attribute [instance (2000), default_instance (20000)] instPowNat

/-- A float taken apart: `mantissa * 2 ^ exponent` with a sign, an infinity, or no number. -/
inductive Binary where
  | finite (negative : Bool) (mantissa : Nat) (exponent : Int)
  | infinite (negative : Bool)
  | notANumber
deriving DecidableEq, Repr

namespace Binary

/-- The parts of a float. A normal float has a mantissa of 53 bits; the exponent is at least
`-1074`. -/
def ofFloat (x : Float) : Binary :=
  let bits : Nat := x.toBits.toNat
  let negative := bits / 2 ^ 63 == 1
  let exponent : Nat := bits / 2 ^ 52 % 2048
  let fraction : Nat := bits % 2 ^ 52
  if exponent == 2047 then
    if fraction == 0 then .infinite negative else .notANumber
  else if exponent == 0 then .finite negative fraction (-1074)
  else .finite negative (2 ^ 52 + fraction) (exponent - 1075)

/-- A quotient rounded to an integer, a tie to the even one. -/
def roundQuotient (num den : Nat) : Nat :=
  let q := num / den
  let r := num % den
  if 2 * r < den || (2 * r == den && q % 2 == 0) then q else q + 1

/-- The power of two by which a positive quotient is divided so that 53 bits remain, no lower than
the one of the least float. -/
def scaleOf (num den : Nat) : Int :=
  let guess : Int := (num.log2 : Int) - den.log2 - 52
  let scaled := if guess ≤ 0 then num * 2 ^ (-guess).toNat / den else num / (den * 2 ^ guess.toNat)
  max (if scaled < 2 ^ 52 then guess - 1 else guess) (-1074)

/-- The bits of the positive float nearest to a quotient, or nothing when it is beyond the greatest
float. -/
def nearestBits? (num den : Nat) : Option Nat :=
  if num = 0 then some 0
  else
    let e := scaleOf num den
    let m := if e ≤ 0 then roundQuotient (num * 2 ^ (-e).toNat) den
      else roundQuotient num (den * 2 ^ e.toNat)
    let bits := if e = -1074 then m else (e + 1074).toNat * 2 ^ 52 + m
    if bits < 2047 * 2 ^ 52 then some bits else none

/-- The float nearest to a quotient with a sign, or nothing when it is beyond the greatest float. -/
def nearest? (negative : Bool) (num den : Nat) : Option Float :=
  (nearestBits? num den).map fun bits =>
    Float.ofBits (UInt64.ofNat (if negative then 2 ^ 63 + bits else bits))

/-- The infinity with the given sign. -/
def infinity (negative : Bool) : Float :=
  Float.ofBits (UInt64.ofNat (if negative then 2 ^ 63 + 2047 * 2 ^ 52 else 2047 * 2 ^ 52))

/-- The float that is no number. -/
def nan : Float := Float.ofBits (UInt64.ofNat (4095 * 2 ^ 51))

/-- The float nearest to a quotient with a sign; an infinity beyond the greatest float. -/
def nearest (negative : Bool) (num den : Nat) : Float :=
  (nearest? negative num den).getD (infinity negative)

/-- The float nearest to `c * 10 ^ k` with a sign. -/
def ofDecimal (negative : Bool) (c : Nat) (k : Int) : Float :=
  if c = 0 then nearest negative 0 1
  else if k < -1200 - (c.log2 : Int) then nearest negative 0 1
  else if k > 400 then infinity negative
  else if k ≤ 0 then nearest negative c (10 ^ (-k).toNat)
  else nearest negative (c * 10 ^ k.toNat) 1

/-- The integer nearest to zero, or nothing for an infinity and for no number. -/
def truncate? : Binary → Option Int
  | .finite negative m e =>
    let n := if e ≤ 0 then m / 2 ^ (-e).toNat else m * 2 ^ e.toNat
    some (if negative then -(n : Int) else n)
  | _ => none

/-- The greatest integer not above the value. -/
def floor? : Binary → Option Int
  | .finite negative m e =>
    if e ≤ 0 then some (Int.fdiv (if negative then -(m : Int) else m) (2 ^ (-e).toNat))
    else some ((if negative then -(m : Int) else m) * 2 ^ e.toNat)
  | _ => none

/-- The least integer not below the value. -/
def ceiling? : Binary → Option Int
  | .finite negative m e => (floor? (.finite (!negative) m e)).map (- ·)
  | _ => none

/-- Whether the value is an integer. -/
def isInteger : Binary → Bool
  | .finite _ m e => e ≥ 0 || m % 2 ^ (-e).toNat == 0
  | _ => false

/-- The order of the exact values; `none` when one side is no number. -/
def compare? : Binary → Binary → Option Ordering
  | .notANumber, _ | _, .notANumber => none
  | .infinite a, .infinite b => some (if a == b then .eq else if a then .lt else .gt)
  | .infinite a, .finite .. => some (if a then .lt else .gt)
  | .finite .., .infinite b => some (if b then .gt else .lt)
  | .finite a m e, .finite b n f =>
    let low := min e f
    let x : Int := (if a then -(m : Int) else m) * 2 ^ (e - low).toNat
    let y : Int := (if b then -(n : Int) else n) * 2 ^ (f - low).toNat
    some (compare x y)

/-- The parts of an integer. -/
def ofInt (n : Int) : Binary := .finite (n < 0) n.natAbs 0

end Binary

/-- The float nearest to an integer, or nothing when it is beyond the greatest float. -/
def floatOfInt? (n : Int) : Option Float := Binary.nearest? (n < 0) n.natAbs 1

end Interpolation.Number
