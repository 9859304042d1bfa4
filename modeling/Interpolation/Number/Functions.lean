import Interpolation.Number.Precision

/-!
# Functions of decimals

What decimals can be asked for besides the operations: comparisons that order everything, the
neighbours of a number, roundings in any direction, roots and logarithms, and operations on the
digits. Unless it is said otherwise, results have as many digits as the precision allows.

Main definitions:

* `Rounding`: the directions of rounding.
* `Decimal.total`: the order in which all decimals have a place.
* `Decimal.finalize`: a number brought into the bounds.
* `Decimal.sqrt`, `exp`, `ln`, `log10`: functions that are rounded once.
-/

namespace Interpolation.Number

/-- How a quotient is rounded. -/
inductive Rounding where
  | ceiling
  | floor
  | up
  | down
  | halfUp
  | halfDown
  | halfEven
  /-- Away from zero if the last digit would be zero or five. -/
  | zeroFiveUp
deriving DecidableEq, Repr

namespace Rounding

/-- The directions by their names. -/
def names : List (String × Rounding) :=
  [("ROUND_CEILING", ceiling), ("ROUND_FLOOR", floor), ("ROUND_UP", up), ("ROUND_DOWN", down),
   ("ROUND_HALF_UP", halfUp), ("ROUND_HALF_DOWN", halfDown), ("ROUND_HALF_EVEN", halfEven),
   ("ROUND_05UP", zeroFiveUp)]

/-- Whether the absolute value of a quotient is rounded up; `q` is its whole part, and `rest` of
`den` is left. -/
def isUp (r : Rounding) (negative : Bool) (q rest den : Nat) : Bool :=
  rest != 0 && match r with
    | ceiling => !negative
    | floor => negative
    | up => true
    | down => false
    | halfUp => den ≤ 2 * rest
    | halfDown => den < 2 * rest
    | halfEven => den < 2 * rest || (den == 2 * rest && q % 2 == 1)
    | zeroFiveUp => q % 10 == 0 || q % 10 == 5

/-- The absolute value of a quotient, rounded. -/
def quotient (r : Rounding) (negative : Bool) (num den : Nat) : Nat :=
  num / den + (if r.isUp negative (num / den) (num % den) den then 1 else 0)

end Rounding

namespace Decimal

/-! ## Signs -/

/-- Whether the number has a minus sign. -/
def isNegative : Decimal → Bool
  | .finite negative .. | .infinite negative | .notANumber negative .. => negative

/-- The number with a sign. -/
def withSign (negative : Bool) : Decimal → Decimal
  | .finite _ c e => .finite negative c e
  | .infinite _ => .infinite negative
  | .notANumber _ signal payload => .notANumber negative signal payload

/-- The number brought into the bounds of precision and exponent. -/
def finalize (d : Decimal) : DecimalResult Decimal :=
  match d with
  | .finite negative c e => finish negative c e
  | .infinite _ => .ok d
  | .notANumber .. => passOn d

/-- The exponent of the first digit. -/
def adjusted : Decimal → Int
  | .finite _ c e => leading c e
  | _ => 0

/-- Whether the value is a finite number other than zero. -/
def isProper : Decimal → Bool
  | .finite _ c _ => c != 0
  | _ => false

/-- Whether a finite number has all its digits. -/
def isNormal (d : Decimal) : Bool := d.isProper && leastExponent ≤ d.adjusted

/-- Whether a finite number has fewer digits because it is so small. -/
def isSubnormal (d : Decimal) : Bool := d.isProper && d.adjusted < leastExponent

/-- The name of the class of the number. -/
def className (d : Decimal) : String :=
  match d with
  | .notANumber _ signal _ => if signal then "sNaN" else "NaN"
  | .infinite negative => (if negative then "-" else "+") ++ "Infinity"
  | .finite negative c _ =>
    (if negative then "-" else "+")
      ++ (if c = 0 then "Zero" else if d.isNormal then "Normal" else "Subnormal")

/-- A finite number as a fraction in lowest terms. -/
def ratio? : Decimal → Option (Int × Int)
  | .finite negative c e =>
    let num := c * 10 ^ e.toNat
    let den := 10 ^ (-e).toNat
    let g := Nat.gcd num den
    some (if negative then -(num / g : Nat) else (num / g : Nat), (den / g : Nat))
  | _ => none

/-- Whether two numbers have their last digits at the same place. -/
def sameQuantum : Decimal → Decimal → Bool
  | .finite _ _ e, .finite _ _ f => e == f
  | .infinite _, .infinite _ => true
  | .notANumber .., .notANumber .. => true
  | _, _ => false

/-! ## Orders -/

/-- An order as a number. -/
def ofOrdering : Ordering → Decimal
  | .lt => .finite true 1 0
  | .eq => .finite false 0 0
  | .gt => .finite false 1 0

/-- The order of two numbers as a number; signals are refused, and all that is no number if
`strictly`. -/
def compareAs (strictly : Bool) (a b : Decimal) : DecimalResult Decimal :=
  match notNumber? a b, compare? a b with
  | some d, _ => if strictly then .error .invalid else passOn d
  | none, some o => .ok (ofOrdering o)
  | none, none => .error .invalid

/-- Where the kind of a value stands among the kinds. -/
def kindRank : Decimal → Nat
  | .notANumber _ true _ => 1
  | .notANumber _ false _ => 2
  | _ => 0

/-- The exponent of a finite number. -/
def exponent : Decimal → Int
  | .finite _ _ e => e
  | _ => 0

/-- The order of two values without their signs in which all values have a place. -/
def totalMagnitude (a b : Decimal) : Ordering :=
  match a, b with
  | .notANumber _ _ p, .notANumber _ _ q =>
    if a.kindRank = b.kindRank then compare p q else compare a.kindRank b.kindRank
  | _, _ =>
    if a.kindRank ≠ 0 ∨ b.kindRank ≠ 0 then compare a.kindRank b.kindRank
    else
      match compare? (a.withSign false) (b.withSign false) with
      | some .eq => compare a.exponent b.exponent
      | some o => o
      | none => .eq

/-- The order in which all values have a place. -/
def total (a b : Decimal) : Ordering :=
  match a.isNegative, b.isNegative with
  | true, false => .lt
  | false, true => .gt
  | false, false => totalMagnitude a b
  | true, true => totalMagnitude b a

/-- The greater or the lesser of two numbers, by their absolute values first if `byMagnitude`; what
is no number counts only if there is nothing else. -/
def select (greater byMagnitude : Bool) (a b : Decimal) : DecimalResult Decimal :=
  if a.isSignal || b.isSignal then .error .invalid
  else
    match a.isNotANumber, b.isNotANumber with
    | true, true => passOn a
    | true, false => b.finalize
    | false, true => a.finalize
    | false, false =>
      let plain := if byMagnitude then compare? (a.withSign false) (b.withSign false) else compare? a b
      let order := match plain with
        | some .eq | none => total a b
        | some o => o
      (if (order == .lt) == greater then b else a).finalize

/-! ## Neighbours -/

/-- The number next to another one, above it or below it. -/
def next (up : Bool) (d : Decimal) : DecimalResult Decimal :=
  match d with
  | .notANumber .. => passOn d
  | .infinite negative =>
    if negative == up then .ok (.finite negative (10 ^ precision - 1) (greatestExponent - precision + 1))
    else .ok d
  | .finite negative c e =>
    if c = 0 then .ok (.finite (!up) 1 leastPlace)
    else
      let grows := negative != up
      let place := max leastPlace (leading c e - precision + 1)
      let unit := 10 ^ (place - e).toNat
      let q := if place ≤ e then c * 10 ^ (e - place).toNat else c / unit
      let isExact := place ≤ e || c % unit == 0
      let r := if grows then q + 1 else if isExact then q - 1 else q
      -- below a power of ten there is room for one more digit
      if !grows && isExact && digitCount r < precision && leastPlace < place then
        .ok (.finite negative (10 ^ precision - 1) (place - 1))
      else if digitCount r > precision then
        if leading r place > greatestExponent then .ok (.infinite negative)
        else .ok (.finite negative (r / 10) (place + 1))
      else .ok (.finite negative r place)

/-- The number next to another one in the direction of a third. -/
def nextToward (a b : Decimal) : DecimalResult Decimal :=
  match notNumber? a b with
  | some d => passOn d
  | none =>
    match compare? a b with
    | some .eq => .ok (a.withSign b.isNegative)
    | some o => next (o == .lt) a
    | none => .error .invalid

/-! ## Places -/

/-- The last digit at a place, rounded in a direction; the number must fit into the precision. -/
def quantizeBy (r : Rounding) (d : Decimal) (place : Int) : DecimalResult Decimal :=
  match d with
  | .notANumber .. => passOn d
  | .infinite _ => .error .invalid
  | .finite negative c e =>
    if place < leastPlace ∨ place > greatestExponent then .error .invalid
    else if c = 0 then .ok (.finite negative 0 place)
    else if leading c e > greatestExponent ∨ leading c e - place + 1 > precision then
      .error .invalid
    else
      let q := if place ≤ e then c * 10 ^ (e - place).toNat
        else r.quotient negative c (10 ^ (min (place - e).toNat (digitCount c + 2)))
      if digitCount q > precision ∨ leading q place > greatestExponent then .error .invalid
      else .ok (.finite negative q place)

/-- The last digit at the place of that of another number. -/
def quantizeTo (r : Rounding) (a b : Decimal) : DecimalResult Decimal :=
  match notNumber? a b with
  | some d => passOn d
  | none =>
    match a, b with
    | .infinite _, .infinite _ => .ok a
    | .finite .., .finite _ _ f => quantizeBy r a f
    | _, _ => .error .invalid

/-- The whole number that a number is rounded to in a direction; it may have any number of
digits. -/
def toIntegral (r : Rounding) (d : Decimal) : DecimalResult Decimal :=
  match d with
  | .notANumber .. => passOn d
  | .infinite _ => .ok d
  | .finite negative c e =>
    if 0 ≤ e then .ok d
    else
      .ok (.finite negative
        (r.quotient negative c (10 ^ (min (-e).toNat (digitCount c + 2)))) 0)

/-- The number without zeros at its end. -/
def normalize (d : Decimal) : DecimalResult Decimal := do
  match ← d.finalize with
  | .finite negative c e =>
    if c = 0 then return .finite negative 0 0
    else
      let (c, e) := dropZerosTo greatestExponent (digitCount c) c e
      return .finite negative c e
  | d => return d

/-- The exponent of the first digit as a number. -/
def logb (d : Decimal) : DecimalResult Decimal :=
  match d with
  | .notANumber .. => passOn d
  | .infinite _ => .ok (.infinite false)
  | .finite _ c e => if c = 0 then .error .zeroDivisor else .ok (ofInt (leading c e))

/-- The integer that the second operand of an operation on places is. -/
def places? (d : Decimal) : Option Int :=
  match d with
  | .finite negative c 0 => some (if negative then -(c : Int) else c)
  | _ => none

/-- The number with another exponent. -/
def scaleb (a b : Decimal) : DecimalResult Decimal :=
  match notNumber? a b with
  | some d => passOn d
  | none =>
    match b.places? with
    | some n =>
      if n.natAbs > 2 * (greatestExponent + precision).toNat then .error .invalid
      else
        match a with
        | .finite negative c e => finish negative c (e + n)
        | d => .ok d
    | none => .error .invalid

/-- The digits moved by places within the precision; what leaves comes back on the other side if
`turning`. -/
def moveDigits (turning : Bool) (a b : Decimal) : DecimalResult Decimal :=
  match notNumber? a b with
  | some d => passOn d
  | none =>
    match b.places? with
    | some n =>
      if n.natAbs > precision then .error .invalid
      else
        match a with
        | .finite negative c e =>
          let all := 10 ^ precision
          let c := c % all
          let k := n.natAbs
          let moved :=
            if 0 ≤ n then c * 10 ^ k % all + (if turning then c / 10 ^ (precision - k) else 0)
            else c / 10 ^ k + (if turning then c % 10 ^ k * 10 ^ (precision - k) else 0)
          .ok (.finite negative moved e)
        | d => .ok d
    | none => .error .invalid

/-! ## Digits as truth values -/

/-- The digits of a number that consists of zeros and ones, as a number with these bits. -/
def bits? : Decimal → Option (List Bool)
  | .finite false c 0 =>
    let digits := (Nat.toDigits 10 c).reverse
    if digits.length ≤ precision && digits.all fun d => d == '0' || d == '1' then
      some ((List.range precision).map fun i => digits[i]? == some '1')
    else none
  | _ => none

/-- The number with such digits, the last one first. -/
def ofBits (bits : List Bool) : Decimal :=
  .finite false (bits.reverse.foldl (fun n b => 10 * n + (if b then 1 else 0)) 0) 0

/-- An operation on the digits of two numbers. -/
def logical (f : Bool → Bool → Bool) (a b : Decimal) : DecimalResult Decimal :=
  match a.bits?, b.bits? with
  | some xs, some ys => .ok (ofBits (List.zipWith f xs ys))
  | _, _ => .error .invalid

/-- The number with every digit changed. -/
def logicalInvert (a : Decimal) : DecimalResult Decimal :=
  match a.bits? with
  | some xs => .ok (ofBits (xs.map not))
  | none => .error .invalid

/-! ## Products and remainders -/

/-- The product of two numbers with a third one added, rounded once. -/
def fusedMultiplyAdd (a b c : Decimal) : DecimalResult Decimal :=
  match [a, b, c].find? isSignal, [a, b, c].find? isNotANumber with
  | some _, _ => .error .invalid
  | none, some d => passOn d
  | none, none =>
    match a, b, c with
    | .finite x m e, .finite y n f, .finite z k g => addFinite (x != y) (m * n) (e + f) z k g
    | .finite .., .finite .., .infinite _ => .ok c
    | _, _, _ => do add (← multiply a b) c

/-- What is left of the first number when the nearest multiple of the second one is taken away. -/
def remainderNear (a b : Decimal) : DecimalResult Decimal :=
  match notNumber? a b with
  | some d => passOn d
  | none =>
    match a, b with
    | .infinite _, _ => .error .invalid
    | .finite .., .infinite _ => a.finalize
    | .finite x m e, .finite _ n f =>
      if n = 0 then .error (if m = 0 then .undefinedQuotient else .invalid)
      else do
        let (q, r, k) ← divideWhole m e n f
        let y := n * 10 ^ (f - k).toNat
        let isNearer := y < 2 * r || (y == 2 * r && q % 2 == 1)
        if isNearer && digitCount (q + 1) > precision then .error .impossibleQuotient
        else if isNearer then finish (!x) (y - r) k
        else finish x r k
    | a, _ => passOn a

/-! ## Roots, exponentials and logarithms -/

/-- The greatest natural number whose square is not above another one. -/
def rootBelow (n : Nat) : Nat := go (n.log2 / 2 + 1) 0
where
  /-- Decides one bit after the other. -/
  go : Nat → Nat → Nat
    | 0, r => if (r + 1) * (r + 1) ≤ n then r + 1 else r
    | bit + 1, r =>
      let s := r + 2 ^ (bit + 1)
      go bit (if s * s ≤ n then s else r)

/-- The square root. -/
def sqrt (d : Decimal) : DecimalResult Decimal :=
  match d with
  | .notANumber .. => passOn d
  | .infinite negative => if negative then .error .invalid else .ok d
  | .finite negative c e =>
    let ideal := Int.fdiv e 2
    if c = 0 then finish negative 0 ideal
    else if negative then .error .invalid
    else
      -- a whole root of a number with an even exponent, with more digits than are kept
      let (c, e) := if e % 2 = 0 then (c, e) else (c * 10, e - 1)
      let more := precision + 2
      let scaled := c * 100 ^ more
      let r := rootBelow scaled
      let low := e / 2 - more
      if r * r = scaled then do
        let (r, f) := dropZerosTo ideal (digitCount r) r low
        finish false r f
      else finish false (10 * r + 1) (low - 1)

/-- A coefficient with as many zeros behind it as the precision allows. -/
def padded (negative : Bool) (c : Nat) (e : Int) : DecimalResult Decimal :=
  let (c, e) := roundTo precision c e
  let room := precision - digitCount c
  finish negative (c * 10 ^ room) (e - room)

/-- The number of places that functions are computed with. -/
def workingPlaces (c : Nat) : Nat := 2 * (max (digitCount c) precision + 23) + 40

/-- The exponential. -/
def exp (d : Decimal) : DecimalResult Decimal :=
  match d with
  | .notANumber .. => passOn d
  | .infinite negative => .ok (if negative then .finite false 0 0 else d)
  | .finite negative c e =>
    if c = 0 then .ok (.finite false 1 0)
    else if leading c e > 7 then
      if negative then .ok (.finite false 0 leastPlace) else .error .overflow
    else
      let places := workingPlaces c
      let shift := e + places
      let x : Nat := if 0 ≤ shift then c * 10 ^ shift.toNat
        else c / 10 ^ (min (-shift) (places + digitCount c : Nat)).toNat
      let (r, k) := exponential places (if negative then -x else x)
      if x = 0 then padded false 1 0
      else if leading r k > greatestExponent then .error .overflow
      else finish false r k

/-- A logarithm in units of the last working place as a number. -/
def ofPlaces (x : Int) (places : Nat) : DecimalResult Decimal := finish (x < 0) x.natAbs (-places)

/-- The natural logarithm. -/
def ln (d : Decimal) : DecimalResult Decimal :=
  match d with
  | .notANumber .. => passOn d
  | .infinite negative => if negative then .error .invalid else .ok d
  | .finite negative c e =>
    if c = 0 then .ok (.infinite true)
    else if negative then .error .invalid
    else if compareMagnitudes c e 1 0 == .eq then .ok (.finite false 0 0)
    else ofPlaces (logarithm (workingPlaces c) c e) (workingPlaces c)

/-- The exponent of a power of ten. -/
def tensExponent? (c : Nat) (e : Int) : Option Int :=
  if c = 10 ^ (digitCount c - 1) then some (leading c e) else none

/-- The logarithm to the base ten. -/
def log10 (d : Decimal) : DecimalResult Decimal :=
  match d with
  | .notANumber .. => passOn d
  | .infinite negative => if negative then .error .invalid else .ok d
  | .finite negative c e =>
    if c = 0 then .ok (.infinite true)
    else if negative then .error .invalid
    else
      match tensExponent? c e with
      | some k => .ok (ofInt k)
      | none =>
        let places := workingPlaces c
        ofPlaces (logarithm places c e * 10 ^ places / logOfTen places) places

/-! ## Texts -/

/-- The text with an exponent that is a multiple of three. -/
def engineeringText (d : Decimal) : String :=
  match d with
  | .finite negative c e =>
    let digits := (toString c).toList
    let left : Int := e + digits.length
    let point : Int :=
      if e ≤ 0 ∧ left > -6 then left
      else if c = 0 then (left + 1) % 3 - 1
      else (left - 1) % 3 + 1
    let mantissa :=
      if point ≤ 0 then "0." ++ String.ofList (List.replicate (-point).toNat '0' ++ digits)
      else if digits.length ≤ point.toNat then
        String.ofList (digits ++ List.replicate (point.toNat - digits.length) '0')
      else String.ofList (digits.take point.toNat ++ '.' :: digits.drop point.toNat)
    let shift := left - point
    let exponent :=
      if shift = 0 then ""
      else "E" ++ (if shift < 0 then "-" else "+") ++ toString shift.natAbs
    (if negative then "-" else "") ++ mantissa ++ exponent
  | d => d.text

end Decimal

end Interpolation.Number
