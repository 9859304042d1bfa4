import Interpolation.Number.Layout

/-!
# Floats with a given number of digits

The digits of the exact value, rounded to a number of places or of significant digits; a tie goes
to the even digit.

Main definitions:

* `roundToPlaces`: a float rounded to decimal places.
* `fixedText`, `scientificText`, `generalText`: the three notations of a layout directive.
-/

namespace Interpolation.Number

/-- The value `m * 2 ^ e` times `10 ^ places`, rounded to an integer. -/
def scaledRound (m : Nat) (e places : Int) : Nat :=
  let num := m * 2 ^ e.toNat * 10 ^ places.toNat
  let den := 2 ^ (-e).toNat * 10 ^ (-places).toNat
  Binary.roundQuotient num den

/-- The float rounded to decimal places, or to tens and so on for places below zero; `none` when
the result is beyond the greatest float. -/
def roundToPlaces? (x : Float) (places : Int) : Option Float :=
  match Binary.ofFloat x with
  | .finite negative m e =>
    if places > 400 then some x
    else if places < -400 then some (Binary.nearest negative 0 1)
    else
      let n := scaledRound m e places
      Binary.nearest? negative (n * 10 ^ (-places).toNat) (10 ^ places.toNat)
  | _ => some x

/-- The integer rounded to tens and so on, a tie to the even side. -/
def roundToTens (n : Int) (tens : Nat) : Int :=
  let q := Binary.roundQuotient n.natAbs (10 ^ tens) * 10 ^ tens
  if n < 0 then -(q : Int) else q

/-- A positive value with a number of places behind the point. -/
def fixedDigits (m : Nat) (e : Int) (places : Nat) : String :=
  let n := scaledRound m e places
  if places = 0 then toString n
  else toString (n / 10 ^ places) ++ "." ++ FloatLayout.padded places (n % 10 ^ places)

/-- The decimal exponent of the first digit of a positive value: that of its shortest digits, unless
these were rounded up to a power of ten. -/
def decimalExponent (m : Nat) (e : Int) : Int :=
  let (c, k) := shortest m e
  let first := k + digitCount c - 1
  if m * 2 ^ e.toNat * 10 ^ (-first).toNat < 10 ^ first.toNat * 2 ^ (-e).toNat then first - 1
  else first

/-- The significant digits of a positive value, rounded, and the exponent of the first one. -/
def significant (m : Nat) (e : Int) (digits : Nat) : Nat × Int :=
  let first := decimalExponent m e
  let low := scaledRound m e (digits - 1 - first)
  if digitCount low > digits then (low / 10, first + 1)
  else if digitCount low < digits then (scaledRound m e (digits - first), first - 1)
  else (low, first)

/-- A positive value in scientific notation with a number of places behind the point, which is
written even before no places when it is to be kept. -/
def scientificDigits (m : Nat) (e : Int) (places : Nat) (keepPoint : Bool) (letter : Char) :
    String :=
  let (c, exponent) := if m = 0 then (0, 0) else significant m e (places + 1)
  let digits := FloatLayout.padded (places + 1) c
  let mantissa :=
    if places = 0 then digits ++ (if keepPoint then "." else "")
    else String.ofList (digits.toList.take 1 ++ '.' :: digits.toList.drop 1)
  mantissa ++ String.ofList [letter] ++ (if exponent < 0 then "-" else "+")
    ++ FloatLayout.padded 2 exponent.natAbs

/-- A fraction without the zeros at its end, and without a point that ends it. -/
def trimFraction (s : String) : String :=
  if s.toList.contains '.' then
    let kept := (s.toList.reverse.dropWhile (· == '0')).dropWhile (· == '.')
    String.ofList kept.reverse
  else s

/-- A positive value with a number of significant digits, in the shorter of the notations; the
exponent is written from `positional` digits before the point on. -/
def generalDigits (m : Nat) (e : Int) (precision positional : Nat) (keepZeros : Bool)
    (letter : Char) : String :=
  let digits := max precision 1
  let exponent := if m = 0 then 0 else (significant m e digits).2
  if exponent < -4 ∨ exponent ≥ positional then
    let whole := scientificDigits m e (digits - 1) keepZeros letter
    if keepZeros then whole
    else
      let cs := whole.toList
      trimFraction (String.ofList (cs.takeWhile (· != letter)))
        ++ String.ofList (cs.dropWhile (· != letter))
  else
    let whole := fixedDigits m e ((digits : Int) - 1 - exponent).toNat
    if keepZeros then (if whole.toList.contains '.' then whole else whole ++ ".")
    else trimFraction whole

/-- The notations of a float in a layout. -/
inductive Notation where
  | fixed
  | scientific
  | general
deriving DecidableEq, Repr

/-- The text of the absolute value of a float in a notation; `upper` asks for capital letters. -/
def magnitudeText (style : Notation) (precision : Nat) (alternate upper : Bool) (x : Float) :
    String :=
  match Binary.ofFloat x with
  | .notANumber => if upper then "NAN" else "nan"
  | .infinite _ => if upper then "INF" else "inf"
  | .finite _ m e =>
    let letter := if upper then 'E' else 'e'
    match style with
    | .fixed => fixedDigits m e precision ++ (if alternate ∧ precision = 0 then "." else "")
    | .scientific => scientificDigits m e precision alternate letter
    | .general => generalDigits m e precision (max precision 1) alternate letter

/-- The text of the absolute value of a float with a number of significant digits, always with a
point or an exponent. -/
def roundedText (precision : Nat) (alternate : Bool) (x : Float) : String :=
  match Binary.ofFloat x with
  | .notANumber => "nan"
  | .infinite _ => "inf"
  | .finite _ m e =>
    let digits := max precision 1
    let shown := generalDigits m e digits (digits - 1) alternate 'e'
    if shown.toList.any fun c => c == '.' || c == 'e' then
      if shown.endsWith "." then shown ++ "0" else shown
    else shown ++ ".0"

/-- The shortest text of the absolute value of a float with a point even where it is followed by an
exponent. -/
def pointedText (x : Float) : String :=
  let shown := (floatText x.abs).toList
  let digits := shown.takeWhile fun c => c.isDigit || c == '.'
  if digits.contains '.' || digits.isEmpty then String.ofList shown
  else String.ofList (digits ++ '.' :: shown.drop digits.length)

/-- Whether a float has a minus sign. -/
def isNegative (x : Float) : Bool :=
  match Binary.ofFloat x with
  | .finite negative _ _ | .infinite negative => negative
  | .notANumber => false

end Interpolation.Number
