import Interpolation.Number.Layout
import Interpolation.Number.Reading

/-!
# Decimal numbers with a precision

A decimal keeps the digits it was written with: `1.50` and `1.5` are the same number and two texts.

Main definitions:

* `Decimal`: a signed coefficient with a power of ten, an infinity, or no number.
* `Decimal.ofText?`, `Decimal.text`: reading and writing.
-/

namespace Interpolation.Number

/-- A decimal number: `coefficient * 10 ^ exponent` with a sign. What is no number may carry digits,
and may be a signal, which no operation takes. -/
inductive Decimal where
  | finite (negative : Bool) (coefficient : Nat) (exponent : Int)
  | infinite (negative : Bool)
  | notANumber (negative signal : Bool) (payload : Nat)
deriving DecidableEq, Repr

namespace Decimal

/-- Reads what is no number: a word and maybe digits. -/
def ofWord? (negative : Bool) (s : List Char) : Option Decimal :=
  let word := s.map Char.toLower
  let (signal, rest) := match word with
    | 's' :: rest => (true, rest)
    | rest => (false, rest)
  match rest with
  | 'n' :: 'a' :: 'n' :: digits =>
    (digits.foldlM (fun n c => (Text.digitValue? c).map fun d => n * 10 + d) 0).map
      (.notANumber negative signal)
  | _ => none

/-- Reads a decimal number. -/
def ofText? (s : List Char) : Option Decimal :=
  let (negative, rest) := splitSign (Text.strip s)
  let word := String.ofList (rest.map Char.toLower)
  if word = "inf" ∨ word = "infinity" then some (.infinite negative)
  else
    match ofWord? negative rest with
    | some d => some d
    | none => (readNumeral? rest).map fun n => .finite negative n.coefficient n.exponent

/-- The text of a decimal number: positional unless that needs zeros between the digits and the
point, or more than five zeros behind the point. -/
def text : Decimal → String
  | .infinite negative => (if negative then "-" else "") ++ "Infinity"
  | .notANumber negative signal payload =>
    (if negative then "-" else "") ++ (if signal then "sNaN" else "NaN")
      ++ (if payload = 0 then "" else toString payload)
  | .finite negative c e =>
    let digits := (toString c).toList
    let sign := if negative then "-" else ""
    let left : Int := e + digits.length
    let point : Int := if e ≤ 0 ∧ left > -6 then left else 1
    let mantissa :=
      if point ≤ 0 then "0." ++ String.ofList (List.replicate (-point).toNat '0' ++ digits)
      else if digits.length ≤ point.toNat then
        String.ofList (digits ++ List.replicate (point.toNat - digits.length) '0')
      else String.ofList (digits.take point.toNat ++ '.' :: digits.drop point.toNat)
    let shift := left - point
    let exponent :=
      if shift = 0 then ""
      else "E" ++ (if shift < 0 then "-" else "+") ++ toString shift.natAbs
    sign ++ mantissa ++ exponent

/-- Whether the number is zero. -/
def isZero : Decimal → Bool
  | .finite _ c _ => c == 0
  | _ => false

/-- Whether the value is no number. -/
def isNotANumber : Decimal → Bool
  | .notANumber .. => true
  | _ => false

/-- Whether the value is a signal. -/
def isSignal : Decimal → Bool
  | .notANumber _ signal _ => signal
  | _ => false

/-- The exponent of the first digit. -/
def leading (coefficient : Nat) (exponent : Int) : Int := exponent + digitCount coefficient - 1

/-- The order of two positive numbers; the exponents of their first digits decide unless they are
equal. -/
def compareMagnitudes (m : Nat) (e : Int) (n : Nat) (f : Int) : Ordering :=
  match compare (leading m e) (leading n f) with
  | .eq =>
    let low := min e f
    compare (m * 10 ^ (e - low).toNat) (n * 10 ^ (f - low).toNat)
  | o => o

/-- The order of two decimals; `none` when one side is no number. -/
def compare? : Decimal → Decimal → Option Ordering
  | .notANumber .., _ | _, .notANumber .. => none
  | .infinite a, .infinite b => some (if a == b then .eq else if a then .lt else .gt)
  | .infinite a, .finite .. => some (if a then .lt else .gt)
  | .finite .., .infinite b => some (if b then .gt else .lt)
  | .finite a m e, .finite b n f =>
    some (match m == 0, n == 0 with
      | true, true => .eq
      | true, false => if b then .gt else .lt
      | false, true => if a then .lt else .gt
      | false, false =>
        match a, b with
        | false, true => .gt
        | true, false => .lt
        | false, false => compareMagnitudes m e n f
        | true, true => compareMagnitudes n f m e)

/-- The decimal with the value of an integer. -/
def ofInt (n : Int) : Decimal := .finite (n < 0) n.natAbs 0

/-- The decimal with exactly the value of a float. -/
def ofFloat (x : Float) : Decimal :=
  match Binary.ofFloat x with
  | .notANumber => .notANumber false false 0
  | .infinite negative => .infinite negative
  | .finite negative m e =>
    if 0 ≤ e then .finite negative (m * 2 ^ e.toNat) 0
    else .finite negative (m * 5 ^ (-e).toNat) e

end Decimal

end Interpolation.Number
