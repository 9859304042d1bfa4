import Interpolation.Number.Binary
import Interpolation.Text.Blank
import Interpolation.Text.Letter

/-!
# Reading numbers from text

Integers in a base and floats, as they may stand in a text value: with blanks around them, a sign,
digits of any script, and single low lines between digits.

Main definitions:

* `readInt?`: an integer in a base from 2 to 36, or in the base that its own mark names.
* `readFloat?`: a float; `readUnsignedFloat?`: what stands behind its sign.
* `Numeral`: the parts of a decimal number with a fraction and an exponent.
-/

namespace Interpolation.Number

open Interpolation.Text

/-- The value of a digit or letter as a digit in a base up to 36. -/
def digitIn? (c : Char) : Option Nat :=
  if 'a' ≤ c ∧ c ≤ 'z' then some (c.toNat - 'a'.toNat + 10)
  else if 'A' ≤ c ∧ c ≤ 'Z' then some (c.toNat - 'A'.toNat + 10)
  else digitValue? c

/-- Digits in a base with single low lines between them; `afterDigit` says that the character
before was a digit. -/
def readDigits? (base : Nat) (value : Nat) (afterDigit : Bool) : List Char → Option Nat
  | [] => if afterDigit then some value else none
  | c :: s =>
    if c = '_' then if afterDigit then readDigits? base value false s else none
    else
      match digitIn? c with
      | some d => if d < base then readDigits? base (value * base + d) true s else none
      | none => none

/-- The sign before a number, and the rest. -/
def splitSign : List Char → Bool × List Char
  | '-' :: s => (true, s)
  | '+' :: s => (false, s)
  | s => (false, s)

/-- The base that the mark at the beginning names. -/
def markedBase? : List Char → Option (Nat × List Char)
  | '0' :: c :: s =>
    if c = 'x' ∨ c = 'X' then some (16, s)
    else if c = 'o' ∨ c = 'O' then some (8, s)
    else if c = 'b' ∨ c = 'B' then some (2, s)
    else none
  | _ => none

/-- The digits of an integer behind its sign. In base zero the mark decides, and a decimal number
has no zeros in front. A low line may follow a mark. -/
def readMagnitude? (base : Nat) (s : List Char) : Option Nat :=
  match markedBase? s with
  | some (marked, rest) =>
    if base = 0 ∨ base = marked then
      match rest with
      | '_' :: digits => readDigits? marked 0 false digits
      | digits => readDigits? marked 0 false digits
    else readDigits? base 0 false s
  | none =>
    if base = 0 then
      if s.head? = some '0' ∧ s.any (fun c => c != '0' && c != '_') then none
      else readDigits? 10 0 false s
    else readDigits? base 0 false s

/-- The number of digits in front of the first character that is none; nothing when a low line does
not stand between two digits. -/
def countDigits? (base count : Nat) (afterDigit : Bool) : List Char → Option Nat
  | [] => if afterDigit then some count else none
  | c :: s =>
    if c = '_' then if afterDigit then countDigits? base count false s else none
    else
      match (digitIn? c).filter (· < base) with
      | some _ => countDigits? base (count + 1) true s
      | none => if afterDigit then some count else none

/-- The number of digits of an integer that have to be converted from a base that is no power of
two. -/
def convertedDigits (base : Nat) (s : List Char) : Nat :=
  let digits := (splitSign (strip s)).2
  let isMarked := match markedBase? digits with
    | some (marked, _) => base = 0 || base = marked
    | none => false
  if isMarked || [2, 4, 8, 16, 32].contains base then 0
  else (countDigits? (if base = 0 then 10 else base) 0 false digits).getD 0

/-- An integer in a base, or in the base that its mark names when the base is zero. -/
def readInt? (base : Nat) (s : List Char) : Option Int :=
  let (negative, digits) := splitSign (strip s)
  (readMagnitude? base digits).map fun n => if negative then -(n : Int) else n

/-- The parts of a decimal number: `coefficient * 10 ^ exponent`. -/
structure Numeral where
  /-- All digits, before and after the point. -/
  coefficient : Nat
  /-- The number of digits in the coefficient as it was written. -/
  digits : Nat
  /-- The power of ten. -/
  exponent : Int

/-- Splits off the longest run of digits with single low lines between them: its value, its number
of digits, and the rest. -/
def takeDigits (value digits : Nat) : List Char → Nat × Nat × List Char
  | [] => (value, digits, [])
  | '_' :: c :: s =>
    match digitValue? c with
    | some d => if digits = 0 then (value, digits, '_' :: c :: s)
      else takeDigits (value * 10 + d) (digits + 1) s
    | none => (value, digits, '_' :: c :: s)
  | c :: s =>
    match digitValue? c with
    | some d => takeDigits (value * 10 + d) (digits + 1) s
    | none => (value, digits, c :: s)

/-- The exponent at the end of a numeral, nothing left behind it. -/
def readExponent? : List Char → Option Int
  | [] => some 0
  | c :: s =>
    if c = 'e' ∨ c = 'E' then
      let (negative, rest) := splitSign s
      match takeDigits 0 0 rest with
      | (n, digits, []) => if digits = 0 then none else some (if negative then -(n : Int) else n)
      | _ => none
    else none

/-- A numeral without a sign that fills the whole text. -/
def readNumeral? (s : List Char) : Option Numeral :=
  let (whole, wholeDigits, rest) := takeDigits 0 0 s
  match rest with
  | '.' :: rest =>
    let (c, digits, rest) :=
      if rest.head? = some '_' then (whole, wholeDigits, rest)
      else
        let (fraction, fractionDigits, rest) := takeDigits 0 0 rest
        (whole * 10 ^ fractionDigits + fraction, wholeDigits + fractionDigits, rest)
    if digits = 0 then none
    else (readExponent? rest).map fun e => ⟨c, digits, e - (digits - wholeDigits : Nat)⟩
  | rest =>
    if wholeDigits = 0 then none
    else (readExponent? rest).map fun e => ⟨whole, wholeDigits, e⟩

/-- A float behind its sign: in plain or scientific notation, or one of the words for what is no
finite number. -/
def readUnsignedFloat? (negative : Bool) (s : List Char) : Option Float :=
  let word := String.ofList (s.map Char.toLower)
  if word = "inf" ∨ word = "infinity" then some (Binary.infinity negative)
  else if word = "nan" then some Binary.nan
  else (readNumeral? s).map fun n => Binary.ofDecimal negative n.coefficient n.exponent

/-- A float with its sign and blanks around it. -/
def readFloat? (s : List Char) : Option Float :=
  let (negative, rest) := splitSign (strip s)
  readUnsignedFloat? negative rest

end Interpolation.Number
