import Interpolation.Number.Shortest

/-!
# The layout of a float in text

Two texts of the same shortest digits are written by this library: the plain one, for floats shown
as text, and the one of JSON documents. They differ in where positional notation ends, in the width
of the exponent, and in the words for what is no finite number.

Main definitions:

* `FloatLayout`: the decisions of a layout.
* `FloatLayout.plain`, `FloatLayout.json`: the two layouts.
* `FloatLayout.write`: the text of a float.
-/

namespace Interpolation.Number

/-- What a layout decides. -/
structure FloatLayout where
  /-- The least exponent of the first digit that is still written positionally. -/
  leastPositional : Int
  /-- The exponent of the first digit from which on the exponent is written. -/
  leastScientific : Int
  /-- The least number of digits of a written exponent. -/
  exponentWidth : Nat
  /-- The word for an infinity. -/
  infinity : String
  /-- The word for no number. -/
  notANumber : String

namespace FloatLayout

/-- Positional from `0.0001` up to below `1e+16`, exponents of at least two digits. -/
def plain : FloatLayout := ⟨-4, 16, 2, "inf", "nan"⟩

/-- Positional from `0.00001` up to below `1e+16`, exponents without padding. -/
def json : FloatLayout := ⟨-5, 16, 1, "Infinity", "NaN"⟩

/-- Always positional, for every float there is. -/
def spelledOut : FloatLayout := ⟨-400, 400, 1, "inf", "NaN"⟩

/-- A natural number, padded with zeros on the left to a width. -/
def padded (width n : Nat) : String :=
  let digits := toString n
  String.ofList (List.replicate (width - digits.length) '0') ++ digits

/-- A positive decimal `c * 10 ^ k`, always with a point. -/
def positional (c : Nat) (k : Int) : String :=
  if 0 ≤ k then toString c ++ String.ofList (List.replicate k.toNat '0') ++ ".0"
  else
    let places := (-k).toNat
    toString (c / 10 ^ places) ++ "." ++ padded places (c % 10 ^ places)

/-- A positive decimal with one digit before the point, and its exponent. -/
def scientific (l : FloatLayout) (c : Nat) (exponent : Int) : String :=
  let digits := (toString c).toList
  let mantissa := match digits with
    | d :: e :: rest => String.ofList (d :: '.' :: e :: rest)
    | short => String.ofList short
  let sign := if exponent < 0 then "-" else "+"
  mantissa ++ "e" ++ sign ++ padded l.exponentWidth exponent.natAbs

/-- The text of a positive decimal `c * 10 ^ k`. -/
def decimal (l : FloatLayout) (c : Nat) (k : Int) : String :=
  let exponent := k + digitCount c - 1
  if l.leastPositional ≤ exponent && exponent < l.leastScientific then positional c k
  else l.scientific c exponent

/-- The text of a float. -/
def write (l : FloatLayout) (x : Float) : String :=
  match Binary.ofFloat x with
  | .notANumber => l.notANumber
  | .infinite negative => (if negative then "-" else "") ++ l.infinity
  | .finite negative m e =>
    let sign := if negative then "-" else ""
    if m = 0 then sign ++ "0.0"
    else
      let (c, k) := shortest m e
      sign ++ l.decimal c k

end FloatLayout

/-- The plain text of a float. -/
def floatText (x : Float) : String := FloatLayout.plain.write x

/-- The text of a float in a layout, without a point when the float is written as a whole number. -/
def FloatLayout.short (l : FloatLayout) (x : Float) : String :=
  let s := l.write x
  if s.endsWith ".0" then String.ofList (s.toList.take (s.length - 2)) else s

/-- The plain text of a number with a real and an imaginary part. -/
def complexText (re im : Float) : String :=
  let imaginary := FloatLayout.plain.short im
  if Binary.ofFloat re = Binary.ofFloat 0 then imaginary ++ "j"
  else
    let sign := if imaginary.startsWith "-" then "" else "+"
    "(" ++ FloatLayout.plain.short re ++ sign ++ imaginary ++ "j)"

/-- The text of a number with a real and an imaginary part in a document. -/
def complexDocument (re im : Float) : String :=
  let imaginary := FloatLayout.spelledOut.short im ++ "j"
  if re == 0 then imaginary
  else
    let sign := if im < 0 then "" else "+"
    FloatLayout.spelledOut.short re ++ sign ++ imaginary

end Interpolation.Number
