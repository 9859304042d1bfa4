import Interpolation.Value.Shown

/-!
# Values as numbers

Numbers turn into each other, and a text that is written like a number turns into it. A float loses
its fraction on the way to an integer.

Main definitions:

* `Value.toInteger`, `Value.toFloat`: the two conversions.
* `Value.readInteger`: an integer from a text in a given base.
* `Value.realNumber`: the float of a value that is a number already.
-/

namespace Interpolation

open Interpolation.Number Interpolation.Text

namespace Value

/-- The integer part of a float. -/
def truncated (x : Float) : Except Fault Int :=
  match Binary.ofFloat x with
  | .notANumber => .error .notANumberAsInteger
  | .infinite _ => .error (.excess .infinityAsInteger)
  | b => .ok (b.truncate?.getD 0)

/-- The float of an integer. -/
def floatOf (n : Int) : Except Fault Float :=
  match floatOfInt? n with
  | some x => .ok x
  | Option.none => .error (.excess .integerAsFloat)

/-- The float nearest to a decimal; a signal is refused. -/
def floatOfDecimal : Decimal → Except Fault Float
  | .notANumber _ true _ => .error .signalAsFloat
  | .notANumber .. => .ok Binary.nan
  | .infinite negative => .ok (Binary.infinity negative)
  | .finite negative c e => .ok (Binary.ofDecimal negative c e)

/-- The integer that characters stand for in a base; `shown` is what a report shows of them. -/
def readChars (base : Nat) (s : List Char) (shown : String) : Except Fault Int :=
  if convertedDigits base s > digitLimit then .error (.digitsRead (convertedDigits base s))
  else
    match readInt? base s with
    | some n => .ok n
    | Option.none => .error (.invalidInteger base shown)

/-- The integer that a text stands for in a base. -/
def readInteger (base : Nat) (s : String) : Except Fault Int := readChars base s.toList (quote s)

/-- The integer that a decimal is rounded to in some way. -/
def wholeDecimal (round : Decimal → Option Int) (d : Decimal) : Except Fault Int :=
  match round d with
  | some n => .ok n
  | Option.none => .error (.decimalAsInteger !d.isNotANumber)

/-- The text of bytes that stand for a number. -/
def numeralBytes (bs : List UInt8) : List Char := bs.map fun b => Char.ofNat b.toNat

/-- The integer of a value. -/
def toInteger (v : Value) : Except Fault Int :=
  match v.content with
  | .float x => truncated x
  | .decimal d => wholeDecimal Decimal.truncate? d
  | .missing _ m => .error m.fault
  | .bytes bs => readChars 10 (numeralBytes bs) (quoteBytes bs)
  | _ =>
    match v.int?, v.text? with
    | some n, _ => .ok n
    | _, some s => readInteger 10 s
    | _, _ => .error (.notConvertible false v.typeWord)

/-- The float of a value that is a number. -/
def realNumber (v : Value) : Except Fault Float :=
  match v.content with
  | .float x => .ok x
  | .decimal d => floatOfDecimal d
  | .missing _ m => .error m.fault
  | _ =>
    match v.int? with
    | some n => floatOf n
    | Option.none => .error (.mustBeReal v.typeWord)

/-- The float of a value. -/
def toFloat (v : Value) : Except Fault Float :=
  match v.text?, v.content with
  | some s, _ =>
    match readFloat? s.toList with
    | some x => .ok x
    | Option.none => .error (.invalidFloat (quote s))
  | Option.none, .bytes bs =>
    match readFloat? (numeralBytes bs) with
    | some x => .ok x
    | Option.none => .error (.invalidFloat (quoteBytes bs))
  | Option.none, _ =>
    match v.realNumber with
    | .error (.mustBeReal t) => .error (.notConvertible true t)
    | r => r

end Value

end Interpolation
