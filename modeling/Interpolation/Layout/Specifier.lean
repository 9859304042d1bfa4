import Interpolation.Number.Fixed
import Interpolation.Value.Conversion

/-!
# Specifiers

A specifier says how one value fills its field: the fill and the side, the sign, the width, the mark
between groups of digits, the precision and the letter of a notation. Texts and numbers understand
specifiers; other values only the empty one.

Main definitions:

* `Specifier`, `Specifier.ofChars`: the parts of a specifier.
* `Value.fill`: the text of a value as a specifier asks for it.
-/

namespace Interpolation

open Interpolation.Number Interpolation.Text

/-- On which side of its field a text stands; a number may also have its sign on the left side and
its digits on the right one. -/
inductive Side where
  | left
  | right
  | middle
  | apart
deriving DecidableEq, Repr

/-- The side that a character stands for. -/
def Side.ofChar? (c : Char) : Option Side :=
  if c = '<' then some .left
  else if c = '>' then some .right
  else if c = '^' then some .middle
  else if c = '=' then some .apart
  else none

/-- The parts of a specifier. -/
structure Specifier where
  /-- What fills the field. -/
  fill : Char
  /-- The side, unless it is the usual one. -/
  side : Option Side
  /-- The sign of numbers that are not negative. -/
  sign : Option Char
  /-- Whether a zero loses its sign. -/
  plainZero : Bool
  /-- Whether the alternate form is asked for. -/
  alternate : Bool
  /-- The least width. -/
  width : Nat
  /-- The mark between groups of digits. -/
  grouping : Option Char
  /-- The number of digits or characters. -/
  precision : Option Nat
  /-- The letter of the notation. -/
  letter : Option Char

namespace Specifier

/-- The digits at the beginning of a text as a number, which must not be too great. -/
def digits (s : List Char) : Except Fault (Nat × List Char) :=
  let n := (s.takeWhile Char.isDigit).foldl (fun n c => n * 10 + (c.toNat - '0'.toNat)) 0
  if n < 2 ^ 63 then .ok (n, s.dropWhile Char.isDigit) else .error (.layout .tooManyDigits)

/-- The fill and the side at the beginning of a specifier. -/
def readSide (s : List Char) : Option Char × Option Side × List Char :=
  match s with
  | f :: c :: rest =>
    match Side.ofChar? c, Side.ofChar? f with
    | some side, _ => (some f, some side, rest)
    | none, some side => (none, some side, c :: rest)
    | none, none => (none, none, s)
  | [c] =>
    match Side.ofChar? c with
    | some side => (none, some side, [])
    | none => (none, none, s)
  | [] => (none, none, [])

/-- Drops a character from the beginning of a text if it is there. -/
def readFlag (c : Char) (s : List Char) : Bool × List Char :=
  match s with
  | d :: rest => if c = d then (true, rest) else (false, s)
  | [] => (false, [])

/-- The parts of a specifier for a value of a type; the letter of the type is told where a mark
between groups is refused. -/
def ofChars (type : String) (usual : Char) (zeroSide : Option Side) (spec : List Char) :
    Except Fault Specifier := do
  let (fill, side, s) := readSide spec
  let (sign, s) := match s with
    | c :: rest => if c = ' ' ∨ c = '+' ∨ c = '-' then (some c, rest) else (none, s)
    | [] => (none, s)
  let (plainZero, s) := readFlag 'z' s
  let (alternate, s) := readFlag '#' s
  let (zero, s) := if fill.isNone then readFlag '0' s else (false, s)
  let side := if zero then side.or zeroSide else side
  let (width, s) ← digits s
  let (comma, s) := readFlag ',' s
  let (low, s) := readFlag '_' s
  if comma && low then throw (.layout .twoGroupings)
  if low && s.head? == some ',' then throw (.layout .twoGroupings)
  let (precision, s) ← match s with
    | '.' :: rest =>
      let (n, after) ← digits rest
      if after.length = rest.length then throw (.layout .missingPrecision)
      else pure (some n, after)
    | s => pure (none, s)
  let letter ← match s with
    | [] => pure none
    | [c] => pure (some c)
    | _ => throw (.layout (.invalidSpecifier (String.ofList spec) type))
  let grouping := if comma then some ',' else if low then some '_' else none
  match grouping with
  | some mark =>
    let code := letter.getD usual
    let allowed := "deEfFgG%".toList.contains code || (mark == '_' && "boxX".toList.contains code)
      || code == '\x00'
    if !allowed then throw (.layout (.groupingOf mark code))
  | none => pure ()
  return {
    fill := fill.getD (if zero then '0' else ' ')
    side, sign, plainZero, alternate, width, grouping, precision, letter }

/-- A text in its field. -/
def place (s : Specifier) (usual : Side) (lead body : List Char) : List Char :=
  let room := s.width - lead.length - body.length
  let pad (n : Nat) := List.replicate n s.fill
  match s.side.getD usual with
  | .left => lead ++ body ++ pad room
  | .right => pad room ++ lead ++ body
  | .middle => pad (room / 2) ++ lead ++ body ++ pad (room - room / 2)
  | .apart => lead ++ pad room ++ body

/-- Digits with a mark between groups, counted from the right. -/
def grouped (mark : Char) (size : Nat) (ds : List Char) : List Char :=
  let step (acc : List Char × Nat) (c : Char) : List Char × Nat :=
    if acc.2 = size then (c :: mark :: acc.1, 1) else (c :: acc.1, acc.2 + 1)
  (ds.reverse.foldl step ([], 0)).1

/-- The whole part of a number with zeros in front up to a width that counts the marks. -/
def widened (mark : Char) (size width : Nat) (ds : List Char) : List Char :=
  let needed := (List.range (width + 1)).find? fun n =>
    (grouped mark size (List.replicate (n - ds.length) '0' ++ ds)).length ≥ width
  grouped mark size (List.replicate ((needed.getD 0) - ds.length) '0' ++ ds)

/-- A number in its field: its sign, the mark of its base, its whole part and the rest. -/
def number (s : Specifier) (negative : Bool) (base whole rest : List Char) : List Char :=
  let sign : List Char :=
    if negative then ['-']
    else match s.sign with
      | some '+' => ['+']
      | some ' ' => [' ']
      | _ => []
  let lead := sign ++ base
  let size := if base.isEmpty ∧ s.letter ≠ some 'x' ∧ s.letter ≠ some 'b' ∧ s.letter ≠ some 'o'
      ∧ s.letter ≠ some 'X' then 3 else 4
  let whole := match s.grouping with
    | none => whole
    | some mark =>
      if whole.isEmpty then []
      else if s.fill = '0' ∧ s.side.getD .right = .apart then
        widened mark size (s.width - lead.length - rest.length) whole
      else grouped mark size whole
  s.place .right lead (whole ++ rest)

/-- A text in its field. -/
def text (s : Specifier) (type : String) (t : List Char) : Except Fault (List Char) := do
  match s.letter with
  | none | some 's' => pure ()
  | some c => throw (.layout (.unknownCode c type))
  match s.sign with
  | some ' ' => throw (.layout .blankOfText)
  | some _ => throw (.layout .signOfText)
  | none => pure ()
  if s.plainZero then throw (.layout (.zeroOf "string"))
  if s.alternate then throw (.layout .alternateOfText)
  if s.side = some .apart then throw (.layout .alignmentOfText)
  return s.place .left [] ((s.precision.map fun n => t.take n).getD t)

/-- A float in its field. -/
def float (s : Specifier) (x : Float) : Except Fault (List Char) := do
  let bare := s.letter.isNone
  let letter := s.letter.getD 'g'
  let shownText ←
    if bare && s.precision.isNone then
      pure (if s.alternate then pointedText x else floatText x.abs)
    else if bare then pure (roundedText (s.precision.getD 6) s.alternate x)
    else
      let precision := s.precision.getD 6
      match letter with
      | 'e' | 'E' => pure (magnitudeText .scientific precision s.alternate (letter == 'E') x)
      | 'f' | 'F' => pure (magnitudeText .fixed precision s.alternate (letter == 'F') x)
      | '%' => pure (magnitudeText .fixed precision s.alternate false (x * 100.0) ++ "%")
      | 'g' | 'G' | 'n' =>
        pure (magnitudeText .general precision s.alternate (letter == 'G') x)
      | c => throw (.layout (.unknownCode c "float"))
  let shown := shownText.toList
  let mantissa := shown.takeWhile fun c => c != 'e' && c != 'E'
  let isZero := mantissa.all fun c => c == '0' || c == '.' || c == '%'
  let negative := isNegative x && !(s.plainZero && isZero) && !x.isNaN
  return s.number negative [] (shown.takeWhile Char.isAlphanum |>.takeWhile fun c => c.isDigit)
    (shown.dropWhile Char.isDigit)

/-- An integer in its field. -/
def integer (s : Specifier) (type : String) (n : Int) : Except Fault (List Char) := do
  let letter := s.letter.getD 'd'
  if "eEfFgG%".toList.contains letter then
    match Value.floatOf n with
    | .ok x => s.float x
    | .error f => throw f
  else if "bcdoxXn".toList.contains letter then
    if s.precision.isSome then throw (.layout .precisionOfInteger)
    if s.plainZero then throw (.layout (.zeroOf "integer"))
    if letter = 'c' then
      if s.sign.isSome then throw (.layout .signOfCharacter)
      if s.alternate then throw (.layout .alternateOfCharacter)
      if n < -2 ^ 63 ∨ 2 ^ 63 ≤ n then throw (.excess (.machineInteger "long"))
      if 0 ≤ n ∧ n < 0x110000 then return s.place .right [] [ofCodePoint n.toNat]
      else throw (.layout .characterRange)
    else
      let (base, mark) : Nat × List Char :=
        if letter = 'b' then (2, ['0', 'b'])
        else if letter = 'o' then (8, ['0', 'o'])
        else if letter = 'x' then (16, ['0', 'x'])
        else if letter = 'X' then (16, ['0', 'X'])
        else (10, [])
      if base = 10 && exceedsDigits n then throw .digitLimit
      let ds := Nat.toDigits base n.natAbs
      let ds := if letter = 'X' then ds.map Char.toUpper else ds
      return s.number (n < 0) (if s.alternate then mark else []) ds []
  else throw (.layout (.unknownCode letter type))

end Specifier

namespace Value

/-- The text of a value as a specifier asks for it. -/
def fill (future : FutureId → Look String) (spec : List Char) (v : Value) : Look (List Char) :=
  if spec.isEmpty then do return (← v.display future).toList
  else
    match v.content, v.int? with
    | .float x, _ => do (← Specifier.ofChars "float" '\x00' (some .apart) spec).float x
    | _, some n => do
      (← Specifier.ofChars v.typeWord 'd' (some .apart) spec).integer v.typeWord n
    | _, Option.none =>
      match v.text? with
      | some _ => do
        let s ← Specifier.ofChars v.typeWord 's' Option.none spec
        s.text v.typeWord (← v.display future).toList
      | Option.none => throw (.layout (.unsupported v.typeWord))

end Value

end Interpolation
