import Interpolation.Number.Fixed
import Interpolation.Text.Escape
import Interpolation.Value.Conversion
import Interpolation.Value.Equality

/-!
# Layouts with percent directives

A layout is a text with directives: a percent sign, the name of a value or none, marks, a width, a
precision, and the letter of a notation. The values are taken from a tuple one after the other, or
from a mapping by their names; a value that is no tuple is the only one.

Main definitions:

* `Directive`: what stands between the percent sign and the letter.
* `Supply`: the values that are left.
* `Value.layOut`: the text of a layout with its values.
-/

namespace Interpolation

open Interpolation.Number Interpolation.Text

/-- A directive behind its percent sign. -/
structure Directive where
  /-- Whether the text stands on the left of its field. -/
  left : Bool
  /-- Whether a plus sign is written. -/
  plus : Bool
  /-- Whether a blank stands in the place of a plus sign. -/
  blank : Bool
  /-- Whether the alternate form is asked for. -/
  alternate : Bool
  /-- Whether a field is filled with zeros. -/
  zeros : Bool
  /-- The least width. -/
  width : Nat
  /-- The number of digits or characters. -/
  precision : Option Nat

namespace Directive

/-- A directive without marks. -/
def bare : Directive := ⟨false, false, false, false, false, 0, none⟩

/-- The directive with one more mark, if the character is one. -/
def mark? (d : Directive) (c : Char) : Option Directive :=
  if c = '-' then some { d with left := true }
  else if c = '+' then some { d with plus := true }
  else if c = ' ' then some { d with blank := true }
  else if c = '#' then some { d with alternate := true }
  else if c = '0' then some { d with zeros := true }
  else none

/-- Reads the marks at the beginning of a text. -/
def readMarks (d : Directive) : List Char → Directive × List Char
  | [] => (d, [])
  | c :: s =>
    match d.mark? c with
    | some d => readMarks d s
    | none => (d, c :: s)

/-- A text in its field. -/
def fieldText (d : Directive) (s : List Char) : List Char :=
  let room := List.replicate (d.width - s.length) ' '
  if d.left then s ++ room else room ++ s

/-- A number in its field: sign, mark of the base, digits. -/
def fieldNumber (d : Directive) (negative : Bool) (mark digits : List Char) : List Char :=
  let sign : List Char :=
    if negative then ['-'] else if d.plus then ['+'] else if d.blank then [' '] else []
  let size := sign.length + mark.length + digits.length
  if d.zeros ∧ ¬d.left then
    sign ++ mark ++ List.replicate (d.width - size) '0' ++ digits
  else d.fieldText (sign ++ mark ++ digits)

/-- An integer in a base, with at least as many digits as the precision says. -/
def writeInteger (d : Directive) (letter : Char) (n : Int) : Except Fault (List Char) := do
  let base := if letter = 'o' then 8 else if letter = 'x' ∨ letter = 'X' then 16 else 10
  if base = 10 && exceedsDigits n then throw .digitLimit
  let digits := Nat.toDigits base n.natAbs
  let digits := if letter = 'X' then digits.map Char.toUpper else digits
  let digits := List.replicate ((d.precision.getD 0) - digits.length) '0' ++ digits
  let mark := if d.alternate ∧ base ≠ 10 then ['0', letter] else []
  return d.fieldNumber (n < 0) mark digits

/-- A float in one of the three notations. -/
def writeFloat (d : Directive) (letter : Char) (x : Float) : List Char :=
  let style :=
    if letter.toLower = 'e' then Notation.scientific
    else if letter.toLower = 'f' then .fixed
    else .general
  let text := magnitudeText style (d.precision.getD 6) d.alternate letter.isUpper x
  d.fieldNumber (isNegative x) [] text.toList

end Directive

/-- The values that a layout has not used yet. -/
structure Supply where
  /-- The values that are left. -/
  left : List Value
  /-- The mapping that named values are taken from. -/
  mapping : Option Value

namespace Supply

/-- The values of a layout: the items of a tuple, or the value alone, which may be a mapping. -/
def ofValue (v : Value) : Look Supply :=
  match v.content with
  | .tuple r => do return ⟨← Look.items r, none⟩
  | .list _ | .dict _ | .proxy _ | .bytes _ | .range .. | .missing .. | .selfReference =>
    return ⟨[v], some v⟩
  | _ => return ⟨[v], none⟩

/-- Takes the next value. -/
def next : StateT Supply Look Value := do
  match (← get).left with
  | v :: rest =>
    modify fun s => { s with left := rest }
    return v
  | [] => throw (.layout .tooFewValues)

/-- Takes the next value as an amount, which must fit into so many bits. -/
def nextInteger (bits : Nat) (type : String) : StateT Supply Look Int := do
  match (← next).int? with
  | some n =>
    if -2 ^ (bits - 1) ≤ n ∧ n < 2 ^ (bits - 1) then return n
    else throw (.excess (.machineInteger type))
  | none => throw (.layout .starType)

/-- The value under a name. -/
def named (name : String) (v : Value) : Look Value :=
  match v.content with
  | .dict r | .proxy r => do
    match ← lookup? (.str name) (← Look.entries r) with
    | some v => return v
    | none => throw (.noKey (quote name))
  | .missing .chaining _ => return v
  | .missing _ m => throw m.fault
  | .bytes _ => throw (.indexType "byte" "str")
  | _ => throw (.indexType v.typeWord "str")

end Supply

/-- The name in parentheses at the beginning of a text, which may hold pairs of parentheses. -/
def readLayoutKey (depth : Nat) : List Char → Option (List Char × List Char)
  | [] => none
  | c :: s =>
    let depth := if c = '(' then depth + 1 else if c = ')' then depth - 1 else depth
    if depth = 0 then some ([], s)
    else (readLayoutKey depth s).map fun (key, rest) => (c :: key, rest)

/-- The number at the beginning of a text. -/
def readLayoutNumber (s : List Char) : Nat × List Char :=
  ((s.takeWhile Char.isDigit).foldl (fun n c => n * 10 + (c.toNat - '0'.toNat)) 0,
    s.dropWhile Char.isDigit)

namespace Value

/-- The number of a value for the letters of integers. -/
def layoutInteger (escaping : Bool) (letter : Char) (v : Value) : Except Fault Int :=
  let type := if escaping then "_MarkupEscapeHelper" else v.typeWord
  if letter = 'o' ∨ letter = 'x' ∨ letter = 'X' then
    match v.int? with
    | some n => if escaping then .error (.layout (.notWhole letter type)) else .ok n
    | Option.none => .error (.layout (.notWhole letter type))
  else
    match v.text?, v.content with
    | some _, _ => if escaping then v.toInteger else .error (.layout (.notReal letter type))
    | Option.none, .bytes _ =>
      if escaping then v.toInteger else .error (.layout (.notReal letter type))
    | Option.none, _ =>
      match v.toInteger with
      | .error (.notConvertible ..) => .error (.layout (.notReal letter type))
      | r => r

variable (future : FutureId → Look String)

/-- The text of a value for the letters of texts; `escaping` asks for markup. -/
def layoutText (escaping : Bool) (letter : Char) (v : Value) : Look (List Char) := do
  match escaping, letter, v.content with
  | true, 's', .markup s => return s.toList
  | _, _, _ =>
    let plain ← if letter = 's' then v.display future else v.repr future
    let chars := if letter = 'a' then asciiOnly plain else plain.toList
    return if escaping then escapeHtmlChars chars else chars

/-- One value as a directive asks for it. -/
def layOutOne (escaping : Bool) (d : Directive) (letter : Char) (position : Nat) (v : Value) :
    Look (List Char) := do
  if letter = 's' ∨ letter = 'r' ∨ letter = 'a' then
    let cs ← v.layoutText future escaping letter
    return d.fieldText ((d.precision.map fun n => cs.take n).getD cs)
  else if letter = 'd' ∨ letter = 'i' ∨ letter = 'u' ∨ letter = 'o' ∨ letter = 'x'
      ∨ letter = 'X' then
    d.writeInteger letter (← v.layoutInteger escaping letter)
  else if letter.toLower = 'e' ∨ letter.toLower = 'f' ∨ letter.toLower = 'g' then
    return d.writeFloat letter (← if escaping then v.toFloat else v.realNumber)
  else if letter = 'c' then
    match v.text?.map String.toList, v.int? with
    | some [c], _ => return d.fieldText [c]
    | _, some n =>
      if 0 ≤ n ∧ n < 0x110000 then return d.fieldText [ofCodePoint n.toNat]
      else throw (.layout .characterRange)
    | _, _ => throw (.layout .notCharacter)
  else throw (.layout (.unknownDirective letter position))

/-- Reads the width or the precision, which may be taken from the values. -/
def readAmount (isWidth : Bool) (s : List Char) :
    StateT Supply Look (Int × List Char) := do
  let (bits, type) := if isWidth then (64, "ssize_t") else (32, "int")
  match s with
  | '*' :: s => return (← Supply.nextInteger bits type, s)
  | s =>
    let (n, rest) := readLayoutNumber s
    if n < 2 ^ (bits - 1) then return (n, rest) else throw (.layout (.amountRange isWidth))

/-- The text of the directive at the beginning of a text, and the rest. -/
def layOutDirective (escaping : Bool) (size : Nat) (s : List Char) :
    StateT Supply Look (List Char × List Char) := do
  let s ← match s with
    | '(' :: s => do
      match (← get).mapping with
      | Option.none => throw (.layout .needsMapping)
      | some mapping =>
        match readLayoutKey 1 s with
        | Option.none => throw (.layout .incompleteKey)
        | some (key, rest) =>
          let v ← Supply.named (String.ofList key) mapping
          modify fun supply => { supply with left := [v] }
          pure rest
    | s => pure s
  let (d, s) := Directive.bare.readMarks s
  let (width, s) ← readAmount true s
  let d := { d with width := width.natAbs, left := d.left || width < 0 }
  let (d, s) ← match s with
    | '.' :: s => do
      let (n, s) ← readAmount false s
      pure ({ d with precision := some n.toNat }, s)
    | s => pure (d, s)
  let s := match s with
    | c :: rest => if c = 'h' ∨ c = 'l' ∨ c = 'L' then rest else s
    | [] => []
  match s with
  | [] => throw (.layout .incomplete)
  | letter :: rest =>
    let v ← Supply.next
    return (← v.layOutOne future escaping d letter (size - rest.length - 1), rest)

/-- The text of a layout from a place on. The fuel is the length of the layout; every directive
shortens what is left. -/
def layOutFrom (escaping : Bool) (size : Nat) :
    (fuel : Nat) → List Char → StateT Supply Look (List Char)
  | 0, _ => return []
  | _, [] => return []
  | fuel + 1, '%' :: '%' :: s => do return '%' :: (← layOutFrom escaping size fuel s)
  | fuel + 1, '%' :: s => do
    let (text, rest) ← layOutDirective future escaping size s
    return text ++ (← layOutFrom escaping size fuel rest)
  | fuel + 1, c :: s => do return c :: (← layOutFrom escaping size fuel s)

/-- The text of a layout with its values; `escaping` says that the layout is markup, into which
values are escaped. -/
def layOut (escaping : Bool) (layout : String) (values : Value) : Look String := do
  let cs := layout.toList
  let (text, supply) ←
    (layOutFrom future escaping cs.length cs.length cs).run (← Supply.ofValue values)
  if supply.mapping.isNone && !supply.left.isEmpty then throw (.layout .tooManyValues)
  return String.ofList text

end Value

end Interpolation
