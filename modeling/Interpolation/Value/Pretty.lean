import Interpolation.Text.Paragraph
import Interpolation.Value.Order
import Interpolation.Value.Shown

/-!
# Values over several lines

A value whose text in full is too wide for a line is shown over several lines: each item of a
container stands on a line of its own, and long texts are cut between their words. Mappings and sets
are shown in the order of their keys and items.

Main definitions:

* `Value.flat`: a value on one line.
* `Value.spread`: a value over as many lines as it needs.
* `Value.pretty`: a value by itself.
-/

namespace Interpolation

open Interpolation.Text

namespace Value

/-- The width of a line. -/
def lineWidth : Int := 80

/-- Whether a key or an item stands before another one: what cannot be compared is put in the order
of the names of the types. -/
def standsBefore (a b : Value) : Look Bool := fun store =>
  match (ordered .lt a b).run store with
  | .error f =>
    if f.label = "TypeError" then
      .ok (compareTexts (typeText a.typePath) (typeText b.typePath) == .lt)
    else .error f
  | answer => answer

/-- Entries in the order of their keys. -/
def entriesInOrder (r : Ref) : Look (List (Value × Value)) := do
  sortBy (fun x y => standsBefore x.1 y.1) (← Look.entries r)

/-- What stands for a container inside of itself. -/
def recursionText (v : Value) : String := "<Recursion on " ++ v.typeName ++ ">"

/-- The end of a tuple with so many items. -/
def tupleEnd (count : Nat) : String := if count = 1 then ",)" else ")"

variable (future : FutureId → Look String)

/-- A value on one line; `path` holds the containers around it. -/
def flat : (fuel : Nat) → (path : List Content) → Value → Look String
  | 0, _, _ => throw (.tooDeep "")
  | fuel + 1, path, v =>
    let inner (w : Value) : Look String := flat fuel (v.content :: path) w
    if path.contains v.content then return recursionText v
    else match v.content, v.record? with
    | .dict r, _ => do
      let parts ← (← entriesInOrder r).mapM fun (k, w) => do
        let key ← inner k
        return key ++ ": " ++ (← inner w)
      return bracketed "\x7b" "\x7d" parts
    | .list r, _ => do return bracketed "[" "]" (← (← Look.items r).mapM inner)
    | .tuple r, Option.none => do
      let parts ← (← Look.items r).mapM inner
      return bracketed "(" (tupleEnd parts.length) parts
    | _, _ => v.repr future

/-! ## Texts -/

/-- The words of a line, each with the blanks behind it. -/
def wordsWithBlanks : (fuel : Nat) → List Char → List (List Char)
  | 0, _ => []
  | _, [] => []
  | fuel + 1, s =>
    let word := s.takeWhile fun c => !isBlank c
    let rest := s.drop word.length
    (word ++ rest.takeWhile isBlank) :: wordsWithBlanks fuel (rest.dropWhile isBlank)

/-- Parts put together as long as their text in full fits: `widths` are those of the parts. -/
def gathered {α : Type} (shown : List α → String) (current : List α) :
    List (List α × Int) → List String
  | [] => if current.isEmpty then [] else [shown current]
  | (part, width) :: parts =>
    if (shown (current ++ part)).length ≤ width then gathered shown (current ++ part) parts
    else if current.isEmpty then gathered shown part parts
    else shown current :: gathered shown part parts

/-- Parts with the widths that they may have; the last one has less room. -/
def withWidths {α : Type} (parts : List α) (width last : Int) : List (α × Int) :=
  parts.zipIdx.map fun (part, i) => (part, if i + 1 = parts.length then last else width)

/-- The pieces of a text, each in full. -/
def textPieces (s : List Char) (width allowance : Int) : List String :=
  let shown (cs : List Char) : String := quote (String.ofList cs)
  let lines := (lines s).map fun (line, mark) => line ++ mark
  (withWidths lines width (width - allowance)).flatMap fun (line, room) =>
    if (shown line).length ≤ room then [shown line]
    else gathered shown [] (withWidths (wordsWithBlanks line.length line) width room)

/-- The pieces of bytes, each in full. -/
def bytePieces (bs : List UInt8) (width allowance : Int) : List String :=
  let count := (bs.length + 3) / 4
  let parts := (List.range count).map fun i => (bs.drop (4 * i)).take 4
  let last := if bs.length % 4 = 0 then width else width - allowance
  gathered quoteBytes [] (withWidths parts width last)

/-- The end of a line and the blanks in front of the next one. -/
def newLine (indent : Int) : String := "\n" ++ String.ofList (List.replicate indent.toNat ' ')

/-- Pieces one below the other, in parentheses if nothing stands around them. -/
def stacked (isOutermost : Bool) (indent : Int) (pieces : List String) : String :=
  let text := (newLine indent).intercalate pieces
  if isOutermost then "(" ++ text ++ ")" else text

/-! ## Containers -/

/-- Where a value is shown. -/
structure Place where
  /-- The number of characters before it on the line. -/
  indent : Int
  /-- The number of characters that follow it on the last line. -/
  allowance : Int
  /-- Whether nothing stands around it. -/
  isOutermost : Bool

/-- What is shown for the items of a container: the place of each one is at an indent behind its
label, and only the last one is followed by what follows the container. -/
def itemPlaces {α : Type} (indent allowance : Int) (items : List (String × α)) :
    List (String × Place × α) :=
  items.zipIdx.map fun ((label, item), i) =>
    (label, ⟨indent + label.length, if i + 1 = items.length then allowance else 1, false⟩, item)

/-- A value over as many lines as it needs; `path` holds the containers around it. -/
def spread : (fuel : Nat) → (path : List Content) → Place → Value → Look String
  | 0, _, _, _ => throw (.tooDeep "")
  | fuel + 1, path, place, v => do
    let path' := v.content :: path
    let labelled (opening closing : String) (indent allowance : Int) (items : List (String × Value)) :
        Look String := do
      let parts ← (itemPlaces indent allowance items).mapM fun (label, place, w) => do
        return label ++ (← spread fuel path' place w)
      return opening ++ ("," ++ newLine indent).intercalate parts ++ closing
    let items (opening closing : String) (items : List Value) : Look String :=
      labelled opening closing (place.indent + 1) (place.allowance + closing.length)
        (items.map fun w => ("", w))
    let fields (name : String) (named : List (String × Value)) : Look String :=
      labelled (name ++ "(") ")" (place.indent + name.length + 1) place.allowance
        (named.map fun (n, w) => (n ++ "=", w))
    if path.contains v.content then return recursionText v
    let whole ← flat future (fuel + 1) path v
    if whole.length ≤ lineWidth - place.indent - place.allowance then return whole
    else match v.content, v.record? with
    | .dict r, _ => do
      let entries ← (← entriesInOrder r).mapM fun (k, w) => do
        return ((← flat future fuel path' k) ++ ": ", w)
      labelled "\x7b" "\x7d" (place.indent + 1) (place.allowance + 1) entries
    | .list r, _ => do items "[" "]" (← Look.items r)
    | .tuple r, Option.none => do
      let ws ← Look.items r
      items "(" (tupleEnd ws.length) ws
    | .set r, _ => do
      items "\x7b" "\x7d" (← sortBy standsBefore (← Look.items r))
    | .str s, _ =>
      let inParens : Int := if place.isOutermost then 1 else 0
      if s.isEmpty then return whole
      else match textPieces s.toList (lineWidth - place.indent - inParens) (place.allowance + inParens) with
      | [piece] => return piece
      | pieces => return stacked place.isOutermost (place.indent + inParens) pieces
    | .bytes bs, _ =>
      let inParens : Int := if place.isOutermost then 1 else 0
      if bs.length ≤ 4 then return whole
      else
        return stacked place.isOutermost (place.indent + inParens)
          (bytePieces bs (lineWidth - place.indent - inParens) (place.allowance + inParens))
    | .proxy r, _ => do
      let inside : Place := ⟨place.indent + 13, place.allowance + 1, false⟩
      return showCall "mappingproxy" [← spread fuel path' inside (.ofContent (.dict r))]
    | .point r, _ => do
      fields "Point" [("x", ← Look.itemAt r 0), ("y", ← Look.itemAt r 1)]
    | .trusted c r, _ => do
      fields "TrustedValue"
        [("category", .ofContent (.category c)), ("value", ← Look.itemAt r 0)]
    | _, _ => return whole

/-- A value over as many lines as it needs. -/
def pretty (v : Value) : Look String := spread future shownLevels [] ⟨0, 0, true⟩ v

end Value

end Interpolation
