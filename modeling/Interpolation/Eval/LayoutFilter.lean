import Interpolation.Eval.SequenceFilter
import Interpolation.Eval.TextFilter
import Interpolation.Number.Fixed
import Interpolation.Text.Link
import Interpolation.Text.Wrap
import Interpolation.Value.Pretty

/-!
# Filters that lay values out

These filters make texts for a reader: lines of limited width, links, attributes of a tag, sizes of
files, and values over several lines. What they are told about the layout is looked at when it is
needed, so that a width of a wrong type may go unnoticed.

Main definitions:

* `Setting.wrapped`: a text in lines of limited width.
* `Setting.linkText`: a text with its addresses as links.
* `Setting.attributesText`: a mapping as the attributes of a tag.
* `sizeText`: a number of bytes in a suitable unit.
-/

namespace Interpolation

open Interpolation.Text Interpolation.Number

namespace Value

/-- The characters of a value that is compared with a pattern. -/
def patternChars (v : Value) : Except Fault (List Char) :=
  match v.content, v.text? with
  | .bytes _, _ => .error (.refused "TypeError" "cannot use a string pattern on a bytes-like object")
  | _, some t => .ok t.toList
  | _, Option.none =>
    .error (.refused "TypeError"
      ("expected string or bytes-like object, got " ++ quote v.typeWord))

/-- The greatest number of characters that a width has room for; `all` if there is no greatest
one. -/
def columns (width : Value) (all : Nat) : Nat :=
  match width.content, width.int? with
  | _, some n => n.toNat
  | .float x, Option.none => (((Binary.ofFloat x).floor?).map Int.toNat).getD all
  | .decimal d, Option.none => ((d.floor?).map Int.toNat).getD all
  | _, Option.none => all

/-- Whether the value is the truth value that says yes. -/
def isYes (v : Value) : Bool :=
  match v.content with
  | .bool b => b
  | _ => false

end Value

/-! ## Sizes of files -/

/-- The units of sizes, each for a further power of the base. -/
def sizeUnits (isBinary : Bool) : List String :=
  ["k", "M", "G", "T", "P", "E", "Z", "Y"].map fun letter =>
    if isBinary then letter.toUpper ++ "iB" else letter ++ "B"

/-- A size in the first unit that it is small for, or else in the last one; `power` is the next
power of the base, which a unit is compared with. -/
def sizeIn (base : Nat) (x : Float) : (power : Nat) → List String → String
  | _, [] => ""
  | power, unit :: units =>
    let isLess := (Binary.ofFloat x).compare? (Binary.ofInt (power * base)) == some .lt
    if isLess || units.isEmpty then
      let scaled := Float.ofNat base * x / (floatOfInt? (power * base)).getD x
      magnitudeText .fixed 1 false false scaled ++ " " ++ unit
    else sizeIn base x (power * base) units

/-- A number of bytes in a suitable unit. -/
def sizeText (v binary : Value) : Look Value := do
  let x ← v.toFloat
  let isBinary ← binary.truth
  let base := if isBinary then 1024 else 1000
  let order (n : Nat) : Option Ordering := (Binary.ofFloat x).compare? (Binary.ofInt n)
  if order 1 == some .eq then return .str "1 Byte"
  else if order base == some .lt then return .str (toString (← Value.truncated x) ++ " Bytes")
  else return .str (sizeIn base x base (sizeUnits isBinary))

namespace Setting

variable (s : Setting)

/-! ## Lines -/

/-- The width of lines for some chunks; `all` is the length of all of them. -/
def lineWidth (width cuts hyphens : Value) (all : Nat) (parts : List (List Char)) :
    Look LineWidth := do
  if ← Value.ordered .le width (.int 0) then
    throw (.refused "ValueError" ("invalid width " ++ (← s.repr width) ++ " (must be > 0)"))
  let columns := width.columns all
  let isCut ← if parts.any fun part => columns < part.length then cuts.truth else pure false
  let isCutBehindHyphens ← if isCut then hyphens.truth else pure false
  if isCut && 0 < columns && width.int?.isNone then throw .sliceBounds
  return ⟨columns, isCut, isCutBehindHyphens⟩

/-- The parts of a line that fit into a width. -/
def wrappedLine (width cuts hyphens line : Value) : Look (List Value) := do
  let text ← line.patternChars
  let parts := if hyphens.isYes then chunks text else plainChunks text
  let w ← s.lineWidth width cuts hyphens text.length parts
  return (w.fillLines parts).map Value.ofChars

/-- A call with a list of values. -/
def callWithList (callee : Value) (items : List Value) : Eval Value := do
  s.call callee ⟨[← Eval.list items], []⟩

/-- A text in lines of limited width; `arguments` are the width, whether words are cut, what stands
between lines, and whether words are cut behind hyphens. -/
def wrapped (v : Value) (arguments : List Value) : Eval Value := do
  let width := (arguments[0]?).getD (.int 79)
  let cuts := (arguments[1]?).getD (.bool true)
  let given := (arguments[2]?).getD .none
  let hyphens := (arguments[3]?).getD (.bool true)
  let between := if given.isNone then Value.str "\n" else given
  let join ← between.attributeNamed "join"
  let source ← ((← s.answerOf v "splitlines").source : Look Source)
  let texts ← s.mapSource (fun line => do
    let join ← between.attributeNamed "join"
    s.callWithList join (← (s.wrappedLine width cuts hyphens line : Look _))) source
  s.callWithList join texts

/-! ## Attributes of a tag -/

/-- Whether a character ends the name of an attribute of a tag. -/
def endsName (c : Char) : Bool := isBreak c || c == '/' || c == '>' || c == '='

/-- An attribute of a tag, unless the value is nothing or missing. -/
def attributeText (entry : Value) : Eval (Option (List Char)) := do
  let (key, w) ← s.pairOf entry
  if w.isNone || w.isMissing then return none
  else
    if (← key.patternChars).any endsName then
      let shown ← (s.repr key : Look String)
      throw (.refused "ValueError" ("Invalid character in attribute name: " ++ shown))
    let name ← (s.escaped key : Look _)
    return some (name ++ "=\"".toList ++ (← (s.escaped w : Look _)) ++ "\"".toList)

/-- A mapping as the attributes of a tag. -/
def attributesText (v autospace : Value) : Eval Value := do
  let source ← ((← s.answerOf v "items").source : Look Source)
  let parts := (← s.mapSource s.attributeText source).filterMap id
  let text := [' '].intercalate parts
  if ← (autospace.truth : Look Bool) then
    return .ofChars (if text.isEmpty then text else ' ' :: text)
  else return .ofChars text

/-! ## Links -/

/-- Puts a value into a list of texts in order, unless it is there. -/
def insertWord (words : List Value) (w : Value) : Look (List Value) := do
  (w.requireKey : Look Unit)
  if ← memberOf w words then return words else return words ++ [w]

/-- The words of a value, which has none if it does not count as true. -/
def wordsOf (v : Value) : Eval (List Value) := do
  if ← (v.truth : Look Bool) then s.items (← s.answerOf v "split") else return []

/-- Words in order, each of them once. -/
def sortedWords (words : List Value) : Look (List Char) := do
  let sorted ← sortBy (Value.ordered .lt) (← words.foldlM insertWord [])
  return [' '].intercalate (sorted.map Value.chars)

/-- The words that tell how a page is related to the one that a link leads to. -/
def relations (related nofollow : Value) : Eval (List Char) := do
  let given ← s.wordsOf related
  let isOwn ← (nofollow.truth : Look Bool)
  let own : List Value := if isOwn then [.str "nofollow"] else []
  sortedWords (given ++ own ++ [.str "noopener"])

/-- The beginning of addresses that a value is. -/
def schemeOf (v : Value) : Look (List Char) := do
  let text ← v.patternChars
  if Pattern.scheme.fits text then return text
  else throw (.filterArgument ((← s.repr v) ++ " is not a valid URI scheme prefix."))

/-- The beginnings of addresses that a value names. They are gone through once to look at them, and
once again for the links; nothing is left of a stream then. -/
def schemesOf (v : Value) : Eval (List (List Char)) := do
  if v.isNone then return []
  else
    let schemes ← s.mapSource (fun w => (s.schemeOf w : Look _)) (← v.source)
    match v.content with
    | .stream .. => return []
    | _ => return schemes

/-- An address cut to a length. -/
def shortened (limit : Value) (address : List Char) : Look (List Char) := do
  if limit.isNone then return address
  else if ← Value.ordered .gt (.int address.length) limit then
    match ← limit.bound? with
    | some n => return Value.sliceItems address none (some n) 1 ++ "...".toList
    | none => return address
  else return address

/-- An attribute of a tag with a text. -/
def tagAttribute (name : String) (text : List Char) : List Char :=
  (" " ++ name ++ "=\"").toList ++ text ++ "\"".toList

/-- The attribute that says where a link is opened. -/
def targetAttribute (target : Value) : Look (List Char) := do
  if ← target.truth then return tagAttribute "target" (← s.escaped target) else return []

/-- A text with its addresses as links; `arguments` are the length to which addresses are cut,
whether links are not to be followed, where they are opened, how the pages are related, and how
other addresses begin. -/
def linkText (v : Value) (arguments : List Value) : Eval Value := do
  let arg (i : Nat) : Value := (arguments[i]?).getD .none
  let related ← s.relations (arg 3) (arg 1)
  let schemes ← s.schemesOf (arg 4)
  let text ← (s.escaped v : Look _)
  let target ← (s.targetAttribute (arg 2) : Look _)
  let style : LinkStyle (ReaderT Store (Except Fault)) :=
    ⟨shortened (arg 0), tagAttribute "rel" (escapeHtmlChars related) ++ target, schemes⟩
  return .ofChars (← (style.linked text : Look _))

end Setting

end Interpolation
