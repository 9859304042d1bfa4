import Interpolation.Eval.SequenceFilter
import Interpolation.Json.Script
import Interpolation.Text.Escape

/-!
# Filters of texts

These filters take a value as a text first: a text stays what it is, markup stays markup, and all
else is shown. A text that a filter leaves as it is is the filter's answer itself.

Main definitions:

* `Setting.softly`: a value as a text.
* `Setting.titled`, `indented`, `truncated`, `urlEncoded`, `script`: filters.
-/

namespace Interpolation

open Interpolation.Text

namespace Value

/-- The characters of a value that counts as text. -/
def chars (v : Value) : List Char := (v.text?.getD "").toList

/-- The kind of a value that counts as text. -/
def textKind (v : Value) : TextKind := if v.isMarkup then .markup else .plain

end Value

namespace Setting

variable (s : Setting)

/-- A value as a text. -/
def softly (v : Value) : Look Value := do
  if v.text?.isSome then return v else return .str (← s.display v)

/-- A value as a text, made anew by a function. -/
def softMap (f : List Char → List Char) (v : Value) : Look Value := do
  let t ← s.softly v
  return t.textKind.pack (f t.chars)

/-- A value as a text, changed by a function or left as it is. -/
def softChange (f : List Char → Except Fault (List Char)) (v : Value) : Look Value := do
  let t ← s.softly v
  return t.textKind.packAs t (← f t.chars)

/-- Whether a character stands before the words of a title. -/
def beforeWord (c : Char) : Bool :=
  isBlank c || c == '-' || c == '(' || c == '\x7b' || c == '[' || c == '<'

/-- The first character in upper case and the rest in lower case. -/
def titledWord : List Char → List Char
  | [] => []
  | c :: rest => upperOf c ++ lower rest

/-- A value as a title. -/
def titled (v : Value) : Look Value := do
  let runs := (← s.softly v).chars.splitBy fun a b => beforeWord a == beforeWord b
  return .ofChars (runs.flatMap titledWord)

/-! ## Indentation -/

/-- The indentation that a width stands for: the text itself, or so many blanks. -/
def indention (width : Value) : Eval Value :=
  if width.text?.isSome then return width else (Value.str " ").multiply width

/-- The fault of adding to a value in its place. -/
def addedInPlace : Fault → Fault
  | .operands "+" left right => .operands "+=" left right
  | f => f

/-- The indentation inside of markup. -/
def markupIndention (width : Value) : Look (List Char) := do return (← s.display width).toList

/-- The lines of a text indented by markup: what stands behind it is escaped. -/
def indentedByMarkup (indention : List Char) (first blank : Bool) (t : List Char) : Value :=
  let body := indent indention blank escapeHtmlChars t
  if first then
    .markup (String.ofList (indention ++ (if blank then body else escapeHtmlChars body)))
  else if blank then .markup (String.ofList body)
  else .ofChars body

/-- A value with its lines indented; `arguments` are the width, and whether to indent the first line
and the empty ones. A line end is put behind the value first, and behind a list for good. -/
def indented (v : Value) (arguments : List Value) : Eval Value := do
  let width ← indention ((arguments[0]?).getD (.int 4))
  let isFirst := (arguments[1]?).getD (.bool false)
  let isBlank := (arguments[2]?).getD (.bool false)
  match v.content, v.text? with
  | .markup t, _ => do
    let space ← (s.markupIndention width : Look _)
    let body := indent space (← (isBlank.truth : Look Bool)) id t.toList
    return .markup (String.ofList (if ← isFirst.truth then space ++ body else body))
  | _, some t => do
    let blank ← (isBlank.truth : Look Bool)
    let first ← (isFirst.truth : Look Bool)
    if width.isMarkup then return indentedByMarkup width.chars first blank t.toList
    else
      let body := indent width.chars blank id t.toList
      return .ofChars (if first then width.chars ++ body else body)
  | .list r, none => do
    (Building.append r (.str "\n") : Building Unit)
    let _ ← (isBlank.truth : Look Bool)
    throw (.noAttribute "list" "splitlines")
  | _, none => do
    let _ ← Eval.orElse (v.add (.str "\n")) fun f => throw (addedInPlace f)
    throw (.noAttribute v.typeWord "splitlines")

/-! ## Shortening -/

/-- A text before its last word. -/
def beforeLastWord (v : Value) : Except Fault Value :=
  match v.content, v.text? with
  | .bytes _, _ => throw (.notBytes "str")
  | .missing _ m, _ => throw m.fault
  | _, some t => return v.textKind.packAs v (withoutLastWord t.toList)
  | _, none => throw (.noAttribute v.typeWord "rsplit")

/-- A value cut to a length; `arguments` are the length, whether to cut words, the ending and the
leeway. -/
def truncated (v : Value) (arguments : List Value) : Eval Value := do
  let length := (arguments[0]?).getD (.int 255)
  let killWords := (arguments[1]?).getD (.bool false)
  let ending := (arguments[2]?).getD (.str "...")
  let given := (arguments[3]?).getD .none
  let leeway := if given.isNone then Value.int 5 else given
  let least ← (ending.size : Look Nat)
  if !(← (Value.ordered .ge length (.int least) : Look Bool)) then
    throw (.tooShort least (← (s.display length : Look String)))
  if !(← (Value.ordered .ge leeway (.int 0) : Look Bool)) then
    throw (.noLeeway (← (s.display leeway : Look String)))
  let size ← (v.size : Look Nat)
  if ← Value.ordered .le (.int size) (← length.add leeway) then return v
  else
    let killed ← (killWords.truth : Look Bool)
    let kept ← v.sliced .none (← s.subtract length (.int least)) .none
    if killed then kept.add ending else (← beforeLastWord kept).add ending

/-! ## Values inside URLs and scripts -/

/-- The bytes of a value inside a URL. -/
def urlBytes (v : Value) : Look (List UInt8) :=
  match v.content, v.text? with
  | .bytes bs, _ => return bs
  | _, some t => encoded t
  | _, none => do encoded (← s.display v)

/-- The two items of a value; a walk goes no further than it has to. -/
def pairOf (v : Value) : Eval (Value × Value) := do
  match v.source.run (← getThe Store) with
  | .error (.notIterable t) => throw (.cannotUnpack t)
  | .error f => throw f
  | .ok source =>
    match ← s.pull source with
    | none => throw (.pairLength 2 0)
    | some (first, source) =>
      match ← s.pull source with
      | none => throw (.pairLength 2 1)
      | some (second, source) =>
        if (← s.pull source).isSome then throw (.pairLength 2 3) else return (first, second)

/-- A pair as a part of a query. -/
def queryPart (v : Value) : Eval (List Char) := do
  let (k, w) ← s.pairOf v
  let key ← (s.urlBytes k : Look _)
  return queryEncodeBytes key ++ '=' :: queryEncodeBytes (← (s.urlBytes w : Look _))

/-- Whether a value is written into a URL as a query: everything that can be walked through and is
no text. -/
def isQuery (v : Value) (source : Except Fault Source) : Bool :=
  v.text?.isNone && (match v.content, source with
    | .selfReference, _ | _, .error (.notIterable _) => false
    | _, _ => true)

/-- A value inside a URL: a text as a path, a sequence of pairs or a mapping as a query. -/
def urlEncoded (v : Value) : Eval Value := do
  let pairs : Value := match v.content with
    | .dict r => .ofContent (.view .items r)
    | _ => v
  let source := pairs.source.run (← getThe Store)
  if isQuery v source then
    return .ofChars (['&'].intercalate (← s.mapSource s.queryPart (← source)))
  else return .ofChars (urlEncodeBytes (← (s.urlBytes v : Look _)))

/-- A value inside a script. -/
def script (v width : Value) : Eval Value := do
  let spread : Spread ←
    if width.isNone || v.text?.isSome then pure none else do pure (some (← indention width).chars)
  return .markup (← (v.scriptText spread : Look String))

end Setting

end Interpolation
