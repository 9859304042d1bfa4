import Interpolation.Eval.Lookup
import Interpolation.Layout.Specifier
import Interpolation.Text.Escape

/-!
# Layouts with fields in braces

A layout is a text with fields: the place or the name of an argument, the way from there to a part
of it, a letter for the form, and a specifier, which may hold fields itself. Fields without a place
are numbered in order.

Main definitions:

* `Field`: what stands between two braces.
* `Filling`: what fills the fields.
* `Value.fillFields`: the text of a layout with all fields filled.
-/

namespace Interpolation

open Interpolation.Text Interpolation.Number

/-- What stands between two braces. -/
structure Field where
  /-- The place or the name of the argument and the way to a part of it. -/
  name : List Char
  /-- The letter of the form. -/
  conversion : Option Char
  /-- The specifier. -/
  specifier : List Char

namespace Field

/-- The specifier up to the brace that closes the field; `depth` counts the open braces. -/
def readSpecifier (depth : Nat) : List Char → Except Fault (List Char × List Char)
  | [] => .error (.layout .unclosedSpecifier)
  | c :: s =>
    let depth := if c = '\x7b' then depth + 1 else if c = '\x7d' then depth - 1 else depth
    if depth = 0 then .ok ([], s)
    else do
      let (spec, rest) ← readSpecifier depth s
      return (c :: spec, rest)

/-- The name of a field, the character that ends it, and the rest; brackets may hold anything. -/
def readName (inIndex : Bool) : List Char → Except Fault (List Char × Char × List Char)
  | [] => .error (.layout .unclosedField)
  | c :: s =>
    if inIndex then do
      let (name, stop, rest) ← readName (c ≠ ']') s
      return (c :: name, stop, rest)
    else if c = '\x7b' then .error (.layout .braceInName)
    else if c = '\x7d' ∨ c = ':' ∨ c = '!' then .ok ([], c, s)
    else do
      let (name, stop, rest) ← readName (c = '[') s
      return (c :: name, stop, rest)

/-- The field behind an opening brace, and the rest. -/
def read (s : List Char) : Except Fault (Field × List Char) := do
  let (name, stop, rest) ← readName false s
  if stop = '\x7d' then return (⟨name, none, []⟩, rest)
  else if stop = ':' then
    let (spec, rest) ← readSpecifier 1 rest
    return (⟨name, none, spec⟩, rest)
  else
    match rest with
    | [] => throw (.layout .conversionEnd)
    | [_] => throw (.layout .unclosedSpecifier)
    | c :: '\x7d' :: rest => return (⟨name, some c, []⟩, rest)
    | c :: ':' :: rest =>
      let (spec, rest) ← readSpecifier 1 rest
      return (⟨name, some c, spec⟩, rest)
    | _ => throw (.layout .conversionTail)

end Field

/-- How fields without a place were numbered so far. -/
inductive Numbering where
  | fresh
  | automatic (next : Nat)
  | manual

/-- The place that a name of digits stands for, which must not be too great. -/
def placeOf? (name : List Char) : Except Fault (Option Nat) :=
  if name.isEmpty then .ok none
  else
    match name.foldlM (fun n c => (digitValue? c).map fun d => n * 10 + d) 0 with
    | some n => if n < 2 ^ 63 then .ok (some n) else .error (.layout .tooManyDigits)
    | none => .ok none

/-- One step on the way to a part of an argument. -/
inductive PathStep where
  | attribute (name : List Char)
  | index (key : List Char)

/-- The first step behind the place or the name of an argument, and the rest of the way. -/
def readStep (c : Char) (s : List Char) : Except Fault (PathStep × List Char) :=
  if c = '.' then
    let name := s.takeWhile fun c => c != '.' && c != '['
    if name.isEmpty then .error (.layout .emptyAttribute)
    else .ok (.attribute name, s.drop name.length)
  else if c = '[' then
    let key := s.takeWhile (· != ']')
    if key.length = s.length then .error (.layout .unclosedIndex)
    else if key.isEmpty then .error (.layout .emptyAttribute)
    else .ok (.index key, s.drop (key.length + 1))
  else .error (.layout .afterIndex)

/-- The part of a value that a step leads to. -/
def PathStep.follow (v : Value) : PathStep → Eval Value
  | .attribute name => v.attributeNamed (String.ofList name)
  | .index key => do
    match ← placeOf? key with
    | some n => v.itemUnder (.int n)
    | none => v.itemUnder (.str (String.ofList key))

/-- The part of a value at the end of a way; each step is read when the value before it is there. -/
def followPath : (fuel : Nat) → Value → List Char → Eval Value
  | _, v, [] => return v
  | 0, v, _ => return v
  | fuel + 1, v, c :: s => do
    let (step, rest) ← readStep c s
    followPath fuel (← step.follow v) rest

/-- What fills the fields of a layout. -/
inductive Filling where
  /-- The arguments of a call. -/
  | arguments (a : Arguments)
  /-- What a value has under the names of the fields. -/
  | mapping (v : Value)

namespace Filling

/-- What fills a field of a place; `escaping` says that the layout is markup. -/
def atPlace (escaping : Bool) (i : Nat) : Filling → Except Fault Value
  | arguments a =>
    match a.positional[i]? with
    | some v => .ok v
    | none => .error (if escaping then .noIndex "tuple" else .layout (.noField i))
  | mapping _ => .error (if escaping then .noIndex "tuple" else .layout .hasPlaces)

/-- What fills a field of a name. -/
def named (name : List Char) : Filling → Eval Value
  | arguments a =>
    match a.named.lookup (String.ofList name) with
    | some v => return v
    | none => throw (.noKey (quote (String.ofList name)))
  | mapping v => v.itemUnder (.str (String.ofList name))

end Filling

namespace Value

variable (future : FutureId → Look String) (escaping : Bool) (filling : Filling)

/-- The place or the name of an argument at the beginning of a way, and the way behind it. -/
def splitPath (name : List Char) : List Char × List Char :=
  let first := name.takeWhile fun c => c != '.' && c != '['
  (first, name.drop first.length)

/-- The argument that a field stands for, and how fields are numbered from here on. -/
def fieldArgument (name : List Char) (numbering : Numbering) : Eval (Value × Numbering) := do
  let (first, path) := splitPath name
  let follow (v : Value) : Eval Value := followPath path.length v path
  if first.isEmpty then
    match numbering with
    | .fresh => return (← follow (← filling.atPlace false 0), .automatic 1)
    | .automatic n => return (← follow (← filling.atPlace false n), .automatic (n + 1))
    | .manual => throw (.layout (.mixedNumbering true))
  else
    match ← placeOf? first with
    | some n =>
      match numbering with
      | .automatic _ => throw (.layout (.mixedNumbering false))
      | _ => return (← follow (← filling.atPlace false n), .manual)
    | Option.none => return (← follow (← filling.named first), numbering)

/-- The same for a layout of markup, where only a field without a way counts for the numbering. -/
def markupArgument (name : List Char) (numbering : Numbering) : Eval (Value × Numbering) := do
  let next := match numbering with
    | .automatic n => n
    | _ => 0
  match name, numbering with
  | [], .manual => throw (.layout (.mixedNumbering true))
  | [], _ => return (← filling.atPlace true next, .automatic (next + 1))
  | name, numbering => do
    let isPlace := name.all isDigit
    if isPlace && next > 0 then throw (.layout (.mixedNumbering true))
    let (first, path) := splitPath name
    let v ← match ← placeOf? first with
      | some n => (filling.atPlace true n : Except Fault Value)
      | Option.none => filling.named first
    return (← followPath path.length v path, if isPlace then .manual else numbering)

/-- The value of a field in the form that its letter asks for. -/
def converted (conversion : Option Char) (v : Value) : Look Value :=
  match conversion with
  | Option.none => return v
  | some 's' => do return .str (← v.display future)
  | some 'r' => do return .str (← v.repr future)
  | some 'a' => do return .ofChars (asciiOnly (← v.repr future))
  | some c => throw (.layout (.unknownConversion c escaping))

/-- The text of a field; what is put into markup is escaped unless it is markup. -/
def filled (spec : List Char) (v : Value) : Look (List Char) :=
  let refused : Fault := .layout (.specifierOfMarkup (String.ofList spec) v.typePath)
  match escaping, v.content with
  | true, .markup s => if spec.isEmpty then return s.toList else throw refused
  | true, .missing .chaining _ => if spec.isEmpty then return [] else throw refused
  | true, _ => do return escapeHtmlChars (← v.fill future spec)
  | false, _ => v.fill future spec

/-- The text of a layout from a place on. Specifiers are layouts one level further down. -/
def fillFrom :
    (level fuel : Nat) → Numbering → List Char → Eval (List Char × Numbering)
  | _, 0, numbering, _ => return ([], numbering)
  | _, _, numbering, [] => return ([], numbering)
  | level, fuel + 1, numbering, c :: s =>
    let after (text : List Char) (numbering : Numbering) (rest : List Char) :
        Eval (List Char × Numbering) := do
      let (more, numbering) ← fillFrom level fuel numbering rest
      return (text ++ more, numbering)
    if c = '\x7d' then
      match s with
      | '\x7d' :: rest => after ['\x7d'] numbering rest
      | _ => throw (.layout (.loneBrace '\x7d'))
    else if c = '\x7b' then
      match s with
      | [] => throw (.layout (.loneBrace '\x7b'))
      | '\x7b' :: rest => after ['\x7b'] numbering rest
      | s => do
        let (field, rest) ← Field.read s
        let (v, numbering) ←
          if escaping then markupArgument filling field.name numbering
          else fieldArgument filling field.name numbering
        let v ← (v.converted future escaping field.conversion : Look Value)
        if field.specifier.contains '\x7b' then
          match level with
          | 0 => throw (.layout .tooDeep)
          | level + 1 =>
            let (spec, numbering) ← fillFrom level fuel numbering field.specifier
            after (← v.filled future escaping spec) numbering rest
        else after (← v.filled future escaping field.specifier) numbering rest
    else after [c] numbering s
termination_by structural _ fuel => fuel

/-- The text of a layout with all fields filled; `escaping` says that the layout is markup, into
which values are escaped. -/
def fillFields (layout : String) : Eval String := do
  let cs := layout.toList
  let (text, _) ← fillFrom future escaping filling 1 cs.length .fresh cs
  return String.ofList text

end Value

end Interpolation
