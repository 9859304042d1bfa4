import Interpolation.Json.Basic
import Interpolation.Value.Order
import Interpolation.Value.Shown
import Interpolation.Text.Quoted

/-!
# Values inside scripts

A value is written into a script as a JSON document of another dialect than the one of rendered
values: entries are sorted by their keys, there are blanks behind the separators, all characters
outside ASCII are escaped, and so are the four characters that have a meaning in markup. With an
indentation every item stands on a line of its own. A container that holds itself has no document.

Main definitions:

* `Value.scriptText`: the text of a value inside a script.
-/

namespace Interpolation

open Interpolation.Text

/-- How a document is spread over lines: not at all, or with an indentation for each level. -/
abbrev Spread := Option (List Char)

namespace Spread

/-- What stands before an item at a level; `first` says that it follows the opening bracket. -/
def before (s : Spread) (level : Nat) (first : Bool) : List Char :=
  match s with
  | none => if first then [] else [',', ' ']
  | some indention =>
    (if first then [] else [',']) ++ '\n' :: (List.replicate level indention).flatten

/-- What stands before the closing bracket of a level. -/
def after (s : Spread) (level : Nat) : List Char :=
  match s with
  | none => []
  | some indention => '\n' :: (List.replicate level indention).flatten

end Spread

/-- A character by its code, in four digits. -/
def scriptUnit (n : Nat) : List Char := '\\' :: 'u' :: hex 4 n

/-- A character of a text inside a script; characters beyond the first plane are two units. -/
def scriptChar (c : Char) : List Char :=
  if c.toNat < 0x7f then Json.writeChar c
  else if c.toNat = 0x7f then [c]
  else if codePoint c < 0x10000 then scriptUnit (codePoint c)
  else
    let n := c.toNat - 0x10000
    scriptUnit (0xd800 + n / 0x400) ++ scriptUnit (0xdc00 + n % 0x400)

/-- A text inside a script, between quotes. -/
def scriptString (s : String) : List Char := '"' :: s.toList.flatMap scriptChar ++ ['"']

/-- A document in which no character has a meaning in markup. -/
def scriptSafe (document : List Char) : List Char :=
  document.flatMap fun c =>
    if c = '<' ∨ c = '>' ∨ c = '&' ∨ c = '\'' then scriptUnit c.toNat else [c]

namespace Value

/-- The text of a number or a constant inside a script. -/
def scriptAtom? (v : Value) : Option (Except Fault String) :=
  match v.content with
  | .none => some (.ok "null")
  | .bool b => some (.ok (if b then "true" else "false"))
  | .int n => some (integerText n)
  | .float x =>
    some (.ok (if x.isNaN then "NaN"
      else if x.isInf then (if x < 0 then "-Infinity" else "Infinity")
      else Number.floatText x))
  | _ => Option.none

/-- The key of an entry inside a script; `typeWord` names the type of one that has no text. -/
def scriptKey (typeWord : Value → String) (k : Value) : Except Fault String :=
  match k.text?, k.scriptAtom? with
  | some s, _ => .ok s
  | _, some s => s
  | _, _ => .error (.keyNotSerializable (typeWord k))

/-- The entries in the order of their keys. -/
def sortedEntries (entries : List (Value × Value)) : Look (List (Value × Value)) :=
  sortBy (fun x y => orderedItems .lt (ordered .lt) [x.1, x.2] [y.1, y.2]) entries

/-- The parts of a container inside a script, between brackets. -/
def scriptBracketed (spread : Spread) (level : Nat) (first last : Char)
    (parts : List (List Char)) : List Char :=
  match parts with
  | [] => [first, last]
  | part :: parts =>
    first :: spread.before (level + 1) true ++ part
      ++ parts.flatMap (fun p => spread.before (level + 1) false ++ p)
      ++ spread.after level ++ [last]

/-- The document of a value at a level; `path` holds the containers around it. -/
def scriptChars (spread : Spread) :
    (fuel level : Nat) → (path : List Content) → Value → Look (List Char)
  | 0, _, _, _ => throw (.tooDeep " while encoding a JSON object")
  | fuel + 1, level, path, v =>
    let inner (w : Value) : Look (List Char) :=
      scriptChars spread fuel (level + 1) (v.content :: path) w
    let sequence (r : Ref) : Look (List Char) := do
      let items ← Look.items r
      if !items.isEmpty && path.contains v.content then throw .endless
      return scriptBracketed spread level '[' ']' (← items.mapM inner)
    match v.text?, v.scriptAtom?, v.content with
    | some s, _, _ => return scriptString s
    | _, some s, _ => do return (← s).toList
    | _, _, .list r => sequence r
    | _, _, .tuple r => sequence r
    | _, _, .dict r => do
      let entries ← Look.entries r
      if !entries.isEmpty && path.contains v.content then throw .endless
      let parts ← (← sortedEntries entries).mapM fun (k, w) => do
        let key ← k.scriptKey (if spread.isNone then typeWord else typeName)
        return scriptString key ++ ':' :: ' ' :: (← inner w)
      return scriptBracketed spread level '\x7b' '\x7d' parts
    | _, _, _ => throw (.notSerializable v.typeName)

/-- The text of a value inside a script. The containers around a value are all different, so the
cells of the store bound their number. -/
def scriptText (spread : Spread) (v : Value) : Look String := do
  let document ← scriptChars spread ((← read).cells.size + 2) 0 [] v
  return String.ofList (scriptSafe document)

end Value

end Interpolation
