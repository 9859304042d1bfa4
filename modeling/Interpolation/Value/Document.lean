import Interpolation.Eval.Walk
import Interpolation.Json.Basic
import Interpolation.Text.Utf8

/-!
# Values as documents

A value that is no text is rendered as a JSON document. Sequences become arrays, records and objects
become objects of their public attributes, streams become arrays of the items that they still give,
and what has no attributes becomes its text. A value that holds itself has no document, and neither
has one with too many levels.

Main definitions:

* `Setting.toDocument`: the document of a value.
* `Setting.keyText`: the text of a value as a key of an object.
* `Setting.coerce`: the text of a value: nothing is empty, text stays, all else is its document.
-/

namespace Interpolation

open Interpolation.Text Interpolation.Number

/-- The number of levels that a document may have. -/
def documentDepth : Nat := 255

/-- The fault of a document with too many levels. -/
def documentTooDeep : Fault := .unwritable "ValueError: Maximum serialization depth exceeded"

/-- The fault of a value that holds itself. -/
def documentEndless : Fault := .unwritable "ValueError: Circular reference detected (id repeated)"

/-- A fault met inside a document. -/
def Fault.inDocument (f : Fault) : Fault :=
  match f with
  | .unwritable reason => .unwritable reason
  | f => .unwritable (f.label ++ ": " ++ f.message)

/-- A text as it stands in a document. -/
def documentText (s : String) : Except Fault String :=
  match encode s.toList with
  | .ok _ => .ok s
  | .error f => .error (Fault.inDocument (.unencodable f))

/-- The text of bytes in a document. -/
def bytesText (bs : List UInt8) : Except Fault String :=
  match utf8Decode bs with
  | .ok s => .ok (String.ofList s)
  | .error f =>
    let place := " from index " ++ toString f.position
    .error (.unwritable (match f.cause with
      | .start => "invalid utf-8 sequence of 1 bytes" ++ place
      | .continuation n => "invalid utf-8 sequence of " ++ toString n ++ " bytes" ++ place
      | .incomplete => "incomplete utf-8 byte sequence" ++ place))

/-- The text of bytes as a key of an object. -/
def bytesKey (bs : List UInt8) : Except Fault String :=
  match utf8Decode bs with
  | .ok s => .ok (String.ofList s)
  | .error f =>
    .error (.unwritable ("UnicodeDecodeError: 'utf-8' codec can't decode byte 0x"
      ++ String.ofList (hex 2 f.byte.toNat) ++ " in position " ++ toString f.position
      ++ ": invalid utf-8"))

/-- Whether an attribute is part of the document of its object. -/
def isPublic (name : String) : Bool := name.toList.head? != some '_'

/-- The attributes that are part of the document of an object. -/
def Value.publicAttributes (v : Value) : Look (List (String × Value)) :=
  match v.content with
  | .object r => do return (← Look.attributes r).filter fun (n, _) => isPublic n
  | .cycler r => do return ["items", "pos"].zip (← Look.items r)
  | .joiner r => do return ["sep", "used"].zip (← Look.items r)
  | _ => return []

/-- The public methods that a type is written with. -/
def typeMethods (name : String) : List (String × Json) :=
  let method (owner : String) (m : String) : String × Json :=
    (m, .str ("<method '" ++ m ++ "' of '" ++ owner ++ "' objects>"))
  let member (owner : String) (m : String) : String × Json :=
    (m, .str ("<member '" ++ m ++ "' of '" ++ owner ++ "' objects>"))
  if name = "range" then
    [method name "count", method name "index", member name "start", member name "stop",
      member name "step"]
  else if name = "dict" then
    ["get", "setdefault", "pop", "popitem", "keys", "items", "values", "update", "fromkeys",
      "clear", "copy"].map (method name)
  else []

/-- The document of a value without parts, unless it is one with a document of another sort. -/
def Content.atomDocument? : Content → Option (Except Fault Json)
  | .none => some (.ok .null)
  | .bool b => some (.ok (.bool b))
  | .int n => some (.ok (.int n))
  | .float x => some (.ok (.float x))
  | .complex re im => some (.ok (.str (complexDocument re im)))
  | .str s | .markup s => some ((documentText s).map .str)
  | .bytes bs => some ((bytesText bs).map .str)
  | .date d => some (.ok (.str d.text))
  | .datetime d c => some (.ok (.str (d.text ++ "T" ++ c.jsonText)))
  | .time c => some (.ok (.str c.jsonText))
  | .duration d => some (.ok (.str d.jsonText))
  | .decimal d => some (.ok (.str d.text))
  | .global .range => some (.ok (.object (typeMethods "range")))
  | .global .dict | .generic _ => some (.ok (.object (typeMethods "dict")))
  | .typeNamed n => some (.ok (.object (typeMethods n)))
  | .global _ | .selfReference => some (.ok (.object []))
  | _ => Option.none

namespace Setting

variable (s : Setting)

/-- The fault of a value that is no key of an object. -/
def noDocumentKey (kind : String) : Fault :=
  .unwritable ("TypeError: `" ++ kind ++ "` not valid as object key")

/-- The text of a value as a key of an object, down to a number of levels. -/
def keyTextTo : (fuel : Nat) → Value → Look String
  | 0, _ => throw documentTooDeep
  | fuel + 1, v =>
    match v.content with
    | .none => return "None"
    | .bool b => return if b then "true" else "false"
    | .int n => (integerText n).mapError Fault.inDocument
    | .float x => return floatText x
    | .complex re im => return complexDocument re im
    | .str t | .markup t => documentText t
    | .category c => return c.name
    | .bytes bs => bytesKey bs
    | .tuple r => do
      return String.intercalate "," (← (← Look.items r).mapM (keyTextTo fuel))
    | .decimal d => return d.text
    | .date d => return d.text
    | .datetime d c => return d.text ++ "T" ++ c.jsonText
    | .time c => return c.jsonText
    | .duration d => return d.jsonText
    | .token _ => s.repr v
    | .zone _ => s.display v
    | .member sort _ _ =>
      if sort = "function" then throw (noDocumentKey "dict") else s.display v
    | .missing .strict m => throw (Fault.inDocument m.fault)
    | .missing _ _ => return ""
    | .range .. => s.repr v
    | .future id => if id.runner = .threads then throw (noDocumentKey "dict") else s.repr v
    | .trusted .. => throw (noDocumentKey "dataclass")
    | _ => throw (noDocumentKey "dict")

/-- The text of a value as a key of an object. -/
def keyText (v : Value) : Look String := s.keyTextTo documentDepth v

/-- The text of a value that has no attributes of its own. -/
def ownText (v : Value) : Look Json := do return .str (← documentText (← s.display v))

/-- What stands for a value that is known neither by its type nor by its parts, one level down. -/
def plainDocument (v : Value) : Look Json :=
  match v.content with
  | .category c => return .str c.name
  | .future id => if id.runner = .threads then return .object [] else s.ownText v
  | .missing .strict m => throw (Fault.inDocument m.fault)
  | .method "method" _ _ | .member "function" _ _ | .member "MissingType" _ _ | .failure .. =>
    return .object []
  | _ => s.ownText v

/-- The document of a value with room for a number of levels; `path` holds the values around it. -/
def toDocument : (room : Nat) → (path : List Content) → Value → Eval Json
  | 0, path, v => throw (if path.contains v.content then documentEndless else documentTooDeep)
  | room + 1, path, v => do
    if v.content.isCell && path.contains v.content then throw documentEndless
    let around := v.content :: path
    let inner (w : Value) : Eval Json := toDocument room around w
    match v.content, v.content.atomDocument? with
    | _, some document => document
    | .list r, _ | .tuple r, _ | .set r, _ => do
      return .array (← (← (Look.items r : Look _)).mapM inner)
    | .dict r, _ => do
      return .object (← (← (Look.entries r : Look _)).mapM fun (k, w) => do
        let key ← (s.keyText k : Look String)
        return (key, ← inner w))
    | .point r, _ => do
      let x ← inner (← (Look.itemAt r 0 : Look _))
      return .object [("x", x), ("y", ← inner (← (Look.itemAt r 1 : Look _)))]
    | .trusted c r, _ => do
      if room < 2 then throw documentTooDeep
      return .object [("category", .str c.name),
        ("value", ← inner (← (Look.itemAt r 0 : Look _)))]
    | .stream _ r, _ =>
      Eval.orElse (do return .array (← s.mapSource inner (.stream r))) fun f => throw f.inDocument
    | .object _, _ | .cycler _, _ | .joiner _, _ =>
      match room with
      | 0 => throw documentTooDeep
      | room + 1 => do
        let shown ← (v.publicAttributes : Look _)
        return .object (← shown.mapM fun (n, w) => do return (n, ← toDocument room around w))
    | _, _ => do
      if room < 1 then throw documentTooDeep
      (s.plainDocument v : Look Json)

/-- The text of a value: nothing is the empty text, text stays as it is, and all else is written as
a document. -/
def coerce (v : Value) : Eval String :=
  match v.content, v.text? with
  | .none, _ => return ""
  | _, some t => return t
  | _, none => do return (← s.toDocument documentDepth [] v).write

end Setting

end Interpolation
