import Interpolation.Number.Layout

/-!
# JSON documents

The documents that values are written as, and their compact text: no blanks outside of texts, the
entries of objects in their order.

Main definitions:

* `Json`: a document.
* `Json.write`: its text.
-/

namespace Interpolation

/-- A JSON document. -/
inductive Json where
  | null
  | bool (b : Bool)
  | int (n : Int)
  | float (x : Float)
  | str (s : String)
  | array (items : List Json)
  | object (entries : List (String × Json))

namespace Json

/-- A digit in base sixteen. -/
def hexDigit (n : Nat) : Char := if n < 10 then Char.ofNat (48 + n) else Char.ofNat (87 + n)

/-- A character inside a JSON text: quotes, backslashes and control characters are escaped. -/
def writeChar (c : Char) : List Char :=
  match c with
  | '"' => ['\\', '"']
  | '\\' => ['\\', '\\']
  | '\n' => ['\\', 'n']
  | '\r' => ['\\', 'r']
  | '\t' => ['\\', 't']
  | '\x08' => ['\\', 'b']
  | '\x0c' => ['\\', 'f']
  | c =>
    if c.toNat < 0x20 then
      ['\\', 'u', '0', '0', hexDigit (c.toNat / 16), hexDigit (c.toNat % 16)]
    else [c]

/-- A text between quotes. -/
def writeText (s : List Char) : List Char := '"' :: s.flatMap writeChar ++ ['"']

mutual

/-- The characters of a document. -/
def writeChars : Json → List Char
  | .null => "null".toList
  | .bool b => (if b then "true" else "false").toList
  | .int n => (toString n).toList
  | .float x => (Number.FloatLayout.json.write x).toList
  | .str s => writeText s.toList
  | .array items => '[' :: writeItems items
  | .object entries => '\x7b' :: writeEntries entries

/-- The items of an array and its end. -/
def writeItems : List Json → List Char
  | [] => [']']
  | [j] => writeChars j ++ [']']
  | j :: k :: js => writeChars j ++ ',' :: writeItems (k :: js)

/-- The entries of an object and its end. -/
def writeEntries : List (String × Json) → List Char
  | [] => ['\x7d']
  | [(k, j)] => writeText k.toList ++ ':' :: writeChars j ++ ['\x7d']
  | (k, j) :: e :: es =>
    writeText k.toList ++ ':' :: writeChars j ++ ',' :: writeEntries (e :: es)

end

/-- The compact text of a document. -/
def write (j : Json) : String := String.ofList j.writeChars

end Json

end Interpolation
