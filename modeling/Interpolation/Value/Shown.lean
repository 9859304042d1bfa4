import Interpolation.Value.Store

/-!
# Values as plain text

A value is shown in two ways: in full, as it would be written in a program, and plainly, as it
stands in a text. The two differ for text and for a few types; inside a container everything is
shown in full. A container that holds itself is not shown again inside of itself. How a future is
shown depends on its state, so it is a parameter.

Main definitions:

* `Value.repr`: a value in full.
* `Value.display`: a value in a text; a strict missing value refuses.
* `integerText`: the digits of an integer, which has an end.
-/

namespace Interpolation

open Interpolation.Text Interpolation.Calendar Interpolation.Number

/-- Arguments in parentheses behind a name. -/
def showCall (name : String) (arguments : List String) : String :=
  name ++ "(" ++ String.intercalate ", " arguments ++ ")"

/-- The greatest number of digits of an integer that is written as a text. -/
def digitLimit : Nat := 4300

/-- Whether an integer has more digits than are written. -/
def exceedsDigits (n : Int) : Bool := n.natAbs.log2 > 14000 && n.natAbs ≥ 10 ^ digitLimit

/-- The digits of an integer. -/
def integerText (n : Int) : Except Fault String :=
  if exceedsDigits n then .error .digitLimit else .ok (toString n)

/-- A text whose characters outside of ASCII are escaped. -/
def asciiOnly (s : String) : List Char :=
  s.toList.flatMap fun c => if c.toNat < 0x80 then [c] else numericEscape (codePoint c)

/-- A text as it stands in a wording, where it may be missing. -/
def Look.wording (x : Look String) : Look Wording := fun store =>
  match x.run store with
  | .ok t => .ok (.text t)
  | .error f => .ok (.unwritten f.unwritten)

namespace Value

/-- A distance to universal time as a text. -/
def zoneText (seconds : Int) : String :=
  if seconds = 0 then "UTC" else "UTC" ++ offsetText seconds

/-- What a type holds under a name, in full. -/
def memberText (sort owner name : String) : String :=
  let among (word : String) : String :=
    "<" ++ word ++ " " ++ quote name ++ " of " ++ quote owner ++ " objects>"
  match sort with
  | "method_descriptor" => among "method"
  | "member_descriptor" => among "member"
  | "getset_descriptor" => among "attribute"
  | "function" => "<function " ++ owner ++ "." ++ name ++ ">"
  | "MissingType" => "missing"
  | sort => "<" ++ sort ++ " object>"

/-- A distance to universal time in full. -/
def offsetRepr (seconds : Int) : String :=
  if seconds = 0 then "datetime.timezone.utc"
  else showCall "datetime.timezone" [(Duration.mk (seconds * 1000000)).full]

/-- The parts of a time of day, seconds and microseconds only when needed. -/
def clockParts (c : Clock) : List String :=
  let seconds :=
    if c.micro ≠ 0 then [toString c.second, toString c.micro]
    else if c.second ≠ 0 then [toString c.second]
    else []
  let zone := match c.offset with
    | some n => ["tzinfo=" ++ offsetRepr n]
    | Option.none => []
  [toString c.hour, toString c.minute] ++ seconds ++ zone

/-- The parts of a date. -/
def dateParts (d : Date) : List String := [toString d.year, toString d.month, toString d.day]

/-- A category in full. -/
def categoryRepr (c : Trust.Category) : String :=
  "<" ++ c.text ++ ": " ++ quote c.name ++ ">"

/-- Texts between brackets. -/
def bracketed (opening closing : String) (parts : List String) : String :=
  opening ++ String.intercalate ", " parts ++ closing

/-- What stands for a container inside of itself. -/
def insideItself (c : Content) : String :=
  match c with
  | .list _ => "[...]"
  | .tuple _ => "(...)"
  | .set _ => "set(...)"
  | .dict _ => "\x7b...\x7d"
  | .bag _ => "<Namespace \x7b...\x7d>"
  | _ => "..."

/-- The text of a type. -/
def typeText (name : String) : String := "<class '" ++ name ++ "'>"

variable (future : FutureId → Look String)

/-- A value in full; `path` holds the containers around it. -/
def reprInside : (fuel : Nat) → (path : List Content) → Value → Look String
  | 0, _, _ => throw (.tooDeep " while getting the repr of an object")
  | fuel + 1, path, v =>
    let inner (w : Value) : Look String := reprInside fuel (v.content :: path) w
    let pair (e : Value × Value) : Look String := do
      let k ← inner e.1
      return k ++ ": " ++ (← inner e.2)
    if path.contains v.content then return insideItself v.content
    else match v.content with
    | .none => return "None"
    | .bool b => return if b then "True" else "False"
    | .int n => integerText n
    | .float x => return floatText x
    | .complex re im => return complexText re im
    | .str s => return quote s
    | .markup s => return showCall "Markup" [quote s]
    | .bytes bs => return quoteBytes bs
    | .list r => do return bracketed "[" "]" (← (← Look.items r).mapM inner)
    | .tuple r => do
      let parts ← (← Look.items r).mapM inner
      match v.record?.bind fun t => t.shownAs?.map fun shown => (shown, t.fields), parts with
      | some (shown, fields), parts =>
        return showCall shown (fields.zipWith (fun n part => n ++ "=" ++ part) parts)
      | Option.none, [item] => return "(" ++ item ++ ",)"
      | Option.none, parts => return bracketed "(" ")" parts
    | .set r => do
      match ← (← Look.items r).mapM inner with
      | [] => return "set()"
      | parts => return bracketed "\x7b" "\x7d" parts
    | .dict r => do return bracketed "\x7b" "\x7d" (← (← Look.entries r).mapM pair)
    | .trusted c r => do
      let w ← inner (← Look.itemAt r 0)
      return showCall "TrustedValue" ["category=" ++ categoryRepr c, "value=" ++ w]
    | .category c => return categoryRepr c
    | .future id => future id
    | .failure label text => return showCall label [quote (← text.require)]
    | .object _ => return "<Obj>"
    | .token r => do return ((← Look.itemAt r 0).text?).getD ""
    | .point r => do
      let x ← inner (← Look.itemAt r 0)
      let y ← inner (← Look.itemAt r 1)
      return showCall "Point" ["x=" ++ x, "y=" ++ y]
    | .date d => return showCall "datetime.date" (dateParts d)
    | .datetime d c => return showCall "datetime.datetime" (dateParts d ++ clockParts c)
    | .time c => return showCall "datetime.time" (clockParts c)
    | .duration d => return d.full
    | .zone n => return offsetRepr n
    | .decimal d => return showCall "Decimal" [quote d.text]
    | .missing .. => return "Undefined"
    | .range a b s => do
      let step ← if s = 1 then pure [] else do pure [← integerText s]
      return showCall "range" ([← integerText a, ← integerText b] ++ step)
    | .slice r => do return showCall "slice" (← (← Look.items r).mapM inner)
    | .stream t _ => return "<" ++ t ++ " object>"
    | .view .keys r => do
      return showCall "dict_keys" [bracketed "[" "]" (← (← Look.entries r).mapM fun e => inner e.1)]
    | .view .values r => do
      return showCall "dict_values"
        [bracketed "[" "]" (← (← Look.entries r).mapM fun e => inner e.2)]
    | .view .items r => do
      let parts ← (← Look.entries r).mapM fun e => do
        let k ← inner e.1
        return bracketed "(" ")" [k, ← inner e.2]
      return showCall "dict_items" [bracketed "[" "]" parts]
    | .bag r => do
      let parts ← (← Look.attributes r).mapM fun (n, w) => do return quote n ++ ": " ++ (← inner w)
      return bracketed "<Namespace \x7b" "\x7d>" parts
    | .proxy r => do
      let parts ← (← Look.entries r).mapM pair
      return showCall "mappingproxy" [bracketed "\x7b" "\x7d" parts]
    | .generic r => do
      let parts ← (← Look.items r).mapM fun w =>
        match w.content with
        | .global g => return g.path
        | .typeNamed n => return n
        | _ => inner w
      return "dict" ++ bracketed "[" "]" (if parts.isEmpty then ["()"] else parts)
    | .cycler _ | .joiner _ => return "<" ++ v.typePath ++ " object>"
    | .method type _ name => return "<" ++ type ++ " " ++ name ++ ">"
    | .member sort owner name => return memberText sort owner name
    | .global .lipsum => return "<function generate_lorem_ipsum>"
    | .global g => return typeText g.path
    | .typeNamed n => return typeText n
    | .selfReference => return "<TemplateReference None>"

/-- The number of levels down to which values are shown. -/
def shownLevels : Nat := 1000

/-- A value in full. -/
def repr (v : Value) : Look String := reprInside future shownLevels [] v

/-- A value as it stands in a text. A strict missing value refuses to be shown. -/
def display (v : Value) : Look String :=
  match v.content with
  | .str s | .markup s => return s
  | .category c => return c.text
  | .date d => return d.text
  | .datetime d c => return d.text ++ " " ++ c.text
  | .time c => return c.text
  | .duration d => return d.text
  | .zone n => return zoneText n
  | .decimal d => return d.text
  | .failure label text => do
    let t ← text.require
    return if label = "KeyError" then quote t else t
  | .missing .strict m => throw m.fault
  | .missing _ _ => return ""
  | .proxy r => (ofContent (.dict r)).repr future
  | _ => v.repr future

end Value

end Interpolation
