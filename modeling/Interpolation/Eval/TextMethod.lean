import Interpolation.Eval.Lookup
import Interpolation.Eval.Signature
import Interpolation.Layout.Braces
import Interpolation.Layout.Percent
import Interpolation.Text.Encoding
import Interpolation.Text.Paragraph
import Interpolation.Text.Tags

/-!
# Methods of texts

A method of a text checks its arguments, in the order in which they stand, and answers with a text,
a list of texts, a number or a truth value. A text of which nothing was taken and to which nothing
was added is answered with itself. The methods of markup answer with markup; the texts that they put
into it are escaped.

Main definitions:

* `Arguments.nothing`, `Arguments.one`, `Arguments.between`: the checks of the number of arguments.
* `TextKind`: text or markup.
* `argumentsOf`: the arguments of a method, as the method of plain texts takes them.
* `callText`: a method of a text.
-/

namespace Interpolation

open Interpolation.Text Interpolation.Number

namespace Arguments

/-- Refuses named arguments. -/
def unnamed (a : Arguments) (callee : String) : Except Fault Unit :=
  if a.named.isEmpty then .ok () else .error (.arity (.unnamed callee))

/-- Refuses all arguments. -/
def nothing (a : Arguments) (callee : String) : Except Fault Unit := do
  a.unnamed callee
  if a.positional.isEmpty then return () else throw (.arity (.none callee a.positional.length))

/-- The only argument. -/
def one (a : Arguments) (callee : String) : Except Fault Value := do
  a.unnamed callee
  match a.positional with
  | [v] => return v
  | vs => throw (.arity (.one callee vs.length))

/-- Positional arguments whose number is within bounds; `owner` is the type that has the method. -/
def between (a : Arguments) (owner name : String) (low high : Nat) :
    Except Fault (List Value) := do
  a.unnamed (owner ++ name)
  let got := a.positional.length
  if got < low then
    throw (.arity (.expected name (if low = high then "" else "at least ") low got))
  if got > high then
    throw (.arity (.expected name (if low = high then "" else "at most ") high got))
  return a.positional

/-- One to three positional arguments of a search: what is searched, and the bounds. -/
def search (a : Arguments) (name : String) : Except Fault (Value × Value × Value) := do
  a.unnamed name
  match a.positional with
  | [] => throw (.arity (.taken name "at least" 1 0))
  | [v] => return (v, .none, .none)
  | [v, i] => return (v, i, .none)
  | [v, i, j] => return (v, i, j)
  | vs => throw (.arity (.taken name "at most" 3 vs.length))

end Arguments

namespace Value

/-- The integer that an argument stands for. -/
def requireInt (v : Value) : Except Fault Int :=
  match v.int? with
  | some n => .ok n
  | Option.none => .error (.notAnInteger v.typeWord)

/-- The integer that an argument stands for, where a machine integer of a number of bits is
expected; `type` is the name of its type. -/
def requireMachineInt (bits : Nat) (type : String) (v : Value) : Except Fault Int := do
  let n ← v.requireInt
  if -2 ^ (bits - 1) ≤ n ∧ n < 2 ^ (bits - 1) then return n
  else throw (.excess (.machineInteger type))

/-- The size that an argument stands for. -/
def requireSize (v : Value) : Except Fault Int := v.requireMachineInt 64 "ssize_t"

/-- The mark that an argument stands for. -/
def requireMark (v : Value) : Except Fault Bool := do
  return (← v.requireMachineInt 32 "int") != 0

/-- The text that an argument stands for. -/
def requireText (v : Value) : Except Fault (List Char) :=
  match v.text? with
  | some s => .ok s.toList
  | Option.none => .error (.mustBeText v.typeWord)

/-- The text that the only argument of a method stands for. -/
def affixText (v : Value) (callee : String) : Except Fault (List Char) :=
  match v.text? with
  | some s => .ok s.toList
  | Option.none => .error (.onlyArgument callee v.typeWord)

end Value

/-- The bytes of a text. -/
def encoded (t : String) : Except Fault (List UInt8) := (encode t.toList).mapError .unencodable

/-- The part of a text between two bounds and where it begins; nothing when it would begin behind
the end. -/
def window (s : List Char) (start stop : Value) : Except Fault (Option (Nat × List Char)) := do
  let size : Int := s.length
  let clamp (i : Int) : Int := if i < 0 then max 0 (i + size) else i
  let first := clamp ((← start.bound?).getD 0)
  let last := min size (clamp ((← stop.bound?).getD size))
  if first > last then return none
  else return some (first.toNat, (s.drop first.toNat).take (last - first).toNat)

/-- The two kinds of text. -/
inductive TextKind where
  | plain
  | markup
deriving DecidableEq, Repr

namespace TextKind

/-- Characters as a text of the kind. -/
def pack (k : TextKind) (s : List Char) : Value :=
  match k with
  | .plain => .str (String.ofList s)
  | .markup => .markup (String.ofList s)

/-- The name of the type. -/
def type (k : TextKind) : String :=
  match k with
  | .plain => "str"
  | .markup => "Markup"

end TextKind

/-- The text that a value is put into markup as. -/
def Setting.escaped (s : Setting) (v : Value) : Look (List Char) :=
  match v.content with
  | .markup t => return t.toList
  | _ => do return escapeHtmlChars (← s.display v).toList

/-- Words between blanks, at most `limit` cuts; what is left behind the last cut stays as it is. -/
def splitBlanks (blank : Char → Bool) :
    (fuel : Nat) → (limit : Option Nat) → List Char → List (List Char)
  | 0, _, _ => []
  | fuel + 1, limit, s =>
    let s := s.dropWhile blank
    if s.isEmpty then []
    else if limit = some 0 then [s]
    else
      let word := s.takeWhile fun c => !blank c
      word :: splitBlanks blank fuel (limit.map (· - 1)) (s.drop word.length)

/-- The separator and the limit of a method that splits a text; `read` reads the separator. -/
def splitArguments (read : Value → Except Fault (List Char)) (a : Arguments) (name : String) :
    Except Fault (Option (List Char) × Option Nat) := do
  let vs ← Parameters.bind ⟨name ++ "()", ["sep", "maxsplit"], 2, 0⟩ a
  let limit ← (argumentAt vs 1 (.int (-1))).requireSize
  let limit := if limit < 0 then none else some limit.toNat
  let sep := argumentAt vs 0 .none
  if sep.isNone then return (none, limit)
  let sep ← read sep
  if sep.isEmpty then throw .emptySeparator
  return (some sep, limit)

/-- The text that separates others. -/
def Value.requireSeparator (v : Value) : Except Fault (List Char) :=
  match v.text? with
  | some s => .ok s.toList
  | Option.none => .error (.mustBeTextOrNone v.typeWord)

/-- The pieces of a text between its separators, or between blanks. -/
def splitText (blank : Char → Bool) (s : List Char) (sep : Option (List Char))
    (limit : Option Nat) : List (List Char) :=
  match sep with
  | none => splitBlanks blank (s.length + 1) limit s
  | some m => if h : m = [] then [s] else splitOn m h s limit

/-- The pieces of a text between its separators, cut from the right. -/
def splitTextRight (blank : Char → Bool) (s : List Char) (sep : Option (List Char))
    (limit : Option Nat) : List (List Char) :=
  ((splitText blank s.reverse (sep.map List.reverse) limit).map List.reverse).reverse

/-- The characters that a text is stripped of. -/
def stripSet (a : Arguments) (name : String) : Except Fault (Char → Bool) := do
  match ← a.between "str." name 0 1 with
  | [] => return isBlank
  | v :: _ =>
    match v.text? with
    | some s => return fun c => s.toList.contains c
    | none => if v.isNone then return isBlank else throw (.textOrNone name)

/-- The width and the fill of a method that pads a text. -/
def padArguments (a : Arguments) (name : String) : Except Fault (Nat × Char) := do
  match ← a.between "str." name 1 2 with
  | [] => return (0, ' ')
  | [w] => return ((← w.requireSize).toNat, ' ')
  | w :: f :: _ =>
    let width := (← w.requireSize).toNat
    match f.text?.map String.toList with
    | some [c] => return (width, c)
    | some _ => throw .fillLength
    | none => throw (.fillType f.typeWord)

/-- Whether a text begins, or ends, with one of the given texts. -/
def affixed (s : List Char) (a : Arguments) (name : String) : Look Bool := do
  let (v, start, stop) ← a.search name
  let part ← window s start stop
  let fits (m : List Char) : Bool :=
    match part with
    | none => false
    | some (_, cs) =>
      if name = "startswith" then (after? m cs).isSome else (after? m.reverse cs.reverse).isSome
  match v.content, v.text? with
  | .tuple r, _ => do
    (← Look.items r).anyM fun w =>
      match w.text? with
      | some m => return fits m.toList
      | none => throw (.affixTuple name w.typeWord)
  | _, some m => return fits m.toList
  | _, none => throw (.textOrTexts name v.typeWord)

/-- A text filled with zeros behind its sign. -/
def zeroFilled (width : Nat) (s : List Char) : List Char :=
  let zeros := List.replicate (width - s.length) '0'
  match s with
  | '+' :: ds => '+' :: zeros ++ ds
  | '-' :: ds => '-' :: zeros ++ ds
  | s => zeros ++ s

/-- Characters as a text of the kind; `itself` takes the place of an equal plain text. -/
def TextKind.packAs (k : TextKind) (itself : Value) (s : List Char) : Value :=
  match k, itself.content with
  | .plain, .str t => if t.toList = s then itself else k.pack s
  | _, _ => k.pack s

/-- A text cut in three at a separator. -/
def partitioned (k : TextKind) (itself : Value) (fromRight : Bool) (s : List Char) (v : Value) :
    Eval Value := do
  let m ← v.requireText
  if m.isEmpty then throw .emptySeparator
  let around (before behind : List Char) : List Value :=
    [k.pack before, k.packAs v m, k.pack behind]
  let parts : List Value :=
    if fromRight then
      match lastIndexOf? m s with
      | some i => around (s.take i) (s.drop (i + m.length))
      | none => [k.pack [], k.pack [], k.packAs itself s]
    else
      match cut? m s with
      | some (before, behind) => around before behind
      | none => [k.packAs itself s, k.pack [], k.pack []]
  Eval.tuple parts

/-- The properties of whole texts. -/
def textProperty? (name : String) : Option (List Char → Bool) :=
  let nonempty (p : Char → Bool) (s : List Char) : Bool := !s.isEmpty && s.all p
  if name = "isdigit" then some (nonempty isDigit)
  else if name = "isdecimal" then some (nonempty fun c => (digitValue? c).isSome)
  else if name = "isnumeric" then some (nonempty isNumeric)
  else if name = "isalpha" then some (nonempty isLetter)
  else if name = "isalnum" then some (nonempty isAlphanumeric)
  else if name = "isspace" then some (nonempty isBlank)
  else if name = "islower" then some (isAllCase isLower)
  else if name = "isupper" then some (isAllCase isUpper)
  else if name = "isascii" then some fun s => s.all fun c => c.toNat < 0x80
  else if name = "isprintable" then some fun s => s.all isPrintable
  else if name = "isidentifier" then some isIdentifier
  else if name = "istitle" then some fun s => s.any isCased && title s == s
  else none

/-- The texts of the same length in other cases. -/
def caseMethod? (name : String) : Option (List Char → List Char) :=
  if name = "upper" then some upper
  else if name = "lower" then some lower
  else if name = "casefold" then some fold
  else if name = "title" then some title
  else if name = "capitalize" then some capitalize
  else if name = "swapcase" then some (swapCaseFrom [])
  else none

/-- A list of texts; a single part that is the whole text is the text itself. -/
def TextKind.packAll (k : TextKind) (itself : Value) (parts : List (List Char)) : Eval Value :=
  match parts with
  | [part] => Eval.list [k.packAs itself part]
  | parts => Eval.list (parts.map k.pack)

/-- The items of a value put together with a text between them; a single text is itself. -/
def joinTexts (setting : Setting) (k : TextKind) (s : List Char) (v : Value) : Eval Value := do
  match k, v.source.run (← getThe Store) with
  | .markup, source => do
    let parts ← setting.mapSource (fun item => (setting.escaped item : Look _)) (← source)
    return .markup (String.ofList (s.intercalate parts))
  | .plain, .error (.notIterable _) => throw .onlyIterable
  | .plain, .error f => throw f
  | .plain, .ok source =>
    let items ← setting.drain source
    let parts ← items.zipIdx.mapM fun (item, i) =>
      match item.text? with
      | some t => return t.toList
      | none => throw (.joinItem i "str" item.typeWord)
    match items with
    | [item] => return k.packAs item (s.intercalate parts)
    | _ => return .ofChars (s.intercalate parts)

/-- Whether a layout is nothing but one field without a specifier. -/
def isSoleField (layout : String) : Bool := layout == "\x7b\x7d" || layout == "\x7b0\x7d"

/-- A layout of a text with its arguments; a text alone in its field is itself. -/
def formatText (setting : Setting) (k : TextKind) (layout : String) (a : Arguments) :
    Eval Value := do
  let t ← Value.fillFields setting.futures.shown (k == .markup) (.arguments a) layout
  match isSoleField layout, a.positional with
  | true, v :: _ => return k.packAs v t.toList
  | _, _ => return k.pack t.toList

/-- Texts filled up to a width. -/
def padded (name : String) (width : Nat) (fill : Char) (s : List Char) : List Char :=
  let room := List.replicate (width - s.length) fill
  if name = "center" then center width fill s
  else if name = "ljust" then s ++ room
  else room ++ s

/-- The number of equal parts that a text has, as a limit for replacing them. -/
def replaceLimit (limit : Int) : Option Nat := if limit < 0 then none else some limit.toNat

/-- A text with one part replaced by another. -/
def replacedIn (setting : Setting) (k : TextKind) (itself : Value) (s : List Char) (a : Arguments) :
    Eval Value := do
  let vs ← a.between "str." "replace" 2 3
  let argument (i : Nat) : Value := (vs[i]?).getD .none
  let part (i : Nat) : Except Fault (List Char) :=
    match (argument i).text? with
    | some t => .ok t.toList
    | none => .error (.argumentType "replace" (i + 1) "str" (argument i).typeWord)
  let old ← part 0
  let new ← if k = .markup then (setting.escaped (argument 1) : Look _) else part 1
  let limit ← ((vs[2]?).getD (Value.int (-1))).requireSize
  let replacedText := replace old new s (replaceLimit limit)
  let unchanged := (argument 0).same (argument 1) || limit == 0 || !occurs old s
  return if unchanged then k.packAs itself replacedText else k.pack replacedText

/-- Where a text stands first, or last, between the bounds of a search; `read` reads the text. -/
def searched (read : Value → Except Fault (List Char)) (name : String) (s : List Char)
    (a : Arguments) : Except Fault (Option Nat) := do
  let (v, start, stop) ← a.search name
  let part ← window s start stop
  let m ← read v
  let find := if name = "rfind" ∨ name = "rindex" then lastIndexOf? m else indexOf? m
  return part.bind fun (offset, cs) => (find cs).map (· + offset)

/-- How often a text stands between the bounds of a search. -/
def counted (read : Value → Except Fault (List Char)) (s : List Char) (a : Arguments) :
    Except Fault Nat := do
  let (v, start, stop) ← a.search "count"
  let part ← window s start stop
  let m ← read v
  return (part.map fun (_, cs) => count m cs).getD 0

/-- The number that a search answers with. -/
def placeAnswer (name : String) (refusal : Fault) (i : Option Nat) : Except Fault Int :=
  match i with
  | some i => .ok i
  | none => if name = "index" ∨ name = "rindex" then .error refusal else .ok (-1)

/-- Whether the marks that end the lines are kept. -/
def keepsEnds (a : Arguments) : Except Fault Bool := do
  let vs ← Parameters.bind ⟨"splitlines()", ["keepends"], 1, 0⟩ a
  (argumentAt vs 0 (.bool false)).requireMark

/-- The distance of the places that tabulators lead to. -/
def tabSize (a : Arguments) : Except Fault Int := do
  let vs ← Parameters.bind ⟨"expandtabs()", ["tabsize"], 1, 0⟩ a
  (argumentAt vs 0 (.int 8)).requireMachineInt 32 "int"

/-- A text with blanks in the place of its tabulators, from a column on. -/
def withoutTabs (size : Int) (column : Nat) : List Char → List Char
  | [] => []
  | c :: s =>
    if c = '\t' then
      let room := if size ≤ 0 then 0 else size.toNat - column % size.toNat
      List.replicate room ' ' ++ withoutTabs size (column + room) s
    else c :: withoutTabs size (if c = '\n' ∨ c = '\r' then 0 else column + 1) s

/-- The encoding and what becomes of the rest, as they are asked for; both are found out only when
they are needed. -/
def codecArguments (callee : String) (a : Arguments) :
    Except Fault (Except Fault Encoding × Except Fault Recovery) := do
  let vs ← Parameters.bind ⟨callee, ["encoding", "errors"], 2, 0⟩ a
  let encoding ← (argumentAt vs 0 (.str "utf-8")).namedText callee "encoding"
  let errors := String.ofList (← (argumentAt vs 1 (.str "strict")).namedText callee "errors")
  let lost (text : String) : Fault := .refused "LookupError" text
  return (
    match Encoding.ofName? encoding with
    | some e => .ok e
    | none => .error (lost ("unknown encoding: " ++ String.ofList encoding)),
    match Recovery.ofName? errors with
    | some r => .ok r
    | none => .error (lost ("unknown error handler name " ++ quote errors)))

/-- The bytes of a text in the encoding that is asked for. -/
def encodedAs (s : List Char) (a : Arguments) : Except Fault (List UInt8) := do
  let (encoding, recovery) ← codecArguments "encode()" a
  let e ← encoding
  match e.write .strict s, recovery with
  | .ok bs, _ => return bs
  | .error _, .error f => throw f
  | .error _, .ok r => (e.write r s).mapError (.refused "UnicodeEncodeError")

/-! ## Tables of characters -/

/-- What takes the place of a character, as a table tells it. -/
def replacement (v : Value) : Except Fault (List Char) :=
  match v.text?, v.int? with
  | some t, _ => .ok t.toList
  | none, some n =>
    if 0 ≤ n ∧ n < 0x110000 then .ok [ofCodePoint n.toNat]
    else .error (.refused "ValueError" "character mapping must be in range(0x110000)")
  | none, none =>
    if v.isNone then .ok []
    else .error (.refused "TypeError" "character mapping must return integer, None or str")

/-- What a table has for a character; a table that has nothing for it leaves it as it is. -/
def translatedChar (table : Value) (c : Char) : Eval (List Char) := do
  let found : Option Value ←
    (some <$> table.itemUnder (.int (codePoint c))).orElse fun f =>
      if f.label = "KeyError" ∨ f.label = "IndexError" then return none else throw f
  match found with
  | some v => replacement v
  | none => return [c]

/-- The key of a table. -/
def tableKey (k : Value) : Except Fault Value :=
  match k.text?.map String.toList, k.int? with
  | some [c], _ => .ok (.int (codePoint c))
  | some _, _ =>
    .error (.refused "ValueError" "string keys in translate table must be of length 1")
  | none, some _ => .ok k
  | none, none =>
    .error (.refused "TypeError" "keys in translate table must be strings or integers")

/-- The texts that a table is made of. -/
def tableTexts (vs : List Value) : Except Fault (List (List Char)) := do
  let rest ← (vs.zipIdx.drop 1).mapM fun (v, i) =>
    match v.text? with
    | some t => .ok t.toList
    | none => .error (.argumentType "maketrans" (i + 1) "str" v.typeWord)
  match vs.head?.bind Value.text? with
  | some t => return t.toList :: rest
  | none =>
    throw (.refused "TypeError"
      "first maketrans argument must be a string if there is a second argument")

/-- The entries of a table that is made of texts: each character of the first one becomes the one
in its place in the second, and those of the third one disappear. -/
def tableOfTexts (texts : List (List Char)) : Except Fault (List (Value × Value)) :=
  let text (i : Nat) : List Char := (texts[i]?).getD []
  let key (c : Char) : Value := .int (codePoint c)
  if (text 0).length ≠ (text 1).length then
    .error (.refused "ValueError" "the first two maketrans arguments must have equal length")
  else
    .ok (((text 0).zip (text 1)).map (fun p => (key p.1, key p.2))
      ++ (text 2).map fun c => (key c, .none))

/-- The entries of a table that is made of arguments. -/
def tableEntries (vs : List Value) : Eval (List (Value × Value)) := do
  match vs with
  | [v] =>
    match v.content with
    | .dict r => (← (Look.entries r : Look _)).mapM fun (k, w) => do return (← tableKey k, w)
    | _ =>
      throw (.refused "TypeError" "if you give only one argument to maketrans it must be a dict")
  | vs => tableOfTexts (← tableTexts vs)

/-- A table of characters. -/
def makeTable (a : Arguments) : Eval Value := do
  let entries ← tableEntries (← a.between "str." "maketrans" 1 3)
  (Building.dict (← (insertEntries [] entries : Look _)) : Building _)

/-! ## Markup -/

/-- The parameters of the methods that markup has of its own. -/
def markupParameters? (name : String) : Option (List Parameter) :=
  if ["capitalize", "casefold", "lower", "striptags", "swapcase", "title", "unescape",
      "upper"].contains name then some []
  else
    match name with
    | "center" | "ljust" | "rjust" => some [required "width", optional "fillchar" (.str " ")]
    | "escape" => some [required "s"]
    | "expandtabs" => some [optional "tabsize" (.int 8)]
    | "format_map" => some [required "mapping"]
    | "join" => some [required "iterable"]
    | "lstrip" | "rstrip" | "strip" => some [optional "chars" .none]
    | "partition" | "rpartition" => some [required "sep"]
    | "removeprefix" => some [required "prefix"]
    | "removesuffix" => some [required "suffix"]
    | "replace" => some [required "old", required "new", optional "count" (.int (-1))]
    | "rsplit" | "split" => some [optional "sep" .none, optional "maxsplit" (.int (-1))]
    | "splitlines" => some [optional "keepends" (.bool false)]
    | "translate" => some [required "table"]
    | "zfill" => some [required "width"]
    | _ => none

/-- Refuses named arguments for parameters that are only given by their places. -/
def requirePlaces (callee : String) (placed known : List String) (a : Arguments) :
    Except Fault Unit :=
  match a.named.find? fun (n, _) => !known.contains n with
  | none => .ok ()
  | some (n, _) =>
    match placed.filter fun p => (a.named.lookup p).isSome with
    | [] => .error (.arity (.unexpected callee n))
    | hidden => .error (.arity (.placedOnly callee (String.intercalate ", " hidden)))

/-- The values for the parameters of a method of markup; few of them can be given by their names. -/
def markupArguments (name : String) (ps : List Parameter) (a : Arguments) :
    Except Fault (List Value) := do
  let callee := "Markup." ++ name
  let byName := ["expandtabs", "rsplit", "split", "splitlines"].contains name
  let names := ps.map Parameter.name
  let itself := if name = "escape" then "cls" else "self"
  requirePlaces callee (if byName then [itself] else itself :: names) (if byName then names else []) a
  Signature.bind ⟨callee, [itself], ps⟩ a

/-- The arguments of a method, as the method of plain texts takes them: markup escapes what is put
into it. -/
def argumentsOf (setting : Setting) (k : TextKind) (name : String) (a : Arguments) :
    Look Arguments := do
  match k, markupParameters? name with
  | .markup, some ps =>
    match name, ← markupArguments name ps a with
    | "center", [w, f] | "ljust", [w, f] | "rjust", [w, f] => do
      return ⟨[w, .markup (String.ofList (← setting.escaped f))], []⟩
    | _, vs => return ⟨vs, []⟩
  | _, _ => return a

/-- A method of a text; `itself` is the text as a value. -/
def callText (setting : Setting) (k : TextKind) (itself : Value) (text : String) (name : String)
    (a : Arguments) : Eval Value := do
  let s := text.toList
  let a ← (argumentsOf setting k name a : Look _)
  match textProperty? name, caseMethod? name with
  | some p, _ => do
    a.nothing ("str." ++ name)
    return .bool (p s)
  | _, some f => do
    a.nothing ("str." ++ name)
    return k.pack (f s)
  | none, none =>
    match name with
    | "split" | "rsplit" => do
      let (sep, limit) ← splitArguments Value.requireSeparator a name
      k.packAll itself (if name = "split" then splitText isBlank s sep limit
        else splitTextRight isBlank s sep limit)
    | "join" => do joinTexts setting k s (← a.one "str.join")
    | "replace" => replacedIn setting k itself s a
    | "startswith" | "endswith" => do return .bool (← (affixed s a name : Look Bool))
    | "find" | "index" | "rfind" | "rindex" => do
      let i ← searched Value.requireText name s a
      return .int (← placeAnswer name .noSubstring i)
    | "count" => do return .int (← counted Value.requireText s a)
    | "strip" => do return k.packAs itself (stripBy (← stripSet a name) s)
    | "lstrip" => do return k.packAs itself (s.dropWhile (← stripSet a name))
    | "rstrip" => do return k.packAs itself (dropEndWhile (← stripSet a name) s)
    | "zfill" => do
      return k.packAs itself (zeroFilled (← (← a.one "str.zfill").requireSize).toNat s)
    | "center" | "ljust" | "rjust" => do
      let (width, fill) ← padArguments a name
      return k.packAs itself (padded name width fill s)
    | "expandtabs" => do
      let size ← tabSize a
      return if s.contains '\t' then k.pack (withoutTabs size 0 s) else k.packAs itself s
    | "partition" => do partitioned k itself false s (← a.one "str.partition")
    | "rpartition" => do partitioned k itself true s (← a.one "str.rpartition")
    | "removeprefix" => do
      let m ← (← a.one "str.removeprefix").affixText name
      return k.packAs itself ((after? m s).getD s)
    | "removesuffix" => do
      let m ← (← a.one "str.removesuffix").affixText name
      return k.packAs itself (((after? m.reverse s.reverse).map List.reverse).getD s)
    | "splitlines" => do
      let keep ← keepsEnds a
      k.packAll itself ((lines s).map fun (line, mark) => if keep then line ++ mark else line)
    | "encode" => do
      let bs ← encodedAs s a
      return .ofContent (.bytes bs)
    | "translate" => do
      let table ← a.one "str.translate"
      return k.pack (← s.mapM (translatedChar table)).flatten
    | "maketrans" => makeTable a
    | "format" => formatText setting k text a
    | "format_map" => do
      let v ← a.one "str.format_map"
      let t ← Value.fillFields setting.futures.shown (k == .markup) (.mapping v) text
      return k.pack t.toList
    | "striptags" => do
      a.nothing "Markup.striptags"
      return .ofChars (stripTags s)
    | "unescape" => do
      a.nothing "Markup.unescape"
      return .ofChars (unescapeHtml s)
    | "escape" => do
      let v ← a.one "Markup.escape"
      return .markup (String.ofList (← (setting.escaped v : Look _)))
    | "__html__" => do
      a.nothing "Markup.__html__"
      return .markup text
    | _ => throw (.notCallable "builtin_function_or_method")

end Interpolation
