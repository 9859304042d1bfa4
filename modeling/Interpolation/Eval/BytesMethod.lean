import Interpolation.Eval.Answer

/-!
# Methods of bytes

A method of bytes does to them what the method of the same name does to a text, as if each byte were
a character; only letters, digits and blanks of the first 128 characters count as such.

Main definitions:

* `ofBytes`, `toBytes`: bytes as characters, one for each.
* `bytesMethod`: the methods that look at their arguments only.
* `Setting.joinBytes`: bytes put together.
-/

namespace Interpolation

open Interpolation.Text

/-- Bytes as characters, one for each. -/
def ofBytes (bs : List UInt8) : List Char := bs.map fun b => Char.ofNat b.toNat

/-- Characters as bytes, one for each. -/
def toBytes (s : List Char) : List UInt8 := s.map fun c => UInt8.ofNat c.toNat

/-- Characters as an answer of bytes. -/
def Answer.bytes (s : List Char) : Answer := .atom (.bytes (toBytes s))

/-- Characters as an answer of bytes; what did not change is the receiver. -/
def Answer.bytesAs (receiver s : List Char) : Answer :=
  if s = receiver then .itself else .bytes s

/-! ## Arguments -/

/-- The bytes that an argument stands for, as characters. -/
def Value.requireBytes (v : Value) : Except Fault (List Char) :=
  match v.content with
  | .bytes bs => .ok (ofBytes bs)
  | _ => .error (.notBytes v.typeWord)

/-- The bytes, or the single byte, that are searched for. -/
def Value.requireByte (v : Value) : Except Fault (List Char) :=
  match v.content, v.int? with
  | .bytes bs, _ => .ok (ofBytes bs)
  | _, some n => if 0 ≤ n ∧ n < 256 then .ok [Char.ofNat n.toNat] else .error .byteRange
  | _, Option.none =>
    .error (.refused "TypeError"
      ("argument should be integer or bytes-like object, not " ++ quote v.typeWord))

/-- Whether a byte is a blank. -/
def isByteBlank (c : Char) : Bool := isBlank c && c.toNat < 28 || c == ' '

/-- The width and the fill of a method that pads bytes. -/
def padBytes (a : Arguments) (name : String) : Except Fault (Nat × Char) := do
  let vs ← a.between "bytes." name 1 2
  let width := (← ((vs[0]?).getD Value.none).requireSize).toNat
  match vs[1]? with
  | none => return (width, ' ')
  | some v =>
    match v.content with
    | .bytes [b] => return (width, Char.ofNat b.toNat)
    | _ =>
      throw (.argumentType name 2 "a byte string of length 1" v.typeWord)

/-- Whether bytes begin, or end, with one of the given ones. -/
def affixedBytes (s : List Char) (a : Arguments) (name : String) : Look Bool := do
  let (v, start, stop) ← a.search name
  let part ← window s start stop
  let fits (m : List Char) : Bool :=
    match part with
    | none => false
    | some (_, cs) =>
      if name = "startswith" then (after? m cs).isSome else (after? m.reverse cs.reverse).isSome
  match v.content with
  | .tuple r => do (← Look.items r).anyM fun w => do return fits (← w.requireBytes)
  | .bytes bs => return fits (ofBytes bs)
  | _ =>
    throw (.refused "TypeError"
      (name ++ " first arg must be bytes or a tuple of bytes, not " ++ v.typeWord))

/-! ## Cases -/

/-- The words of bytes with their first letter in upper case; `inside` tells whether a letter stands
before them. -/
def titleBytes (inside : Bool) : List Char → List Char
  | [] => []
  | c :: s => (if inside then c.toLower else c.toUpper) :: titleBytes c.isAlpha s

/-- The bytes in another case. -/
def bytesCase? (name : String) : Option (List Char → List Char) :=
  match name with
  | "upper" => some (List.map Char.toUpper)
  | "lower" => some (List.map Char.toLower)
  | "title" => some (titleBytes false)
  | "capitalize" => some fun s => (s.take 1).map Char.toUpper ++ (s.drop 1).map Char.toLower
  | "swapcase" => some (List.map fun c => if c.isUpper then c.toLower else c.toUpper)
  | _ => none

/-- The properties of all bytes. -/
def bytesProperty? (name : String) : Option (List Char → Bool) :=
  let nonempty (p : Char → Bool) (s : List Char) : Bool := !s.isEmpty && s.all p
  match name with
  | "isalnum" => some (nonempty Char.isAlphanum)
  | "isalpha" => some (nonempty Char.isAlpha)
  | "isascii" => some fun s => s.all fun c => c.toNat < 0x80
  | "isdigit" => some (nonempty Char.isDigit)
  | "islower" => some fun s => s.any Char.isAlpha && !s.any Char.isUpper
  | "isspace" => some (nonempty isByteBlank)
  | "istitle" => some fun s => s.any Char.isAlpha && titleBytes false s == s
  | "isupper" => some fun s => s.any Char.isAlpha && !s.any Char.isLower
  | _ => none

/-! ## Hexadecimal digits -/

/-- Bytes as pairs of hexadecimal digits. -/
def hexPairs (s : List Char) : List (List Char) :=
  s.map fun c =>
    let ds := Nat.toDigits 16 c.toNat
    List.replicate (2 - ds.length) '0' ++ ds

/-- The separator of hexadecimal digits. -/
def hexSeparator (v : Value) : Look (List Char) := do
  let size ← v.size
  if size ≠ 1 then throw (.refused "ValueError" "sep must be length 1.")
  match v.text?, v.content with
  | some t, _ =>
    if t.toList.all fun c => c.toNat < 0x80 then return t.toList
    else throw (.refused "ValueError" "sep must be ASCII.")
  | none, .bytes bs => return ofBytes bs
  | none, _ => throw (.refused "TypeError" "sep must be str or bytes.")

/-- Pairs of digits in groups, counted from the right, or from the left when the size is below
zero. -/
def hexGroups (size : Int) (pairs : List (List Char)) : List (List Char) :=
  let n := size.natAbs
  if n = 0 ∨ pairs.isEmpty then [pairs.flatten]
  else
    let first := if size < 0 ∨ pairs.length % n = 0 then n else pairs.length % n
    let rest := ((pairs.drop first).zipIdx.splitBy fun a b => a.2 / n == b.2 / n)
    (pairs.take first).flatten :: rest.map fun g => (g.map Prod.fst).flatten

/-- The bytes as a text of hexadecimal digits. -/
def hexOfBytes (s : List Char) (a : Arguments) : Look String := do
  let vs ← Parameters.bind ⟨"hex()", ["sep", "bytes_per_sep"], 2, 0⟩ a
  let size ← (argumentAt vs 1 (.int 1)).requireMachineInt 32 "int"
  match (vs[0]?).join with
  | none => return String.ofList (hexPairs s).flatten
  | some v => do
    let sep ← hexSeparator v
    return String.ofList (sep.intercalate (hexGroups size (hexPairs s)))

/-- The value of a hexadecimal digit. -/
def hexDigitOf? (c : Char) : Option Nat :=
  "0123456789abcdef".toList.findIdx? (· == c.toLower)

/-- The bytes that pairs of hexadecimal digits stand for, as characters, or the place of what is no
digit; `place` counts the characters before. -/
def readHexPairs (place : Nat) : List Char → Except Nat (List Char)
  | [] => .ok []
  | [c] => if isByteBlank c then .ok [] else .error (place + if (hexDigitOf? c).isSome then 1 else 0)
  | c :: d :: s =>
    if isByteBlank c then readHexPairs (place + 1) (d :: s)
    else
      match hexDigitOf? c, hexDigitOf? d with
      | none, _ => .error place
      | some _, none => .error (place + 1)
      | some m, some n => (readHexPairs (place + 2) s).map (Char.ofNat (16 * m + n) :: ·)

/-- The bytes that a text of hexadecimal digits stands for. -/
def bytesOfHex (a : Arguments) : Except Fault (List Char) := do
  let v ← a.one "bytes.fromhex"
  match v.text?.map String.toList with
  | none => throw (.onlyArgument "fromhex" v.typeWord)
  | some s =>
    let refuse (place : Nat) : Fault :=
      .refused "ValueError" ("non-hexadecimal number found in fromhex() arg at position "
        ++ toString place)
    match s.findIdx? fun c => 0x80 ≤ c.toNat with
    | some i => throw (refuse i)
    | none => (readHexPairs 0 s).mapError refuse

/-! ## Tables -/

/-- The bytes that a table and a list of bytes to be left out make of others. -/
def translatedBytes (s : List Char) (a : Arguments) : Except Fault (List Char) := do
  let given := a.positional.length + a.named.length
  if given > 2 then throw (.arity (.taken "translate" "at most" 2 given))
  if a.positional.isEmpty then
    throw (.refused "TypeError" "translate() takes at least 1 positional argument (0 given)")
  let vs ← Parameters.bind ⟨"translate()", ["", "delete"], 2, 1⟩ a
  let left ← match (vs[1]?).join with
    | some v => v.requireBytes
    | none => pure []
  let table := argumentAt vs 0 .none
  let kept := s.filter fun c => !left.contains c
  if table.isNone then return kept
  let table ← table.requireBytes
  if table.length ≠ 256 then
    throw (.refused "ValueError" "translation table must be 256 characters long")
  return kept.map fun c => (table[c.toNat]?).getD c

/-- A table that makes some bytes out of others. -/
def tableOfBytes (a : Arguments) : Except Fault (List Char) := do
  let vs ← a.between "bytes." "maketrans" 2 2
  let first ← ((vs[0]?).getD Value.none).requireBytes
  let second ← ((vs[1]?).getD Value.none).requireBytes
  if first.length ≠ second.length then
    throw (.refused "ValueError" "maketrans arguments must have same length")
  let pairs := (first.zip second).reverse
  return (List.range 256).map fun i => (pairs.lookup (Char.ofNat i)).getD (Char.ofNat i)

/-! ## Parts -/

/-- The lines of bytes, each with the mark that ends it. -/
def bytesLines : List Char → List (List Char × List Char)
  | [] => []
  | '\r' :: '\n' :: s => ([], ['\r', '\n']) :: bytesLines s
  | c :: s =>
    if c = '\n' ∨ c = '\r' then ([], [c]) :: bytesLines s
    else
      match bytesLines s with
      | [] => [([c], [])]
      | (line, mark) :: rest => (c :: line, mark) :: rest

/-- Parts of bytes as a list; a single part is the bytes themselves if nothing is missing. -/
def Answer.parts (receiver : List Char) (parts : List (List Char)) : Answer :=
  match parts with
  | [part] => .list [.bytesAs receiver part]
  | parts => .list (parts.map Answer.bytes)

/-- Bytes cut in three at a separator. -/
def partitionedBytes (fromRight : Bool) (s m : List Char) : Except Fault Answer :=
  if m.isEmpty then .error .emptySeparator
  else
    let place := if fromRight then lastIndexOf? m s else indexOf? m s
    match place, fromRight with
    | some i, _ =>
      .ok (.tuple [.bytes (s.take i), .bytes m, .bytes (s.drop (i + m.length))])
    | none, false => .ok (.tuple [.itself, .bytes [], .bytes []])
    | none, true => .ok (.tuple [.bytes [], .bytes [], .itself])

/-- The bytes with some of them replaced. -/
def replacedBytes (s : List Char) (a : Arguments) : Except Fault (List Char) := do
  let vs ← a.between "bytes." "replace" 2 3
  let old ← ((vs[0]?).getD Value.none).requireBytes
  let new ← ((vs[1]?).getD Value.none).requireBytes
  let limit ← ((vs[2]?).getD (Value.int (-1))).requireSize
  return replace old new s (replaceLimit limit)

/-- The bytes that are stripped. -/
def stripBytes (a : Arguments) (name : String) : Except Fault (Char → Bool) := do
  match (← a.between "bytes." name 0 1)[0]? with
  | none => return isByteBlank
  | some v =>
    if v.isNone then return isByteBlank
    let s ← v.requireBytes
    return fun c => s.contains c

/-- The text that bytes stand for in the encoding that is asked for. -/
def decodedAs (s : List Char) (a : Arguments) : Except Fault (List Char) := do
  let (encoding, recovery) ← codecArguments "decode()" a
  if s.isEmpty then return []
  let e ← encoding
  match e.read .strict (toBytes s), recovery with
  | .ok cs, _ => return cs
  | .error _, .error f => throw f
  | .error _, .ok .reference =>
    throw (.refused "TypeError" "don't know how to handle UnicodeDecodeError in error callback")
  | .error _, .ok r => (e.read r (toBytes s)).mapError .undecodable

/-- A method of bytes that looks at its arguments only; the bytes are given as characters. -/
def bytesMethod (s : List Char) (name : String) (a : Arguments) : Look Answer := do
  let callee := "bytes." ++ name
  match bytesProperty? name, bytesCase? name with
  | some p, _ => do
    a.nothing callee
    return .bool (p s)
  | _, some f => do
    a.nothing callee
    return .bytes (f s)
  | none, none =>
    match name with
    | "center" | "ljust" | "rjust" => do
      let (width, fill) ← padBytes a name
      return .bytesAs s (padded name width fill s)
    | "zfill" => do
      return .bytesAs s (zeroFilled (← (← a.one callee).requireSize).toNat s)
    | "count" => do return .int (← counted Value.requireByte s a)
    | "find" | "index" | "rfind" | "rindex" => do
      let i ← searched Value.requireByte name s a
      return .int (← placeAnswer name (.refused "ValueError" "subsection not found") i)
    | "startswith" | "endswith" => do return .bool (← affixedBytes s a name)
    | "decode" => do return .atom (.text (← decodedAs s a))
    | "expandtabs" => do return .bytes (withoutTabs (← tabSize a) 0 s)
    | "hex" => do return .text (← hexOfBytes s a)
    | "strip" => do return .bytesAs s (stripBy (← stripBytes a name) s)
    | "lstrip" => do return .bytesAs s (s.dropWhile (← stripBytes a name))
    | "rstrip" => do return .bytesAs s (dropEndWhile (← stripBytes a name) s)
    | "partition" => do partitionedBytes false s (← (← a.one callee).requireBytes)
    | "rpartition" => do partitionedBytes true s (← (← a.one callee).requireBytes)
    | "removeprefix" => do
      let m ← (← a.one callee).requireBytes
      return .bytesAs s ((after? m s).getD s)
    | "removesuffix" => do
      let m ← (← a.one callee).requireBytes
      return .bytesAs s (((after? m.reverse s.reverse).map List.reverse).getD s)
    | "replace" => do return .bytesAs s (← replacedBytes s a)
    | "split" | "rsplit" => do
      let (sep, limit) ← splitArguments Value.requireBytes a name
      return .parts s (if name = "split" then splitText isByteBlank s sep limit
        else splitTextRight isByteBlank s sep limit)
    | "splitlines" => do
      let keep ← keepsEnds a
      return .parts s ((bytesLines s).map fun (line, mark) => if keep then line ++ mark else line)
    | "translate" => do return .bytes (← translatedBytes s a)
    | "maketrans" => do return .bytes (← tableOfBytes a)
    | "fromhex" => do return .bytes (← bytesOfHex a)
    | _ => throw (.notCallable "builtin_function_or_method")

/-- The items of a value put together with bytes between them; single bytes are themselves. -/
def Setting.joinBytes (setting : Setting) (s : List Char) (v : Value) : Eval Value := do
  match v.source.run (← getThe Store) with
  | .error (.notIterable _) => throw .onlyIterable
  | .error f => throw f
  | .ok source =>
    let items ← setting.drain source
    let parts ← items.zipIdx.mapM fun (item, i) =>
      match item.content with
      | .bytes bs => return ofBytes bs
      | _ =>
        throw (.refused "TypeError" ("sequence item " ++ toString i
          ++ ": expected a bytes-like object, " ++ item.typeWord ++ " found"))
    match items with
    | [item] => return item
    | _ => return .ofContent (.bytes (toBytes (s.intercalate parts)))

end Interpolation
