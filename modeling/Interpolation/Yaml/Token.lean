import Interpolation.Yaml.ScalarText

/-!
# The words of a document

A document is read into words: scalars, indicators, and the beginnings and ends of the collections
that its indentation shows. Whether a scalar is the key of a mapping is known only when a colon
follows. Until then a place is kept open in front of it, which is filled when the colon comes and
disappears otherwise. A key must not go on over the end of a line.

Main definitions:

* `Token`: the words.
* `Scanner`: what is known while reading.
* `Words.ofText`: the words of a document, up to the first place where there is none.
-/

namespace Interpolation.Yaml

open Interpolation.Text

/-- A remark to the reader of a document. -/
inductive Directive where
  /-- The version of the format. -/
  | version (major : Nat)
  /-- A short name for the beginnings of tags. -/
  | shorthand (handle start : String)
  /-- A remark of another kind, which means nothing. -/
  | other
deriving DecidableEq, Repr

/-- The words of a document. -/
inductive Token where
  | directive (d : Directive)
  | documentStart
  | documentEnd
  | streamEnd
  | blockSequenceStart
  | blockMappingStart
  | blockEnd
  | flowSequenceStart
  | flowSequenceEnd
  | flowMappingStart
  | flowMappingEnd
  | blockEntry
  | flowEntry
  | key
  | value
  | alias (name : String)
  | anchor (name : String)
  /-- A tag; without a handle it is complete. -/
  | tag (handle : Option String) (suffix : String)
  | scalar (text : String) (plain : Bool)
deriving DecidableEq, Repr

/-- A place in the row of words. -/
inductive Slot where
  | token (t : Token)
  /-- A place in front of what may turn out to be a key. -/
  | vacant
  /-- A place in front of a key, which may be the first one of a mapping. -/
  | key (first : Bool)
deriving DecidableEq, Repr

/-- The words in a place. -/
def Slot.tokens : Slot → List Token
  | token t => [t]
  | vacant => []
  | key true => [.blockMappingStart, .key]
  | key false => [.key]

/-- Something that may turn out to be a key. -/
structure PossibleKey where
  /-- The brackets around it. -/
  level : Nat
  /-- The open place in front of it. -/
  slot : Nat
  /-- Whether nothing else can stand there. -/
  required : Bool
  /-- The number of characters before it. -/
  index : Nat
  /-- Its line. -/
  line : Nat
  /-- Its column. -/
  column : Nat

/-- What is known while reading. -/
structure Scanner where
  /-- The position. -/
  here : Position
  /-- The words so far. -/
  slots : Array Slot
  /-- Whether the end was reached. -/
  done : Bool
  /-- The indentation of the innermost block. -/
  indent : Int
  /-- The indentations of the blocks around it. -/
  indents : List Int
  /-- The number of open brackets. -/
  level : Nat
  /-- Whether a key may begin here. -/
  keyAllowed : Bool
  /-- What may turn out to be a key, at most one for each number of open brackets. -/
  keys : List PossibleKey

namespace Scanner

/-- The beginning of a text. -/
def start (text : List Char) : Scanner := ⟨.start text, #[], false, -1, [], 0, true, []⟩

/-- Whether a bracket is open. -/
def inFlow (s : Scanner) : Bool := s.level ≠ 0

/-- Adds a word and moves on. -/
def push (s : Scanner) (t : Token) (p : Position) : Scanner :=
  { s with slots := s.slots.push (.token t), here := p }

/-! ## Keys -/

/-- Whether a possible key is still one here: on its line and not too far behind. -/
def isFresh (s : Scanner) (k : PossibleKey) : Bool :=
  k.line = s.here.line && s.here.index - k.index ≤ 1024

/-- Forgets possible keys that cannot be one any more. -/
def forgetStale (s : Scanner) : Except YamlFault Scanner :=
  let (fresh, stale) := s.keys.partition s.isFresh
  if stale.any (·.required) then .error .malformed else .ok { s with keys := fresh }

/-- Forgets the possible key between the present brackets. -/
def dropKey (s : Scanner) : Except YamlFault Scanner :=
  let (present, others) := s.keys.partition (·.level = s.level)
  if present.any (·.required) then .error .malformed else .ok { s with keys := others }

/-- Keeps a place open in front of the next word if it may be a key. -/
def saveKey (s : Scanner) : Except YamlFault Scanner := do
  if !s.keyAllowed then return s
  let s ← s.dropKey
  let key : PossibleKey :=
    ⟨s.level, s.slots.size, !s.inFlow && s.indent = s.here.column, s.here.index, s.here.line,
      s.here.column⟩
  return { s with slots := s.slots.push .vacant, keys := key :: s.keys }

/-! ## Blocks -/

/-- Ends the blocks that are indented further than a column. -/
def closeBlocks (column : Int) : (indents : List Int) → Scanner → Scanner
  | [], s => s
  | outer :: indents, s =>
    if s.indent > column then
      closeBlocks column indents
        { s with slots := s.slots.push (.token .blockEnd), indent := outer, indents := indents }
    else s

/-- Ends the blocks that are indented further than a column; between brackets the indentation means
nothing. -/
def unwind (column : Int) (s : Scanner) : Scanner :=
  if s.inFlow then s else closeBlocks column s.indents s

/-- Begins a block at a column unless one has begun there, and says whether it did. -/
def indentTo (column : Nat) (s : Scanner) : Bool × Scanner :=
  if s.indent < column then (true, { s with indents := s.indent :: s.indents, indent := column })
  else (false, s)

/-- Begins a block at the present column unless one has begun there. -/
def openBlock (t : Token) (s : Scanner) : Scanner :=
  match s.indentTo s.here.column with
  | (true, s) => s.push t s.here
  | (false, s) => s

/-! ## Words -/

/-- Moves to the next word, past blanks, comments and the ends of lines. -/
def toNextWord : (fuel : Nat) → Scanner → Scanner
  | 0, s => s
  | fuel + 1, s =>
    let p := s.here.skipSpaces.skipComment
    match p.lineBreak with
    | ([], _) => { s with here := p }
    | (_, p) => toNextWord fuel { s with here := p, keyAllowed := s.keyAllowed || !s.inFlow }

/-- Whether a character may stand in a name. -/
def isNameChar (c : Char) : Bool :=
  c.isDigit || ('A' ≤ c && c ≤ 'Z') || ('a' ≤ c && c ≤ 'z') || c = '-' || c = '_'

/-- A name and the position behind it. -/
def readName (p : Position) : Except YamlFault (String × Position) :=
  match p.takeWhile isNameChar with
  | ([], _) => .error .malformed
  | (name, p) => .ok (String.ofList name, p)

/-- The name behind the indicator of an anchor or an alias. -/
def readReference (p : Position) : Except YamlFault (String × Position) := do
  let (name, p) ← readName p.advance
  let ends := match p.next? with
    | some c => "?:,]\x7d%@`".toList.contains c || endsIndicator (some c)
    | none => true
  if ends then return (name, p) else throw .malformed

/-- Bytes written as percent signs with two hexadecimal digits each. -/
def readEscapes : (fuel : Nat) → (bytes : List UInt8) → Position →
    Except YamlFault (List UInt8 × Position)
  | 0, bytes, p => .ok (bytes, p)
  | fuel + 1, bytes, p =>
    if p.next? = some '%' then
      match hexNumber? 2 0 p.advance.rest with
      | some n => readEscapes fuel (bytes ++ [UInt8.ofNat n]) (p.advanceBy 3)
      | none => .error .malformed
    else .ok (bytes, p)

/-- Whether a character may stand in a tag. -/
def isTagChar (c : Char) : Bool := isNameChar c || ";/?:@&=+$,.!~*'()[]".toList.contains c

/-- The pieces of a tag. -/
def readTagPieces : (fuel : Nat) → (pieces : List (List Char)) → Position →
    Except YamlFault (List (List Char) × Position)
  | 0, pieces, p => .ok (pieces, p)
  | fuel + 1, pieces, p => do
    match p.takeWhile isTagChar with
    | ([], _) =>
      if p.next? = some '%' then
        let (bytes, p) ← readEscapes (p.rest.length + 1) [] p
        match utf8Decode bytes with
        | .ok text => readTagPieces fuel (text :: pieces) p
        | .error _ => throw .malformed
      else return (pieces, p)
    | (piece, p) => readTagPieces fuel (piece :: pieces) p

/-- The text of a tag, or of a part of one; it is not empty. -/
def readTagText (p : Position) : Except YamlFault (String × Position) := do
  match ← readTagPieces (p.rest.length + 1) [] p with
  | ([], _) => throw .malformed
  | (pieces, p) => return (String.ofList (joinPieces pieces), p)

/-- The handle of a tag: a name between exclamation marks, or one mark. -/
def readHandle (p : Position) : Except YamlFault (String × Position) := do
  if p.next? ≠ some '!' then throw .malformed
  let p := p.advance
  if p.next? = some ' ' then return ("!", p)
  let (name, p) := p.takeWhile isNameChar
  if p.next? = some '!' then return (String.ofList ('!' :: name ++ ['!']), p.advance)
  throw .malformed

/-- Whether a tag begins with a handle: a second mark follows before the word ends. -/
def hasHandle (p : Position) : Bool :=
  (p.advance.rest.takeWhile fun c => !endsWord (some c)).contains '!'

/-- A tag; the position is at its first mark. -/
def readTag (p : Position) : Except YamlFault (Token × Position) := do
  let (t, p) ← match p.second? with
    | some '<' => do
      let (suffix, p) ← readTagText (p.advanceBy 2)
      if p.next? ≠ some '>' then throw .malformed
      pure (Token.tag none suffix, p.advance)
    | c =>
      if endsIndicator c then pure (Token.tag none "!", p.advance)
      else do
        let (handle, p) ← if hasHandle p then readHandle p else pure ("!", p.advance)
        let (suffix, p) ← readTagText p
        pure (Token.tag (some handle) suffix, p)
  if endsWord p.next? then return (t, p) else throw .malformed

/-- A number in a directive. -/
def readNumber (p : Position) : Except YamlFault (Nat × Position) :=
  match p.takeWhile Char.isDigit with
  | ([], _) => .error .malformed
  | (digits, p) => .ok (digits.foldl (fun n c => n * 10 + (c.toNat - '0'.toNat)) 0, p)

/-- The version of the format. -/
def readVersion (p : Position) : Except YamlFault (Directive × Position) := do
  let (major, p) ← readNumber p.skipSpaces
  if p.next? ≠ some '.' then throw .malformed
  let (_, p) ← readNumber p.advance
  if endsWord p.next? then return (.version major, p) else throw .malformed

/-- A short name for the beginnings of tags. -/
def readShorthand (p : Position) : Except YamlFault (Directive × Position) := do
  let (handle, p) ← readHandle p.skipSpaces
  if p.next? ≠ some ' ' then throw .malformed
  let (start, p) ← readTagText p.skipSpaces
  if endsWord p.next? then return (.shorthand handle start, p) else throw .malformed

/-- A directive; the position is at its percent sign. -/
def readDirective (p : Position) : Except YamlFault (Directive × Position) := do
  let (name, p) ← readName p.advance
  if !endsWord p.next? then throw .malformed
  let (d, p) ← match name with
    | "YAML" => readVersion p
    | "TAG" => readShorthand p
    | _ => pure (Directive.other, p.advanceWhile (!isBreak ·))
  return (d, ← endOfLine p)

/-- Whether a plain scalar begins here. -/
def beginsPlain (s : Scanner) (c : Char) : Bool :=
  let second := s.here.second?
  !(isGap c || isBreak c || "-?:,[]\x7b\x7d#&*!|>'\"%@`".toList.contains c)
    || (!endsIndicator second && (c = '-' || (!s.inFlow && (c = '?' || c = ':'))))

/-! ## Reading a word -/

/-- The end of the text. -/
def readEnd (s : Scanner) : Except YamlFault Scanner := do
  let s ← (s.unwind (-1)).dropKey
  return { s.push .streamEnd s.here with keyAllowed := false, keys := [], done := true }

/-- A word at the beginning of a line that does not belong to a node. -/
def readOutside (s : Scanner) (read : Position → Except YamlFault (Token × Position)) :
    Except YamlFault Scanner := do
  let s ← (s.unwind (-1)).dropKey
  let (t, p) ← read s.here
  return { s.push t p with keyAllowed := false }

/-- An opening bracket. -/
def readOpening (t : Token) (s : Scanner) : Except YamlFault Scanner := do
  let s ← s.saveKey
  return { s.push t s.here.advance with level := s.level + 1, keyAllowed := true }

/-- A closing bracket; there may be one too many, which the grammar refuses. -/
def readClosing (t : Token) (s : Scanner) : Except YamlFault Scanner := do
  let s ← s.dropKey
  return { s.push t s.here.advance with level := s.level - 1, keyAllowed := false }

/-- A comma between brackets. -/
def readComma (s : Scanner) : Except YamlFault Scanner := do
  let s ← s.dropKey
  return { s.push .flowEntry s.here.advance with keyAllowed := true }

/-- The hyphen before an item of a sequence. -/
def readHyphen (s : Scanner) : Except YamlFault Scanner := do
  if !s.inFlow ∧ !s.keyAllowed then throw .malformed
  let s := if s.inFlow then s else s.openBlock .blockSequenceStart
  let s ← s.dropKey
  return { s.push .blockEntry s.here.advance with keyAllowed := true }

/-- The question mark before a key. -/
def readQuestion (s : Scanner) : Except YamlFault Scanner := do
  if !s.inFlow ∧ !s.keyAllowed then throw .malformed
  let s := if s.inFlow then s else s.openBlock .blockMappingStart
  let s ← s.dropKey
  return { s.push .key s.here.advance with keyAllowed := !s.inFlow }

/-- The colon before a value. It makes what may be a key one; without that the key was announced
before, or is empty. -/
def readColon (s : Scanner) : Except YamlFault Scanner := do
  match s.keys.find? (·.level = s.level) with
  | some k =>
    let s := { s with keys := s.keys.filter (·.level ≠ s.level) }
    let (first, s) := if s.inFlow then (false, s) else s.indentTo k.column
    let s := { s with slots := s.slots.setIfInBounds k.slot (.key first), keyAllowed := false }
    return s.push .value s.here.advance
  | none =>
    if !s.inFlow ∧ !s.keyAllowed then throw .malformed
    let s := if s.inFlow then s else s.openBlock .blockMappingStart
    let s ← { s with keyAllowed := !s.inFlow }.dropKey
    return s.push .value s.here.advance

/-- A word that may be a key, or stands before one. -/
def readNodePart (s : Scanner) (read : Position → Except YamlFault (Token × Position)) :
    Except YamlFault Scanner := do
  let s ← s.saveKey
  let (t, p) ← read s.here
  return { s.push t p with keyAllowed := false }

/-- A scalar that is written as a block. -/
def readBlock (folded : Bool) (s : Scanner) : Except YamlFault Scanner := do
  let s ← { s with keyAllowed := true }.dropKey
  let (text, p) ← blockText folded s.indent s.here.advance
  return s.push (.scalar (String.ofList text) false) p

/-- A plain scalar; behind the end of its line a key may begin. -/
def readPlain (s : Scanner) : Except YamlFault Scanner := do
  let s ← s.saveKey
  let (text, lineEnded, p) := plainText s.inFlow s.indent s.here
  return { s.push (.scalar (String.ofList text) true) p with keyAllowed := lineEnded }

/-- A word that begins with a character. -/
def readWord (s : Scanner) (c : Char) : Except YamlFault Scanner :=
  let p := s.here
  let indicates := s.inFlow || endsIndicator p.second?
  if p.column = 0 ∧ c = '%' then
    s.readOutside fun p => do
      let (d, p) ← readDirective p
      return (.directive d, p)
  else if p.column = 0 ∧ p.atSeparator then
    s.readOutside fun p =>
      .ok (if c = '-' then .documentStart else .documentEnd, p.advanceBy 3)
  else if c = '[' then s.readOpening .flowSequenceStart
  else if c = '\x7b' then s.readOpening .flowMappingStart
  else if c = ']' then s.readClosing .flowSequenceEnd
  else if c = '\x7d' then s.readClosing .flowMappingEnd
  else if c = ',' then s.readComma
  else if c = '-' ∧ endsIndicator p.second? then s.readHyphen
  else if c = '?' ∧ indicates then s.readQuestion
  else if c = ':' ∧ indicates then s.readColon
  else if c = '*' then s.readNodePart fun p => do
    let (name, p) ← readReference p
    return (.alias name, p)
  else if c = '&' then s.readNodePart fun p => do
    let (name, p) ← readReference p
    return (.anchor name, p)
  else if c = '!' then s.readNodePart readTag
  else if c = '|' ∧ !s.inFlow then s.readBlock false
  else if c = '>' ∧ !s.inFlow then s.readBlock true
  else if c = '\'' ∨ c = '"' then s.readNodePart fun p => do
    let (text, p) ← quotedText c p
    return (.scalar (String.ofList text) false, p)
  else if s.beginsPlain c then s.readPlain
  else .error .malformed

/-- The next word. -/
def step (s : Scanner) : Except YamlFault Scanner := do
  let s ← (s.toNextWord (s.here.rest.length + 1)).forgetStale
  let s := s.unwind s.here.column
  match s.here.next? with
  | none => s.readEnd
  | some c => s.readWord c

end Scanner

/-- The words of a document: all of them, or those before a fault. -/
structure Words where
  /-- The words. -/
  tokens : List Token
  /-- What stands behind them instead of a word. -/
  fault : Option YamlFault

namespace Words

/-- The words in some places. -/
def ofSlots (slots : Array Slot) (fault : Option YamlFault) : Words :=
  ⟨slots.toList.flatMap Slot.tokens, fault⟩

/-- The words before a fault. What may be a key is not given away before that is decided, so the
words end before the first such place. -/
def upTo (s : Scanner) (fault : YamlFault) : Words :=
  let size := s.keys.foldl (fun size k => min size k.slot) s.slots.size
  ofSlots (s.slots.extract 0 size) (some fault)

/-- The words from a place on. -/
def scan : (fuel : Nat) → Scanner → Words
  | 0, s => upTo s .malformed
  | fuel + 1, s =>
    if s.done then ofSlots s.slots none
    else
      match s.forgetStale with
      | .error f => upTo s f
      | .ok s =>
        match s.step with
        | .error f => upTo s f
        | .ok after => scan fuel after

/-- Whether a character may stand in a document. -/
def isPrintable (c : Char) : Bool :=
  let n := c.toNat
  n = 0x09 || n = 0x0A || n = 0x0D || (0x20 ≤ n && n ≤ 0x7E) || n = 0x85
    || (0xA0 ≤ n && n ≤ 0xFFFD) || 0x10000 ≤ n

/-- The text behind a mark of the byte order. -/
def skipMark : List Char → List Char
  | '\ufeff' :: text => text
  | text => text

/-- The words of a document. -/
def ofText (text : List Char) : Words :=
  if text.all isPrintable then
    let text := skipMark text
    scan (text.length + 2) (.start text)
  else ⟨[], some .unprintable⟩

end Words

end Interpolation.Yaml
