import Interpolation.Text.Utf8
import Interpolation.Yaml.Fault
import Interpolation.Yaml.Position

/-!
# The texts of scalars

A scalar is written plainly, between quotes, or as an indented block. Each way has its own rules for
line breaks: a single break inside of a plain, quoted or folded text becomes a space, and further
breaks stand for themselves.

Main definitions:

* `plainText`, `quotedText`, `blockText`: the text of a scalar and the position behind it.
-/

namespace Interpolation.Yaml

open Interpolation.Text

/-- Pieces of a text, the newest first, put together. -/
def joinPieces (pieces : List (List Char)) : List Char := pieces.reverse.flatten

/-! ## Blocks -/

/-- What becomes of the breaks at the end of a block. -/
inductive Chomping where
  /-- One break is kept. -/
  | clip
  /-- No break is kept. -/
  | strip
  /-- All breaks are kept. -/
  | keep
deriving DecidableEq, Repr

/-- The indicator of what becomes of the breaks at the end. -/
def chomping? : Option Char → Option Chomping
  | some '+' => some .keep
  | some '-' => some .strip
  | _ => none

/-- The indicator of the indentation; it is not zero. -/
def increment (p : Position) : Except YamlFault (Option Nat × Position) :=
  match p.next? with
  | some c =>
    if c = '0' then .error .malformed
    else if c.isDigit then .ok (some (c.toNat - '0'.toNat), p.advance)
    else .ok (none, p)
  | none => .ok (none, p)

/-- The position behind the rest of a line that holds nothing but a comment. -/
def endOfLine (p : Position) : Except YamlFault Position :=
  let p := p.skipSpaces.skipComment
  if endsLine p.next? then .ok p.lineBreak.2 else .error .malformed

/-- The indicators of a block and the position behind their line. -/
def blockHeader (p : Position) : Except YamlFault (Chomping × Option Nat × Position) := do
  let (first, p) := match chomping? p.next? with
    | some c => (some c, p.advance)
    | none => (none, p)
  let (step, p) ← increment p
  let (chomping, p) := match first, step, chomping? p.next? with
    | some c, _, _ => (c, p)
    | none, some _, some c => (c, p.advance)
    | none, _, _ => (.clip, p)
  if endsWord p.next? then return (chomping, step, ← endOfLine p) else throw .malformed

/-- The breaks before the first line of a block, and the widest indentation among them. -/
def leadingBreaks : (fuel : Nat) → (breaks : List Char) → (widest : Nat) → Position →
    List Char × Nat × Position
  | 0, breaks, widest, p => (breaks, widest, p)
  | fuel + 1, breaks, widest, p =>
    match p.next? with
    | some c =>
      if c = ' ' then
        let p := p.advance
        leadingBreaks fuel breaks (max widest p.column) p
      else if isBreak c then
        let (b, p) := p.lineBreak
        leadingBreaks fuel (breaks ++ b) widest p
      else (breaks, widest, p)
    | none => (breaks, widest, p)

/-- The position behind spaces up to a column. -/
def skipIndent (indent : Nat) : (fuel : Nat) → Position → Position
  | 0, p => p
  | fuel + 1, p =>
    if p.column < indent ∧ p.next? = some ' ' then skipIndent indent fuel p.advance else p

/-- The breaks of empty lines, and the position behind the indentation of the next line. -/
def emptyLines (indent : Nat) : (fuel : Nat) → (breaks : List Char) → Position →
    List Char × Position
  | 0, breaks, p => (breaks, p)
  | fuel + 1, breaks, p =>
    let p := skipIndent indent (fuel + 1) p
    match p.next? with
    | some c =>
      if isBreak c then
        let (b, p) := p.lineBreak
        emptyLines indent fuel (breaks ++ b) p
      else (breaks, p)
    | none => (breaks, p)

/-- What was read of a block: its pieces, the break behind its last line, and the breaks of the
empty lines behind that. -/
structure BlockText where
  /-- The pieces, the newest first. -/
  pieces : List (List Char)
  /-- The break behind the last line. -/
  lastBreak : List Char
  /-- The breaks of the empty lines behind it. -/
  breaks : List Char
  /-- The position behind them. -/
  position : Position

/-- The lines of a block. In a folded block the break between two lines that are not indented
further becomes a space. -/
def blockLines (folded : Bool) (indent : Nat) : (fuel : Nat) → BlockText → BlockText
  | 0, b => b
  | fuel + 1, b =>
    let p := b.position
    if p.column = indent ∧ p.rest ≠ [] then
      let flush := !(p.next?.any isGap)
      let (line, p) := p.takeWhile (!isBreak ·)
      let (lastBreak, p) := p.lineBreak
      let (breaks, p) := emptyLines indent (p.rest.length + 1) [] p
      let pieces := line :: b.breaks :: b.pieces
      if p.column = indent ∧ p.rest ≠ [] then
        let between :=
          if folded ∧ lastBreak = ['\n'] ∧ flush ∧ !(p.next?.any isGap) then
            if breaks.isEmpty then [' '] else []
          else lastBreak
        blockLines folded indent fuel ⟨between :: pieces, lastBreak, breaks, p⟩
      else ⟨pieces, lastBreak, breaks, p⟩
    else b

/-- The text of a block behind its first character; `parent` is the indentation around it. -/
def blockText (folded : Bool) (parent : Int) (p : Position) :
    Except YamlFault (List Char × Position) := do
  let (chomping, step, p) ← blockHeader p
  let least := max (parent + 1).toNat 1
  let fuel := p.rest.length + 1
  let (indent, breaks, p) := match step with
    | none =>
      let (breaks, widest, p) := leadingBreaks fuel [] 0 p
      (max least widest, breaks, p)
    | some n =>
      let indent := least + n - 1
      let (breaks, p) := emptyLines indent fuel [] p
      (indent, breaks, p)
  let b := blockLines folded indent fuel ⟨[], [], breaks, p⟩
  let tail := match chomping with
    | .clip => b.lastBreak
    | .strip => []
    | .keep => b.lastBreak ++ b.breaks
  return (joinPieces (tail :: b.pieces), b.position)

/-! ## Quoted texts -/

/-- What a character behind a backslash stands for. -/
def escapes : List (Char × Char) :=
  [('0', '\x00'), ('a', '\x07'), ('b', '\x08'), ('t', '\t'), ('\t', '\t'), ('n', '\n'),
   ('v', '\x0b'), ('f', '\x0c'), ('r', '\r'), ('e', '\x1b'), (' ', ' '), ('"', '"'),
   ('\\', '\\'), ('/', '/'), ('N', '\x85'), ('_', '\xa0'), ('L', '\u2028'), ('P', '\u2029')]

/-- The number of hexadecimal digits behind an escape that names a character by its number. -/
def escapeWidth? (c : Char) : Option Nat := [('x', 2), ('u', 4), ('U', 8)].lookup c

/-- The value of a hexadecimal digit. -/
def hexValue? (c : Char) : Option Nat :=
  if c.isDigit then some (c.toNat - '0'.toNat)
  else if 'a' ≤ c ∧ c ≤ 'f' then some (c.toNat - 'a'.toNat + 10)
  else if 'A' ≤ c ∧ c ≤ 'F' then some (c.toNat - 'A'.toNat + 10)
  else none

/-- A number of so many hexadecimal digits. -/
def hexNumber? : (width value : Nat) → List Char → Option Nat
  | 0, value, _ => some value
  | _ + 1, _, [] => none
  | width + 1, value, c :: s => do hexNumber? width (value * 16 + (← hexValue? c)) s

/-- The character with a number. -/
def characterOf (n : Nat) : Except YamlFault Char :=
  if n < 0x110000 then .ok (ofCodePoint n) else .error .characterRange

/-- The breaks of the lines that a quoted text spans; no line may end or begin a document. -/
def quotedBreaks : (fuel : Nat) → (breaks : List Char) → Position →
    Except YamlFault (List Char × Position)
  | 0, breaks, p => .ok (breaks, p)
  | fuel + 1, breaks, p =>
    if p.atSeparator then .error .malformed
    else
      let p := p.advanceWhile isGap
      match p.lineBreak with
      | ([], _) => .ok (breaks, p)
      | (b, p) => quotedBreaks fuel (breaks ++ b) p

/-- The blanks and breaks inside of a quoted text. -/
def quotedBlanks (p : Position) : Except YamlFault (List Char × Position) := do
  let (blanks, p) := p.takeWhile isGap
  match p.next? with
  | none => throw .malformed
  | some c =>
    if isBreak c then
      let (b, p) := p.lineBreak
      let (breaks, p) ← quotedBreaks (p.rest.length + 1) [] p
      let first := if b ≠ ['\n'] then b else if breaks.isEmpty then [' '] else []
      return (first ++ breaks, p)
    else return (blanks, p)

/-- What a backslash and the text behind it stand for. -/
def quotedEscape (p : Position) : Except YamlFault (List Char × Position) := do
  match p.next? with
  | none => throw .malformed
  | some c =>
    match escapes.lookup c, escapeWidth? c with
    | some d, _ => return ([d], p.advance)
    | none, some width =>
      match hexNumber? width 0 p.advance.rest with
      | some n => return ([← characterOf n], p.advance.advanceBy width)
      | none => throw .malformed
    | none, none =>
      if isBreak c then quotedBreaks (p.rest.length + 1) [] p.lineBreak.2 else throw .malformed

/-- Whether a character stands for itself in every quoted text. -/
def isQuotable (c : Char) : Bool :=
  c ≠ '\'' && c ≠ '"' && c ≠ '\\' && !isGap c && !isBreak c

/-- The rest of a quoted text up to its closing quote. -/
def quotedPieces (quote : Char) : (fuel : Nat) → (pieces : List (List Char)) → Position →
    Except YamlFault (List Char × Position)
  | 0, _, _ => .error .malformed
  | fuel + 1, pieces, p => do
    match p.next? with
    | none => throw .malformed
    | some c =>
      if isQuotable c then
        let (taken, p) := p.takeWhile isQuotable
        quotedPieces quote fuel (taken :: pieces) p
      else if c = quote then
        if quote = '\'' ∧ p.second? = some '\'' then
          quotedPieces quote fuel (['\''] :: pieces) (p.advanceBy 2)
        else return (joinPieces pieces, p.advance)
      else if quote = '"' ∧ c = '\\' then
        let (piece, p) ← quotedEscape p.advance
        quotedPieces quote fuel (piece :: pieces) p
      else if c = '\'' ∨ c = '"' ∨ c = '\\' then
        quotedPieces quote fuel ([c] :: pieces) p.advance
      else
        let (piece, p) ← quotedBlanks p
        quotedPieces quote fuel (piece :: pieces) p

/-- The text between quotes; the position is at the opening quote. -/
def quotedText (quote : Char) (p : Position) : Except YamlFault (List Char × Position) :=
  quotedPieces quote (p.rest.length + 1) [] p.advance

/-! ## Plain texts -/

/-- Whether a character has a meaning of its own inside of brackets. -/
def isFlowIndicator (c : Char) : Bool :=
  c = ',' || c = '?' || c = '[' || c = ']' || c = '\x7b' || c = '\x7d'

/-- Whether a colon before this character separates a key from its value. -/
def endsKey (inFlow : Bool) : Option Char → Bool
  | none => true
  | some c => isGap c || isBreak c || (inFlow && isFlowIndicator c && c ≠ '?')

/-- The length of the plain word at the beginning. -/
def plainLength (inFlow : Bool) : List Char → Nat
  | [] => 0
  | c :: s =>
    if isGap c || isBreak c || (c = ':' && endsKey inFlow s.head?)
        || (inFlow && isFlowIndicator c) then 0
    else plainLength inFlow s + 1

/-- The breaks of empty lines behind a line of a plain text; a line that ends or begins a document
ends the text. -/
def plainBreaks : (fuel : Nat) → (breaks : List Char) → Position →
    Option (List Char) × Position
  | 0, breaks, p => (some breaks, p)
  | fuel + 1, breaks, p =>
    let p := p.skipSpaces
    match p.lineBreak with
    | ([], _) => (some breaks, p)
    | (b, p) => if p.atSeparator then (none, p) else plainBreaks fuel (breaks ++ b) p

/-- What stands between two words of a plain text: the text that it counts as, whether a line ended
there, and the position behind it. -/
def plainBlanks (p : Position) : List Char × Bool × Position :=
  let (blanks, p) := p.takeWhile (· = ' ')
  match p.lineBreak with
  | ([], _) => (blanks, false, p)
  | (b, p) =>
    if p.atSeparator then ([], true, p)
    else
      match plainBreaks (p.rest.length + 1) [] p with
      | (none, p) => ([], true, p)
      | (some breaks, p) =>
        let first := if b ≠ ['\n'] then b else if breaks.isEmpty then [' '] else []
        (first ++ breaks, true, p)

/-- The words of a plain text; `blanks` stands before the next word and `lineEnded` says whether a
line ended there. -/
def plainWords (inFlow : Bool) (indent : Nat) : (fuel : Nat) → (pieces : List (List Char)) →
    (blanks : List Char) → (lineEnded : Bool) → Position → List Char × Bool × Position
  | 0, pieces, _, lineEnded, p => (joinPieces pieces, lineEnded, p)
  | fuel + 1, pieces, blanks, lineEnded, p =>
    let length := plainLength inFlow p.rest
    if p.next? = some '#' ∨ length = 0 then (joinPieces pieces, lineEnded, p)
    else
      let word := p.rest.take length
      let (after, ended, q) := plainBlanks (p.advanceBy length)
      let pieces := word :: blanks :: pieces
      if after.isEmpty ∨ q.next? = some '#' ∨ (!inFlow ∧ q.column < indent) then
        (joinPieces pieces, ended, q)
      else plainWords inFlow indent fuel pieces after ended q

/-- A plain text, whether a line ended behind it, and the position behind it; `parent` is the
indentation around it. -/
def plainText (inFlow : Bool) (parent : Int) (p : Position) : List Char × Bool × Position :=
  plainWords inFlow (parent + 1).toNat (p.rest.length + 1) [] [] false p

end Interpolation.Yaml
