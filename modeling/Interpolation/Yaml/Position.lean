/-!
# Positions in a document

Reading a document moves a position forward. Besides the text that is left, a position knows its
line and its column, because the structure of a document depends on how far a word is indented.

Main definitions:

* `Position`: the text that is left, with line and column.
* `Position.advance`, `Position.advanceWhile`: the next position.
* `Position.lineBreak`: the break at the end of a line, in the form in which it counts.
-/

namespace Interpolation.Yaml

/-- Whether a character ends a line. -/
def isBreak (c : Char) : Bool :=
  c = '\n' || c = '\r' || c = '\x85' || c = '\u2028' || c = '\u2029'

/-- Whether a character is a blank within a line. -/
def isGap (c : Char) : Bool := c = ' ' || c = '\t'

/-- Whether a line ends here. -/
def endsLine : Option Char → Bool
  | none => true
  | some c => isBreak c

/-- Whether a word ends here: at a space or at the end of the line. -/
def endsWord : Option Char → Bool
  | none => true
  | some c => c = ' ' || isBreak c

/-- Whether a word or a tab ends here. -/
def endsIndicator : Option Char → Bool
  | none => true
  | some c => isGap c || isBreak c

/-- A position in a document. -/
structure Position where
  /-- The text that is left. -/
  rest : List Char
  /-- The number of characters before. -/
  index : Nat
  /-- The number of lines before. -/
  line : Nat
  /-- The number of characters before in this line. -/
  column : Nat

namespace Position

/-- The beginning of a text. -/
def start (text : List Char) : Position := ⟨text, 0, 0, 0⟩

/-- The next character. -/
def next? (p : Position) : Option Char := p.rest.head?

/-- The character behind the next one. -/
def second? (p : Position) : Option Char := p.rest.tail.head?

/-- The position behind the next character. A mark of the byte order takes no column. -/
def advance (p : Position) : Position :=
  match p.rest with
  | [] => p
  | c :: rest =>
    if isBreak c ∧ ¬(c = '\r' ∧ rest.head? = some '\n') then ⟨rest, p.index + 1, p.line + 1, 0⟩
    else if c = '\ufeff' then { p with rest, index := p.index + 1 }
    else ⟨rest, p.index + 1, p.line, p.column + 1⟩

/-- The position behind some characters. -/
def advanceBy (p : Position) : Nat → Position
  | 0 => p
  | n + 1 => p.advance.advanceBy n

/-- The characters of one kind that come next, and the position behind them. -/
def takeWhile (keep : Char → Bool) (p : Position) : List Char × Position :=
  let taken := p.rest.takeWhile keep
  (taken, p.advanceBy taken.length)

/-- The position behind the characters of one kind that come next. -/
def advanceWhile (keep : Char → Bool) (p : Position) : Position := (p.takeWhile keep).2

/-- The position behind the spaces that come next. -/
def skipSpaces (p : Position) : Position := p.advanceWhile (· = ' ')

/-- The position behind a comment, if one comes next. -/
def skipComment (p : Position) : Position :=
  if p.next? = some '#' then p.advanceWhile (!isBreak ·) else p

/-- The break that comes next, if any, and the position behind it. All breaks count as the same,
except the two that separate lines and paragraphs. -/
def lineBreak (p : Position) : List Char × Position :=
  match p.rest with
  | '\r' :: '\n' :: _ => (['\n'], p.advance.advance)
  | c :: _ =>
    if c = '\u2028' ∨ c = '\u2029' then ([c], p.advance)
    else if isBreak c then (['\n'], p.advance)
    else ([], p)
  | [] => ([], p)

/-- Whether a line comes next that ends or begins a document. -/
def atSeparator (p : Position) : Bool :=
  match p.rest with
  | a :: b :: c :: rest =>
    (a = '-' && b = '-' && c = '-' || a = '.' && b = '.' && c = '.') && endsIndicator rest.head?
  | _ => false

end Position

end Interpolation.Yaml
