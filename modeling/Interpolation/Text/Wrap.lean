import Interpolation.Text.Paragraph

/-!
# Lines of limited width

A line is cut into chunks, which are runs of blanks and words; a word may be cut behind a hyphen, and
long dashes are chunks of their own. Lines are then filled with as many chunks as fit, and what
stands at the ends of lines is left out if it is blank.

Main definitions:

* `chunks`, `plainChunks`: the chunks of a line, with words cut at hyphens or not.
* `LineWidth`, `fillLines`: lines that are filled with chunks.
-/

namespace Interpolation.Text

/-! ## Chunks -/

/-- The blanks at which lines are cut. -/
def isBreak (c : Char) : Bool :=
  let n := c.toNat
  (9 ≤ n && n ≤ 13) || n == 32

/-- The characters of words that have no digits. -/
def isWordLetter (c : Char) : Bool := isWord c && (digitValue? c).isNone

/-- The characters behind which a dash may stand. -/
def endsWord (c : Char) : Bool := isWord c || "!\"'&.,?".toList.contains c

/-- The dash between words at the beginning of a text: two hyphens or more with a word behind
them. -/
def dash? (s : List Char) : Option (List Char) :=
  let hyphens := s.takeWhile (· == '-')
  if 2 ≤ hyphens.length && ((s.drop hyphens.length).head?.map isWord).getD false then some hyphens
  else none

/-- Whether a hyphen may end a part of a word; `before` is the text before it, reversed. -/
def allowsHyphen (before after : List Char) : Bool :=
  let preceded := match before with
    | a :: '-' :: b :: _ => isWordLetter a && isWordLetter b
    | a :: b :: _ => isWordLetter a && isWordLetter b
    | _ => false
  let followed := match after with
    | a :: '-' :: b :: _ => isWordLetter a && isWordLetter b
    | a :: b :: _ => isWordLetter a && isWordLetter b
    | _ => false
  preceded && followed

/-- Whether a word ends before a text; `before` is the text before it, reversed. -/
def endsBefore (before s : List Char) : Bool :=
  match s with
  | [] => true
  | c :: _ => isBreak c || ((before.head?.map endsWord).getD false && (dash? s).isSome)

/-- The rest of a word that has begun, and what stands behind it. -/
def wordRest (before : List Char) : List Char → List Char × List Char
  | [] => ([], [])
  | c :: s =>
    if c == '-' && allowsHyphen before s then ([c], s)
    else if endsBefore before (c :: s) then ([], c :: s)
    else
      let (word, rest) := wordRest (c :: before) s
      (c :: word, rest)

/-- The first chunk of a text that begins with a character, and what stands behind it. -/
def firstChunk (before : List Char) (c : Char) (s : List Char) : List Char × List Char :=
  if isBreak c then (c :: s.takeWhile isBreak, s.dropWhile isBreak)
  else
    match (before.head?.map endsWord).getD false, dash? (c :: s) with
    | true, some hyphens => (hyphens, (c :: s).drop hyphens.length)
    | _, _ =>
      let (word, rest) := wordRest (c :: before) s
      (c :: word, rest)

/-- The chunks of a text, at most so many. -/
def chunksFrom : (fuel : Nat) → (before : List Char) → List Char → List (List Char)
  | 0, _, _ => []
  | _, _, [] => []
  | fuel + 1, before, c :: s =>
    let (chunk, rest) := firstChunk before c s
    chunk :: chunksFrom fuel (chunk.reverse ++ before) rest

/-- The chunks of a line; words are cut at hyphens. -/
def chunks (s : List Char) : List (List Char) := chunksFrom s.length [] s

/-- The chunks of a line; words are not cut. -/
def plainChunks (s : List Char) : List (List Char) :=
  s.splitBy fun a b => isBreak a == isBreak b

/-! ## Lines -/

/-- How wide lines are, and what becomes of words that are wider. -/
structure LineWidth where
  /-- The number of characters that fit. -/
  columns : Nat
  /-- Whether words that do not fit are cut. -/
  cuts : Bool
  /-- Whether they are cut behind hyphens. -/
  hyphens : Bool

namespace LineWidth

variable (w : LineWidth)

/-- The chunks that fit behind so many characters, and the others. -/
def fitting : (used : Nat) → List (List Char) → List (List Char) × List (List Char)
  | _, [] => ([], [])
  | used, c :: cs =>
    if used + c.length ≤ w.columns then
      let (line, rest) := fitting (used + c.length) cs
      (c :: line, rest)
    else ([], c :: cs)

/-- Where a word is cut that does not fit into so many characters. -/
def cutAt (space : Nat) (chunk : List Char) : Nat :=
  match if w.hyphens && space < chunk.length then lastIndexOf? ['-'] (chunk.take space) else none with
  | some i => if 0 < i && (chunk.take i).any (· != '-') then i + 1 else space
  | none => space

/-- A line, as its chunks, and the chunks behind it. -/
def line (cs : List (List Char)) : List (List Char) × List (List Char) :=
  match w.fitting 0 cs with
  | (line, chunk :: rest) =>
    if chunk.length ≤ w.columns then (line, chunk :: rest)
    else if w.cuts then
      let space := if w.columns = 0 then 1 else w.columns - line.flatten.length
      let place := w.cutAt space chunk
      (line ++ [chunk.take place], chunk.drop place :: rest)
    else if line.isEmpty then ([chunk], rest)
    else (line, chunk :: rest)
  | (line, []) => (line, [])

/-- The chunks without the last one if that is blank. -/
def trimmed (line : List (List Char)) : List (List Char) :=
  match line.getLast? with
  | some chunk => if chunk.all isBlank then line.dropLast else line
  | none => []

/-- Lines filled with chunks, behind the first line. -/
def linesFrom : (fuel : Nat) → (isFirst : Bool) → List (List Char) → List (List Char)
  | 0, _, _ => []
  | _, _, [] => []
  | fuel + 1, isFirst, c :: cs =>
    let (line, rest) := w.line (if c.all isBlank && !isFirst then cs else c :: cs)
    match trimmed line with
    | [] => linesFrom fuel isFirst rest
    | line => line.flatten :: linesFrom fuel false rest

/-- The lines that are filled with chunks. -/
def fillLines (cs : List (List Char)) : List (List Char) := w.linesFrom cs.flatten.length true cs

end LineWidth

end Interpolation.Text
