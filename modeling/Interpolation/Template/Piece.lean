import Interpolation.Text.Cut
import Interpolation.Template.Delimiters

/-!
# The pieces of a text

Markers divide a text into plain chunks and the sources between them. A source begins behind the
leftmost start marker and ends before the leftmost end marker that follows; a start marker without
an end marker behind it is plain text, and so is everything after it.

The primary markers are looked for first, in the whole text; the secondary ones only in the chunks
that are left, so that a secondary pair never spans a primary expression and the inside of a
primary expression is never divided again.

Main definitions:

* `divide`: the chunks and sources of a text for one pair of markers.
* `Piece`: a literal, or the source of an expression.
* `Delimiters.pieces`: the pieces of a text.
* `Delimiters.write`: the text that pieces stand for.
-/

namespace Interpolation

open Interpolation.Text

/-- A chunk of a text with the source behind it. -/
structure Marked where
  /-- The plain text. -/
  chunk : List Char
  /-- What stands between the markers behind it. -/
  source : List Char
deriving DecidableEq, Repr

/-- A text divided by a pair of markers: chunks with their sources, and the chunk at the end. -/
structure Division where
  /-- The chunks that have a source behind them. -/
  marked : List Marked
  /-- The chunk at the end. -/
  last : List Char
deriving DecidableEq, Repr

/-- The first source of a text between two markers, with the text before and behind it. -/
def cutPair? (start stop : Marker) (text : List Char) : Option (Marked × List Char) := do
  let (chunk, rest) ← cut? start.chars text
  let (source, after) ← cut? stop.chars rest
  return (⟨chunk, source⟩, after)

/-- A pair of markers, a chunk, a source and the text behind them make up the text that was cut. -/
theorem cutPair?_eq_some {start stop : Marker} {text after : List Char} {m : Marked}
    (h : cutPair? start stop text = some (m, after)) :
    text = m.chunk ++ start.chars ++ (m.source ++ stop.chars ++ after) := by
  simp only [cutPair?, Option.bind_eq_bind, Option.bind_eq_some_iff, Option.pure_def,
    Option.some.injEq, Prod.mk.injEq] at h
  obtain ⟨⟨a, b⟩, h₁, ⟨c, d⟩, h₂, rfl, rfl⟩ := h
  rw [cut?_eq_some h₁]
  exact congrArg _ (cut?_eq_some h₂)

/-- The text behind a pair of markers is shorter than the text that was cut. -/
theorem length_of_cutPair? {start stop : Marker} {text after : List Char} {m : Marked}
    (h : cutPair? start stop text = some (m, after)) :
    after.length + start.chars.length + stop.chars.length ≤ text.length := by
  rw [cutPair?_eq_some h]
  simp only [List.length_append]
  omega

/-- Divides a text by a pair of markers. -/
def divide (start stop : Marker) (text : List Char) : Division :=
  match _h : cutPair? start stop text with
  | none => ⟨[], text⟩
  | some (m, after) =>
    let rest := divide start stop after
    ⟨m :: rest.marked, rest.last⟩
termination_by text.length
decreasing_by
  have := length_of_cutPair? ‹_›
  have : start.chars.length ≠ 0 := by simpa using start.nonempty
  omega

/-- A piece of a text. -/
inductive Piece where
  /-- Text that stands for itself. -/
  | literal (text : List Char)
  /-- The source of an expression; a deferred one resolves futures. -/
  | expression (source : List Char) (deferred : Bool)
deriving DecidableEq, Repr

namespace Piece

/-- Whether the piece is an expression. -/
def isExpression : Piece → Bool
  | literal _ => false
  | expression .. => true

/-- The literal of a text; the empty text has none. -/
def literals (text : List Char) : List Piece := if text.isEmpty then [] else [literal text]

end Piece

/-- The pieces of a division, with `chunk` giving the pieces of a chunk. -/
def Division.pieces (chunk : List Char → List Piece) (deferred : Bool) (d : Division) :
    List Piece :=
  d.marked.flatMap (fun m => chunk m.chunk ++ [.expression m.source deferred]) ++ chunk d.last

namespace Delimiters

/-- The pieces of a chunk, which only the secondary markers divide. -/
def chunkPieces (d : Delimiters) (chunk : List Char) : List Piece :=
  (divide d.secondaryStart d.secondaryEnd chunk).pieces Piece.literals true

/-- The pieces of a text without empty literals. -/
def scan (d : Delimiters) (text : List Char) : List Piece :=
  (divide d.primaryStart d.primaryEnd text).pieces d.chunkPieces false

/-- The pieces of a text; the empty text is one empty literal. -/
def pieces (d : Delimiters) (text : List Char) : List Piece :=
  match d.scan text with
  | [] => [.literal []]
  | found => found

/-- The text that a piece stands for. -/
def writePiece (d : Delimiters) : Piece → List Char
  | .literal text => text
  | .expression source false => d.primaryStart.chars ++ source ++ d.primaryEnd.chars
  | .expression source true => d.secondaryStart.chars ++ source ++ d.secondaryEnd.chars

/-- The text that pieces stand for. -/
def write (d : Delimiters) (pieces : List Piece) : List Char := pieces.flatMap d.writePiece

end Delimiters

end Interpolation
