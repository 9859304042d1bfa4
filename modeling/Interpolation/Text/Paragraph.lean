import Interpolation.Text.Blank
import Interpolation.Text.Cut
import Interpolation.Text.Letter

/-!
# Lines and words

Operations on a text as lines and words: the lines of a text, indentation, cutting off the last
word, centring, and the number of words.

Main definitions:

* `lines`: the lines of a text, each with the mark that ends it.
* `indent`, `withoutLastWord`, `center`, `wordCount`.
-/

namespace Interpolation.Text

/-- The characters that end a line. -/
def isLineEnd (c : Char) : Bool :=
  let n := c.toNat
  (0xa ≤ n && n ≤ 0xd) || (0x1c ≤ n && n ≤ 0x1e) || n == 0x85 || n == 0x2028 || n == 0x2029

/-- The lines of a text, each with the mark that ends it, which is empty at the end of the text. -/
def lines : List Char → List (List Char × List Char)
  | [] => []
  | '\r' :: '\n' :: s => ([], ['\r', '\n']) :: lines s
  | c :: s =>
    if isLineEnd c then ([], [c]) :: lines s
    else
      match lines s with
      | [] => [([c], [])]
      | (line, mark) :: rest => (c :: line, mark) :: rest

/-- The lines of a text without the marks that end them. -/
def bareLines (s : List Char) : List (List Char) := (lines s).map Prod.fst

/-- The text with every line but the first indented, the empty ones only if `blank` asks for it.
`written` is what becomes of a line that the indention stands before. -/
def indent (indention : List Char) (blank : Bool) (written : List Char → List Char)
    (s : List Char) : List Char :=
  let indented := bareLines (s ++ ['\n'])
  if blank then ('\n' :: indention).intercalate (indented.map written)
  else
    match indented with
    | [] => []
    | line :: rest =>
      line ++ rest.flatMap fun l => if l.isEmpty then ['\n'] else '\n' :: indention ++ written l

/-- The text before its last blank; a text without blanks is its own whole. -/
def withoutLastWord (s : List Char) : List Char :=
  match lastIndexOf? [' '] s with
  | some i => s.take i
  | none => s

/-- The text in the middle of a field; of an odd rest the greater half goes to the left exactly when
the width is odd. -/
def center (width : Nat) (fill : Char) (s : List Char) : List Char :=
  if width ≤ s.length then s
  else
    let room := width - s.length
    let left := room / 2 + (if room % 2 = 1 ∧ width % 2 = 1 then 1 else 0)
    List.replicate left fill ++ s ++ List.replicate (room - left) fill

/-- The number of runs of letters, numbers and low lines. -/
def wordCount (s : List Char) : Nat :=
  ((s.splitBy fun a b => isWord a == isWord b).filter fun run => run.all isWord).length

end Interpolation.Text
