/-!
# Blank characters

A blank is a character that is white space, a paragraph or line separator, or one of the four
information separators. Sources are stripped of blanks at both ends before they are read.

Main definitions:

* `isBlank`: the property of a character.
* `strip`: a text without the blanks at its ends.
-/

namespace Interpolation.Text

/-- White space in the wide sense: the horizontal and vertical blanks, the information separators,
and the Unicode spaces. -/
def isBlank (c : Char) : Bool :=
  let n := c.toNat
  (9 ≤ n && n ≤ 13) || (28 ≤ n && n ≤ 32) || n == 0x85 || n == 0xa0 || n == 0x1680
    || (0x2000 ≤ n && n ≤ 0x200a) || n == 0x2028 || n == 0x2029 || n == 0x202f || n == 0x205f
    || n == 0x3000

/-- `dropEnd p s` is `s` without the longest run of characters with `p` at its end. -/
def dropEndWhile (p : Char → Bool) (s : List Char) : List Char :=
  (s.reverse.dropWhile p).reverse

/-- The text without the characters with `p` at its two ends. -/
def stripBy (p : Char → Bool) (s : List Char) : List Char :=
  dropEndWhile p (s.dropWhile p)

/-- The text without the blanks at its two ends. -/
def strip (s : List Char) : List Char := stripBy isBlank s

/-- The words of a text: its longest runs without a blank. -/
def words (s : List Char) : List (List Char) :=
  (s.splitBy fun a b => isBlank a == isBlank b).filter fun w => !(w.all isBlank)

end Interpolation.Text
