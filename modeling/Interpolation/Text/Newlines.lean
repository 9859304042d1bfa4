/-!
# Line ends

Files end their lines in three ways. A text that was read from a file has only one of them.

Main definitions:

* `universalNewlines`: a text with one way to end a line.
-/

namespace Interpolation.Text

/-- The text with a line feed in the place of a carriage return, with or without a line feed behind
it. -/
def universalNewlines : List Char → List Char
  | '\r' :: '\n' :: s => '\n' :: universalNewlines s
  | '\r' :: s => '\n' :: universalNewlines s
  | c :: s => c :: universalNewlines s
  | [] => []

end Interpolation.Text
