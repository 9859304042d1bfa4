import Interpolation.Text.Utf8

/-!
# Text inside markup and inside a URL

Five characters have a meaning in markup and are written as references. Reading the references back
undoes this, since the ampersand itself is written as one.

Letters, digits and four marks stand for themselves in a URL; every other byte of a text is written
as a percent sign and two digits in base sixteen. In a query a blank is a plus sign and a slash is
written like the other bytes.

Main definitions:

* `escapeHtml`: the text with the five characters as references.
* `urlEncodeBytes`: the bytes of a text as part of a path.
* `queryEncodeBytes`: the bytes of a text as part of a query.
-/

namespace Interpolation.Text

/-! ## Markup -/

/-- How a character is written inside markup. -/
def htmlReference (c : Char) : List Char :=
  match c with
  | '&' => "&amp;".toList
  | '<' => "&lt;".toList
  | '>' => "&gt;".toList
  | '\'' => "&#39;".toList
  | '"' => "&#34;".toList
  | c => [c]

/-- The text as it is written inside markup. -/
def escapeHtmlChars (s : List Char) : List Char := s.flatMap htmlReference

/-- The text as it is written inside markup. -/
def escapeHtml (s : String) : String := String.ofList (escapeHtmlChars s.toList)

/-! ## URLs -/

/-- A digit in base sixteen, in upper case. -/
def upperHexDigit (n : Nat) : Char := if n < 10 then Char.ofNat (48 + n) else Char.ofNat (55 + n)

/-- Whether a byte stands for itself in a URL. -/
def isUnreserved (b : UInt8) : Bool :=
  let c := Char.ofNat b.toNat
  c.isAlphanum || c == '_' || c == '.' || c == '-' || c == '~'

/-- A byte of a URL; `kept` are the bytes that stand for themselves besides the usual ones. -/
def percentByte (kept : List Char) (b : UInt8) : List Char :=
  if isUnreserved b || kept.contains (Char.ofNat b.toNat) then [Char.ofNat b.toNat]
  else ['%', upperHexDigit (b.toNat / 16), upperHexDigit (b.toNat % 16)]

/-- Bytes as part of a path. -/
def urlEncodeBytes (bs : List UInt8) : List Char := bs.flatMap (percentByte ['/'])

/-- Bytes as part of a query. -/
def queryEncodeBytes (bs : List UInt8) : List Char :=
  bs.flatMap fun b => if b = 32 then ['+'] else percentByte [] b

end Interpolation.Text
