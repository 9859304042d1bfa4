import Interpolation.Text.Letter
import Interpolation.Text.Encoding

/-!
# Quoted text

A text or a string of bytes is shown between quotes, on one line, with escapes for what has no
printed form. Single quotes are used unless the text holds one and no double quote.

Main definitions:

* `quote`: a text between quotes.
* `quoteBytes`: bytes between quotes, with the mark of bytes.
-/

namespace Interpolation.Text

/-- The digits of a number in base sixteen, padded with zeros to a width. -/
def hex (width n : Nat) : List Char :=
  let digits := Nat.toDigits 16 n
  List.replicate (width - digits.length) '0' ++ digits

/-- The escape of a code point by its number. -/
def numericEscape (n : Nat) : List Char :=
  if n < 0x100 then '\\' :: 'x' :: hex 2 n
  else if n < 0x10000 then '\\' :: 'u' :: hex 4 n
  else '\\' :: 'U' :: hex 8 n

/-- The quote that surrounds a text: a double one only where it saves an escape. -/
def quoteFor (s : List Char) : Char :=
  if s.contains '\'' && !(s.contains '"') then '"' else '\''

/-- A character of a quoted text. -/
def quotedChar (q c : Char) : List Char :=
  if c = q ∨ c = '\\' then ['\\', c]
  else if c = '\n' then ['\\', 'n']
  else if c = '\r' then ['\\', 'r']
  else if c = '\t' then ['\\', 't']
  else if isPrintable c then [c]
  else numericEscape (codePoint c)

/-- The text between quotes. -/
def quoteChars (s : List Char) : List Char :=
  let q := quoteFor s
  q :: s.flatMap (quotedChar q) ++ [q]

/-- The text between quotes. -/
def quote (s : String) : String := String.ofList (quoteChars s.toList)

/-- A byte of quoted bytes. -/
def quotedByte (q : Char) (b : UInt8) : List Char :=
  let c := Char.ofNat b.toNat
  if c = q ∨ c = '\\' then ['\\', c]
  else if c = '\n' then ['\\', 'n']
  else if c = '\r' then ['\\', 'r']
  else if c = '\t' then ['\\', 't']
  else if 0x20 ≤ b.toNat ∧ b.toNat < 0x7f then [c]
  else '\\' :: 'x' :: hex 2 b.toNat

/-- The bytes between quotes, marked as bytes. -/
def quoteBytes (bs : List UInt8) : String :=
  let q := quoteFor (bs.map fun b => Char.ofNat b.toNat)
  String.ofList ('b' :: q :: bs.flatMap (quotedByte q) ++ [q])

end Interpolation.Text
