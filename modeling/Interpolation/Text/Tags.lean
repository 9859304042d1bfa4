import Interpolation.Text.Blank
import Interpolation.Text.CharacterNames
import Interpolation.Text.Cut
import Interpolation.Text.Letter

/-!
# Markup without its tags

Comments and tags are cut out of markup, runs of blanks become single ones, and references are read
back as the characters they stand for.

Main definitions:

* `stripTags`: what remains of markup.
* `unescapeHtml`: references read back.
-/

namespace Interpolation.Text

/-! ## References -/

/-- The code points that the numbers of an old code page stand for, from 128 on. -/
def oldCodePage : List Nat :=
  [0x20ac, 0x81, 0x201a, 0x192, 0x201e, 0x2026, 0x2020, 0x2021, 0x2c6, 0x2030, 0x160, 0x2039,
   0x152, 0x8d, 0x17d, 0x8f, 0x90, 0x2018, 0x2019, 0x201c, 0x201d, 0x2022, 0x2013, 0x2014, 0x2dc,
   0x2122, 0x161, 0x203a, 0x153, 0x9d, 0x17e, 0x178]

/-- What a reference by number stands for: nothing for the numbers of no character. -/
def numberedCharacter (n : Nat) : List Char :=
  if 0x80 ≤ n ∧ n < 0xa0 then [Char.ofNat ((oldCodePage[n - 0x80]?).getD n)]
  else if n = 0 ∨ (0xd800 ≤ n ∧ n ≤ 0xdfff) ∨ n > 0x10ffff then [Char.ofNat 0xfffd]
  else if n = 0xd then ['\r']
  else if (1 ≤ n ∧ n < 9) ∨ n = 0xb ∨ (0xe ≤ n ∧ n < 0x20) ∨ n = 0x7f ∨ (0xfdd0 ≤ n ∧ n < 0xfdf0)
      ∨ n % 0x10000 ≥ 0xfffe then []
  else [Char.ofNat n]

/-- Drops a semicolon at the beginning. -/
def dropSemicolon : List Char → List Char
  | ';' :: s => s
  | s => s

/-- The number in a base at the beginning of a text, and the rest; nothing without a digit. -/
def leadingNumber? (base : Nat) (s : List Char) : Option (Nat × List Char) :=
  let value (c : Char) : Nat :=
    if c.isDigit then c.toNat - 48 else c.toLower.toNat - 87
  let isDigit (c : Char) : Bool :=
    c.isDigit || (base == 16 && 'a' ≤ c.toLower && c.toLower ≤ 'f')
  let ds := s.takeWhile isDigit
  if ds.isEmpty then none
  else some (ds.foldl (fun n c => n * base + value c) 0, s.drop ds.length)

/-- The characters that a name may have. -/
def isNameChar (c : Char) : Bool := !("\t\n\x0c <&#;".toList.contains c)

/-- What the reference behind an ampersand stands for, and the rest; nothing if it is none. -/
def readReference? (s : List Char) : Option (List Char × List Char) :=
  match s with
  | '#' :: 'x' :: s | '#' :: 'X' :: s =>
    (leadingNumber? 16 s).map fun (n, rest) => (numberedCharacter n, dropSemicolon rest)
  | '#' :: s => (leadingNumber? 10 s).map fun (n, rest) => (numberedCharacter n, dropSemicolon rest)
  | s =>
    let name := (s.takeWhile isNameChar).take 32
    let rest := s.drop name.length
    let found (n : Nat) : Option (List Char) :=
      (characterNames.lookup (String.ofList (name.take n))).map fun c => [Char.ofNat c]
    match found name.length, rest with
    | some cs, ';' :: rest => some (cs, rest)
    | _, _ =>
      let lengths := (List.range (name.length + 1)).reverse
      match lengths.find? fun n => oldCharacterNames.contains (String.ofList (name.take n)) with
      | some n => (found n).map fun cs => (cs, s.drop n)
      | none => none

/-- References read back, from a place on. The fuel is the length of the text. -/
def unescapeFrom : (fuel : Nat) → List Char → List Char
  | 0, s => s
  | _, [] => []
  | fuel + 1, '&' :: s =>
    match readReference? s with
    | some (cs, rest) => cs ++ unescapeFrom fuel rest
    | none => '&' :: unescapeFrom fuel s
  | fuel + 1, c :: s => c :: unescapeFrom fuel s

/-- References read back. -/
def unescapeHtml (s : List Char) : List Char := unescapeFrom s.length s

/-! ## Tags -/

/-- Cuts out everything from an opening mark to the closing mark that follows, again and again. -/
def cutOut (first last : List Char) : (fuel : Nat) → List Char → List Char
  | 0, s => s
  | fuel + 1, s =>
    match cut? first s with
    | none => s
    | some (before, inside) =>
      match cut? last (first ++ inside) with
      | none => s
      | some (_, after) => cutOut first last fuel (before ++ after)

/-- Words with single blanks between them. -/
def singleSpaced (s : List Char) : List Char := [' '].intercalate (words s)

/-- What remains of markup without comments and tags. -/
def stripTags (s : List Char) : List Char :=
  let s := cutOut "<!--".toList "-->".toList s.length s
  let s := cutOut ['<'] ['>'] s.length s
  unescapeHtml (singleSpaced s)

end Interpolation.Text
