import Interpolation.Text.WordRanges
import Interpolation.Text.PrintableRanges
import Interpolation.Text.NumberRanges
import Interpolation.Text.CaseRanges

/-!
# Classes and cases of characters

The properties that the expression language and the text operations ask of a character, and the
mappings of words between the cases. Each property is a look-up in a list of ranges.

Main definitions:

* `isWord`, `isIdentifierStart`, `isIdentifierContinue`, `isIdentifier`: words and names.
* `isPrintable`, `isDigit`, `isNumeric`, `digitValue?`: printed forms and digits.
* `upper`, `lower`, `title`, `capitalize`, `swapCaseFrom`: whole texts in another case.
* `fold`: texts in a form in which cases are not told apart.
-/

namespace Interpolation.Text

/-- Whether a code point is in one of the ranges. -/
def inRanges (ranges : List (Nat × Nat)) (n : Nat) : Bool :=
  ranges.any fun (first, last) => first ≤ n && n ≤ last

/-- Whether a code point is in one of the stepped runs. -/
def inRuns (runs : List (Nat × Nat × Nat)) (n : Nat) : Bool :=
  runs.any fun (first, last, step) => first ≤ n && n ≤ last && (n - first) % step == 0

/-- Letters, numbers and the low line. -/
def isWord (c : Char) : Bool := inRanges wordRanges c.toNat

/-- Letters and numbers. -/
def isAlphanumeric (c : Char) : Bool := isWord c && c != '_'

/-- The characters that may begin an identifier. -/
def isIdentifierStart (c : Char) : Bool := inRanges identifierStartRanges c.toNat

/-- The characters that may stand in an identifier after the first. -/
def isIdentifierContinue (c : Char) : Bool := inRanges identifierContinueRanges c.toNat

/-- Whether the text is an identifier. -/
def isIdentifier : List Char → Bool
  | [] => false
  | c :: s => isIdentifierStart c && s.all isIdentifierContinue

/-- The characters that stand for themselves in a quoted text. -/
def isPrintable (c : Char) : Bool :=
  if c.toNat < 0x7f then 0x20 ≤ c.toNat else !(inRanges unprintableRanges c.toNat)

/-- Digits of every kind, superscripts included. -/
def isDigit (c : Char) : Bool := inRanges digitRanges c.toNat

/-- Digits, other numerals, and letters that stand for numbers. -/
def isNumeric (c : Char) : Bool :=
  isDigit c || inRanges numeralRanges c.toNat || inRanges numeralLetterRanges c.toNat

/-- Letters of every kind. -/
def isLetter (c : Char) : Bool :=
  isAlphanumeric c && !isDigit c && !inRanges numeralRanges c.toNat

/-- The value of a decimal digit of any script. -/
def digitValue? (c : Char) : Option Nat :=
  let n := c.toNat
  (decimalZeros.find? fun z => z ≤ n && n ≤ z + 9).map (n - ·)

/-- Whether the character is in upper case. -/
def isUpper (c : Char) : Bool := inRuns upperRuns c.toNat

/-- Whether the character is in lower case. -/
def isLower (c : Char) : Bool := inRuns lowerRuns c.toNat

/-- Whether the character has a title case that is neither its upper nor its lower case. -/
def isTitle (c : Char) : Bool :=
  let n := c.toNat
  n == 0x1c5 || n == 0x1c8 || n == 0x1cb || n == 0x1f2 || (0x1f88 ≤ n && n ≤ 0x1f8f)
    || (0x1f98 ≤ n && n ≤ 0x1f9f) || (0x1fa8 ≤ n && n ≤ 0x1faf) || n == 0x1fbc || n == 0x1fcc
    || n == 0x1ffc

/-- Whether the character has a case. -/
def isCased (c : Char) : Bool := isUpper c || isLower c || isTitle c

/-- Whether the character is passed over when the neighbours of a letter are examined. -/
def isCaseIgnorable (c : Char) : Bool := inRanges caseIgnorableRanges c.toNat

/-- The counterpart of a code point in a list of shifted runs. -/
def shifted (runs : List (Nat × Nat × Nat × Int)) (n : Nat) : Nat :=
  match runs.find? fun (first, last, step, _) =>
      first ≤ n && n ≤ last && (n - first) % step == 0 with
  | some (_, _, _, shift) => (n + shift).toNat
  | none => n

/-- The upper case of a character, which may be several characters. -/
def upperOf (c : Char) : List Char :=
  if c.toNat < 0x80 then [c.toUpper]
  else
    match toUpperSpecial.lookup c.toNat with
    | some ns => ns.map Char.ofNat
    | none => [Char.ofNat (shifted toUpperRuns c.toNat)]

/-- The lower case of a character on its own. -/
def lowerOf (c : Char) : List Char :=
  if c.toNat < 0x80 then [c.toLower]
  else if c.toNat == 0x130 then ['i', Char.ofNat 0x307]
  else [Char.ofNat (shifted toLowerRuns c.toNat)]

/-- The title case of a character, which may be several characters. -/
def titleOf (c : Char) : List Char :=
  match toTitleSpecial.lookup c.toNat with
  | some ns => ns.map Char.ofNat
  | none => upperOf c

/-- The text in upper case. -/
def upper (s : List Char) : List Char := s.flatMap upperOf

/-- The lower case of a capital sigma: its final form when a cased letter stands before it and none
behind it. `before` is the text before it, reversed. -/
def lowerSigma (before after : List Char) : Char :=
  let precededByCased := ((before.dropWhile isCaseIgnorable).head?.map isCased).getD false
  let followedByCased := ((after.dropWhile isCaseIgnorable).head?.map isCased).getD false
  Char.ofNat (if precededByCased && !followedByCased then 0x3c2 else 0x3c3)

/-- The lower case of a text in its surroundings; `before` is the text before it, reversed. -/
def lowerFrom (before : List Char) : List Char → List Char
  | [] => []
  | c :: s =>
    let here := if c.toNat == 0x3a3 then [lowerSigma before s] else lowerOf c
    here ++ lowerFrom (c :: before) s

/-- The text in lower case. -/
def lower (s : List Char) : List Char := lowerFrom [] s

/-- The title case of a text in its surroundings: a cased letter is in lower case exactly when a
cased letter stands before it. -/
def titleFrom (before : List Char) (previousCased : Bool) : List Char → List Char
  | [] => []
  | c :: s =>
    let here :=
      if previousCased then
        if c.toNat == 0x3a3 then [lowerSigma before s] else lowerOf c
      else titleOf c
    here ++ titleFrom (c :: before) (isCased c) s

/-- Every word with its first letter in title case and the rest in lower case. -/
def title (s : List Char) : List Char := titleFrom [] false s

/-- The first character in title case and the rest in lower case. -/
def capitalize : List Char → List Char
  | [] => []
  | c :: s => titleOf c ++ lowerFrom [c] s

/-- Upper case letters in lower case and the other way round. -/
def swapCaseFrom (before : List Char) : List Char → List Char
  | [] => []
  | c :: s =>
    let here :=
      if isUpper c then (if c.toNat == 0x3a3 then [lowerSigma before s] else lowerOf c)
      else if isLower c then upperOf c
      else [c]
    here ++ swapCaseFrom (c :: before) s

/-- The form of a character in which cases are not told apart. -/
def foldOf (c : Char) : List Char :=
  let n := c.toNat
  if n == 0x131 then [c]
  else if n == 0x1e9e then ['s', 's']
  -- these scripts are folded to their upper case
  else if (0x13a0 ≤ n && n ≤ 0x13fd) || (0xab70 ≤ n && n ≤ 0xabbf) then upperOf c
  else (upperOf c).flatMap lowerOf

/-- The form of a text in which cases are not told apart. -/
def fold (s : List Char) : List Char := s.flatMap foldOf

/-- Whether the text has a cased letter and none of another case than `p`. -/
def isAllCase (p : Char → Bool) (s : List Char) : Bool :=
  s.any isCased && s.all fun c => !(isCased c) || p c

end Interpolation.Text
