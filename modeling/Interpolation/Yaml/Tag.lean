import Interpolation.Calendar.Reading

/-!
# Tags

The tag of a node says of what kind its value is. A plain scalar without a tag gets one by the form
of its text: there are texts of truth values, integers, floats, dates, and of nothing.

Main definitions:

* `Tag`: the kinds of nodes.
* `Tag.ofUri`: the tag with a full name.
* `Tag.ofPlain`: the tag of a plain scalar.
-/

namespace Interpolation.Yaml

open Interpolation.Calendar

/-- The kinds of nodes. -/
inductive Tag where
  | null
  | boolean
  | integer
  | float
  | binary
  | timestamp
  | text
  | sequence
  | mapping
  | set
  | orderedMapping
  | pairs
  /-- The key under which a mapping takes over the entries of others. -/
  | merge
  /-- The key of the value that a mapping stands for where a scalar is expected. -/
  | standard
  /-- Any other kind. -/
  | other
deriving DecidableEq, Repr

namespace Tag

/-- The beginning of the names of the common tags. -/
def commonStart : String := "tag:yaml.org,2002:"

/-- The names of the common tags. -/
def names : List (String × Tag) :=
  [("null", .null), ("bool", .boolean), ("int", .integer), ("float", .float),
   ("binary", .binary), ("timestamp", .timestamp), ("str", .text), ("seq", .sequence),
   ("map", .mapping), ("set", .set), ("omap", .orderedMapping), ("pairs", .pairs),
   ("merge", .merge), ("value", .standard)]

/-- The tag with a full name. -/
def ofUri (uri : String) : Tag :=
  ((names.map fun (n, t) => (commonStart ++ n, t)).lookup uri).getD .other

/-! ## Forms of plain scalars -/

/-- The texts of truth values. -/
def booleanTexts : List (String × Bool) :=
  [("yes", true), ("no", false), ("true", true), ("false", false), ("on", true), ("off", false)]

/-- A word in small letters, in capital letters, or with a capital letter in front. -/
def spellings (word : String) : List String := [word, word.capitalize, word.toUpper]

/-- Whether a text is one of the spellings of a word. -/
def isSpelled (word : String) (s : List Char) : Bool := (spellings word).contains (String.ofList s)

/-- The text behind a sign. -/
def unsigned : List Char → List Char
  | c :: s => if c = '+' ∨ c = '-' then s else c :: s
  | [] => []

/-- Whether a character is a digit or a low line. -/
def isDigitOrLine (c : Char) : Bool := c.isDigit || c = '_'

/-- Whether a text begins with a digit and goes on with digits and low lines. -/
def isNumber : List Char → Bool
  | c :: s => c.isDigit && s.all isDigitOrLine
  | [] => false

/-- The texts between colons. -/
def places (s : List Char) : List (List Char) :=
  s.foldr (fun c parts => if c = ':' then [] :: parts else
    match parts with
    | part :: parts => (c :: part) :: parts
    | [] => [[c]]) [[]]

/-- Whether a text is a place of a number to the base sixty: one digit, or two below sixty. -/
def isPlace : List Char → Bool
  | [c] => c.isDigit
  | [c, d] => '0' ≤ c && c ≤ '5' && d.isDigit
  | _ => false

/-- Whether a text is a mark and then at least one digit of a base or low line. -/
def isMarked (mark : Char) (isDigit : Char → Bool) : List Char → Bool
  | '0' :: c :: d :: s => c = mark && (d :: s).all fun c => isDigit c || c = '_'
  | _ => false

/-- Whether a character is a digit to the base sixteen. -/
def isHexDigit (c : Char) : Bool :=
  c.isDigit || ('a' ≤ c && c ≤ 'f') || ('A' ≤ c && c ≤ 'F')

/-- Whether a text is an integer: to the base two, eight, ten or sixteen, or in places to the base
sixty. -/
def isInteger (s : List Char) : Bool :=
  let s := unsigned s
  isMarked 'b' (fun c => c = '0' || c = '1') s || isMarked 'x' isHexDigit s
    || (match s with
      | '0' :: rest => rest.all fun c => ('0' ≤ c && c ≤ '7') || c = '_'
      | s =>
        match places s with
        | [n] => isNumber n
        | n :: more => isNumber n && more.all isPlace
        | [] => false)

/-- Whether a text is an exponent with a sign, or empty. -/
def isExponent : List Char → Bool
  | [] => true
  | e :: sign :: c :: s =>
    (e = 'e' || e = 'E') && (sign = '+' || sign = '-') && (c :: s).all Char.isDigit
  | _ => false

/-- Whether digits and low lines come next, and then nothing but an exponent. -/
def isFraction (s : List Char) : Bool := isExponent (s.dropWhile isDigitOrLine)

/-- Whether a text has a point behind places to the base sixty, or behind a plain number. -/
def isPointed (s : List Char) : Bool :=
  let s := unsigned s
  let whole := s.takeWhile (· ≠ '.')
  match s.drop whole.length, places whole with
  | '.' :: fraction, [n] => isNumber n && isFraction fraction
  | '.' :: fraction, n :: more => isNumber n && more.all isPlace && fraction.all isDigitOrLine
  | _, _ => false

/-- Whether a text is a float. -/
def isFloat (s : List Char) : Bool :=
  isPointed s
    || (match s with
      | '.' :: c :: rest =>
        (c.isDigit && isFraction rest)
          || ["nan", "NaN", "NAN"].contains (String.ofList (c :: rest))
      | _ => false)
    || (match unsigned s with
      | '.' :: word => isSpelled "inf" word
      | _ => false)

/-- Whether a text is a date, or a date with a time of day. -/
def isTimestamp (s : List Char) : Bool :=
  match readMomentParts? s with
  | some (_, none) => s.length = 10
  | some (_, some _) => true
  | none => false

/-- The tag of a plain scalar. -/
def ofPlain (s : List Char) : Tag :=
  if booleanTexts.any fun (word, _) => isSpelled word s then .boolean
  else if isFloat s then .float
  else if isInteger s then .integer
  else if s = ['<', '<'] then .merge
  else if s = [] ∨ s = ['~'] ∨ isSpelled "null" s then .null
  else if isTimestamp s then .timestamp
  else if s = ['='] then .standard
  else if s = ['!'] ∨ s = ['&'] ∨ s = ['*'] then .other
  else .text

end Tag

end Interpolation.Yaml
