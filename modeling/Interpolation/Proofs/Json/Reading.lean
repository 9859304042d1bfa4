import Mathlib.Data.List.Basic
import Mathlib.Tactic.Lemma
import Interpolation.Json.Basic
import Interpolation.Number.Binary

/-!
# Reading JSON documents

The reader of RFC 8259: blanks may stand between all tokens, every escape of a text is read, two
units of a surrogate pair are one character, and a number with a fraction or an exponent is a float.
It shares nothing with the writer of documents.

Main definitions:

* `Json.read?`: the document that a text stands for, if it stands for one.
* `Json.outsideTexts`: the characters of a text that stand outside of all texts between quotes.
-/

namespace Interpolation.Json

open Interpolation.Number

/-- Whether a character may stand between two tokens. -/
def isSpace (c : Char) : Bool := c == ' ' || c == '\t' || c == '\n' || c == '\r'

/-- What follows the blanks at the beginning of a text. -/
def skipSpace (s : List Char) : List Char := s.dropWhile isSpace

/-! ## Texts -/

/-- The value of a digit in base sixteen. -/
def hexValue? (c : Char) : Option Nat :=
  if c.isDigit then some (c.toNat - 48)
  else if 'a' ≤ c ∧ c ≤ 'f' then some (c.toNat - 87)
  else if 'A' ≤ c ∧ c ≤ 'F' then some (c.toNat - 55)
  else none

/-- The number that four digits in base sixteen stand for. -/
def unit? (a b c d : Char) : Option Nat := do
  let (a, b, c, d) := (← hexValue? a, ← hexValue? b, ← hexValue? c, ← hexValue? d)
  return ((a * 16 + b) * 16 + c) * 16 + d

/-- Whether a number is the first unit of a surrogate pair. -/
def isHighUnit (n : Nat) : Bool := 0xd800 ≤ n && n < 0xdc00

/-- Whether a number is the second unit of a surrogate pair. -/
def isLowUnit (n : Nat) : Bool := 0xdc00 ≤ n && n < 0xe000

/-- The character that a letter behind a backslash stands for. -/
def escape? (c : Char) : Option Char :=
  match c with
  | '"' => some '"'
  | '\\' => some '\\'
  | '/' => some '/'
  | 'b' => some '\x08'
  | 'f' => some '\x0c'
  | 'n' => some '\n'
  | 'r' => some '\r'
  | 't' => some '\t'
  | _ => none

/-- The characters of a text up to its closing quote, and what follows the quote. -/
def readText : List Char → Option (List Char × List Char)
  | [] => none
  | '"' :: s => some ([], s)
  | '\\' :: 'u' :: a :: b :: c :: d :: s => do
    let n ← unit? a b c d
    if isHighUnit n then
      match s with
      | '\\' :: 'u' :: a' :: b' :: c' :: d' :: s =>
        let m ← unit? a' b' c' d'
        if isLowUnit m then
          let (t, rest) ← readText s
          return (Char.ofNat (0x10000 + (n - 0xd800) * 0x400 + (m - 0xdc00)) :: t, rest)
        else none
      | _ => none
    else if isLowUnit n then none
    else
      let (t, rest) ← readText s
      return (Char.ofNat n :: t, rest)
  | '\\' :: c :: s => do
    let d ← escape? c
    let (t, rest) ← readText s
    return (d :: t, rest)
  | c :: s =>
    if c.toNat < 0x20 || c == '\\' then none
    else do
      let (t, rest) ← readText s
      return (c :: t, rest)

/-! ## Numbers -/

/-- The digits at the beginning of a text, of which there must be one, and what follows them. -/
def readDigits (s : List Char) : Option (List Char × List Char) :=
  match s.takeWhile Char.isDigit with
  | [] => none
  | ds => some (ds, s.dropWhile Char.isDigit)

/-- The digits of a fraction, if there is one. -/
def readFraction : List Char → Option (List Char × List Char)
  | '.' :: s => readDigits s
  | s => some ([], s)

/-- An exponent, if there is one. -/
def readExponent : List Char → Option (Option Int × List Char)
  | [] => some (none, [])
  | c :: s =>
    if c = 'e' ∨ c = 'E' then
      let (negative, s) := match s with
        | '-' :: s => (true, s)
        | '+' :: s => (false, s)
        | s => (false, s)
      (readDigits s).map fun (ds, rest) =>
        let n : Int := Nat.ofDigitChars 10 ds 0
        (some (if negative then -n else n), rest)
    else some (none, c :: s)

/-- A number without its sign: an integer without zeros in front, and perhaps a fraction and an
exponent. -/
def readMagnitude (negative : Bool) (s : List Char) : Option (Json × List Char) := do
  let (whole, s) ← readDigits s
  if whole.head? = some '0' ∧ whole.length ≠ 1 then none
  let (fraction, s) ← readFraction s
  let (exponent, s) ← readExponent s
  match fraction, exponent with
  | [], none =>
    let n : Int := Nat.ofDigitChars 10 whole 0
    return (.int (if negative then -n else n), s)
  | _, _ =>
    return (.float (Binary.ofDecimal negative (Nat.ofDigitChars 10 (whole ++ fraction) 0)
      (exponent.getD 0 - fraction.length)), s)

/-- A number. -/
def readNumber : List Char → Option (Json × List Char)
  | '-' :: s => readMagnitude true s
  | s => readMagnitude false s

/-! ## Documents -/

mutual

/-- A document and what follows it. -/
def readValue : (fuel : Nat) → List Char → Option (Json × List Char)
  | 0, _ => none
  | fuel + 1, s =>
    match skipSpace s with
    | 'n' :: 'u' :: 'l' :: 'l' :: s => some (.null, s)
    | 't' :: 'r' :: 'u' :: 'e' :: s => some (.bool true, s)
    | 'f' :: 'a' :: 'l' :: 's' :: 'e' :: s => some (.bool false, s)
    | '"' :: s => (readText s).map fun (t, rest) => (.str (String.ofList t), rest)
    | '[' :: s =>
      match skipSpace s with
      | ']' :: s => some (.array [], s)
      | s => (readItems fuel s).map fun (js, rest) => (.array js, rest)
    | '\x7b' :: s =>
      match skipSpace s with
      | '\x7d' :: s => some (.object [], s)
      | s => (readEntries fuel s).map fun (es, rest) => (.object es, rest)
    | s => readNumber s

/-- The items of an array up to its end. -/
def readItems : (fuel : Nat) → List Char → Option (List Json × List Char)
  | 0, _ => none
  | fuel + 1, s => do
    let (j, s) ← readValue fuel s
    match skipSpace s with
    | ']' :: s => return ([j], s)
    | ',' :: s =>
      let (js, rest) ← readItems fuel s
      return (j :: js, rest)
    | _ => none

/-- The entries of an object up to its end. -/
def readEntries : (fuel : Nat) → List Char → Option (List (String × Json) × List Char)
  | 0, _ => none
  | fuel + 1, s =>
    match skipSpace s with
    | '"' :: s => do
      let (k, s) ← readText s
      match skipSpace s with
      | ':' :: s =>
        let (j, s) ← readValue fuel s
        match skipSpace s with
        | '\x7d' :: s => return ([(String.ofList k, j)], s)
        | ',' :: s =>
          let (es, rest) ← readEntries fuel s
          return ((String.ofList k, j) :: es, rest)
        | _ => none
      | _ => none
    | _ => none

end

/-- The document that a text stands for; every token is passed by a bounded number of calls, so the
fuel never runs out. -/
def read? (s : String) : Option Json := do
  let (j, rest) ← readValue (2 * s.toList.length + 1) s.toList
  if (skipSpace rest).isEmpty then some j else none

/-! ## What stands outside of texts -/

mutual

/-- The characters outside of texts; the quotes are left out. -/
def outsideTexts : List Char → List Char
  | [] => []
  | c :: s => if c = '"' then insideText s else c :: outsideTexts s

/-- The characters outside of texts behind a text that is not closed yet. -/
def insideText : List Char → List Char
  | [] => []
  | '\\' :: _ :: s => insideText s
  | c :: s => if c = '"' then outsideTexts s else insideText s

end

end Interpolation.Json
