import Interpolation.Text.Blank
import Interpolation.Text.Cut
import Interpolation.Text.Escape
import Interpolation.Text.Letter

/-!
# Links in texts

A word of a text that looks like the address of a page, or like one that mail is sent to, is turned
into a link. Brackets around an address and punctuation behind it are no part of it, unless a
bracket closes one that is opened inside of the address.

Main definitions:

* `Pattern`, `Pattern.fits`: what words are compared with.
* `Pattern.page`, `Pattern.mail`, `Pattern.scheme`: addresses, and how addresses begin.
* `Surrounded`: a word without what stands around the address in it.
* `LinkStyle.linked`: a text with its addresses as links.
-/

namespace Interpolation.Text

/-! ## Patterns -/

/-- What a part of a word is compared with. -/
inductive Pattern where
  /-- One character with a property. -/
  | one (p : Char → Bool)
  /-- One pattern behind the other. -/
  | seq (ps : List Pattern)
  /-- One of several patterns. -/
  | oneOf (ps : List Pattern)
  /-- The pattern so many times, or up to so many times more. -/
  | times (p : Pattern) (least : Nat) (more : Option Nat)

namespace Pattern

/-- What is left of texts behind exactly so many steps. -/
def behindExactly (step : List Char → List (List Char)) :
    (count : Nat) → List (List Char) → List (List Char)
  | 0, texts => texts
  | count + 1, texts => behindExactly step count (texts.flatMap step).eraseDups

/-- What is left of texts behind at most so many steps. -/
def behindSteps (step : List Char → List (List Char)) :
    (count : Nat) → List (List Char) → List (List Char)
  | 0, texts => texts
  | _, [] => []
  | count + 1, texts => texts ++ behindSteps step count (texts.flatMap step).eraseDups

mutual

/-- What may be left of a text behind a pattern. -/
def rests : Pattern → List Char → List (List Char)
  | one _, [] => []
  | one p, c :: s => if p c then [s] else []
  | seq ps, s => restsOfAll ps s
  | oneOf ps, s => restsOfAny ps s
  | times p least more, s =>
    behindSteps (rests p) (more.getD s.length) (behindExactly (rests p) least [s])

/-- What may be left behind patterns that stand one behind the other. -/
def restsOfAll : List Pattern → List Char → List (List Char)
  | [], s => [s]
  | p :: ps, s => (rests p s).flatMap (restsOfAll ps)

/-- What may be left behind one of several patterns. -/
def restsOfAny : List Pattern → List Char → List (List Char)
  | [], _ => []
  | p :: ps, s => rests p s ++ restsOfAny ps s

end

/-- Whether a whole text fits a pattern. -/
def fits (p : Pattern) (s : List Char) : Bool := (p.rests s).any List.isEmpty

/-- A pattern between two numbers of times. -/
def between (p : Pattern) (least most : Nat) : Pattern := times p least (some (most - least))

/-- A pattern at least so many times. -/
def atLeast (least : Nat) (p : Pattern) : Pattern := times p least none

/-- A pattern or nothing. -/
def perhaps (p : Pattern) : Pattern := times p 0 (some 1)

/-- Whether a character is a letter in either case; a few letters of other scripts count as well. -/
def isLetter (letter c : Char) : Bool :=
  c.toLower == letter
    || (letter == 'i' && (c.toNat == 0x130 || c.toNat == 0x131))
    || (letter == 's' && c.toNat == 0x17f)
    || (letter == 'k' && c.toNat == 0x212a)

/-- A letter of the Latin script. -/
def latin : Pattern := one fun c => "abcdefghijklmnopqrstuvwxyz".toList.any (isLetter · c)

/-- A text in either case. -/
def text (s : String) : Pattern := seq (s.toList.map fun c => one (isLetter c))

/-- A letter, a number or a low line. -/
def wordly : Pattern := one isWord

/-- A decimal digit of any script. -/
def digit : Pattern := one fun c => (digitValue? c).isSome

/-- A character that is not blank. -/
def visible : Pattern := one fun c => !isBlank c

/-- A character of a name of a host. -/
def hostly : Pattern := one fun c => isWord c || c == '%' || c == '-'

/-- The beginning of the address of a page. -/
def protocol : Pattern := seq [text "http", perhaps (text "s"), text "://"]

/-- The name of a host behind the beginning of an address. -/
def namedHost : Pattern :=
  seq [oneOf [protocol, text "www."],
    times (seq [atLeast 1 hostly, text "."]) 0 none,
    oneOf [between latin 2 63,
      seq [text "xn--", between (one fun c => isWord c || c == '%') 2 59]]]

/-- The name of a host of a common kind. -/
def commonHost : Pattern :=
  seq [atLeast 1 (seq [between hostly 2 63, text "."]),
    oneOf (["com", "net", "int", "edu", "gov", "org", "info", "mil"].map text)]

/-- A host by its number. -/
def numberedHost : Pattern :=
  let group : Pattern :=
    between (one fun c => (digitValue? c).isSome || "abcdef".toList.contains c.toLower) 0 4
  seq [protocol, oneOf [
    seq [between digit 1 3, times (seq [text ".", between digit 1 3]) 3 (some 0)],
    seq [text "[", times (seq [group, text ":"]) 2 (some 0),
      between (seq [group, perhaps (text ":")]) 1 6, text "]"]]]

/-- The address of a page. -/
def page : Pattern :=
  seq [oneOf [namedHost, commonHost, numberedHost],
    perhaps (seq [text ":", between digit 1 5]),
    perhaps (seq [one fun c => c == '/' || c == '?' || c == '#', times visible 0 none])]

/-- An address that mail is sent to. -/
def mail : Pattern :=
  seq [atLeast 1 visible, text "@", wordly,
    times (one fun c => isWord c || c == '.' || c == '-') 0 none, text ".", atLeast 1 wordly]

/-- How an address may begin. -/
def scheme : Pattern :=
  seq [atLeast 2 (one fun c => isWord c || c == '.' || c == '+' || c == '-'), text ":",
    between (text "/") 0 2]

end Pattern

/-! ## Words -/

/-- A word with what stands around the address in it. -/
structure Surrounded where
  /-- The brackets before the address. -/
  head : List Char
  /-- The address. -/
  middle : List Char
  /-- Brackets and punctuation behind the address. -/
  tail : List Char

namespace Surrounded

/-- The brackets at the beginning of a text, and what stands behind them. -/
def opening : (fuel : Nat) → List Char → List Char × List Char
  | 0, s => ([], s)
  | fuel + 1, s =>
    match ["(", "<", "&lt;"].findSome? fun m => (after? m.toList s).map fun rest => (m.toList, rest) with
    | some (m, rest) =>
      let (more, rest) := opening fuel rest
      (m ++ more, rest)
    | none => ([], s)

/-- The brackets and the punctuation at the end of a text, both reversed, and what stands before
them. -/
def closing : (fuel : Nat) → List Char → List Char × List Char
  | 0, s => ([], s)
  | fuel + 1, s =>
    match [")", ">", ".", ",", "\n", ";tg&"].findSome? fun m =>
        (after? m.toList s).map fun rest => (m.toList, rest) with
    | some (m, rest) =>
      let (more, rest) := closing fuel rest
      (m ++ more, rest)
    | none => ([], s)

/-- Moves what closes a bracket from the tail to the address, so many times. -/
def moved (mark : List Char) : (times : Nat) → Surrounded → Surrounded
  | 0, w => w
  | n + 1, w =>
    match cut? mark w.tail with
    | some (a, b) => moved mark n { w with middle := w.middle ++ a ++ mark, tail := b }
    | none => w

/-- Moves what closes brackets that are opened inside of the address. -/
def balanced (w : Surrounded) : Surrounded :=
  [("(", ")"), ("<", ">"), ("&lt;", "&gt;")].foldl (fun w (start, stop) =>
    let opened := count start.toList w.middle
    if opened ≤ count stop.toList w.middle then w
    else moved stop.toList (min opened (count stop.toList w.tail)) w) w

/-- The parts of a word. -/
def ofWord (s : List Char) : Surrounded :=
  let (head, rest) := opening s.length s
  let (tail, middle) := closing rest.length rest.reverse
  balanced ⟨head, middle.reverse, tail.reverse⟩

end Surrounded

/-! ## Texts -/

/-- How links are written. -/
structure LinkStyle (m : Type → Type) where
  /-- What an address is shown as. -/
  shown : List Char → m (List Char)
  /-- The attributes of links to pages. -/
  attributes : List Char
  /-- Other beginnings of addresses. -/
  schemes : List (List Char)

namespace LinkStyle

variable {m : Type → Type} [Monad m] (style : LinkStyle m)

/-- A link. -/
def link (target attributes shown : List Char) : List Char :=
  "<a href=\"".toList ++ target ++ "\"".toList ++ attributes ++ ">".toList ++ shown ++ "</a>".toList

/-- Whether a text begins with another one. -/
def begins (m : String) (s : List Char) : Bool := (after? m.toList s).isSome

/-- An address with one of the other beginnings as a link. -/
def schemed (s : List Char) : List Char :=
  style.schemes.foldl (fun s scheme =>
    if s != scheme && (after? scheme s).isSome then link s style.attributes s else s) s

/-- An address as a link. -/
def address (s : List Char) : m (List Char) := do
  if Pattern.page.fits s then
    let target := if begins "https://" s || begins "http://" s then s else "https://".toList ++ s
    return link target style.attributes (← style.shown s)
  else if begins "mailto:" s && Pattern.mail.fits (s.drop 7) then return link s [] (s.drop 7)
  else if s.contains '@' && !begins "www." s && !begins "@" s && !s.contains ':'
      && Pattern.mail.fits s then return link ("mailto:".toList ++ s) [] s
  else return style.schemed s

/-- A word with its address as a link. -/
def word (s : List Char) : m (List Char) := do
  let w := Surrounded.ofWord s
  return w.head ++ (← style.address w.middle) ++ w.tail

/-- A text with its addresses as links. -/
def linked (s : List Char) : m (List Char) := do
  return (← (s.splitBy fun a b => isBlank a == isBlank b).mapM style.word).flatten

end LinkStyle

end Interpolation.Text
