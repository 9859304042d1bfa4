import Interpolation.Text.Utf8

/-!
# Encodings

An escape in a text may name a surrogate: a code point that stands for no character. A text can hold
it, be compared and be shown with it, but it has no bytes. As there is no character for a surrogate,
the one that is `surrogateShift` further on takes its place in a text; it lies in a plane in which
no character is assigned, and a text that holds it is taken for one that holds the surrogate.

A text is written as bytes in one of three encodings, and read from them. What an encoding has no
bytes for, and bytes that stand for nothing, are faults, unless something else is asked for: leaving
them out, or putting something into their place.

Main definitions:

* `ofCodePoint`, `codePoint`: between code points and what takes their places.
* `encode`: the bytes of a text without surrogates.
* `Encoding`: the encodings, with `Encoding.ofName?` for their many names.
* `Recovery`: what becomes of that which cannot be written or read.
* `Encoding.write`, `Encoding.read`: the two directions.
-/

namespace Interpolation.Text

/-! ## Surrogates -/

/-- The distance from a surrogate to the character that takes its place. -/
def surrogateShift : Nat := 0xd0000

/-- What takes the place of a code point. -/
def ofCodePoint (n : Nat) : Char :=
  if 0xd800 ≤ n ∧ n < 0xe000 then Char.ofNat (n + surrogateShift) else Char.ofNat n

/-- Whether a surrogate is meant. -/
def isSurrogate (c : Char) : Bool := 0xdd800 ≤ c.toNat && c.toNat < 0xde000

/-- The code point that is meant. -/
def codePoint (c : Char) : Nat := if isSurrogate c then c.toNat - surrogateShift else c.toNat

/-- Surrogates behind each other, which have no bytes. -/
structure EncodeFault where
  /-- The number of characters before them. -/
  position : Nat
  /-- The first of them. -/
  first : Char
  /-- How many there are. -/
  count : Nat
deriving DecidableEq, Repr

/-- The bytes of a text, unless it holds a surrogate. -/
def encode (s : List Char) : Except EncodeFault (List UInt8) :=
  match s.dropWhile fun c => !isSurrogate c with
  | [] => .ok (utf8Encode s)
  | c :: rest =>
    .error ⟨s.length - (rest.length + 1), c, (rest.takeWhile isSurrogate).length + 1⟩

/-- A surrogate by its number. -/
def surrogateEscape (c : Char) : String :=
  "'\\u" ++ String.ofList (Nat.toDigits 16 (codePoint c)) ++ "'"

/-- How it is told that a text has no bytes. -/
def EncodeFault.message (f : EncodeFault) : String :=
  let which :=
    if f.count = 1 then
      "character " ++ surrogateEscape f.first ++ " in position " ++ toString f.position
    else
      "characters in position " ++ toString f.position ++ "-"
        ++ toString (f.position + f.count - 1)
  "'utf-8' codec can't encode " ++ which ++ ": surrogates not allowed"

/-! ## Encodings -/

/-- The encodings of texts. -/
inductive Encoding where
  | utf8
  | ascii
  | latin
deriving DecidableEq, Repr

namespace Encoding

/-- The name in reports. -/
def name : Encoding → String
  | utf8 => "utf-8"
  | ascii => "ascii"
  | latin => "latin-1"

/-- The names that an encoding is asked for with, in their normal form. -/
def names : Encoding → List String
  | utf8 => ["utf_8", "utf8", "u8", "utf", "utf8_ucs2", "utf8_ucs4", "cp65001"]
  | ascii =>
    ["ascii", "us_ascii", "us", "646", "cp367", "csascii", "ibm367", "iso646_us", "iso_ir_6",
     "ansi_x3.4_1968", "ansi_x3_4_1968", "ansi_x3.4_1986", "iso_646.irv_1991"]
  | latin =>
    ["latin_1", "latin1", "latin", "l1", "8859", "cp819", "ibm819", "csisolatin1", "iso8859",
     "iso8859_1", "iso_8859_1", "iso_8859_1_1987", "iso_ir_100"]

/-- The normal form of a name: small letters, and one low line for each run of other marks. -/
def normalName (s : List Char) : String :=
  let isPart (c : Char) : Bool := c.isAlphanum || c == '.'
  let words := (s.splitBy fun a b => isPart a == isPart b).filter fun run => run.all isPart
  String.ofList (['_'].intercalate (words.map fun w => w.map Char.toLower))

/-- The encoding of a name. -/
def ofName? (s : List Char) : Option Encoding :=
  [utf8, ascii, latin].find? fun e => e.names.contains (normalName s)

/-- The number of characters from the first one on that an encoding has bytes for. -/
def limit : Encoding → Nat
  | utf8 => 0x110000
  | ascii => 0x80
  | latin => 0x100

/-- Whether there are bytes for a character. -/
def canWrite (e : Encoding) (c : Char) : Bool := !isSurrogate c && c.toNat < e.limit

/-- The bytes of a character. -/
def bytesOf (e : Encoding) (c : Char) : List UInt8 :=
  match e with
  | utf8 => utf8Char c
  | ascii | latin => [UInt8.ofNat c.toNat]

end Encoding

/-- What becomes of that which cannot be written or read. -/
inductive Recovery where
  | strict
  | ignore
  | replace
  /-- An escape with a backslash takes its place. -/
  | backslash
  /-- A reference of markup takes its place. -/
  | reference
  /-- A single byte is kept as a surrogate. -/
  | surrogateEscape
  /-- Surrogates are written and read like characters. -/
  | surrogatePass
deriving DecidableEq, Repr

/-- What is asked for by a name. -/
def Recovery.ofName? (name : String) : Option Recovery :=
  [("strict", .strict), ("ignore", .ignore), ("replace", .replace),
   ("backslashreplace", .backslash), ("xmlcharrefreplace", .reference),
   ("surrogateescape", .surrogateEscape), ("surrogatepass", .surrogatePass)].lookup name

/-- A code point in hexadecimal digits behind a letter: two, four or eight of them. -/
def codeEscape (n : Nat) : String :=
  let digits (width : Nat) : String :=
    let shown := Nat.toDigits 16 n
    String.ofList (List.replicate (width - shown.length) '0' ++ shown)
  if n < 0x100 then "\\x" ++ digits 2
  else if n < 0x10000 then "\\u" ++ digits 4
  else "\\U" ++ digits 8

/-! ## Writing -/

/-- How it is told that an encoding has no bytes for some characters. -/
def Encoding.unwritten (e : Encoding) (position count : Nat) (first : Char) : String :=
  let which :=
    if count = 1 then
      "character '" ++ codeEscape (codePoint first) ++ "' in position " ++ toString position
    else
      "characters in position " ++ toString position ++ "-" ++ toString (position + count - 1)
  let why :=
    match e with
    | .utf8 => "surrogates not allowed"
    | e => "ordinal not in range(" ++ toString e.limit ++ ")"
  "'" ++ e.name ++ "' codec can't encode " ++ which ++ ": " ++ why

/-- The bytes that take the place of a character, if there are any. -/
def Recovery.bytesFor? (r : Recovery) (e : Encoding) (c : Char) : Option (List UInt8) :=
  let n := codePoint c
  let written (s : String) : Option (List UInt8) := some (utf8Encode s.toList)
  match r with
  | strict => none
  | ignore => some []
  | replace => written "?"
  | backslash => written (codeEscape n)
  | reference => written ("&#" ++ toString n ++ ";")
  | surrogateEscape => if 0xdc80 ≤ n ∧ n < 0xdd00 then some [UInt8.ofNat (n - 0xdc00)] else none
  | surrogatePass =>
    if e = .utf8 ∧ isSurrogate c then
      some [UInt8.ofNat (0xe0 + n / 4096), UInt8.ofNat (0x80 + n / 64 % 64),
        UInt8.ofNat (0x80 + n % 64)]
    else none

/-- The bytes of a text from a position on, or what is told about it. -/
def Encoding.writeFrom (e : Encoding) (r : Recovery) (position : Nat) :
    List Char → Except String (List UInt8)
  | [] => .ok []
  | c :: s =>
    let bs := if e.canWrite c then some (e.bytesOf c) else r.bytesFor? e c
    match bs with
    | some bs => (e.writeFrom r (position + 1) s).map (bs ++ ·)
    | none =>
      let run := (c :: s).takeWhile fun c => !e.canWrite c
      .error (e.unwritten position run.length c)

/-- The bytes of a text, or what is told about one that has none. -/
def Encoding.write (e : Encoding) (r : Recovery) (s : List Char) : Except String (List UInt8) :=
  e.writeFrom r 0 s

/-! ## Reading -/

/-- What takes the place of bytes that stand for nothing, if there is anything. -/
def Recovery.charsFor? (r : Recovery) (bs : List UInt8) : Option (List Char) :=
  match r with
  | ignore => some []
  | replace => some [Char.ofNat 0xfffd]
  | backslash => some (bs.flatMap fun b => (codeEscape b.toNat).toList)
  | surrogateEscape => some (bs.map fun b => ofCodePoint (0xdc00 + b.toNat))
  | _ => none

/-- The surrogate at the beginning of bytes. -/
def surrogateAt? : List UInt8 → Option Char
  | a :: b :: c :: _ =>
    let isRest (b : UInt8) : Bool := 0x80 ≤ b.toNat && b.toNat < 0xc0
    if a.toNat = 0xed ∧ 0xa0 ≤ b.toNat ∧ isRest b ∧ isRest c then
      some (ofCodePoint (0xd000 + b.toNat % 64 * 64 + c.toNat % 64))
    else none
  | _ => none

/-- Why there is no character at the beginning of bytes. -/
structure ReadFault where
  /-- The number of bytes that stand for nothing. -/
  count : Nat
  /-- What is told about it. -/
  message : String

/-- The first character of nonempty bytes and the rest, or why there is none; `position` counts the
bytes before them. -/
def Encoding.readFirst (e : Encoding) (position : Nat) (b : UInt8) (bs : List UInt8) :
    Except ReadFault (Char × List UInt8) :=
  match e with
  | .latin => .ok (Char.ofNat b.toNat, bs)
  | .ascii =>
    if b.toNat < 0x80 then .ok (Char.ofNat b.toNat, bs)
    else
      .error ⟨1, "'ascii' codec can't decode byte 0x" ++ String.ofList (Nat.toDigits 16 b.toNat)
        ++ " in position " ++ toString position ++ ": ordinal not in range(128)"⟩
  | .utf8 =>
    (readChar b bs).mapError fun cause =>
      let count := match cause with
        | .start => 1
        | .continuation n => n
        | .incomplete => bs.length + 1
      ⟨count, (Utf8Fault.mk position b (bs.length + 1) cause).message⟩

/-- Reads bytes as text, at most `fuel` characters, or says why they are none. -/
def Encoding.readFrom (e : Encoding) (r : Recovery) :
    (fuel position : Nat) → List UInt8 → Except String (List Char)
  | _, _, [] => .ok []
  | 0, _, _ :: _ => .ok []
  | fuel + 1, position, b :: bs =>
    match e.readFirst position b bs, r, surrogateAt? (b :: bs) with
    | .ok (c, rest), _, _ =>
      (e.readFrom r fuel (position + (bs.length + 1 - rest.length)) rest).map (c :: ·)
    | .error _, .surrogatePass, some c =>
      (e.readFrom r fuel (position + 3) (bs.drop 2)).map (c :: ·)
    | .error fault, _, _ =>
      match r.charsFor? ((b :: bs).take fault.count) with
      | some cs =>
        (e.readFrom r fuel (position + fault.count) (bs.drop (fault.count - 1))).map (cs ++ ·)
      | none => .error fault.message

/-- Reads bytes as text, or says why they are none. -/
def Encoding.read (e : Encoding) (r : Recovery) (bs : List UInt8) : Except String (List Char) :=
  e.readFrom r bs.length 0 bs

end Interpolation.Text
