/-!
# Characters as bytes

The eight-bit encoding of Unicode text, and its strict reading: overlong forms, surrogates and code
points beyond the last one are refused. A refusal says how many bytes were read before the fault,
and whether the text ended inside a character or held a byte that cannot stand there.

Main definitions:

* `utf8Encode`, `utf8Decode`: the two directions.
* `Utf8Fault`: where and why reading stopped.
-/

namespace Interpolation.Text

/-- The bytes of a character. -/
def utf8Char (c : Char) : List UInt8 :=
  let n := c.toNat
  if n < 0x80 then [n.toUInt8]
  else if n < 0x800 then [(0xc0 + n / 64).toUInt8, (0x80 + n % 64).toUInt8]
  else if n < 0x10000 then
    [(0xe0 + n / 4096).toUInt8, (0x80 + n / 64 % 64).toUInt8, (0x80 + n % 64).toUInt8]
  else
    [(0xf0 + n / 262144).toUInt8, (0x80 + n / 4096 % 64).toUInt8, (0x80 + n / 64 % 64).toUInt8,
      (0x80 + n % 64).toUInt8]

/-- The bytes of a text. -/
def utf8Encode (s : List Char) : List UInt8 := s.flatMap utf8Char

/-- Why the bytes are no text. -/
inductive Utf8Cause where
  /-- No character begins with this byte. -/
  | start
  /-- The bytes from the position on, `length` of them, begin a character that is not continued. -/
  | continuation (length : Nat)
  /-- The bytes end inside a character. -/
  | incomplete
deriving DecidableEq, Repr

/-- Where the reading of bytes stopped, and why. -/
structure Utf8Fault where
  /-- The number of bytes before the fault. -/
  position : Nat
  /-- The byte at the fault. -/
  byte : UInt8
  /-- The number of bytes left, the one at the fault included. -/
  left : Nat
  /-- The cause. -/
  cause : Utf8Cause
deriving DecidableEq, Repr

/-- The number of bytes that follow a first byte, and the bounds of the first of them. -/
def followers? (b : UInt8) : Option (Nat × Nat × Nat) :=
  let n := b.toNat
  if n < 0xc2 then none
  else if n < 0xe0 then some (1, 0x80, 0xbf)
  else if n = 0xe0 then some (2, 0xa0, 0xbf)
  else if n = 0xed then some (2, 0x80, 0x9f)
  else if n < 0xf0 then some (2, 0x80, 0xbf)
  else if n = 0xf0 then some (3, 0x90, 0xbf)
  else if n < 0xf4 then some (3, 0x80, 0xbf)
  else if n = 0xf4 then some (3, 0x80, 0x8f)
  else none

/-- Reads `count` bytes that continue a character, the first within bounds; `taken` counts the bytes
of the character so far. -/
def readFollowers (value taken : Nat) :
    (count low high : Nat) → List UInt8 → Except Utf8Cause (Nat × List UInt8)
  | 0, _, _, bs => .ok (value, bs)
  | _ + 1, _, _, [] => .error .incomplete
  | count + 1, low, high, b :: bs =>
    if low ≤ b.toNat ∧ b.toNat ≤ high then
      readFollowers (value * 64 + b.toNat % 64) (taken + 1) count 0x80 0xbf bs
    else .error (.continuation taken)

/-- The bits that a first byte gives to its character. -/
def leadingBits (b : UInt8) (count : Nat) : Nat := b.toNat % 2 ^ (6 - count)

/-- Reads the first character of nonempty bytes. -/
def readChar (b : UInt8) (bs : List UInt8) : Except Utf8Cause (Char × List UInt8) :=
  if b.toNat < 0x80 then .ok (Char.ofNat b.toNat, bs)
  else
    match followers? b with
    | none => .error .start
    | some (count, low, high) =>
      (readFollowers (leadingBits b count) 1 count low high bs).map fun (n, rest) =>
        (Char.ofNat n, rest)

/-- Reads bytes as text, at most `fuel` characters; `position` counts the bytes before them. -/
def utf8DecodeFrom : (fuel position : Nat) → List UInt8 → Except Utf8Fault (List Char)
  | _, _, [] => .ok []
  | 0, _, _ :: _ => .ok []
  | fuel + 1, position, b :: bs =>
    match readChar b bs with
    | .ok (c, rest) =>
      (utf8DecodeFrom fuel (position + (bs.length + 1 - rest.length)) rest).map (c :: ·)
    | .error cause => .error ⟨position, b, bs.length + 1, cause⟩

/-- Reads bytes as text. -/
def utf8Decode (bs : List UInt8) : Except Utf8Fault (List Char) :=
  utf8DecodeFrom bs.length 0 bs

/-- How the fault is told with its byte and its place. -/
def Utf8Fault.message (f : Utf8Fault) : String :=
  let hex := String.ofList (Nat.toDigits 16 f.byte.toNat)
  let hex := if hex.length = 1 then "0" ++ hex else hex
  let place :=
    let one := "byte 0x" ++ hex ++ " in position " ++ toString f.position
    let range (n : Nat) :=
      "bytes in position " ++ toString f.position ++ "-" ++ toString (f.position + n - 1)
    match f.cause with
    | .start => one
    | .continuation n => if n = 1 then one else range n
    | .incomplete => if f.left = 1 then one else range f.left
  let why := match f.cause with
    | .start => "invalid start byte"
    | .continuation _ => "invalid continuation byte"
    | .incomplete => "unexpected end of data"
  "'utf-8' codec can't decode " ++ place ++ ": " ++ why

end Interpolation.Text
