import Interpolation.Text.Decompositions

/-!
# The normal form of a name

Names that are written differently may be one name: what counts is their normal form. It is found in
three steps. Every character is taken apart until nothing is left that is a shape of something else
or has a mark; marks behind a character are put in the order of their classes, those of one class
stay as they are; and what can be put together again is put together. Characters are given by their
code points.

Main definitions:

* `taken`: a character taken apart.
* `inMarkOrder`: a text with its marks in order.
* `putTogether`: a text with its characters put together.
* `normalName`: the normal form of a name.
-/

namespace Interpolation.Text

/-- What a list of blocks holds for a code point. -/
def inBlocks? {α : Type} (blocks : List (Nat × List α)) (n : Nat) : Option α :=
  blocks.findSome? fun (first, items) => if first ≤ n then items[n - first]? else none

/-! ## Syllables -/

/-- The parts of a Korean syllable: two or three letters. -/
def syllableParts? (n : Nat) : Option (List Nat) :=
  if 0xac00 ≤ n ∧ n < 0xd7a4 then
    let i := n - 0xac00
    let both := [0x1100 + i / 588, 0x1161 + i % 588 / 28]
    some (if i % 28 = 0 then both else both ++ [0x11a7 + i % 28])
  else none

/-- The syllable of two letters, or of a syllable of two letters and a third one. -/
def syllable? (a b : Nat) : Option Nat :=
  if 0x1100 ≤ a ∧ a < 0x1113 ∧ 0x1161 ≤ b ∧ b < 0x1176 then
    some (0xac00 + ((a - 0x1100) * 21 + (b - 0x1161)) * 28)
  else if 0xac00 ≤ a ∧ a < 0xd7a4 ∧ (a - 0xac00) % 28 = 0 ∧ 0x11a8 ≤ b ∧ b < 0x11c3 then
    some (a + (b - 0x11a7))
  else none

/-! ## Taking apart -/

/-- The two characters that a character is made of. -/
def halves? (n : Nat) : Option (Nat × Nat) :=
  composites.findSome? fun (b, pairs) =>
    (pairs.find? fun (_, whole) => whole == n).map fun (a, _) => (a, b)

/-- The character that a character is a shape of. -/
def shaped (n : Nat) : Nat :=
  match shapeRuns.find? fun (first, last, _) => first ≤ n && n ≤ last with
  | some (_, _, shift) => (n + shift).toNat
  | none => (inBlocks? shapeBlocks n).getD n

/-- More levels than a character is made of. -/
def partLevels : Nat := 4

/-- A character taken apart, down to a number of levels. -/
def taken : (levels : Nat) → Nat → List Nat
  | 0, n => [n]
  | levels + 1, n =>
    match halves? n with
    | some (a, b) => taken levels a ++ [b]
    | none => (syllableParts? n).getD ((inBlocks? sequenceBlocks n).getD [shaped n])

/-! ## The order of marks -/

/-- The class of a mark; other characters have the class zero. -/
def markClass (n : Nat) : Nat :=
  match markRuns.find? fun (first, last, _) => first ≤ n && n ≤ last with
  | some (_, _, c) => c
  | none => 0

/-- Puts a character behind others, given back to front; a mark passes the marks of greater
classes. -/
def insertMark (n : Nat) : List Nat → List Nat
  | [] => [n]
  | m :: before =>
    if 0 < markClass n ∧ markClass n < markClass m then m :: insertMark n before
    else n :: m :: before

/-- A text with its marks in order. -/
def inMarkOrder (s : List Nat) : List Nat :=
  (s.foldl (fun before n => insertMark n before) []).reverse

/-! ## Putting together -/

/-- The character that two others make. -/
def composite? (a b : Nat) : Option Nat :=
  (syllable? a b).or ((composites.lookup b).bind fun pairs => pairs.lookup a)

/-- Puts together what follows a character; `marks` stay behind it, the last one first. A mark is
kept from the character by one of its own class or of a greater one. -/
def putBehind (a : Nat) (marks : List Nat) : List Nat → List Nat
  | [] => a :: marks.reverse
  | n :: s =>
    let isKept := (marks.head?.map fun m => markClass n ≤ markClass m : Option Bool).getD false
    match if isKept then none else composite? a n with
    | some whole => putBehind whole marks s
    | none =>
      if markClass n = 0 then a :: marks.reverse ++ putBehind n [] s
      else putBehind a (n :: marks) s

/-- A text with its characters put together. -/
def putTogether : List Nat → List Nat
  | [] => []
  | a :: s => putBehind a [] s

/-! ## Names -/

/-- The normal form of a name. -/
def normalName (s : String) : String :=
  if s.toList.all fun c => c.toNat < 0x80 then s
  else
    let parts := s.toList.flatMap fun c => taken partLevels c.toNat
    String.ofList ((putTogether (inMarkOrder parts)).map Char.ofNat)

end Interpolation.Text
