import Interpolation.Value.Equality

/-!
# The order of values

Numbers are ordered by their exact values, texts and bytes character by character, sequences item
by item: the first pair of items that differ decides, and without one the longer sequence is the
greater. Sets and views that are like sets are ordered by being parts of each other. Between other
values there is no order.

Main definitions:

* `Comparison`: the four ordering operators.
* `Value.ordered`: whether a comparison holds.
* `sortBy`: items in order, by a comparison that may refuse.
-/

namespace Interpolation

open Interpolation.Number Interpolation.Calendar

/-- An ordering operator. -/
inductive Comparison where
  | lt
  | le
  | gt
  | ge
deriving DecidableEq, Repr

namespace Comparison

/-- How the operator is written. -/
def symbol : Comparison → String
  | .lt => "<"
  | .le => "<="
  | .gt => ">"
  | .ge => ">="

/-- Whether the operator holds between two sides in the given order. -/
def holds (c : Comparison) (o : Ordering) : Bool :=
  match c with
  | .lt => o == .lt
  | .le => o != .gt
  | .gt => o == .gt
  | .ge => o != .lt

end Comparison

namespace Value

/-- The order of two texts by their code points. -/
def compareTexts (s t : String) : Ordering :=
  compareOfLessAndEq (s.toList.map Text.codePoint) (t.toList.map Text.codePoint)

/-- Whether a comparison of two numbers holds; a decimal refuses what is no number. -/
def orderedNumbers (c : Comparison) (a b : Value) (o : Option Ordering) : Except Fault Bool :=
  match o with
  | some o => .ok (c.holds o)
  | Option.none =>
    if a.content.isDecimal || b.content.isDecimal then .error (.signal .invalid) else .ok false

/-- Whether a comparison of two moments holds. -/
def orderedMoments (c : Comparison) (noun : String) (o : Option Ordering) : Except Fault Bool :=
  match o with
  | some o => .ok (c.holds o)
  | Option.none => .error (.calendar (.unequalComparison noun))

/-- The order of two values without parts. -/
def orderedAtoms (c : Comparison) (a b : Value) : Except Fault Bool :=
  match a.content.compareNumbers? b.content with
  | some o => orderedNumbers c a b o
  | Option.none =>
    match a.text?, b.text? with
    | some s, some t => .ok (c.holds (compareTexts s t))
    | _, _ =>
      match a.content, b.content with
      | .missing _ m, _ => .error m.fault
      | _, .missing _ m => .error m.fault
      | .bytes x, .bytes y =>
        .ok (c.holds (compareOfLessAndEq (x.map UInt8.toNat) (y.map UInt8.toNat)))
      | .date x, .date y => .ok (c.holds (compare x.ordinal y.ordinal))
      | .date _, .datetime .. | .datetime .., .date _ => .error (.calendar .dateWithMoment)
      | .duration x, .duration y => .ok (c.holds (compare x.micros y.micros))
      | .datetime d t, .datetime e u => orderedMoments c "datetimes" (orderOfMoments? d t e u)
      | .time t, .time u => orderedMoments c "times" (t.order? u)
      | _, _ => .error (.ordering c.symbol a.typeWord b.typeWord)

/-- Whether a comparison holds between two collections, of which the lesser one is the part. -/
def orderedCollections (c : Comparison) (x y : Collection) : Look Bool :=
  match c with
  | .lt => if x.size < y.size then x.within equal y else return false
  | .le => if x.size ≤ y.size then x.within equal y else return false
  | .gt => if x.size > y.size then y.within equal x else return false
  | .ge => if x.size ≥ y.size then y.within equal x else return false

/-- Whether a comparison holds between two sequences; `compare` is the comparison of the first pair
of items that differ. -/
def orderedItems (c : Comparison) (compare : Value → Value → Look Bool) :
    List Value → List Value → Look Bool
  | x :: xs, y :: ys => do if ← fits equal x y then orderedItems c compare xs ys else compare x y
  | [], [] => return c.holds .eq
  | [], _ :: _ => return c.holds .lt
  | _ :: _, [] => return c.holds .gt

/-- Whether a comparison holds between two values, down to a number of levels. -/
def orderedTo (c : Comparison) : (fuel : Nat) → Value → Value → Look Bool
  | 0, _, _ => throw (.tooDeep " in comparison")
  | fuel + 1, a, b =>
    match a.content, b.content with
    | .list r, .list r' => do
      orderedItems c (orderedTo c fuel) (← Look.items r) (← Look.items r')
    | .tuple r, .tuple r' => do
      orderedItems c (orderedTo c fuel) (← Look.items r) (← Look.items r')
    | _, _ => do
      match ← a.collection?, ← b.collection? with
      | some x, some y => orderedCollections c x y
      | _, _ => orderedAtoms c a b

/-- Whether a comparison holds between two values. -/
def ordered (c : Comparison) (a b : Value) : Look Bool := orderedTo c comparedLevels a b

end Value

/-! ## Sorting -/

section Sorting

variable {α : Type} (less : α → α → Look Bool)

/-- The length of the run at the beginning, behind an item: descending while each item is less than
the one before it, else ascending while none is. -/
def runLength (descending : Bool) (previous : α) : List α → Look Nat
  | [] => return 0
  | x :: xs => do
    if (← less x previous) == descending then return (← runLength descending x xs) + 1
    else return 0

/-- Where an item belongs in a sorted list, behind the items that are not greater: the place is
found by halving. -/
def insertionPoint (x : α) (sorted : Array α) : (fuel low high : Nat) → Look Nat
  | 0, low, _ => return low
  | fuel + 1, low, high =>
    if low < high then
      let middle := low + (high - low) / 2
      match sorted[middle]? with
      | some y => do
        if ← less x y then insertionPoint x sorted fuel low middle
        else insertionPoint x sorted fuel (middle + 1) high
      | none => return low
    else return low

/-- Inserts items one by one into a sorted list. -/
def insertAll (sorted : Array α) : List α → Look (Array α)
  | [] => return sorted
  | x :: xs => do
    let place ← insertionPoint less x sorted (sorted.size + 1) 0 sorted.size
    insertAll ((sorted.toList.take place ++ x :: sorted.toList.drop place).toArray) xs

/-- The items in order; items that are not less than each other keep their order. The run at the
beginning is taken as it is, turned round when it descends; the rest is inserted. -/
def sortBy (xs : List α) : Look (List α) :=
  match xs with
  | x :: y :: rest => do
    let descending ← less y x
    let run := 2 + (← runLength less descending y rest)
    let start := xs.take run
    let sorted ← insertAll less (if descending then start.reverse else start).toArray (xs.drop run)
    return sorted.toList
  | short => return short

end Sorting

end Interpolation
