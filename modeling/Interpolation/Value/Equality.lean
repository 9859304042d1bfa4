import Interpolation.Value.Store

/-!
# Equality, truth and mappings

Numbers are equal when their exact values are, whatever their types; texts are equal when their
characters are; sequences when their items are, one by one; views of mappings are compared as sets.
Objects that are known by their attributes are equal only to themselves. Inside of containers a
value is always found by itself, even one that is not equal to itself. A strict missing value
refuses to be compared.

Mappings are lists of entries in the order of insertion, with keys that can be told apart by this
equality.

Main definitions:

* `Value.equal`: equality of values.
* `Value.truth`: which values count as true.
* `Value.requireKey`: which values can be keys.
* `lookup?`, `insertEntry`, `memberOf`: the operations on mappings and collections.
-/

namespace Interpolation

open Interpolation.Number Interpolation.Calendar

/-- The numbers of a range, as many as there are. -/
def rangeSize (start stop step : Int) : Nat :=
  if step > 0 then ((stop - start + step - 1) / step).toNat
  else ((start - stop + (-step) - 1) / (-step)).toNat

namespace Content

/-- The order of the exact values of two numbers: `none` when the contents are not both numbers, and
`some none` when one of them is not a number of any size. -/
def compareNumbers? (a b : Content) : Option (Option Ordering) :=
  match a, b with
  | .float x, .float y => some ((Binary.ofFloat x).compare? (Binary.ofFloat y))
  | .decimal x, .decimal y => some (x.compare? y)
  | .float x, .decimal y => some ((Decimal.ofFloat x).compare? y)
  | .decimal x, .float y => some (x.compare? (Decimal.ofFloat y))
  | .float x, b => b.int?.map fun n => ((Binary.ofFloat x).compare? (Binary.ofInt n))
  | .decimal x, b => b.int?.map fun n => x.compare? (Decimal.ofInt n)
  | a, .float y => a.int?.map fun n => ((Binary.ofInt n).compare? (Binary.ofFloat y))
  | a, .decimal y => a.int?.map fun n => (Decimal.ofInt n).compare? y
  | a, b =>
    match a.int?, b.int? with
    | some m, some n => some (some (compare m n))
    | _, _ => Option.none

/-- Whether the content is a number that signals when it is used. -/
def isSignal : Content → Bool
  | .decimal d => d.isSignal
  | _ => false

/-- Whether the content is a decimal. -/
def isDecimal : Content → Bool
  | .decimal _ => true
  | _ => false

/-- The real number that a content with an imaginary part of zero stands for. -/
def realPart? : Content → Option Content
  | .complex re im => if im == 0 then some (.float re) else Option.none
  | _ => Option.none

/-- Whether two numbers are equal, of which one may have an imaginary part. -/
def equalNumbers? (a b : Content) : Option Bool :=
  match a, b with
  | .complex a b, .complex c d => some (a == c && b == d)
  | .complex .., b =>
    match a.realPart? with
    | some x => (compareNumbers? x b).map (· == some .eq)
    | Option.none => (compareNumbers? (.float 0) b).map fun _ => false
  | a, .complex .. =>
    match b.realPart? with
    | some y => (compareNumbers? a y).map (· == some .eq)
    | Option.none => (compareNumbers? a (.float 0)).map fun _ => false
  | a, b => (compareNumbers? a b).map (· == some .eq)

end Content

namespace Value

/-- Equality of two values without parts. -/
def equalAtoms (a b : Value) : Look Bool :=
  match a.content.equalNumbers? b.content with
  | some o =>
    if a.content.isSignal || b.content.isSignal then throw (.signal .invalid) else return o
  | Option.none =>
    match a.text?, b.text? with
    | some s, some t => return s == t
    | some _, Option.none | Option.none, some _ => return false
    | Option.none, Option.none =>
      match a.content, b.content with
      | .bytes x, .bytes y => return x == y
      | .date x, .date y => return x == y
      | .datetime d c, .datetime e b => return orderOfMoments? d c e b == some .eq
      | .time x, .time y => return x.order? y == some .eq
      | .duration x, .duration y => return x == y
      | .zone x, .zone y => return x == y
      | .missing s _, .missing t _ => return s == t
      | .range a b s, .range a' b' s' =>
        let size := rangeSize a b s
        return size == rangeSize a' b' s'
          && (size == 0 || (a == a' && (size == 1 || s == s')))
      | .method _ r n, .method _ r' n' => do
        return n == n' && (← Look.itemAt r 0).same (← Look.itemAt r' 0)
      | _, _ => return a.same b

section Containers

variable (eq : Value → Value → Look Bool)

/-- Whether two values are one and the same, or equal. -/
def fits (a b : Value) : Look Bool := if a.same b then return true else eq a b

/-- Whether the items of two sequences fit, one by one. -/
def fitItems : List Value → List Value → Look Bool
  | [], [] => return true
  | x :: xs, y :: ys => do if ← fits eq x y then fitItems xs ys else return false
  | _, _ => return false

/-- The value of the first entry whose key fits. -/
def findEntry? (key : Value) : List (Value × Value) → Look (Option Value)
  | [] => return Option.none
  | (k, v) :: entries => do if ← fits eq k key then return some v else findEntry? key entries

/-- Whether every entry of the first mapping is one of the second. -/
def fitEntries (others : List (Value × Value)) : List (Value × Value) → Look Bool
  | [] => return true
  | (k, v) :: entries => do
    match ← findEntry? eq k others with
    | some w => if ← fits eq v w then fitEntries others entries else return false
    | Option.none => return false

/-- Whether one of the values fits. -/
def isAmong (v : Value) : List Value → Look Bool
  | [] => return false
  | w :: ws => do if ← fits eq w v then return true else isAmong v ws

end Containers

/-- Refuses a value that cannot be the key of a mapping, down to a number of levels: everything that
can change. -/
def requireKeyTo : (fuel : Nat) → Value → Look Unit
  | 0, _ => throw (.tooDeep "")
  | fuel + 1, v =>
    match v.content with
    | .list _ | .dict _ | .set _ | .point _ | .slice _ | .view .keys _ | .view .items _
    | .proxy _ => throw (.unhashable v.typeName)
    | .missing .strict m => throw m.fault
    | .decimal d => if d.isSignal then throw .signalAsKey else return ()
    | .tuple r | .generic r => do (← Look.items r).forM (requireKeyTo fuel)
    | .trusted _ r => do requireKeyTo fuel (← Look.itemAt r 0)
    | _ => return ()

/-- The number of levels that values are compared to. -/
def comparedLevels : Nat := 1000

/-- Refuses a value that cannot be the key of a mapping: everything that can change. -/
def requireKey (v : Value) : Look Unit := requireKeyTo comparedLevels v

/-- What a set or a view that is compared as a set consists of. -/
inductive Collection where
  | items (vs : List Value)
  | keys (entries : List (Value × Value))
  | pairs (entries : List (Value × Value))

namespace Collection

/-- The number of members. -/
def size : Collection → Nat
  | items vs => vs.length
  | keys entries | pairs entries => entries.length

section

variable (eq : Value → Value → Look Bool)

/-- Whether a value is a member; a value that cannot be a key is refused where keys are compared. -/
def holds (v : Value) : Collection → Look Bool
  | items vs => do
    v.requireKey
    isAmong eq v vs
  | keys entries => do
    v.requireKey
    return (← findEntry? eq v entries).isSome
  | pairs entries =>
    match v.content with
    | .tuple r => do
      match ← Look.items r with
      | [k, w] => do
        k.requireKey
        match ← findEntry? eq k entries with
        | some found => fits eq found w
        | Option.none => return false
      | _ => return false
    | _ => return false

/-- Whether one of the values is a pair of a key and a value that fit. -/
def pairAmong (k w : Value) : List Value → Look Bool
  | [] => return false
  | v :: vs =>
    match v.content with
    | .tuple r => do
      match ← Look.items r with
      | [k', w'] => if (← fits eq k' k) && (← fits eq w' w) then return true else pairAmong k w vs
      | _ => pairAmong k w vs
    | _ => pairAmong k w vs

/-- Whether an entry is a member, as a pair. -/
def holdsPair (k w : Value) (c : Collection) : Look Bool := do
  k.requireKey
  match c with
  | pairs entries =>
    match ← findEntry? eq k entries with
    | some found => fits eq found w
    | Option.none => return false
  | items vs => do
    w.requireKey
    pairAmong eq k w vs
  | keys entries => do
    w.requireKey
    pairAmong eq k w (entries.map Prod.fst)

/-- Whether all members of one collection are members of another. -/
def within (c d : Collection) : Look Bool :=
  match c with
  | items vs => vs.allM fun v => d.holds eq v
  | keys entries => entries.allM fun e => d.holds eq e.1
  | pairs entries => entries.allM fun e => d.holdsPair eq e.1 e.2

end

end Collection

/-- The members of a value that is compared as a set. -/
def collection? (v : Value) : Look (Option Collection) :=
  match v.content with
  | .set r => do return some (.items (← Look.items r))
  | .view .keys r => do return some (.keys (← Look.entries r))
  | .view .items r => do return some (.pairs (← Look.entries r))
  | _ => return Option.none

/-- Equality of values, down to a number of levels. -/
def equalTo : (fuel : Nat) → Value → Value → Look Bool
  | 0, _, _ => throw (.tooDeep " in comparison")
  | fuel + 1, a, b =>
    let eq := equalTo fuel
    match a.content, b.content with
    | .missing .strict m, _ => throw m.fault
    | .list r, .list r' => do
      let (xs, ys) := (← Look.row r, ← Look.row r')
      if xs.size ≠ ys.size then return false else fitItems eq xs.toList ys.toList
    | .tuple r, .tuple r' => do fitItems eq (← Look.items r) (← Look.items r')
    | .point r, .point r' => do fitItems eq (← Look.items r) (← Look.items r')
    | .slice r, .slice r' => do fitItems eq (← Look.items r) (← Look.items r')
    | .generic r, .generic r' => do fitItems eq (← Look.items r) (← Look.items r')
    | .dict r, .dict r' | .proxy r, .proxy r' | .proxy r, .dict r' | .dict r, .proxy r' => do
      let (xs, ys) := (← Look.entries r, ← Look.entries r')
      if xs.length ≠ ys.length then return false else fitEntries eq ys xs
    | .trusted c r, .trusted d r' => do
      if c ≠ d then return false
      else fits eq (← Look.itemAt r 0) (← Look.itemAt r' 0)
    | _, .missing .strict m => throw m.fault
    | _, _ => do
      match ← a.collection?, ← b.collection? with
      | some c, some d => if c.size ≠ d.size then return false else c.within eq d
      | _, _ => equalAtoms a b

/-- Equality of values. -/
def equal (a b : Value) : Look Bool := equalTo comparedLevels a b

/-- Which values count as true: all but nothing, zero, the empty ones and the missing ones. -/
def truth (v : Value) : Look Bool :=
  match v.content with
  | .none => return false
  | .bool b => return b
  | .int n => return n != 0
  | .float x => return x != 0
  | .complex re im => return re != 0 || im != 0
  | .str s | .markup s => return s != ""
  | .bytes bs => return !bs.isEmpty
  | .list r | .tuple r | .set r => do return !(← Look.row r).isEmpty
  | .dict r | .view _ r | .proxy r => do return !(← Look.entries r).isEmpty
  | .duration d => return d.micros != 0
  | .decimal d => return !d.isZero
  | .missing .strict m => throw m.fault
  | .missing _ _ => return false
  | .range a b s => return if s > 0 then a < b else a > b
  | _ => return true

end Value

/-! ## Mappings -/

/-- The value that a mapping has for a key. -/
def lookup? (key : Value) (entries : List (Value × Value)) : Look (Option Value) :=
  Value.findEntry? Value.equal key entries

/-- The mapping with an entry: in the place of the equal key, else at the end. -/
def insertEntry (key value : Value) : List (Value × Value) → Look (List (Value × Value))
  | [] => return [(key, value)]
  | (k, v) :: entries => do
    if ← Value.fits Value.equal k key then return (k, value) :: entries
    else return (k, v) :: (← insertEntry key value entries)

/-- The mapping with entries added one after the other; a key that cannot be one is refused. -/
def insertEntries (entries : List (Value × Value)) :
    List (Value × Value) → Look (List (Value × Value))
  | [] => return entries
  | (k, v) :: more => do
    k.requireKey
    insertEntries (← insertEntry k v entries) more

/-- The value that a list of named values has for a name. -/
def attribute? (name : String) (attributes : List (String × Value)) : Option Value :=
  attributes.lookup name

/-- Whether one of the values is the given one or equal to it. -/
def memberOf (v : Value) (ws : List Value) : Look Bool := Value.isAmong Value.equal v ws

end Interpolation
