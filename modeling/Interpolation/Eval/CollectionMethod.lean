import Interpolation.Eval.NumberMethod
import Interpolation.Eval.Operator
import Interpolation.Value.Order

/-!
# Methods of collections

Sets, ranges, views of mappings, parts of sequences and streams have methods of their own. Those of
sets take whatever can be walked through for another set; a set that is changed is changed item by
item, so that a fault leaves behind what was done before it.

Main definitions:

* `placeAmong`, `countAmong`: items that are equal to a value.
* `Setting.callSet`: a method of a set.
* `rangeMethod`, `sliceMethod`, `Setting.areDisjoint`, `callStream`: the others.
* `Setting.sortRow`: the items of a list in order.
-/

namespace Interpolation

open Interpolation.Text

/-- The place of the first equal item between two places. -/
def placeAmong (v : Value) (items : List Value) (first last : Nat) : Look (Option Nat) :=
  go first ((items.take last).drop first)
where
  /-- Searches the rest; `i` is its place. -/
  go (i : Nat) : List Value → Look (Option Nat)
    | [] => return none
    | w :: ws => do if ← Value.fits Value.equal w v then return some i else go (i + 1) ws

/-- The number of equal items. -/
def countAmong (v : Value) (items : List Value) : Look Nat :=
  items.foldlM (fun n w => do return if ← Value.fits Value.equal w v then n + 1 else n) 0

/-! ## Members -/

/-- The members of a set with a further one. -/
def addMember (members : List Value) (v : Value) : Look (List Value) := do
  v.requireKey
  if ← memberOf v members then return members else return members ++ [v]

/-- Those values that are among others, or those that are not. -/
def membersAmong (areAmong : Bool) (vs others : List Value) : Look (List Value) :=
  vs.filterM fun v => do return (← memberOf v others) == areAmong

/-- Refuses a value that cannot be looked for in a set; another set can. -/
def requireSought (v : Value) : Look Unit :=
  match v.content with
  | .set _ => return ()
  | _ => v.requireKey

/-- Puts a member into a set. -/
def insertInto (r : Ref) (v : Value) : Eval Unit := do
  let members ← (addMember (← Look.items r) v : Look _)
  (Building.putRow r members : Building _)

/-- Takes a member out of a set, if it is there, and tells whether it was. -/
def takeFrom (r : Ref) (v : Value) : Eval Bool := do
  let members ← (Look.items r : Look _)
  match ← (placeAmong v members 0 members.length : Look _) with
  | some i => do
    (Building.putRow r (members.eraseIdx i) : Building _)
    return true
  | none => return false

namespace Setting

variable (s : Setting)

/-- The members of a set that is made from a value. -/
def membersOf (v : Value) : Eval (List Value) :=
  match v.content with
  | .set r => do return ← (Look.items r : Look _)
  | _ => do
    s.foldSource (fun members w => (addMember members w : Look _)) (← (v.source : Look _)) []

/-- The members that are among the items of a value as well; the shorter one of two sets is walked
through. -/
def commonMembers (members : List Value) (v : Value) : Eval (List Value) :=
  match v.content with
  | .set r => do
    let others ← (Look.items r : Look _)
    if others.length > members.length then
      return ← (membersAmong true members others : Look _)
    else return ← (membersAmong true others members : Look _)
  | _ => do
    s.foldSource (fun found w => do
      (w.requireKey : Look _)
      if ← (memberOf w members : Look _) then return ← (addMember found w : Look _)
      else return found) (← (v.source : Look _)) []

/-- The members that are not among the items of a value. -/
def withoutMembers (members : List Value) (v : Value) : Eval (List Value) := do
  return ← (membersAmong false members (← s.membersOf v) : Look _)

/-- Whether the answer to a question is the same for all items of a value; the first item with
another one ends the walk. -/
def allItems (p : Value → Eval Bool) (v : Value) : Eval Bool := do
  s.foldFrom (fun _ w => do
    let b ← p w
    return (b, b)) walkLimit (← (v.source : Look _)) true

/-- Whether a collection holds no item of a value; the shorter one of two is walked through. -/
def areDisjoint (itself v : Value) : Eval Bool := do
  match ← (itself.collection? : Look _), ← (v.collection? : Look _) with
  | some c, some d =>
    if d.size > c.size then s.allItems (fun w => do return !(← s.contains v w)) itself
    else s.allItems (fun w => do return !(← s.contains itself w)) v
  | _, _ => s.allItems (fun w => do return !(← s.contains itself w)) v

/-- A method of a set. -/
def callSet (itself : Value) (r : Ref) (name : String) (a : Arguments) : Eval Value := do
  let callee := "set." ++ name
  let members ← (Look.items r : Look _)
  let put (after : List Value) : Eval Value := do
    (Building.putRow r after : Building _)
    return .none
  let make (members : List Value) : Eval Value := (Building.set members : Building _)
  match name with
  | "add" => do
    insertInto r (← a.one callee)
    return .none
  | "clear" => do a.nothing callee; put []
  | "copy" => do a.nothing callee; make members
  | "discard" => do
    let v ← a.one callee
    (requireSought v : Look _)
    let _ ← takeFrom r v
    return .none
  | "remove" => do
    let v ← a.one callee
    (requireSought v : Look _)
    if ← takeFrom r v then return .none
    else throw (.noKey (← ((s.repr v).wording : Look _)))
  | "pop" => do
    a.nothing callee
    match members with
    | [] => throw (.noKey (quote "pop from an empty set"))
    | v :: rest => do
      (Building.putRow r rest : Building _)
      return v
  | "union" => do
    a.unnamed callee
    make (← a.positional.foldlM (fun members v => do
      s.foldSource (fun members w => (addMember members w : Look _)) (← (v.source : Look _))
        members) members)
  | "update" => do
    a.unnamed callee
    a.positional.forM fun v => do
      s.foldSource (fun _ w => insertInto r w) (← (v.source : Look _)) ()
    return .none
  | "intersection" => do
    a.unnamed callee
    make (← a.positional.foldlM s.commonMembers members)
  | "intersection_update" => do
    a.unnamed callee
    put (← a.positional.foldlM s.commonMembers members)
  | "difference" => do
    a.unnamed callee
    make (← a.positional.foldlM s.withoutMembers members)
  | "difference_update" => do
    a.unnamed callee
    a.positional.forM fun v => do
      s.foldSource (fun _ w => do
        (w.requireKey : Look _)
        let _ ← takeFrom r w
        return ()) (← (v.source : Look _)) ()
    return .none
  | "symmetric_difference" => do
    let others ← s.membersOf (← a.one callee)
    let first ← (membersAmong false others members : Look _)
    make (first ++ (← (membersAmong false members others : Look _)))
  | "symmetric_difference_update" => do
    let others ← s.membersOf (← a.one callee)
    let first ← (membersAmong false members others : Look _)
    put (first ++ (← (membersAmong false others members : Look _)))
  | "isdisjoint" => do return .bool (← s.areDisjoint itself (← a.one callee))
  | "issubset" => do
    let others ← s.membersOf (← a.one callee)
    return .bool (← (membersAmong false members others : Look _)).isEmpty
  | "issuperset" => do
    let v ← a.one callee
    return .bool (← s.allItems (fun w => s.contains itself w) v)
  | _ => throw (.notCallable "builtin_function_or_method")

/-! ## Lists -/

/-- Something that is done while a list is empty; a fault leaves its items behind. -/
def restoring {α : Type} (r : Ref) (items : List Value) (x : Eval α) : Eval α :=
  x.orElse fun f => do
    (Building.putRow r items : Building _)
    throw f

/-- The items of a list in order, or in the order of their keys. While the keys are found out, the
list is empty. -/
def sortRow (apply : Value → Arguments → Eval Value) (r : Ref) (a : Arguments) : Eval Value := do
  if !a.positional.isEmpty then
    throw (.refused "TypeError" "sort() takes no positional arguments")
  let vs ← Parameters.bind ⟨"sort()", ["key", "reverse"], 0, 0⟩ a
  let key := argumentAt vs 0 .none
  let backwards ← (argumentAt vs 1 (.int 0)).requireMachineInt 32 "int"
  let items ← (Look.items r : Look _)
  (Building.putRow r [] : Building _)
  let keyed ← restoring r items <| items.mapM fun v => do
    return (← if key.isNone then pure v else apply key ⟨[v], []⟩, v)
  let keyed := if backwards ≠ 0 then keyed.reverse else keyed
  let sorted ← restoring r items
    (sortBy (fun x y => Value.ordered .lt x.1 y.1) keyed : Look (List (Value × Value)))
  let after := (if backwards ≠ 0 then sorted.reverse else sorted).map Prod.snd
  let isChanged := !(← (Look.items r : Look _)).isEmpty
  (Building.putRow r after : Building _)
  if isChanged then throw (.refused "ValueError" "list modified during sort")
  return .none

/-- The number that stands for a byte. -/
def byteOf (v : Value) : Except Fault UInt8 := do
  let n ← v.requireInt
  if 0 ≤ n ∧ n < 256 then return UInt8.ofNat n.toNat
  else throw (.refused "ValueError" "bytes must be in range(0, 256)")

/-- Bytes, or the items of a value as bytes; a text has none. -/
def bytesFrom (v : Value) : Eval (List UInt8) := do
  let refused : Fault :=
    .refused "TypeError" ("cannot convert " ++ quote v.typeWord ++ " object to bytes")
  match v.content, v.text?, v.source.run (← getThe Store) with
  | .bytes bs, _, _ => return bs
  | _, some _, _ => throw refused
  | _, none, .error (.notIterable _) => throw refused
  | _, none, .error f => throw f
  | _, none, .ok source => do (← s.drain source).mapM fun w => (byteOf w : Except Fault UInt8)

/-- The integer that bytes stand for. -/
def intFromBytes (isTruth : Bool) (a : Arguments) : Eval Value := do
  let vs ← Parameters.bind ⟨"from_bytes()", ["bytes", "byteorder", "signed"], 2, 1⟩ a
  let little ← isLittle "from_bytes()" (vs[1]?).join
  let signed ← ((argumentAt vs 2 (.bool false)).truth : Look _)
  let bs ← s.bytesFrom (argumentAt vs 0 .none)
  let n := intOfBytes (if little then bs else bs.reverse) signed
  return if isTruth then .bool (n != 0) else .int n

end Setting

/-! ## Ranges, parts and streams -/

/-- A method of a range. -/
def rangeMethod (start stop step : Int) (repr : Value → Look String) (name : String)
    (a : Arguments) : Look Answer := do
  let v ← a.one ("range." ++ name)
  let size := rangeSize start stop step
  let items : List Value := (List.range size).map fun i : Nat => .int (start + step * (i : Int))
  let place : Option Nat ← match v.int? with
    | some n =>
      let i := (n - start) / step
      pure (if (n - start) % step = 0 ∧ 0 ≤ i ∧ i < size then some i.toNat else none)
    | none => placeAmong v items 0 size
  match name, place, v.int? with
  | "index", some i, _ => return .int i
  | "index", none, some _ =>
    throw (.refused "ValueError" ((← repr v) ++ " is not in range"))
  | "index", none, none =>
    throw (.refused "ValueError" "sequence.index(x): x not in sequence")
  | "count", some _, some _ => return .int 1
  | "count", none, some _ => return .int 0
  | "count", _, none => return .int (← countAmong v items)
  | _, _, _ => throw (.notCallable "builtin_function_or_method")

/-- The places that the bounds of a part stand for in a sequence of some size. -/
def sliceMethod (r : Ref) (a : Arguments) : Look Answer := do
  let n ← (← a.one "slice.indices").requireInt
  if n < 0 then throw (.refused "ValueError" "length should not be negative")
  let size := n.toNat
  let c ← Value.cutOf (← Look.itemAt r 0) (← Look.itemAt r 1) (← Look.itemAt r 2)
  let place (bound : Option Int) : Int := (Value.sliceBounds size bound none c.step).1
  let last := if c.stop.isSome then place c.stop else if c.step > 0 then (size : Int) else -1
  return .integers [place c.start, last, c.step]

/-- Ends a stream, unless it is at work. -/
def endStream (r : Ref) : Eval Unit := do
  match ← (Look.course r : Look _) with
  | .running => throw .alreadyRunning
  | _ => (Building.put r (.stream .ended) : Building _)

/-- A method of a stream that is computed on demand. -/
def callStream (s : Setting) (r : Ref) (name : String) (a : Arguments) : Eval Value := do
  let callee := "generator." ++ name
  match name with
  | "close" => do
    a.nothing callee
    endStream r
    return .none
  | "send" => do
    let v ← a.one callee
    match ← (Look.course r : Look _), v.isNone with
    | .waiting .., false =>
      throw (.refused "TypeError" "can't send non-None value to a just-started generator")
    | _, _ =>
      match ← s.next r with
      | some w => return w
      | none => throw (.stored "StopIteration" "")
  | "throw" => do
    let v := ((← a.between "generator." "throw" 1 3)[0]?).getD Value.none
    match v.content with
    | .failure label text =>
      match ← (Look.course r : Look _) with
      | .ended => throw (.stored label text)
      | _ => do
        endStream r
        throw (Fault.stored label text).outOfStream
    | _ =>
      throw (.refused "TypeError" ("exceptions must be classes or instances deriving from "
        ++ "BaseException, not " ++ v.typeWord))
  | _ => throw (.notCallable "builtin_function_or_method")

end Interpolation
