import Interpolation.Eval.Walk
import Interpolation.Value.Member

/-!
# Looking things up

An attribute of a value is found by its name, an item by its place or its key. When there is no
attribute of a name, the item under the name is looked for, and the other way round. A lookup
replaces the futures that it meets on its way in and on its way out.

Main definitions:

* `Value.native?`, `Value.attributeNamed`: the attribute that a value has.
* `Value.item?`, `Value.itemUnder`: the item that a value has.
* `Value.sliced`: a part of a sequence.
* `Setting.attributeOf`, `Setting.itemOf`: the two lookups.
-/

namespace Interpolation

open Interpolation.Text Interpolation.Calendar

namespace Value

/-- The item of a cell with a name, by the names in the order of the cell. -/
def fieldOf? (r : Ref) (fields : List String) (name : String) : Look (Option Value) := do
  match fields.findIdx? (· == name) with
  | some i => return some (← Look.itemAt r i)
  | Option.none => return Option.none

/-- Whether a name begins and ends with two low lines. -/
def isSpecialName (name : String) : Bool :=
  let cs := name.toList
  cs.take 2 == ['_', '_'] && cs.reverse.take 2 == ['_', '_']

/-- What a missing value has under a name. -/
def missingPart? (tolerance : Tolerance) (m : Missing) (v : Value) (name : String) :
    Eval (Option Value) :=
  match tolerance with
  | .chaining =>
    if name = "__html__" then do return some (← (Building.method v name : Building Value))
    else if isSpecialName name then return Option.none
    else return some v
  | _ => if isSpecialName name then return Option.none else throw m.fault

/-- What stands in the cells of a value under a name; an error keeps what it was made from. -/
def storedPart? (v : Value) (name : String) : Eval (Option Value) :=
  match v.fields?, v.content with
  | some (r, fields), _ => fieldOf? r fields name
  | Option.none, .object r | Option.none, .bag r => do
    return attribute? name (← Look.attributes r)
  | Option.none, .failure _ (.text t) =>
    if name = "args" then do return some (← (Building.tuple [.str t] : Building Value))
    else return Option.none
  | Option.none, .stream "generator" r => do
    return (courseParts (← Look.course r)).lookup name
  | _, _ => return Option.none

/-- The type of a value. -/
def typeOf (v : Value) : Value :=
  .ofContent (match v.content with
    | .dict _ => .global .dict
    | .range .. => .global .range
    | .bag _ => .global .namespaceType
    | .cycler _ => .global .cycler
    | .joiner _ => .global .joiner
    | .global .lipsum => .typeNamed "function"
    | .global _ | .typeNamed _ => .typeNamed "type"
    | _ => .typeNamed v.typePath)

/-- The attribute that a value has by its type, or by being an object. -/
def native? (v : Value) (name : String) : Eval (Option Value) :=
  if name = "__class__" then return some v.typeOf
  else
    match v.content with
    | .missing tolerance m => missingPart? tolerance m v name
    | c =>
      match v.ownParts.lookup name with
      | some w => return some w
      | Option.none =>
        if c.members.all.contains name then do
          return some (← (Building.method v.receiver name : Building Value))
        else v.storedPart? name

/-- How a type is named in reports; some types carry their module in their name. -/
def wordOfType (path : String) : String :=
  let parts := splitAtChar '.' path.toList
  match parts, parts.getLast? with
  | first :: _, some last =>
    if ["datetime", "decimal", "time", "types", "_asyncio"].contains (String.ofList first) then path
    else String.ofList last
  | _, _ => path

/-- The fault of a value that lacks an attribute. -/
def lacking (v : Value) (name : String) : Fault :=
  let ofType (type : String) : Fault :=
    .refused "AttributeError" ("type object " ++ quote type ++ " has no attribute " ++ quote name)
  match v.content with
  | .missing _ m => m.fault
  | .generic _ => ofType "dict"
  | .global .lipsum => .noAttribute v.typeWord name
  | .global g => ofType (wordOfType g.path)
  | .typeNamed t => ofType (wordOfType t)
  | _ => .noAttribute v.typeWord name

/-- The attribute of a value that must have it. -/
def attributeNamed (v : Value) (name : String) : Eval Value := do
  match ← v.native? name with
  | some w => return w
  | Option.none => throw (v.lacking name)

/-- The place of an index in a sequence, counted from the end when it is negative. -/
def place? (size : Nat) (index : Int) : Option Nat :=
  let i := if index < 0 then index + size else index
  if 0 ≤ i ∧ i < size then some i.toNat else Option.none

/-- The bounds of a slice as a first place, a step, and the number of items. -/
def sliceBounds (size : Nat) (start stop : Option Int) (step : Int) : Int × Nat :=
  let low : Int := if step > 0 then 0 else -1
  let high : Int := if step > 0 then size else size - 1
  let clamp (i : Int) : Int :=
    let i := if i < 0 then i + size else i
    max low (min high i)
  let first := match start with
    | some i => clamp i
    | Option.none => if step > 0 then low else high
  let last := match stop with
    | some i => clamp i
    | Option.none => if step > 0 then high else low
  let count :=
    if step > 0 then (last - first + step - 1) / step
    else (first - last + (-step) - 1) / (-step)
  (first, count.toNat)

/-- The items of a slice. -/
def sliceItems {α : Type} (items : List α) (start stop : Option Int) (step : Int) : List α :=
  let (first, count) := sliceBounds items.length start stop step
  let cells := items.toArray
  (List.range count).filterMap fun (i : Nat) => cells[(first + step * (i : Int)).toNat]?

/-- A bound of a slice: an integer or nothing. -/
def bound? (v : Value) : Except Fault (Option Int) :=
  if v.isNone then .ok Option.none
  else
    match v.int? with
    | some n => .ok (some n)
    | Option.none => .error .sliceBounds

/-- Whether a slice with a step takes all items in their order. -/
def takesAll (size : Nat) (start stop : Option Int) (step : Int) : Bool :=
  let (first, count) := sliceBounds size start stop step
  step == 1 && first == 0 && count == size

/-- The bounds and the step of a slice. -/
structure Cut where
  /-- Where the slice begins. -/
  start : Option Int
  /-- Where it ends. -/
  stop : Option Int
  /-- The distance between its items. -/
  step : Int

/-- The bounds of a slice as values; the step is looked at first. -/
def cutOf (start stop step : Value) : Except Fault Cut := do
  let step := (← step.bound?).getD 1
  if step = 0 then throw .zeroSliceStep
  return ⟨← start.bound?, ← stop.bound?, step⟩

/-- The part of a value that a slice takes, for the values that have parts. A sequence that cannot
change is its own whole. -/
def cut? (v : Value) (c : Cut) : Option (Eval Value) :=
  let whole (size : Nat) : Bool := takesAll size c.start c.stop c.step
  let part {α : Type} (items : List α) : List α := sliceItems items c.start c.stop c.step
  match v.content with
  | .str s => some (return if whole s.length then v else .ofChars (part s.toList))
  | .markup s => some (return .markup (String.ofList (part s.toList)))
  | .category k => some (return .ofChars (part k.name.toList))
  | .bytes bs => some (return if whole bs.length then v else .ofContent (.bytes (part bs)))
  | .list r => some do Eval.list (part (← Look.items r))
  | .tuple r => some do
    let items ← Look.items r
    if whole items.length then return v else Eval.tuple (part items)
  | .range a b s =>
    let (first, count) := sliceBounds (rangeSize a b s) c.start c.stop c.step
    let last := if count = 0 then first else first + c.step * (count : Int)
    some (return .ofContent (.range (a + s * first) (a + s * last) (s * c.step)))
  | _ => Option.none

/-- The type of mappings with what they are told to hold. -/
def genericOf (arguments : List Value) : Eval Value :=
  (do return .ofContent (.generic (← Building.addRow arguments)) : Building Value)

/-- The part of a sequence between two bounds. -/
def sliced (v start stop step : Value) : Eval Value :=
  match v.content with
  | .dict _ | .proxy _ => throw (.unhashable "slice")
  | .global .dict => do genericOf [← (Building.slice start stop step : Building Value)]
  | .missing .chaining _ => return v
  | .missing _ m => throw m.fault
  | _ =>
    match cut? v ⟨Option.none, Option.none, 1⟩ with
    | Option.none => throw (.notSubscriptable v.typeWord)
    | some _ => do
      match v.cut? (← cutOf start stop step) with
      | some part => part
      | Option.none => throw (.notSubscriptable v.typeWord)

/-- The item at a place. -/
def placedItem? {α : Type} (items : Array α) (pack : α → Value) (key : Value) : Option Value :=
  match key.int? with
  | some n => (place? items.size n).bind fun i => items[i]?.map pack
  | Option.none => Option.none

/-- The item that a value has under a key or an index; `none` when it has none, or no items. -/
def item? (v key : Value) : Eval (Option Value) :=
  match v.content, key.content with
  | .dict r, _ | .proxy r, _ => do
    match (key.requireKey.run (← getThe Store)) with
    | .ok () => (lookup? key (← Look.entries r) : Look _)
    | .error (.unhashable _) | .error .signalAsKey => return Option.none
    | .error f => throw f
  | .missing .chaining _, _ => return some v
  | .missing _ m, _ => throw m.fault
  | .global .dict, .tuple r => do return some (← genericOf (← Look.items r))
  | .global .dict, _ => do return some (← genericOf [key])
  | _, .slice r => do
    match cutOf (← Look.itemAt r 0) (← Look.itemAt r 1) (← Look.itemAt r 2) with
    | .ok c =>
      match v.cut? c with
      | some part => do return some (← part)
      | Option.none => return Option.none
    | .error .zeroSliceStep =>
      if (v.cut? ⟨Option.none, Option.none, 1⟩).isSome then throw .zeroSliceStep
      else return Option.none
    | .error _ => return Option.none
  | .str s, _ => return placedItem? s.toList.toArray (fun c => .str (String.singleton c)) key
  | .markup s, _ => return placedItem? s.toList.toArray (fun c => .markup (String.singleton c)) key
  | .category c, _ =>
    return placedItem? c.name.toList.toArray (fun c => .str (String.singleton c)) key
  | .bytes bs, _ => return placedItem? bs.toArray (fun b => .int b.toNat) key
  | .list r, _ | .tuple r, _ => do return placedItem? (← Look.row r) id key
  | .range a b s, _ =>
    return key.int?.bind fun n => (place? (rangeSize a b s) n).map fun i =>
      Value.int (a + s * (i : Int))
  | _, _ => return Option.none

/-- How the type of a sequence is named where an index is beyond its end. -/
def rangeWord (v : Value) : String :=
  match v.content with
  | .str _ | .markup _ | .category _ => "string"
  | .bytes _ => ""
  | .range .. => "range object"
  | _ => v.typeWord

/-- The item of a value that must have it. -/
def itemUnder (v key : Value) : Eval Value :=
  match v.content with
  | .dict r | .proxy r => do
    (key.requireKey : Look _)
    match ← (lookup? key (← Look.entries r) : Look _) with
    | some w => return w
    | Option.none => throw (.noKey (← ((key.repr (fun _ => return "")).wording : Look _)))
  | .missing .chaining _ => return v
  | .missing _ m => throw m.fault
  | .global .dict => do
    match ← v.item? key with
    | some w => return w
    | Option.none => throw (.notSubscriptable v.typeWord)
  | .str _ | .markup _ | .category _ | .bytes _ | .list _ | .tuple _ | .range .. =>
    match key.int? with
    | some _ => do
      match ← v.item? key with
      | some w => return w
      | Option.none => throw (.noIndex v.rangeWord)
    | Option.none =>
      let owner := match v.content with
        | .bytes _ => "byte"
        | .str _ | .markup _ | .category _ => "str"
        | _ => v.typeWord
      throw (.indexType owner key.typeWord)
  | _ => throw (.notSubscriptable v.typeWord)

end Value

namespace Setting

variable (s : Setting)

/-- What is missing under a name. -/
def missingAttribute (v : Value) (name : String) : Value :=
  s.missing (.attribute v.description name)

/-- What `v.name` finds before futures are considered: an attribute, else an item. -/
def plainAttribute (v : Value) (name : String) : Eval Value := do
  match ← v.native? name with
  | some w => return w
  | none =>
    match ← v.item? (.constant (.str name)) with
    | some w => return w
    | none => return s.missingAttribute v name

/-- What is missing under a key. -/
def missingItem (v key : Value) : Eval Value :=
  match key.text? with
  | some name => return s.missingAttribute v name
  | none => do return s.missing (.element v.description (← (s.repr key).wording))

/-- What `v[key]` finds before futures are considered: an item, else an attribute when the key is a
text. -/
def plainItem (v key : Value) : Eval Value := do
  match ← v.item? key with
  | some w => return w
  | none =>
    match key.text? with
    | some name =>
      match ← v.native? name with
      | some w => return w
      | none => s.missingItem v key
    | none => s.missingItem v key

/-- The value of `v.name`. -/
def attributeOf (v : Value) (name : String) : Eval Value := do
  let v ← s.settled (.str name) v
  s.settled (.str name) (← s.plainAttribute v name)

/-- The value of `v[key]`. -/
def itemOf (v key : Value) : Eval Value := do
  let v ← s.settled key v
  s.settled key (← s.plainItem v key)

end Setting

end Interpolation
