import Interpolation.Eval.Filter

/-!
# The items of streams

A stream is asked for its next item by whoever walks through it. Before its first item it finds out
what it has to do; then it walks along its source until it has an item to give. While it computes an
item it cannot be asked for another one, and a fault ends it. Attributes and items are looked up as
the evaluation does that asks, also where another expression made the stream.

Main definitions:

* `Setting.stageOf`, `Setting.beginning`: what a stream finds out before its first item.
* `Setting.work`: the way to the next item.
* `Setting.advance`: the next item of a stream.
* `Setting.ofDepth`: a setting in which streams within streams are followed to a depth.
-/

namespace Interpolation

open Interpolation.Text

namespace Setting

variable (s : Setting)

/-! ## Filters and tests named by values -/

/-- The fault of a filter or test that was named by a value and does not exist. -/
def notApplicable {α : Type} (what : String) (name : Value) : Look α := do
  throw (.notApplicable what (← s.repr name) true
    (match name.content with
      | .missing _ m => some m
      | _ => none))

/-- The answer of the filter that a value names. -/
def filterNamed (name v : Value) (a : Arguments) : Eval Value := do
  (name.requireKey : Look Unit)
  match name.text?.bind FilterName.ofName? with
  | none => (s.notApplicable "filter" name : Look Value)
  | some f => s.filter f v a

/-- The answer to a question about an item: that of the test which the first argument names, or else
whether the item counts as true. -/
def question (a : Arguments) (v : Value) : Eval Bool := do
  match a.positional with
  | [] => (v.truth : Look Bool)
  | name :: rest =>
    (name.requireKey : Look Unit)
    match name.text?.bind TestName.ofName? with
    | none => (s.notApplicable "test" name : Look Bool)
    | some t =>
      let answer ← s.test t v (← t.bind ⟨rest, a.named⟩)
      (answer.truth : Look Bool)

/-! ## The beginning -/

/-- What the stream of an attribute does with each item. -/
def attributeStage (named : List (String × Value)) : Except Fault Stage :=
  match named.lookup "attribute" with
  | none => .error (.filterArgument "map requires a filter argument")
  | some selector =>
    match named.filter fun (n, _) => n != "attribute" && n != "default" with
    | (n, _) :: _ => .error (.filterArgument ("Unexpected keyword argument " ++ quote n))
    | [] => do return .attribute (← pathOf selector) ((named.lookup "default").getD .none)

/-- What a stream does with each item. -/
def stageOf (job : Job) : Look Stage :=
  match job with
  | .map ⟨[], named⟩ => attributeStage named
  | .map ⟨name :: rest, named⟩ => return .filter name ⟨rest, named⟩
  | .select wanted a => return .select wanted a
  | .selectBy _ ⟨[], _⟩ => throw (.filterArgument "Missing parameter for attribute name")
  | .selectBy wanted ⟨selector :: rest, named⟩ => do
    return .selectBy wanted (← pathOf selector) ⟨rest, named⟩
  | .unique caseSensitive selector => do
    let sensitive ← caseSensitive.truth
    return .unique (← pathOf selector) sensitive []
  | .batch size fill => return .batch size fill []
  | .pairs | .slice .. => return .pass

/-- The source of what a stream looks at, unless there is nothing to look at. -/
def sourceOf (job : Job) (v : Value) : Look (Option Source) :=
  match job, v.content with
  | .pairs, .missing .. => return none
  | .pairs, .dict r | .pairs, .proxy r => do
    return some (.entries .items r (← Look.entries r).length 0)
  | .pairs, _ => throw .noItems
  | _, _ => do return some (← v.source)

/-- What a stream of groups finds out: how many of all items a group has. -/
def sliceBeginning (v count fill : Value) : Eval (Stage × Source) := do
  let items ← s.items v
  let size := Value.int items.length
  let per ← Value.floorDivide size count
  let extra ← (s.modulo size count : Look Value)
  let count ← count.requireInt
  let amount (v : Value) : Nat := (v.int?.getD 0).toNat
  return (.slice items (amount per) (amount extra) fill, .numbers 0 1 count.toNat)

/-- What a stream finds out before its first item; a stream that looks at a value only if that
counts as true finds this out first. -/
def beginning (job : Job) (v : Value) : Eval (Option (Stage × Source)) := do
  match job with
  | .slice count fill => do return some (← s.sliceBeginning v count fill)
  | _ =>
    let isSkipped ← match job with
      | .map _ | .select .. | .selectBy .. => do pure !(← (v.truth : Look Bool))
      | _ => pure false
    if isSkipped then return none
    else
      let stage ← (stageOf job : Look Stage)
      return (← (sourceOf job v : Look _)).map fun source => (stage, source)

/-! ## The way to the next item -/

/-- The group of a number: the items behind those of the groups before it. -/
def sliceAt (items : List Value) (per extra : Nat) (fill : Value) (number : Nat) : List Value :=
  let start (number : Nat) : Nat := min number extra + number * per
  let group := (items.take (start (number + 1))).drop (start number)
  if fill.isNone || number < extra then group else group ++ [fill]

/-- What a stage makes of an item: perhaps an item to give, and the stage afterwards. -/
def process (stage : Stage) (v : Value) : Eval (Option Value × Stage) := do
  match stage with
  | .attribute path default => return (some (← s.followOr default path v), stage)
  | .filter name a => return (some (← s.filterNamed name v a), stage)
  | .select wanted a => return (if (← s.question a v) == wanted then some v else none, stage)
  | .selectBy wanted path a =>
    let w ← s.follow path v
    return (if (← s.question a w) == wanted then some v else none, stage)
  | .unique path sensitive seen =>
    let key ← s.keyOf path sensitive v
    (key.requireKey : Look Unit)
    if ← memberOf key seen then return (none, stage)
    else return (some v, .unique path sensitive (key :: seen))
  | .batch size fill group =>
    if ← (Value.int group.length).equal size then
      return (some (← Eval.list group), .batch size fill [v])
    else return (none, .batch size fill (group ++ [v]))
  | .slice items per extra fill =>
    return (some (← Eval.list (sliceAt items per extra fill (v.int?.getD 0).toNat)), stage)
  | .pass => return (some v, stage)

/-- The last group of a stream of groups, filled up with a value unless that is nothing. -/
def lastGroup (size fill : Value) (group : List Value) : Eval Value := do
  let count := Value.int group.length
  if fill.isNone then Eval.list group
  else if ← (Value.ordered .lt count size : Look Bool) then
    (← Eval.list group).add (← (← Eval.list [fill]).multiply (← s.subtract size count))
  else Eval.list group

/-- What a stage gives when there are no more items. -/
def finish (stage : Stage) : Eval (Option Value) :=
  match stage with
  | .batch size fill (v :: group) => do return some (← s.lastGroup size fill (v :: group))
  | _ => return none

/-- Walks along a source to the next item that the stage gives, and says how the stream stands
then. -/
def work : (fuel : Nat) → Stage → Source → Eval (Option Value × Course)
  | 0, _, _ => return (none, .ended)
  | fuel + 1, stage, source => do
    match ← s.pull source with
    | none =>
      match ← s.finish stage with
      | some v => return (some v, .plain .nothing)
      | none => return (none, .ended)
    | some (v, source) =>
      match ← s.process stage v with
      | (some w, stage) => return (some w, .working stage source)
      | (none, stage) => work fuel stage source

/-- Computes an item of a stream, which cannot be asked for another one meanwhile; a fault ends
it. -/
def exclusively (r : Ref) (x : Eval (Option Value × Course)) : Eval (Option Value) := do
  (Building.put r (.stream .running) : Building Unit)
  let (item, course) ← Eval.orElse x.inStream fun f => do
    (Building.put r (.stream .ended) : Building Unit)
    throw f
  (Building.put r (.stream course) : Building Unit)
  return item

/-- The next item of a stream, unless there is none. -/
def advance (r : Ref) : Eval (Option Value) := do
  match (← getThe Store).course r with
  | .ended => return none
  | .running => throw .alreadyRunning
  | .plain source =>
    match ← s.pull source with
    | some (v, source) =>
      (Building.put r (.stream (.plain source)) : Building Unit)
      return some v
    | none =>
      (Building.put r (.stream .ended) : Building Unit)
      return none
  | .waiting job v =>
    exclusively r do
      match ← s.beginning job v with
      | some (stage, source) => s.work walkLimit stage source
      | none => return (none, .ended)
  | .working stage source => exclusively r (s.work walkLimit stage source)

/-! ## Streams within streams -/

/-- The setting in which streams of streams are followed to a depth. -/
def ofDepth (strict : Bool) (futures : Futures) (settled : (key v : Value) → Eval Value) :
    Nat → Setting
  | 0 => ⟨strict, futures, settled, fun _ => throw (.tooDeep "")⟩
  | depth + 1 =>
    ⟨strict, futures, settled, fun r => (Setting.ofDepth strict futures settled depth).advance r⟩

/-- The depth to which streams of streams are followed. -/
def streamDepth : Nat := 1000

end Setting

end Interpolation
