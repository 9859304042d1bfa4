import Interpolation.Eval.Call
import Interpolation.Eval.Test

/-!
# Filters of sequences

These filters walk through a value at once: they put its items together, bring them into an order,
or look for the least and the greatest one. What is done for an item is done before the next one is
asked for, so a walk that fails has done its work up to there.

Some filters look at an attribute of each item, or at several: names with dots between them lead
from one value to the next, and the end of the way may be compared without regard to case.

Main definitions:

* `pathOf`, `Setting.follow`: the way to an attribute, and its end.
* `Setting.keyOf`, `Setting.keysOf`: what items are compared by.
* `Setting.joined`, `summed`, `extreme`: filters that use the items one after the other.
* `Setting.sorted`, `entriesSorted`, `grouped`, `reversed`: filters that need all items.
-/

namespace Interpolation

open Interpolation.Text

/-! ## Ways to attributes -/

/-- A part of a way: digits stand for a place, all else for a name. -/
def pathPart (part : List Char) : Except Fault Value :=
  if !part.isEmpty && part.all isDigit then
    (Value.readInteger 10 (String.ofList part)).map Value.int
  else .ok (.ofChars part)

/-- The parts of a way. -/
def pathOf (selector : Value) : Except Fault (List Value) :=
  match selector.content, selector.text? with
  | .none, _ => .ok []
  | _, some s => (splitAtChar '.' s.toList).mapM pathPart
  | _, none => .ok [selector]

/-- A text in lower case; other values stay as they are. -/
def Value.ignoringCase (v : Value) : Value :=
  match v.content, v.text? with
  | .markup s, _ => .markup (String.ofList (lower s.toList))
  | _, some s => .ofChars (lower s.toList)
  | _, Option.none => v

namespace Setting

variable (s : Setting)

/-- The end of a way that begins at a value. -/
def follow (path : List Value) (v : Value) : Eval Value := path.foldlM s.itemOf v

/-- The end of a way; wherever nothing is found, the default takes its place. -/
def followOr (default : Value) (path : List Value) (v : Value) : Eval Value :=
  if default.isNone then s.follow path v
  else
    path.foldlM (fun v part => do
      let w ← s.itemOf v part
      return if w.isMissing then default else w) v

/-- What an item is compared by. -/
def keyOf (path : List Value) (sensitive : Bool) (v : Value) : Eval Value := do
  let w ← s.follow path v
  return if sensitive then w else w.ignoringCase

/-- The ways of a selector with commas between them. -/
def pathsOf (selector : Value) : Except Fault (List (List Value)) :=
  match selector.text? with
  | some t => (splitAtChar ',' t.toList).mapM fun part => pathOf (.ofChars part)
  | none => do return [← pathOf selector]

/-- What an item is sorted by: the ends of several ways. -/
def keysOf (paths : List (List Value)) (sensitive : Bool) (v : Value) : Eval (List Value) :=
  paths.mapM fun path => s.keyOf path sensitive v

/-! ## Putting together and sorting -/

/-- The end of a way, unless a fault on the way says that there are no more items: whoever walks
through the ends of ways stops there. -/
def followNext (path : List Value) (v : Value) : Eval (Option Value) :=
  Eval.orElse (do return some (← s.follow path v)) fun f =>
    if f.endsStream then return none else throw f

/-- A value as it is put together with others. -/
def shownPart (v : Value) : Eval Value :=
  match v.content with
  | .str _ => return v
  | _ => do return .str (← (s.display v : Look String))

/-- The items put together with a text between them; a single text is itself. -/
def joined (v between selector : Value) : Eval Value := do
  let path ← pathOf selector
  let put (texts : List Value) (item : Value) : Eval (Bool × List Value) := do
    match ← s.followNext path item with
    | some w => return (true, (← s.shownPart w) :: texts)
    | none => return (false, texts)
  let early ← if selector.isNone then pure none else do pure (some (← (v.source : Look Source)))
  let mark ← (s.display between : Look String)
  let source ← match early with
    | some source => pure source
    | none => (v.source : Look Source)
  match (← s.foldFrom put walkLimit source []).reverse with
  | [text] => return text
  | texts => return .ofChars (mark.toList.intercalate (texts.map fun t => (t.text?.getD "").toList))

/-- Items in the order of their keys; `backwards` keeps the order of items with equal keys. -/
def sortedBy (less : α → α → Look Bool) (backwards : Bool) (keyed : List (α × Value)) :
    Look (List Value) := do
  let keyed := if backwards then keyed.reverse else keyed
  let sorted ← sortBy (fun x y => less x.1 y.1) keyed
  return (if backwards then sorted.reverse else sorted).map Prod.snd

/-- The items in order. -/
def sorted (v backwards caseSensitive selector : Value) : Eval Value := do
  let sensitive ← (caseSensitive.truth : Look Bool)
  let paths ← pathsOf selector
  let items ← s.items v
  let backwards ← backwards.requireMark
  let keyed ← items.mapM fun item => do return (← s.keysOf paths sensitive item, item)
  let less := Value.orderedItems .lt (Value.ordered .lt)
  Eval.list (← (sortedBy less backwards keyed : Look _))

/-- What a method of a value answers that is called without arguments. -/
def answerOf (v : Value) (name : String) : Eval Value := do
  s.call (← v.attributeNamed name) Arguments.none

/-- The entries of a mapping as pairs, or what a value has in their place under the name `items`. -/
def itemsOf (v : Value) : Eval (List Value) := do s.items (← s.answerOf v "items")

/-- The entries of a mapping in the order of their keys or values. -/
def entriesSorted (v caseSensitive column backwards : Value) : Eval Value := do
  let isKey ← (column.equal (.str "key") : Look Bool)
  if !isKey then
    if !(← (column.equal (.str "value") : Look Bool)) then
      throw (.filterArgument "You can only sort by either \"key\" or \"value\"")
  let pairs ← s.itemsOf v
  let backwards ← backwards.requireMark
  let keyed ← pairs.mapM fun pair => do
    let w := (← pair.item? (.int (if isKey then 0 else 1))).getD .none
    let sensitive ← (caseSensitive.truth : Look Bool)
    return (if sensitive then w else w.ignoringCase, pair)
  Eval.list (← (sortedBy (Value.ordered .lt) backwards keyed : Look _))

/-! ## Groups -/

/-- Items that belong together, with the key of the first one; the last item comes first. -/
abbrev Run := Value × List Value

/-- Puts an item into the last group, or begins a new one if its key differs; the last group comes
first. -/
def putIntoRuns (runs : List Run) (key item : Value) : Look (List Run) :=
  match runs with
  | [] => return [(key, [item])]
  | (first, items) :: rest => do
    if ← Value.fits Value.equal first key then return (first, item :: items) :: rest
    else return (key, [item]) :: (first, items) :: rest

/-- A group as a tuple with named items. -/
def groupOf (key items : Value) : Eval Value := do
  let r ← (Building.addRow [key, items] : Building Ref)
  return ⟨.tuple r, .named .group⟩

/-- The items with equal attributes in groups, in the order of the attributes. Without regard to
case, a group has the attribute of its first item. -/
def grouped (v selector default caseSensitive : Value) : Eval Value := do
  let sensitive ← (caseSensitive.truth : Look Bool)
  let path ← pathOf selector
  let keyOf (item : Value) : Eval Value := do
    let key ← s.followOr default path item
    return if sensitive then key else key.ignoringCase
  let keyed ← (← s.items v).mapM fun item => do return (← keyOf item, item)
  let sorted ← (sortedBy (Value.ordered .lt) false keyed : Look _)
  let runs ← sorted.foldlM (fun runs item => do
    (putIntoRuns runs (← keyOf item) item : Look _)) []
  let groups ← runs.reverse.mapM fun (key, items) => do return (key, ← Eval.list items.reverse)
  Eval.list (← groups.mapM fun (key, items) => do
    if sensitive then groupOf key items
    else
      match ← s.firstItem? items with
      | some item => do groupOf (← s.followOr default path item) items
      | none => groupOf key items)

/-- Refuses to begin a sum with a text or with bytes. -/
def requireSummand (start : Value) : Except Fault Unit :=
  match start.content, start.text? with
  | .bytes _, _ => .error .cannotSumBytes
  | _, some _ => .error .cannotSumTexts
  | _, none => .ok ()

/-- The sum of the items, beginning with a value. -/
def summed (v selector start : Value) : Eval Value := do
  let path ← pathOf selector
  let source ← (v.source : Look Source)
  requireSummand start
  s.foldFrom (fun total item => do
    match ← s.followNext path item with
    | some w => return (true, ← total.add w)
    | none => return (false, total)) walkLimit source start

/-- The least or the greatest item; the first one of several. -/
def extreme (c : Comparison) (v caseSensitive selector : Value) : Eval Value := do
  match ← s.pull (← (v.source : Look Source)) with
  | none => return s.missing .extremeItem
  | some (first, source) => do
    let sensitive ← (caseSensitive.truth : Look Bool)
    let path ← pathOf selector
    let start := (← s.keyOf path sensitive first, first)
    let best ← s.foldSource (fun best item => do
      let key ← s.keyOf path sensitive item
      return if ← (Value.ordered c key best.1 : Look Bool) then (key, item) else best) source start
    return best.2

/-- The fault of a value that cannot be reversed because it, or something on the walk through it, is
of a wrong type. -/
def notWalkable (f : Fault) : Fault :=
  if f.label = "TypeError" then .filterArgument "argument must be iterable" else f

/-- A text back to front, a stream of the items from the last to the first, or else a list of
them. -/
def reversed (v : Value) : Eval Value :=
  match v.content, v.text? with
  | .markup t, _ => return .markup (String.ofList t.toList.reverse)
  | _, some t => return .ofChars t.toList.reverse
  | _, none => do
    match v.backwards?.run (← getThe Store) with
    | .ok (some (type, source)) => do
      (Building.stream type (.plain source) : Building Value)
    | .ok none | .error (.noLength _) =>
      Eval.orElse (do Eval.list (← s.items v).reverse) fun f => throw (notWalkable f)
    | .error f => throw f

end Setting

end Interpolation
