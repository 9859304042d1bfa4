import Interpolation.Value.Equality

/-!
# Loading data

A datum becomes a value by putting its parts into new cells. Constants are different: equal constant
tuples are one and the same value, wherever they stand in an expression.

Main definitions:

* `Datum.load`: a value made from a datum.
* `Datum.literal`: the same for a datum that stands in an expression.
-/

namespace Interpolation

namespace Building

/-- A mapping of entries of which a later one takes the place of an earlier one with an equal
key. -/
def mapping (entries : List (Value × Value)) : Building Value := do
  match (insertEntries [] entries).run (← get) with
  | .ok entries => dict entries
  | .error _ => dict entries

/-- An object that is known by its attributes. -/
def object (attributes : List (String × Value)) : Building Value := do
  return .ofContent (.object (← addAttributes attributes))

/-- An object that is shown as a text. -/
def token (text : String) : Building Value := do
  return .ofContent (.token (← addRow [.str text]))

end Building

namespace Datum

mutual

/-- A value made from a datum. -/
def load : Datum → Building Value
  | .held v => Building.keep v
  | .list items => do Building.list (← loadAll items)
  | .tuple items => do Building.tuple (← loadAll items)
  | .set items => do Building.set (← loadAll items)
  | .dict entries => do Building.mapping (← loadEntries entries)
  | .trusted c d => do Building.trusted c (← load d)
  | .object attributes => do Building.object (← loadAttributes attributes)
  | .token text => Building.token text
  | .point x y => do
    let x ← load x
    Building.point x (← load y)

/-- Values made from several data. -/
def loadAll : List Datum → Building (List Value)
  | [] => return []
  | d :: ds => do
    let v ← load d
    return v :: (← loadAll ds)

/-- Entries made from data. -/
def loadEntries : List (Datum × Datum) → Building (List (Value × Value))
  | [] => return []
  | (k, d) :: entries => do
    let key ← load k
    let v ← load d
    return (key, v) :: (← loadEntries entries)

/-- Named values made from data. -/
def loadAttributes : List (String × Datum) → Building (List (String × Value))
  | [] => return []
  | (n, d) :: attributes => do
    let v ← load d
    return (n, v) :: (← loadAttributes attributes)

end

/-- The constant tuple that was made for an equal datum, or else one made by a computation. -/
def once (d : Datum) (make : Building Value) : Building Value := do
  match (← get).constants.find? fun c => c.1.identical d with
  | some (_, v) => return v
  | none => do
    let v ← make
    modify fun s => { s with constants := (d, v) :: s.constants }
    return v

mutual

/-- A value made from a datum that stands in an expression. -/
def literal : Datum → Building Value
  | .held v => return if v.content.isConstant then .constant v.content else v
  | .list items => do Building.list (← literals items)
  | .tuple items =>
    if areConstant items then once (.tuple items) (do Building.tuple (← literals items))
    else do Building.tuple (← literals items)
  | .set items => do Building.set (← literals items)
  | .dict entries => do Building.mapping (← literalEntries entries)
  | d => d.load

/-- Values made from several data that stand in an expression. -/
def literals : List Datum → Building (List Value)
  | [] => return []
  | d :: ds => do
    let v ← literal d
    return v :: (← literals ds)

/-- Entries made from data that stand in an expression. -/
def literalEntries : List (Datum × Datum) → Building (List (Value × Value))
  | [] => return []
  | (k, d) :: entries => do
    let key ← literal k
    let v ← literal d
    return (key, v) :: (← literalEntries entries)

end

end Datum

end Interpolation
