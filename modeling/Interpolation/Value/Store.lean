import Interpolation.Value.Course
import Interpolation.Value.Datum

/-!
# The store of parts

The parts of values stand in cells of a store. A value with parts refers to its cell, so that all
who hold the value see what becomes of its parts. Cells are never removed while they may be referred
to; a new cell is put behind the others.

Main definitions:

* `Progress`: how a future stands.
* `Commons`: what is no part of a value, but may be changed by evaluations.
* `Cell`, `Store`: the cells and the store.
* `Look`: a computation that looks at the store and may end with a fault.
* `Building`: a computation that adds cells.
* `Store.add`, `Store.put`: a new cell, and a cell with other content.
* `Store.settled`: the store to go on with when everything new is forgotten.
-/

namespace Interpolation

/-- How a future stands; `α` is the type of its result. -/
inductive Progress (α : Type) where
  | pending
  /-- Its value is being computed, and it cannot be cancelled any more. -/
  | running
  | cancelled
  /-- It was cancelled, and whoever was to compute its value was told so. -/
  | dropped
  | done (value : α)
  | failed (label : String) (text : Wording)

/-- What all evaluations have in common besides the parts of values. -/
structure Commons where
  /-- How those futures stand that evaluations changed, by their places; the last change comes
  first. -/
  changes : List (Nat × Progress Value)
  /-- What waits to be called when a future has its final state, with the place of the future. -/
  waiting : List (Nat × Value)
  /-- The numbers that are drawn by chance, one after the other. -/
  numbers : Nat → Nat
  /-- How many of them were drawn. -/
  drawn : Nat
  /-- What the clock shows whenever it is asked, in microseconds since the beginning of 1970. -/
  times : Nat → Nat
  /-- How often it was asked. -/
  asked : Nat

/-- No future was changed, nothing was drawn, and the clock was not asked. -/
def Commons.untouched : Commons := ⟨[], [], fun _ => 0, 0, fun _ => 0, 0⟩

/-- The parts of a value. -/
inductive Cell where
  /-- The items of a sequence, or the fields of a record, in order. -/
  | row (items : Array Value)
  /-- The entries of a mapping in the order of insertion. -/
  | entries (entries : List (Value × Value))
  /-- Named values. -/
  | attributes (named : List (String × Value))
  /-- How a stream stands. -/
  | stream (course : Course)
deriving Inhabited

/-- The cells, and what is known of them. -/
structure Store where
  /-- The cells; the first one is that of the empty tuple. -/
  cells : Array Cell
  /-- The number of identities given so far. -/
  kept : Nat
  /-- The first of the cells that were given other content; a change of what all evaluations have in
  common counts as one of the very first cell. -/
  changed : Option Nat
  /-- The names of the context that were looked up, with their values. -/
  bound : List (String × Value)
  /-- The constant tuples that were made. -/
  constants : List (Datum × Value)
  /-- What all evaluations have in common. -/
  commons : Commons

namespace Store

/-- The store in which only the empty tuple stands. -/
def empty : Store := ⟨#[.row #[]], 0, none, [], [], .untouched⟩

instance : Inhabited Store := ⟨empty⟩

/-- The cell that a reference stands for. -/
def cell? (s : Store) (r : Ref) : Option Cell := s.cells[r.place]?

/-- The items of a row. -/
def row (s : Store) (r : Ref) : Array Value :=
  match s.cell? r with
  | some (.row items) => items
  | _ => #[]

/-- The entries of a mapping. -/
def entries (s : Store) (r : Ref) : List (Value × Value) :=
  match s.cell? r with
  | some (.entries entries) => entries
  | _ => []

/-- Named values. -/
def attributes (s : Store) (r : Ref) : List (String × Value) :=
  match s.cell? r with
  | some (.attributes named) => named
  | _ => []

/-- How a stream stands. -/
def course (s : Store) (r : Ref) : Course :=
  match s.cell? r with
  | some (.stream course) => course
  | _ => .ended

/-- The store with a further cell. -/
def push (s : Store) (c : Cell) : Store := { s with cells := s.cells.push c }

/-- The lesser of two places, of which one may be missing. -/
def lesser (a : Option Nat) (b : Nat) : Option Nat :=
  match a with
  | none => some b
  | some a => some (min a b)

/-- The store in which a cell has other content. -/
def set (s : Store) (r : Ref) (c : Cell) : Store :=
  { s with cells := s.cells.setIfInBounds r.place c, changed := lesser s.changed r.place }

/-- The store in which the items of a row were changed. -/
def changeRow (s : Store) (r : Ref) (f : Array Value → Array Value) : Store :=
  { s with
    cells := s.cells.modify r.place fun c =>
      match c with
      | .row items => .row (f items)
      | c => c
    changed := lesser s.changed r.place }

/-- The store in which something was changed that all evaluations have in common. -/
def alter (s : Store) (f : Commons → Commons) : Store :=
  { s with commons := f s.commons, changed := some 0 }

/-- The store in which evaluations did not change the future at a place. -/
def forgetChanges (s : Store) (place : Nat) : Store :=
  { s with commons.changes := s.commons.changes.filter (·.1 != place) }

/-- Whether no cell among the first ones was given other content. -/
def keepsFirst (s : Store) (count : Nat) : Bool :=
  match s.changed with
  | none => true
  | some place => count ≤ place

/-- The store after some work of which no new value is of use any more: unless one of the first
cells was given other content, it is the store before the work. -/
def settled (before : Store) (count : Nat) (after : Store) : Store :=
  if after.keepsFirst count then before
  else
    let changed := match before.changed, after.changed with
      | some p, some q => some (min p q)
      | p, none => p
      | none, q => q
    { after with changed := changed, constants := before.constants }

/-- The store whose first cells are those of another one. -/
def withFirst (s : Store) (count : Nat) (other : Store) : Store :=
  { s with cells := other.cells.extract 0 count ++ s.cells.extract count s.cells.size }

/-- The store in which no name has a value. -/
def unbound (s : Store) : Store := { s with bound := [] }

/-- The store at the beginning of some work: nothing was changed yet. -/
def fresh (s : Store) : Store := { s with changed := none }

end Store

/-! ## Looking -/

/-- A computation that looks at the store and may end with a fault. -/
abbrev Look (α : Type) := ReaderT Store (Except Fault) α

namespace Look

/-- The items of a row. -/
def row (r : Ref) : Look (Array Value) := do return (← read).row r

/-- The items of a row as a list. -/
def items (r : Ref) : Look (List Value) := do return ((← read).row r).toList

/-- An item of a row. -/
def itemAt (r : Ref) (i : Nat) : Look Value := do return ((← read).row r)[i]?.getD .none

/-- The entries of a mapping. -/
def entries (r : Ref) : Look (List (Value × Value)) := do return (← read).entries r

/-- Named values. -/
def attributes (r : Ref) : Look (List (String × Value)) := do return (← read).attributes r

/-- How a stream stands. -/
def course (r : Ref) : Look Course := do return (← read).course r

end Look

/-! ## Building -/

/-- A computation that adds cells. -/
abbrev Building (α : Type) := StateM Store α

namespace Building

/-- A value with an identity of its own, unless it has one. -/
def keep (v : Value) : Building Value :=
  match v.identity with
  | .loose =>
    if v.content.isUnique || v.content.isCell then return v
    else modifyGet fun s => (⟨v.content, .kept s.kept⟩, { s with kept := s.kept + 1 })
  | _ => return v

/-- A further cell. -/
def add (c : Cell) : Building Ref := modifyGet fun s => (⟨s.cells.size⟩, s.push c)

/-- A further row. -/
def addRow (items : List Value) : Building Ref := do add (.row (← items.mapM keep).toArray)

/-- A list. -/
def list (items : List Value) : Building Value := do return .ofContent (.list (← addRow items))

/-- The reference of the empty tuple. -/
def emptyRow : Ref := ⟨0⟩

/-- A tuple; there is only one empty tuple. -/
def tuple (items : List Value) : Building Value := do
  if items.isEmpty then return .ofContent (.tuple emptyRow)
  else return .ofContent (.tuple (← addRow items))

/-- A set. -/
def set (items : List Value) : Building Value := do return .ofContent (.set (← addRow items))

/-- A further cell of entries. -/
def addEntries (entries : List (Value × Value)) : Building Ref := do
  add (.entries (← entries.mapM fun (k, v) => do return (← keep k, ← keep v)))

/-- A mapping. -/
def dict (entries : List (Value × Value)) : Building Value := do
  return .ofContent (.dict (← addEntries entries))

/-- A further cell of named values. -/
def addAttributes (named : List (String × Value)) : Building Ref := do
  add (.attributes (← named.mapM fun (n, v) => do return (n, ← keep v)))

/-- An approved value. -/
def trusted (c : Trust.Category) (v : Value) : Building Value := do
  return .ofContent (.trusted c (← addRow [v]))

/-- A record of two fields. -/
def point (x y : Value) : Building Value := do return .ofContent (.point (← addRow [x, y]))

/-- The bounds and the step of a part of a sequence. -/
def slice (start stop step : Value) : Building Value := do
  return .ofContent (.slice (← addRow [start, stop, step]))

/-- A stream. -/
def stream (type : String) (course : Course) : Building Value := do
  return .ofContent (.stream type (← add (.stream course)))

/-- A method of a value. -/
def method (receiver : Value) (name : String) : Building Value := do
  return .ofContent (.method receiver.content.methodType (← addRow [receiver]) name)

/-- Gives a cell other content. -/
def put (r : Ref) (c : Cell) : Building Unit := modify fun s => s.set r c

/-- Gives a row other items. -/
def putRow (r : Ref) (items : List Value) : Building Unit := do
  put r (.row (← items.mapM keep).toArray)

/-- Gives a mapping other entries. -/
def putEntries (r : Ref) (entries : List (Value × Value)) : Building Unit := do
  put r (.entries (← entries.mapM fun (k, v) => do return (← keep k, ← keep v)))

/-- Gives a future another state. -/
def change (place : Nat) (p : Progress Value) : Building Unit :=
  modify fun s => s.alter fun c => { c with changes := (place, p) :: c.changes }

/-- Lets other functions wait for futures. -/
def putWaiting (waiting : List (Nat × Value)) : Building Unit :=
  modify fun s => s.alter fun c => { c with waiting := waiting }

/-- Lets a function wait for a future. -/
def addWaiting (place : Nat) (v : Value) : Building Unit := do
  let v ← keep v
  modify fun s => s.alter fun c => { c with waiting := (place, v) :: c.waiting }

/-- A number below a bound, drawn by chance. -/
def draw (bound : Nat) : Building Nat := do
  let c := (← get).commons
  modify fun s => s.alter fun c => { c with drawn := c.drawn + 1 }
  return c.numbers c.drawn % bound

/-- What the clock shows. -/
def readClock : Building Nat := do
  let c := (← get).commons
  modify fun s => s.alter fun c => { c with asked := c.asked + 1 }
  return c.times c.asked

/-- Puts an item behind the others of a row. -/
def append (r : Ref) (v : Value) : Building Unit := do
  let v ← keep v
  modify fun s => s.changeRow r fun items => items.push v

end Building

end Interpolation
