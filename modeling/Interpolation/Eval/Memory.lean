import Interpolation.Value.Future
import Interpolation.Value.Loading

/-!
# Computations with values

An evaluation ends with a value or a fault. On the way it may add cells to the store, give cells
other content, and meet futures; all of this is left behind also by a fault.

Main definitions:

* `Memory`: the store, and the lookups that met a future.
* `Eval`: a computation with a memory.
-/

namespace Interpolation

/-- The lookups that met a future, each told by the name or index that was looked up. -/
abbrev Trace := List Wording

/-- What a computation works on. -/
structure Memory where
  /-- The parts of the values. -/
  store : Store
  /-- The lookups that met a future. -/
  trace : Trace

/-- A computation with a memory. -/
abbrev Eval (α : Type) := ExceptT Fault (StateM Memory) α

/-- A computation that looks at the store is one with a memory. -/
instance : MonadLift Look Eval where
  monadLift x := fun (m : Memory) => (x m.store, m)

/-- A computation that adds cells is one with a memory. -/
instance : MonadLift (StateM Store) Eval where
  monadLift x := fun ⟨store, trace⟩ =>
    let (a, store) := x store
    (.ok a, ⟨store, trace⟩)

namespace Eval

/-- Records a lookup that met a future. -/
def record (lookup : Wording) : Eval Unit :=
  modifyThe Memory fun m => { m with trace := m.trace ++ [lookup] }

/-- The result of a computation on a store, with the lookups that met a future and the store
afterwards. -/
def runOn {α : Type} (x : Eval α) (store : Store) : Except Fault α × Trace × Store :=
  let (result, m) := (x.run ⟨store, []⟩).run
  (result, m.trace, m.store)

/-- Goes on in another way if a computation ends with a fault; what it did stays done. -/
def orElse {α : Type} (x : Eval α) (other : Fault → Eval α) : Eval α := fun m =>
  match (x.run m).run with
  | (.ok a, m) => (.ok a, m)
  | (.error f, m) => (other f).run m

/-- Computes something as a stream does, which may not take an end of another stream for its own. -/
def inStream {α : Type} (x : Eval α) : Eval α := orElse x fun f => throw f.outOfStream

/-- A new list. -/
def list (items : List Value) : Eval Value := (Building.list items : Building Value)

/-- A new tuple. -/
def tuple (items : List Value) : Eval Value := (Building.tuple items : Building Value)

/-- A value with an identity of its own. -/
def keep (v : Value) : Eval Value := (Building.keep v : Building Value)

end Eval

end Interpolation
