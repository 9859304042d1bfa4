import Interpolation.Eval.Memory
import Interpolation.Value.Shown

/-!
# Settings

What an evaluation depends on besides its names: how missing values are taken, how the futures
stand, what a lookup finds in the place of a future, and how a stream is asked for its next item.

Main definitions:

* `Setting`: a setting.
* `Futures.announce`: what is told of a lookup that met a future.
* `Futures.settling`, `Futures.leaving`: the two ways of lookups with futures.
-/

namespace Interpolation

/-- What an evaluation depends on. -/
structure Setting where
  /-- Whether missing values refuse to be used. -/
  strict : Bool
  /-- The table of futures. -/
  futures : Futures
  /-- What a lookup under a name or an index finds in the place of a value. -/
  settled : (key : Value) → Value → Eval Value
  /-- The next item of a stream, unless there is none. -/
  next : Ref → Eval (Option Value)

/-- A lookup that finds the future itself. -/
def Futures.leaving (_ : Value) (v : Value) : Eval Value := return v

/-- Notes that a lookup met a future. If that is told, the text of what was looked up is put
together: whoever tells it gets over every fault but the one of a value that is nested too deeply. -/
def Futures.announce (fs : Futures) (logging : Bool) (key : Value) : Eval Unit := do
  let text ← ((key.display fs.shown).wording : Look Wording)
  Eval.record text
  match text with
  | .unwritten (.tooDeep activity) => if logging then throw (.tooDeep activity)
  | _ => return ()

/-- A lookup that finds what a future stands for, and notes that it met one. -/
def Futures.settling (fs : Futures) (logging : Bool) (key v : Value) : Eval Value :=
  match v.content with
  | .future id => do
    match (fs.now (← getThe Store)).get? id with
    | some f => do
      fs.announce logging key
      f.resolved
    | none => return v
  | _ => return v

namespace Setting

/-- A missing value as the setting treats it. -/
def missing (s : Setting) (m : Missing) : Value :=
  .ofContent (.missing (if s.strict then .strict else .chaining) m)

/-- A value in full. -/
def repr (s : Setting) (v : Value) : Look String := v.repr s.futures.shown

/-- A value as it stands in a text. -/
def display (s : Setting) (v : Value) : Look String := v.display s.futures.shown

end Setting

end Interpolation
