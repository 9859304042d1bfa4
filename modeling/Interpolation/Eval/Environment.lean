import Interpolation.Eval.Stream

/-!
# Environments

An environment says what an expression is compiled for: what missing names mean, whether futures are
resolved, and whether that is told. Together with the state of the futures it gives the setting in
which the expression is evaluated.

Main definitions:

* `Environment`: what an expression is compiled for.
* `Environment.setting`: the setting of an evaluation.
-/

namespace Interpolation

/-- What an expression is compiled for. -/
structure Environment where
  /-- Whether missing values refuse to be used. -/
  strict : Bool
  /-- Whether futures are resolved. -/
  resolving : Bool
  /-- Whether it is told when a future is met. -/
  logging : Bool
deriving DecidableEq, Repr

namespace Environment

/-- Missing values can be used, and futures stay. -/
def plain : Environment := ⟨false, false, false⟩

/-- What a look-up finds in the place of a future. -/
def settling (e : Environment) (futures : Futures) : (key v : Value) → Eval Value :=
  if e.resolving then futures.settling e.logging else Futures.leaving

/-- The setting of an evaluation. -/
def setting (e : Environment) (futures : Futures) : Setting :=
  .ofDepth e.strict futures (e.settling futures) Setting.streamDepth

end Environment

end Interpolation
