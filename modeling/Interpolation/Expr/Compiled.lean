import Interpolation.Eval.Context
import Interpolation.Expr.Grammar
import Interpolation.Expr.Prepared
import Interpolation.Trust.Policy

/-!
# Compiled expressions

A compiled expression remembers its source, the environment it was compiled for, and the options it
was compiled with. A blank source is an expression without a value.

The environment says what look-ups do with futures, and whether that is told; the options say the
same of a future that is the value of the whole expression.

Main definitions:

* `Expression.compile`: the expression of a source.
* `Expression.evaluate`: what it amounts to, once its names have their values.
* `Expression.bind`, `Expression.value`: the two steps of an evaluation in a context.
-/

namespace Interpolation

open Interpolation.Text

/-- A compiled expression. -/
structure Expression where
  /-- The source as it was given. -/
  source : String
  /-- The expression, unless the source is blank. -/
  body : Option Expr
  /-- What it was compiled for. -/
  environment : Environment
  /-- Whether a future is resolved that is its value. -/
  resolving : Bool
  /-- Whether it is told when such a future is met. -/
  logging : Bool

namespace Expression

/-- The expression of a source without blanks at its ends. -/
def parse (environment : Environment) (source : List Char) : Except SyntaxFault (Option Expr) :=
  match strip source with
  | [] => .ok none
  | cs => do return some (← (← Expr.ofSource cs).prepared environment)

/-- The expression of a source, with the options it is compiled with. -/
def compile (environment : Environment) (resolving logging : Bool) (source : String) :
    Except SyntaxFault Expression := do
  return ⟨source, ← parse environment source.toList, environment, resolving, logging⟩

/-- The expression in full. -/
def shown (e : Expression) : String :=
  showCall "JinjaExpression" [quote e.source,
    "resolve_async=" ++ (if e.resolving then "True" else "False")]

/-- The names that the expression uses. -/
def names (e : Expression) : List String := (e.body.map Expr.names).getD []

/-- The setting of an evaluation. -/
def setting (e : Expression) (futures : Futures) : Setting := e.environment.setting futures

/-- What an expression amounts to: a missing value is nothing, or refused if missing values are. -/
def settle (strict : Bool) (v : Value) : Except Fault Value :=
  match v.content with
  | .missing tolerance m =>
    if !strict then .ok .none
    else if tolerance = .strict then .error m.fault
    else .ok v
  | _ => .ok v

/-- What an expression amounts to whose names have their values; that may be a future. It is
computed as the only item of a stream. -/
def evaluate (e : Expression) (futures : Futures) : Eval Value := do
  match e.body with
  | none => return .none
  | some body => settle e.environment.strict (← ((e.setting futures).eval body).inStream)

/-- Gives the names of an expression their values; a context is looked at only if the source is not
blank. -/
def bind (e : Expression) (futures : Futures) (context : Context) : Gate Unit :=
  if e.body.isNone then return () else
    Gate.ofEval e.environment.logging (context.bind (e.setting futures) e.names)

/-- The value that stands for a future found under a name; other values stay. -/
def resolvePending (logging : Bool) (futures : Futures) (name : String) (v : Value) : Gate Value :=
  Gate.ofEval logging (futures.settling logging (.str name) v)

/-- The value of an expression whose names have their values, telling of the futures that were
met. -/
def value (e : Expression) (futures : Futures) : Gate Value := do
  let v ← Gate.ofEval e.environment.logging (e.evaluate futures)
  if e.resolving then resolvePending e.logging futures e.source v else return v

end Expression

end Interpolation
