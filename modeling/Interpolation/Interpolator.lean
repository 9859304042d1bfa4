import Interpolation.Template.Render

/-!
# The interpolator

An interpolator compiles templates with one set of delimiters, one expression engine and one list of
allowed resources. From the moment it exists its delimiters are frozen.

Main definitions:

* `Interpolator`: what templates are compiled with.
* `Interpolator.compile`: the template of a text, the interpolator after it, and the records.
-/

namespace Interpolation

open Interpolation.Text

/-- What templates are compiled and rendered with. -/
structure Interpolator where
  /-- The markers. -/
  delimiters : Delimiters
  /-- The expression engine. -/
  engine : Engine
  /-- The resources that are allowed. -/
  policy : Policy

namespace Interpolator

/-- What is told about a template. -/
def compiledRecord (t : Template) : Record :=
  ⟨.debug, "stencil.interpolate",
    "Compiled " ++ quote t.source ++ " into " ++ toString t.segments.length ++ " segment(s)"⟩

/-- The template of a text, if there is one and it is of use. -/
def compile (i : Interpolator) (request : CompileRequest) :
    Except CompileFault (Option Template) × Interpolator × List Record :=
  let (result, engine) := Template.compile i.delimiters i.engine request
  let records := match result with
    | .ok (some t) => [compiledRecord t]
    | _ => []
  (result, { i with engine := engine }, records)

end Interpolator

end Interpolation
