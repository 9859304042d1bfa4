import Interpolation.Interpolator

/-!
# Configurations

A configuration names the delimiters of expressions, the defaults of the expression engine and the
resources that are allowed, and may describe itself.

Main definitions:

* `Config`, `Config.standard`: a configuration, and the one that holds where nothing is said.
* `Config.interpolator`: the interpolator that a configuration describes.
-/

namespace Interpolation

/-- The defaults of the expression engine. -/
structure ExpressionDefaults where
  /-- Whether missing values refuse to be used. -/
  strict : Bool
  /-- Whether futures are resolved. -/
  resolving : Bool
  /-- Whether it is told when a future is met. -/
  logging : Bool
deriving DecidableEq, Repr

/-- A missing value counts as nothing, futures stay, and it is told when one is resolved. -/
def ExpressionDefaults.standard : ExpressionDefaults := ⟨false, false, true⟩

/-- A configuration. -/
structure Config where
  /-- What the configuration says about itself. -/
  description : Option String
  /-- The markers. -/
  delimiters : Delimiters
  /-- The defaults of the expression engine. -/
  expressions : ExpressionDefaults
  /-- The resources that are allowed. -/
  trust : Policy
deriving DecidableEq

namespace Config

/-- The configuration that holds where nothing is said. -/
def standard : Config := ⟨none, .standard, .standard, .standard⟩

/-- The expression engine that a configuration describes. -/
def engine (c : Config) : Engine :=
  .new c.expressions.strict c.expressions.resolving c.expressions.logging

/-- The interpolator that a configuration describes; `delimiters` are the markers as they are when
it is made. -/
def interpolatorWith (c : Config) (delimiters : Delimiters) : Interpolator :=
  ⟨delimiters, c.engine, c.trust⟩

/-- The interpolator that a configuration describes. -/
def interpolator (c : Config) : Interpolator := c.interpolatorWith c.delimiters

end Config

end Interpolation
