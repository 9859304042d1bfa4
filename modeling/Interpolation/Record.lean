/-!
# Log records

What the library tells while it works. Records are values: whoever runs an operation gets them with
its result and decides what to do with them.

Main definitions:

* `Level`, `Record`: how important a record is, who tells it, and its text.
* `Record.atLeast`: the records of some importance.
-/

namespace Interpolation

/-- How important a record is. -/
inductive Level where
  | debug
  | info
  | warning
  | error
deriving DecidableEq, Repr

namespace Level

/-- The name of a level. -/
def name : Level → String
  | .debug => "DEBUG"
  | .info => "INFO"
  | .warning => "WARNING"
  | .error => "ERROR"

/-- The rank of a level. -/
def rank : Level → Nat
  | .debug => 0
  | .info => 1
  | .warning => 2
  | .error => 3

/-- The level with a name. -/
def ofName? (s : String) : Option Level :=
  [Level.debug, .info, .warning, .error].find? fun l => l.name == s

end Level

/-- A log record. -/
structure Record where
  /-- How important it is. -/
  level : Level
  /-- The part of the library that tells it. -/
  origin : String
  /-- What is told. -/
  message : String
deriving DecidableEq, Repr

/-- The records that are at least as important as a level. -/
def Record.atLeast (l : Level) (records : List Record) : List Record :=
  records.filter fun r => l.rank ≤ r.level.rank

end Interpolation
