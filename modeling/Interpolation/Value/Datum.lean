import Interpolation.Value.Basic

/-!
# Trees of values

A datum is a value with all its parts, as it is written down: contexts and constants come as data.
Nothing is shared between the parts of a datum unless it stands in the store already.

Main definitions:

* `Datum`: the trees.
* `Datum.isConstant`: whether a datum in an expression is one and the same wherever it stands.
-/

namespace Interpolation

open Interpolation.Trust

/-- A value with all its parts. -/
inductive Datum where
  /-- A value without parts, or one whose parts are in the store already. -/
  | held (v : Value)
  | list (items : List Datum)
  | tuple (items : List Datum)
  | set (items : List Datum)
  | dict (entries : List (Datum × Datum))
  | trusted (category : Category) (value : Datum)
  | object (attributes : List (String × Datum))
  | token (text : String)
  | point (x y : Datum)

namespace Datum

instance : Inhabited Datum := ⟨.held .none⟩

/-- The datum of a content without parts. -/
def atom (c : Content) : Datum := .held (.ofContent c)

/-- The characters of a datum that counts as text. -/
def text? : Datum → Option String
  | .held v => v.text?
  | _ => none

mutual

/-- Whether the datum is a constant: a number, a text, bytes or the like, or a tuple of
constants. -/
def isConstant : Datum → Bool
  | .held v => v.content.isConstant
  | .tuple items => areConstant items
  | _ => false

/-- Whether all of several data are constants. -/
def areConstant : List Datum → Bool
  | [] => true
  | d :: ds => isConstant d && areConstant ds

end

/-- The word that stands for a float in an expression, if the float has no spelling of its own. -/
def unspelledFloat? (x : Float) : Option String :=
  if x.isNaN then some "nan" else if x.isInf then some "inf" else none

/-- The word that stands for a part of a value without a spelling of its own. -/
def unspelledContent? : Content → Option String
  | .float x => unspelledFloat? x
  | .complex re im => (unspelledFloat? re).or ((unspelledFloat? im).map fun w => w ++ "j")
  | _ => none

mutual

/-- The first word that stands for a part of a constant without a spelling of its own. -/
def unspelled? : Datum → Option String
  | .held v => unspelledContent? v.content
  | .list items | .tuple items | .set items => unspelledAmong? items
  | .dict entries => unspelledWithin? entries
  | _ => none

/-- The first such word among several constants. -/
def unspelledAmong? : List Datum → Option String
  | [] => none
  | d :: ds => (unspelled? d).or (unspelledAmong? ds)

/-- The first such word among entries. -/
def unspelledWithin? : List (Datum × Datum) → Option String
  | [] => none
  | (k, d) :: entries => ((unspelled? k).or (unspelled? d)).or (unspelledWithin? entries)

end

mutual

/-- Whether two constants are equal to the last bit. -/
def identical : Datum → Datum → Bool
  | .held v, .held w => v.content.identical w.content
  | .tuple ds, .tuple es => areIdentical ds es
  | _, _ => false

/-- Whether the constants of two lists are equal to the last bit, one by one. -/
def areIdentical : List Datum → List Datum → Bool
  | [], [] => true
  | d :: ds, e :: es => identical d e && areIdentical ds es
  | _, _ => false

end

end Datum

end Interpolation
