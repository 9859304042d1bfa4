import Interpolation.Text.Quoted

/-!
# Delimiters

Four markers set expressions off from text: a primary pair for plain expressions, and a secondary
pair for expressions that resolve futures. No marker is empty. The markers can be changed until the
first template is compiled; from then on they are frozen.

Main definitions:

* `Marker`: a text that is not empty.
* `Delimiters`: the four markers.
* `DelimiterState.set`: a change of one of them.
-/

namespace Interpolation

open Interpolation.Text

/-- A text that is not empty. -/
structure Marker where
  /-- The characters. -/
  chars : List Char
  /-- There is at least one character. -/
  nonempty : chars ≠ []
deriving DecidableEq

namespace Marker

/-- The marker of a text that is not empty. -/
def ofString? (s : String) : Option Marker :=
  if h : s.toList ≠ [] then some ⟨s.toList, h⟩ else none

/-- The text of a marker. -/
def text (m : Marker) : String := String.ofList m.chars

end Marker

/-- The four markers. -/
structure Delimiters where
  /-- The beginning of an expression. -/
  primaryStart : Marker
  /-- The end of an expression. -/
  primaryEnd : Marker
  /-- The beginning of an expression that resolves futures. -/
  secondaryStart : Marker
  /-- The end of an expression that resolves futures. -/
  secondaryEnd : Marker
deriving DecidableEq

/-- The names of the four markers. -/
inductive MarkerName where
  | primaryStart
  | primaryEnd
  | secondaryStart
  | secondaryEnd
deriving DecidableEq, Repr

namespace MarkerName

/-- All markers in order. -/
def all : List MarkerName := [.primaryStart, .primaryEnd, .secondaryStart, .secondaryEnd]

/-- The name by which a marker is configured. -/
def name : MarkerName → String
  | .primaryStart => "primary_start"
  | .primaryEnd => "primary_end"
  | .secondaryStart => "secondary_start"
  | .secondaryEnd => "secondary_end"

/-- The marker with a name. -/
def ofName? (s : String) : Option MarkerName := all.find? fun m => m.name == s

end MarkerName

namespace Delimiters

/-- Two braces around expressions, a brace and two bars around those that resolve futures. -/
def standard : Delimiters :=
  ⟨⟨['\x7b', '\x7b'], by decide⟩, ⟨['\x7d', '\x7d'], by decide⟩,
    ⟨['\x7b', '|', '|'], by decide⟩, ⟨['|', '|', '\x7d'], by decide⟩⟩

/-- The marker with a name. -/
def get (d : Delimiters) : MarkerName → Marker
  | .primaryStart => d.primaryStart
  | .primaryEnd => d.primaryEnd
  | .secondaryStart => d.secondaryStart
  | .secondaryEnd => d.secondaryEnd

/-- The markers with one of them replaced. -/
def put (d : Delimiters) (m : Marker) : MarkerName → Delimiters
  | .primaryStart => { d with primaryStart := m }
  | .primaryEnd => { d with primaryEnd := m }
  | .secondaryStart => { d with secondaryStart := m }
  | .secondaryEnd => { d with secondaryEnd := m }

end Delimiters

/-- A change of a marker that is frozen. -/
structure FrozenFault where
  /-- The marker. -/
  marker : MarkerName
deriving DecidableEq, Repr

/-- What is told about a change of a frozen marker. -/
def FrozenFault.message (f : FrozenFault) : String :=
  "Cannot change " ++ quote f.marker.name ++ " after templates have been compiled"

/-- The markers and whether they can still be changed. -/
structure DelimiterState where
  /-- The markers. -/
  delimiters : Delimiters
  /-- Whether they are frozen. -/
  frozen : Bool
deriving DecidableEq

namespace DelimiterState

/-- The text of a marker. -/
def get (s : DelimiterState) (name : MarkerName) : String := (s.delimiters.get name).text

/-- The markers, which cannot be changed from now on. -/
def freeze (s : DelimiterState) : DelimiterState := { s with frozen := true }

/-- Changes a marker and answers with its text. Without a text nothing changes and the present text
is the answer; with one, a frozen marker refuses. -/
def set (s : DelimiterState) (name : MarkerName) (value : Option String) :
    Except FrozenFault String × DelimiterState :=
  match value.bind Marker.ofString? with
  | none => (.ok (s.get name), s)
  | some m =>
    if s.frozen then (.error ⟨name⟩, s)
    else (.ok m.text, { s with delimiters := s.delimiters.put m name })

end DelimiterState

end Interpolation
