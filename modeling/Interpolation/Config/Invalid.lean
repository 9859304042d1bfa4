import Interpolation.Value.Future
import Interpolation.Text.Utf8

/-!
# Invalid configurations

Each leaf of a configuration is checked on its own, so a configuration may be invalid in several
places. The report names every place, what is wrong there, and the value found, shortened in the
middle when it is long.

Main definitions:

* `Invalid`: a place and what is wrong there.
* `ConfigFault.message`: the report.
-/

namespace Interpolation

open Interpolation.Text

/-- What is wrong with a part of a configuration. -/
inductive InvalidCause where
  /-- Not a mapping; `model` names what the mapping would describe. -/
  | notAMapping (model : String)
  | notText
  /-- Bytes that are no text. -/
  | notUnicode
  | emptyDelimiter
  /-- A value that could stand for a truth value, but does not. -/
  | unclearFlag
  | notAFlag
  | notAList
deriving DecidableEq, Repr

namespace InvalidCause

/-- The name of a cause. -/
def name : InvalidCause → String
  | notAMapping _ => "model_type"
  | notText => "string_type"
  | notUnicode => "string_unicode"
  | emptyDelimiter => "value_error"
  | unclearFlag => "bool_parsing"
  | notAFlag => "bool_type"
  | notAList => "list_type"

/-- What is told about a cause. -/
def message : InvalidCause → String
  | notAMapping model => "Input should be a valid dictionary or instance of " ++ model
  | notText => "Input should be a valid string"
  | notUnicode => "Input should be a valid string, unable to parse raw data as a unicode string"
  | emptyDelimiter => "Value error, delimiters must not be empty"
  | unclearFlag => "Input should be a valid boolean, unable to interpret input"
  | notAFlag => "Input should be a valid boolean"
  | notAList => "Input should be a valid list"

end InvalidCause

/-- A value in full, if it can be shown. -/
def Value.shownForReport (v : Value) (store : Store) : String :=
  match (v.repr Futures.empty.shown).run store with
  | .ok text => text
  | .error _ => "<unprintable " ++ v.typeName ++ " object>"

/-- A place in a configuration and what is wrong there. -/
structure Invalid where
  /-- The names and numbers on the way to the place. -/
  place : List String
  /-- What is wrong. -/
  cause : InvalidCause
  /-- The value found there in full. -/
  shown : String
  /-- The name of the type of the value. -/
  type : String
deriving DecidableEq, Repr

/-- The longest beginning of a text of at most some bytes. -/
def beginningOf (bytes : Nat) : List Char → List Char
  | [] => []
  | c :: s =>
    let size := (utf8Char c).length
    if size ≤ bytes then c :: beginningOf (bytes - size) s else []

/-- A text of more than fifty bytes without its middle. -/
def shortened (s : String) : String :=
  if s.utf8ByteSize ≤ 50 then s
  else
    let cs := s.toList
    String.ofList (beginningOf 25 cs) ++ "..."
      ++ String.ofList (beginningOf 24 cs.reverse).reverse

namespace Invalid

/-- The place as one word, on a line of its own unless it is the whole configuration. -/
def placeLine (i : Invalid) : List String :=
  if i.place.isEmpty then [] else [String.intercalate "." i.place]

/-- The lines of the report on a place. -/
def lines (i : Invalid) : List String :=
  i.placeLine ++
    ["  " ++ i.cause.message ++ " [type=" ++ i.cause.name ++ ", input_value="
      ++ shortened i.shown ++ ", input_type=" ++ i.type ++ "]",
     "    For further information visit https://errors.pydantic.dev/2.14/v/" ++ i.cause.name]

end Invalid

/-- All that is wrong with a configuration. -/
structure ConfigFault where
  /-- The places in the order in which a configuration declares them. -/
  invalid : List Invalid
deriving DecidableEq, Repr

/-- The report on an invalid configuration. -/
def ConfigFault.message (f : ConfigFault) : String :=
  String.intercalate "\n"
    ((plural f.invalid.length "validation error" ++ " for StencilConfig")
      :: f.invalid.flatMap Invalid.lines)

end Interpolation
