import Interpolation.Engine
import Interpolation.Template.Piece
import Interpolation.Trust.Category

/-!
# Templates

A template is a text whose expressions are compiled. A text may fail to become one: because the
category that is asked for does not exist, because one of its expressions is not well formed, or
because a text for a sensitive place would be put together from several parts.

Main definitions:

* `Segment`, `Template`: what a compiled text consists of.
* `CompileFault`: why a text does not become a template.
* `Template.compile`: the template of a text.
-/

namespace Interpolation

open Interpolation.Text Interpolation.Trust

/-- A part of a template. -/
inductive Segment where
  /-- Text that is copied to the output. -/
  | literal (text : String)
  /-- An expression; a deferred one stood between the secondary markers. -/
  | expression (compiled : Expression) (deferred : Bool)

namespace Segment

/-- The compiled expression of a segment. -/
def expression? : Segment → Option Expression
  | literal _ => none
  | expression e _ => some e

/-- The segment in full. -/
def shown : Segment → String
  | literal text => showCall "LiteralSegment" ["text=" ++ quote text]
  | expression e deferred =>
    showCall "ExpressionSegment" ["compiled=" ++ e.shown, "source=" ++ quote e.source,
      "deferred=" ++ (if deferred then "True" else "False")]

end Segment

/-- A compiled text. -/
structure Template where
  /-- The text. -/
  source : String
  /-- Its parts in order. -/
  segments : List Segment
  /-- The sensitive place that the output is for. -/
  trusted : Option Category

namespace Template

/-- The sources of the expressions in order. -/
def expressions (t : Template) : List String :=
  t.segments.filterMap fun s => s.expression?.map (·.source)

/-- Whether the template holds an expression. -/
def hasExpression (t : Template) : Bool := t.segments.any fun s => s.expression?.isSome

/-- The template in full. -/
def shown (t : Template) : String :=
  let segments := t.segments.map Segment.shown
  showCall "CompiledTemplate" [
    "source=" ++ quote t.source,
    "segments=(" ++ String.intercalate ", " segments ++ (if segments.length = 1 then ",)" else ")"),
    "has_expression=" ++ (if t.hasExpression then "True" else "False"),
    "trusted_context=" ++ (match t.trusted with
      | some c => Value.categoryRepr c
      | none => "None")]

/-- Whether two templates without expressions have the same text, parts and place; a compiled
expression is never the same as another one. -/
def sameText (t u : Template) : Bool :=
  !t.hasExpression && t.source == u.source && t.trusted == u.trusted
    && t.segments.map Segment.shown == u.segments.map Segment.shown

end Template

/-- Why a text does not become a template. -/
inductive CompileFault where
  /-- There is no category of that name. -/
  | unknownCategory (name : String)
  /-- An expression is not well formed. -/
  | malformed (fault : SyntaxFault)
  /-- A text for a sensitive place would have several parts. -/
  | concatenation (text : String)
deriving DecidableEq, Repr

namespace CompileFault

/-- The kind under which a fault is reported. -/
def label : CompileFault → String
  | unknownCategory _ => "ValueError"
  | malformed f => f.label
  | concatenation _ => "NoConcatenationError"

/-- What is told about a fault. -/
def message : CompileFault → String
  | unknownCategory name => quote name ++ " is not a valid TrustCategory"
  | malformed f => f.message
  | concatenation text =>
    "Error while interpolating: " ++ text ++ "\nStrict Contextual Escaping disallows "
      ++ "interpolations that concatenate multiple expressions when a trusted value is required."

end CompileFault

/-- What a text is compiled for besides being rendered. -/
structure CompileRequest where
  /-- The text. -/
  text : String
  /-- Whether a text without expressions is of no use. -/
  needsExpression : Bool
  /-- The name of the sensitive place that the output is for; no name asks for none. -/
  place : Option String
deriving DecidableEq, Repr

namespace Template

/-- The segments of pieces in order; the first malformed expression ends the work, and the engine
remembers the environments it made until then. A deferred expression resolves futures and does not
tell, whatever the defaults of the engine are. -/
def segmentsOf (engine : Engine) : List Piece → Except SyntaxFault (List Segment) × Engine
  | [] => (.ok [], engine)
  | .literal text :: pieces =>
    let (rest, engine) := segmentsOf engine pieces
    (rest.map (.literal (String.ofList text) :: ·), engine)
  | .expression source deferred :: pieces =>
    let (resolving, logging) := if deferred then (some true, some false) else (none, none)
    match engine.compile (String.ofList source) resolving logging with
    | (.error f, engine) => (.error f, engine)
    | (.ok e, engine) =>
      let (rest, engine) := segmentsOf engine pieces
      (rest.map (.expression e deferred :: ·), engine)

/-- The category with a name; without a name, or with an empty one, there is none. -/
def categoryNamed (place : Option String) : Except CompileFault (Option Category) :=
  match place with
  | none | some "" => .ok none
  | some name =>
    match Category.ofName? name with
    | some c => .ok (some c)
    | none => .error (.unknownCategory name)

/-- What becomes of the segments of a text: with a category there must be only one, and a text
without expressions may be of no use. -/
def assemble (request : CompileRequest) (trusted : Option Category) (segments : List Segment) :
    Except CompileFault (Option Template) :=
  let t : Template := ⟨request.text, segments, trusted⟩
  if trusted.isSome ∧ segments.length > 1 then .error (.concatenation request.text)
  else if request.needsExpression ∧ !t.hasExpression then .ok none
  else .ok (some t)

/-- The template of a text. -/
def compile (d : Delimiters) (engine : Engine) (request : CompileRequest) :
    Except CompileFault (Option Template) × Engine :=
  match categoryNamed request.place with
  | .error f => (.error f, engine)
  | .ok trusted =>
    match segmentsOf engine (d.pieces request.text.toList) with
    | (.error f, engine) => (.error (.malformed f), engine)
    | (.ok segments, engine) => (assemble request trusted segments, engine)

end Template

end Interpolation
