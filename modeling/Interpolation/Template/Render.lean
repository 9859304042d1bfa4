import Interpolation.Template.Basic

/-!
# Rendering

The segments of a template are rendered from left to right. The first one that has no text ends the
rendering: what was rendered before is dropped, and one fault that names the template and the cause
is reported. The report contains the wording of the cause; if that cannot be put together, what is
in its way is raised instead, and nothing is reported. A fault that passes those who handle faults
is raised as it is.

What an expression changes, later segments see; all else that a segment leaves behind is forgotten
before the next one begins. In the same way a rendering leaves nothing behind but what it changed of
the values that were there before it.

Main definitions:

* `InterpolationFault`: a template and the cause for which it has no text.
* `Rendering`: how a rendering ends.
* `Segment.render`, `Template.render`: the text of a segment and of a template.
* `Sink.report`: what becomes of a fault.
* `Template.renderTo`: what whoever asked for a rendering is answered.
-/

namespace Interpolation

open Interpolation.Trust

/-- The cause for which a template has no text. -/
structure InterpolationFault where
  /-- The text of the template. -/
  text : String
  /-- The fault of the first segment that failed. -/
  cause : RenderFault
  /-- Nothing is raised in the place of a report on it. -/
  reportable : cause.raised? = none
  /-- The number of cells that were there before the rendering. -/
  before : Nat

namespace InterpolationFault

/-- What is told about a template that has no text. -/
def message (f : InterpolationFault) : String :=
  "Can't interpolate: " ++ f.text ++ "\n" ++ f.cause.label ++ ": " ++ f.cause.message

/-- The fault as it stands at a later time, when values that were there before the rendering may
have other parts. -/
def now (f : InterpolationFault) (store : Store) : InterpolationFault :=
  { f with
    cause := f.cause.now f.before store
    reportable := (f.cause.raised?_now f.before store).trans f.reportable }

end InterpolationFault

/-- How a rendering ends. -/
inductive Rendering where
  | text (s : String)
  /-- With a fault that is to be reported. -/
  | reported (f : InterpolationFault)
  /-- With a fault that whoever asked for the rendering has to handle. -/
  | raised (f : Fault)

namespace Rendering

/-- How a rendering ends whose first failure is known. -/
def ofFault (text : String) (before : Nat) (cause : RenderFault) : Rendering :=
  match h : cause.raised? with
  | some f => .raised f
  | none => .reported ⟨text, cause, h, before⟩

/-- How a rendering ends in which this came out. -/
def ofResult (text : String) (before : Nat) : Except RenderFault String → Rendering
  | .ok out => .text out
  | .error cause => ofFault text before cause

end Rendering

/-- What a template is rendered with. -/
structure Surroundings where
  /-- The resources that are allowed. -/
  policy : Policy
  /-- The table of futures. -/
  futures : Futures

/-- The text of a value, which must be approved if it is destined for a sensitive place. -/
def Surroundings.write (s : Surroundings) (trusted : Option Category) (e : Environment)
    (v : Value) : Gate String := do
  let v ← match trusted with
    | some c => s.policy.getTrusted e s.futures c v
    | none => Gate.look v.unwrapped
  Gate.write e s.futures v

/-- The text of a segment. -/
def Segment.render (s : Surroundings) (trusted : Option Category) (context : Context) :
    Segment → Gate String
  | .literal text => return text
  | .expression e _ => Gate.settled (e.bind s.futures context) do
    s.write trusted e.environment (← e.value s.futures)

namespace Template

/-- The texts of segments put together. -/
def renderAll (s : Surroundings) (trusted : Option Category) (context : Context) :
    List Segment → Gate String
  | [] => return ""
  | segment :: segments => do
    let text ← segment.render s trusted context
    return text ++ (← renderAll s trusted context segments)

/-- The text of a template in a context. -/
def rendering (t : Template) (s : Surroundings) (context : Datum) : Gate String :=
  Gate.settled (return ()) do
    let context ← Gate.build (Context.ofDatum context)
    renderAll s t.trusted context t.segments

/-- How the rendering of a template in a context ends; with the store afterwards, in which no name
has a value, and the records told on the way. -/
def render (t : Template) (s : Surroundings) (context : Datum) (store : Store) :
    Rendering × Work :=
  let (result, after) := ((t.rendering s context).run ⟨store.unbound, []⟩).run
  (.ofResult t.source store.cells.size result, { after with store := after.store.unbound })

end Template

/-- What becomes of the faults of rendering: they are collected, or told as records. -/
inductive Sink where
  /-- The faults so far, in order. -/
  | collecting (faults : List InterpolationFault)
  | logging

namespace Sink

/-- The faults that were collected. -/
def faults : Sink → List InterpolationFault
  | collecting faults => faults
  | logging => []

/-- The sink and the records after a fault. -/
def report (sink : Sink) (f : InterpolationFault) : Sink × List Record :=
  match sink with
  | collecting faults => (collecting (faults ++ [f]), [])
  | logging => (logging, [⟨.error, "stencil.errors", f.message⟩])

/-- The sink without the faults it collected. -/
def clear : Sink → Sink
  | collecting _ => collecting []
  | logging => logging

end Sink

/-- What whoever asked for a rendering is answered. -/
inductive Rendered where
  | text (s : String)
  /-- There is no text, and that was reported. -/
  | nothing
  /-- A fault instead of an answer. -/
  | raised (f : Fault)
deriving DecidableEq

namespace Rendered

/-- The text, if there is one. -/
def text? : Rendered → Option String
  | text s => some s
  | nothing | raised _ => none

instance : Coe Rendered (Option String) := ⟨text?⟩

end Rendered

/-- Renders a template into a sink: the answer, the sink, and the store and the records
afterwards. -/
def Template.renderTo (t : Template) (sink : Sink) (s : Surroundings) (context : Datum)
    (store : Store) : Rendered × Sink × Work :=
  match t.render s context store with
  | (.text text, after) => (.text text, sink, after)
  | (.reported f, after) =>
    let (sink, reported) := sink.report f
    (.nothing, sink, { after with records := after.records ++ reported })
  | (.raised f, after) => (.raised f, sink, after)

end Interpolation
