import Interpolation.Config.Basic

/-!
# Sessions

A session works with one configuration, one interpolator that is made when it is first needed, some
named templates and some named futures. Its steps are values, so that what a session does can be
talked about: a step takes the session to the next one, with an outcome and the records it tells.

Main definitions:

* `Session`, `Step`: a session and what can be done in it.
* `Session.step`: the next session, the outcome of the step and its records.
-/

namespace Interpolation

/-- A template that was compiled in a session. -/
structure Compiled where
  /-- The number of templates that were compiled before. -/
  serial : Nat
  /-- The template. -/
  template : Template

/-- A session. -/
structure Session where
  /-- The configuration. -/
  config : Config
  /-- The markers and whether they can be changed. -/
  delimiters : DelimiterState
  /-- The interpolator, once it is made. -/
  made : Option Interpolator
  /-- The named templates; a name may stand for none. -/
  templates : List (String × Option Compiled)
  /-- The number of templates compiled so far. -/
  count : Nat
  /-- What becomes of faults. -/
  sink : Sink
  /-- The table of futures. -/
  futures : Futures
  /-- The named futures. -/
  names : List (String × FutureId)
  /-- The parts of the results of the futures. -/
  store : Store

/-- The defaults of the expression engine that can be changed. -/
inductive DefaultName where
  | resolving
  | logging
deriving DecidableEq, Repr

/-- What can be done in a session. -/
inductive Step where
  | getMarker (name : MarkerName)
  | setMarker (name : MarkerName) (value : Option String)
  | freeze
  | isFrozen
  /-- Asks for the markers of the interpolator. -/
  | markers
  | compile (id : String) (request : CompileRequest)
  | render (id : String) (context : Datum)
  | showTemplate (id : String)
  | compare (id other : String)
  | expressions (id : String)
  | faults
  | clear
  | getDefault (name : DefaultName)
  | setDefault (name : DefaultName) (value : Datum)
  /-- Asks whether two choices meet the same environment: resolving and logging of each. -/
  | sameEnvironment (first second : Bool × Bool)
  | allow (entry : String)
  | makeFuture (name : String) (runner : Runner)
  /-- Gives a future its final state. -/
  | settle (name : String) (progress : Progress Datum)

/-- What a step answers. -/
inductive Outcome where
  | nothing
  | text (s : String)
  | texts (ss : List String)
  | flag (b : Bool)
  | template (t : Option Template)
  /-- The text of a template, if it has one, and the faults that were reported. -/
  | rendered (text : Option String) (reported : List InterpolationFault)
  | reports (faults : List InterpolationFault)

/-- Why a step answers nothing. -/
inductive StepFault where
  | frozen (f : FrozenFault)
  | compile (f : CompileFault)
  /-- There is no template of that name. -/
  | noTemplate (id : String)
  | value (f : Fault)
  /-- The future has its final state already. -/
  | settled

/-- What a step that renders a template answers, with the faults that it reported. -/
def Rendered.outcome (answer : Rendered) (reported : List InterpolationFault) :
    Except StepFault Outcome :=
  match answer with
  | .raised f => .error (.value f)
  | .text s => .ok (.rendered (some s) reported)
  | .nothing => .ok (.rendered none reported)

namespace Session

/-- The beginning of a session. -/
def start (config : Config) (sink : Sink) (futures : Futures) (names : List (String × FutureId))
    (store : Store) : Session :=
  ⟨config, ⟨config.delimiters, false⟩, none, [], 0, sink, futures, names, store⟩

/-- The interpolator, which is made if there is none; that freezes the markers. -/
def interpolator (s : Session) : Interpolator × Session :=
  match s.made with
  | some i => (i, s)
  | none =>
    let i := s.config.interpolatorWith s.delimiters.delimiters
    (i, { s with made := some i, delimiters := s.delimiters.freeze })

/-- The template of a name. -/
def find (s : Session) (id : String) : Except StepFault Compiled :=
  match s.templates.lookup id with
  | some (some c) => .ok c
  | _ => .error (.noTemplate id)

/-- The session with an interpolator that was changed. -/
def put (s : Session) (i : Interpolator) : Session := { s with made := some i }

/-- Compiles a text under a name. A text without a template leaves the name as it was if it is at
fault, and takes the template away from the name if it is of no use. -/
def compile (s : Session) (id : String) (request : CompileRequest) :
    Except StepFault Outcome × Session × List Record :=
  let (i, s) := s.interpolator
  let (result, i, records) := i.compile request
  let s := s.put i
  match result with
  | .error f => (.error (.compile f), s, records)
  | .ok none => (.ok (.template none), { s with templates := (id, none) :: s.templates }, records)
  | .ok (some t) =>
    (.ok (.template (some t)),
      { s with templates := (id, some ⟨s.count, t⟩) :: s.templates, count := s.count + 1 }, records)

/-- Renders a template; every template of the session uses the resources that are allowed now. -/
def render (s : Session) (id : String) (context : Datum) :
    Except StepFault Outcome × Session × List Record :=
  match s.find id with
  | .error f => (.error f, s, [])
  | .ok c =>
    let policy := s.interpolator.1.policy
    let before := s.sink.faults.length
    let (answer, sink, after) := c.template.renderTo s.sink ⟨policy, s.futures⟩ context s.store
    (answer.outcome (sink.faults.drop before), { s with sink := sink, store := after.store },
      after.records)

/-- Whether two templates are the same one, or have no expressions and are alike. -/
def equal (c d : Compiled) : Bool := c.serial == d.serial || c.template.sameText d.template

/-- The final state that a datum describes, with the store that holds the parts of its value. -/
def loaded (store : Store) : Progress Datum → Progress Value × Store
  | .done d =>
    let (v, store) := d.load store
    (.done v, store)
  | .failed label text => (.failed label text, store)
  | .cancelled => (.cancelled, store)
  | .dropped => (.dropped, store)
  | .pending => (.pending, store)
  | .running => (.running, store)

/-- Gives a future its final state. A cancellation of a future that has one does nothing. -/
def settle (s : Session) (name : String) (p : Progress Datum) :
    Except StepFault Outcome × Session :=
  match s.names.lookup name with
  | none => (.error .settled, s)
  | some id =>
    let (progress, store) := loaded s.store p
    match ((s.futures.now s.store).get? id).bind (·.settle progress), p with
    | some f, _ =>
      let store := store.forgetChanges id.place
      (.ok .nothing, { s with futures := s.futures.set id f, store := store })
    | none, .cancelled => (.ok .nothing, s)
    | none, _ => (.error .settled, s)

/-- Whether a datum counts as true. -/
def truthOf (s : Session) (d : Datum) : Except Fault Bool :=
  let (v, store) := d.load s.store
  v.truth.run store

/-- A step that tells nothing. -/
def quiet (s : Session) : Step → Except StepFault Outcome × Session
  | .getMarker name => (.ok (.text (s.delimiters.get name)), s)
  | .setMarker name value =>
    let (result, delimiters) := s.delimiters.set name value
    ((result.mapError .frozen).map .text, { s with delimiters := delimiters })
  | .freeze => (.ok .nothing, { s with delimiters := s.delimiters.freeze })
  | .isFrozen => (.ok (.flag s.delimiters.frozen), s)
  | .markers =>
    let (i, s) := s.interpolator
    (.ok (.texts (MarkerName.all.map fun n => (i.delimiters.get n).text)), s)
  | .showTemplate id => ((s.find id).map fun c => .text c.template.shown, s)
  | .compare id other =>
    let result := do
      let c ← s.find id
      let d ← s.find other
      return Outcome.flag (equal c d)
    (result, s)
  | .expressions id => ((s.find id).map fun c => .texts c.template.expressions, s)
  | .faults => (.ok (.reports (s.sink.faults.map (·.now s.store))), s)
  | .clear => (.ok .nothing, { s with sink := s.sink.clear })
  | .getDefault name =>
    let (i, s) := s.interpolator
    (.ok (.flag (match name with
      | .resolving => i.engine.resolving
      | .logging => i.engine.logging)), s)
  | .setDefault name value =>
    let (i, s) := s.interpolator
    match s.truthOf value with
    | .error f => (.error (.value f), s)
    | .ok b =>
      let engine := match name with
        | .resolving => i.engine.setResolving b
        | .logging => i.engine.setLogging b
      (.ok .nothing, s.put { i with engine := engine })
  | .sameEnvironment first second =>
    let (i, s) := s.interpolator
    let (place, engine) := i.engine.environment first.1 first.2
    let (other, engine) := engine.environment second.1 second.2
    (.ok (.flag (place == other)), s.put { i with engine := engine })
  | .allow entry =>
    let (i, s) := s.interpolator
    (.ok .nothing, s.put { i with policy := i.policy.allow entry })
  | .makeFuture name runner =>
    let (id, futures) := s.futures.add runner ⟨.pending⟩
    (.ok .nothing, { s with futures := futures, names := (name, id) :: s.names })
  | .settle name progress => s.settle name progress
  | .compile .. | .render .. => (.ok .nothing, s)

/-- The outcome of a step, the session after it, and the records it told. -/
def step (s : Session) (step : Step) : Except StepFault Outcome × Session × List Record :=
  match step with
  | .compile id request => s.compile id request
  | .render id context => s.render id context
  | step =>
    let (result, s) := s.quiet step
    (result, s, [])

end Session

end Interpolation
