import Interpolation.Eval.Environment
import Interpolation.Eval.Evaluate

/-!
# The names of a context

A context is a mapping, or whatever a mapping can be made from; its keys are the names of an
expression. The values of a written mapping come into the store one by one, when an expression first
uses their names: a name that no expression uses leaves no trace at all. Any other context is in the
store as a whole, and is looked at anew for every expression.

Main definitions:

* `Context`, `Context.ofDatum`: a context.
* `Context.found`: the names of a context with what they stand for.
* `Context.bind`: gives the names of an expression their values.
-/

namespace Interpolation

/-- Where an expression finds its names. -/
inductive Context where
  /-- Names with what they stand for. -/
  | mapping (names : List (String × Datum))
  /-- A value from which a mapping can be made. -/
  | value (v : Value)

/-- Named data with one more, in the place of the one of its name if there is one. -/
def putDatum (n : String) (d : Datum) : List (String × Datum) → List (String × Datum)
  | [] => [(n, d)]
  | (m, e) :: names => if m = n then (m, d) :: names else (m, e) :: putDatum n d names

namespace Context

/-- The context without names. -/
def empty : Context := .mapping []

/-- Entries as names, if all keys are texts; of two equal names the later one counts. -/
def namesOf? (entries : List (Datum × Datum)) : Option (List (String × Datum)) := do
  let named ← entries.mapM fun (k, d) => k.text?.map fun n => (n, d)
  return named.foldl (fun names (n, d) => putDatum n d names) []

/-- A context that is not a mapping of names yet. -/
def loaded (d : Datum) : Building Context := do return .value (← d.load)

/-- The context of a datum. -/
def ofDatum (d : Datum) : Building Context :=
  match d with
  | .dict entries =>
    match namesOf? entries with
    | some names => return .mapping names
    | none => loaded d
  | d => loaded d

/-- Names that an expression can be evaluated with: one name is taken. -/
def requireFree (names : List (String × Datum)) : Except Fault (List (String × Datum)) :=
  if (names.lookup "self").isSome then .error (.arity (.twice "TemplateExpression.__call__" "self"))
  else .ok names

/-- The names of a context; what does not count as true has none. -/
def found (s : Setting) : Context → Eval (List (String × Datum))
  | .mapping names => requireFree names
  | .value v => do
    let entries ← if ← (v.truth : Look Bool) then s.entriesOf v else pure []
    requireFree ((← namedEntries entries).map fun (n, v) => (n, .held v))

/-- Gives a name its value, unless it has one. -/
def bindName (n : String) (d : Datum) : Building Unit := do
  if ((← get).bound.lookup n).isNone then
    let v ← d.load
    modify fun s => { s with bound := s.bound ++ [(n, v)] }

/-- Forgets the values of names. -/
def forget : Building Unit := modify fun s => { s with bound := [] }

/-- Gives the names that are wanted their values. A context in the store is looked at anew. -/
def bind (s : Setting) (c : Context) (wanted : List String) : Eval Unit := do
  let names ← c.found s
  if let .value _ := c then (forget : Building Unit)
  (wanted.forM fun n =>
    match names.lookup n with
    | some d => bindName n d
    | none => return () : Building Unit)

end Context

end Interpolation
