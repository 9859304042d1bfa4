import Mathlib.Tactic.Lemma
import Interpolation.Template.Render

/-!
# The stages of a segment

A gate is a state transformer with an early exit.  `Gate.outcome` runs one, and a few equations say
how outcomes are put together, so that no later proof has to open the monad.

An expression passes through four stages before it is text, and each of them may end it: its names
get their values from the context, it is evaluated, its value is approved or loses its approval, and
what is left is written as text.  `Segment.Gives` lists these ends one by one, and
**`Segment.gives_iff`** says that the list is complete and has nothing that does not happen.
-/

namespace Interpolation

open Trust

/-! ## Outcomes of gates -/

namespace Gate

variable {α β : Type}

/-- The result of a gate on some work, and the work as it is left behind. -/
def outcome (x : Gate α) (w : Work) : Except RenderFault α × Work := (x.run w).run

lemma outcome_pure (a : α) (w : Work) : (pure a : Gate α).outcome w = (.ok a, w) := rfl

/-- The second gate begins where the first one ended, unless that one failed. -/
lemma outcome_bind (x : Gate α) (f : α → Gate β) (w : Work) :
    (x >>= f).outcome w =
      match x.outcome w with
      | (.ok a, w') => (f a).outcome w'
      | (.error e, w') => (.error e, w') := by
  show (ExceptT.bindCont f (x w).1 (x w).2 : Except RenderFault β × Work) = _
  unfold outcome ExceptT.run
  rcases h : x w with ⟨r, w'⟩
  cases r <;> rfl

lemma outcome_bind_ok {x : Gate α} {f : α → Gate β} {w w' : Work} {a : α}
    (h : x.outcome w = (.ok a, w')) : (x >>= f).outcome w = (f a).outcome w' := by
  rw [outcome_bind, h]

lemma outcome_bind_error {x : Gate α} {f : α → Gate β} {w w' : Work} {e : RenderFault}
    (h : x.outcome w = (.error e, w')) : (x >>= f).outcome w = (.error e, w') := by
  rw [outcome_bind, h]

end Gate

namespace Work

/-- The work at the beginning of an expression: nothing is changed yet. -/
def fresh (w : Work) : Work := { w with store := w.store.fresh }

/-- The work behind an expression: of what was done since `begun`, the store keeps only the changes
to cells that were there already. -/
def settled (w begun done : Work) : Work :=
  { done with store := w.store.settled begun.store.cells.size done.store }

end Work

namespace Gate

variable {α : Type} {begin : Gate Unit} {x : Gate α} {w begun : Work}

lemma outcome_settled_error {f : RenderFault} (h : begin.outcome w.fresh = (.error f, begun)) :
    (settled begin x).outcome w = (.error f, { begun with store := w.store }) := by
  have hrun : (begin.run { w with store := w.store.fresh }).run = (.error f, begun) := h
  show (settled begin x : Work → _) w = _
  rw [settled, hrun]

lemma outcome_settled_ok (h : begin.outcome w.fresh = (.ok (), begun)) :
    (settled begin x).outcome w =
      ((x.outcome begun).1, w.settled begun (x.outcome begun).2) := by
  have hrun : (begin.run { w with store := w.store.fresh }).run = (.ok (), begun) := h
  show (settled begin x : Work → _) w = _
  rw [settled, hrun]
  rfl

end Gate

/-! ## Stages -/

/-- The value as it may be used: approved for the place that the output is destined for, or without
its approval where there is no such place. -/
def Surroundings.gated (s : Surroundings) (trusted : Option Category) (e : Environment)
    (v : Value) : Gate Value :=
  match trusted with
  | some c => s.policy.getTrusted e s.futures c v
  | none => Gate.look v.unwrapped

/-- A value is written once it has passed the gate. -/
lemma Surroundings.write_eq (s : Surroundings) (trusted : Option Category) (e : Environment)
    (v : Value) : s.write trusted e v = s.gated trusted e v >>= Gate.write e s.futures := by
  cases trusted <;> rfl

namespace Segment

section Stages

variable (s : Surroundings) (trusted : Option Category) (context : Context)

/-- How a segment ends: a literal with its text, and an expression with the fault of the first of
its stages that has one, or with its text if none has. -/
inductive Gives : Segment → Work → Except RenderFault String → Work → Prop
  | literal (text : String) (w : Work) : Gives (.literal text) w (.ok text) w
  /-- The context has no values for the names of the expression. -/
  | context {e deferred w f begun}
    (h : (e.bind s.futures context).outcome w.fresh = (.error f, begun)) :
    Gives (.expression e deferred) w (.error f) { begun with store := w.store }
  /-- The expression has no value. -/
  | evaluation {e deferred w begun f done}
    (hbind : (e.bind s.futures context).outcome w.fresh = (.ok (), begun))
    (h : (e.value s.futures).outcome begun = (.error f, done)) :
    Gives (.expression e deferred) w (.error f) (w.settled begun done)
  /-- The value may not be used. -/
  | gate {e deferred w begun v valued f done}
    (hbind : (e.bind s.futures context).outcome w.fresh = (.ok (), begun))
    (hvalue : (e.value s.futures).outcome begun = (.ok v, valued))
    (h : (s.gated trusted e.environment v).outcome valued = (.error f, done)) :
    Gives (.expression e deferred) w (.error f) (w.settled begun done)
  /-- The value is no text and cannot be written as one, or is written as one. -/
  | coercion {e deferred w begun v valued u gated r done}
    (hbind : (e.bind s.futures context).outcome w.fresh = (.ok (), begun))
    (hvalue : (e.value s.futures).outcome begun = (.ok v, valued))
    (hgate : (s.gated trusted e.environment v).outcome valued = (.ok u, gated))
    (h : (Gate.write e.environment s.futures u).outcome gated = (r, done)) :
    Gives (.expression e deferred) w r (w.settled begun done)

end Stages

variable {s : Surroundings} {trusted : Option Category} {context : Context}

/-- An expression whose names have their values goes through the other stages one by one. -/
lemma outcome_render_expression {e : Expression} {deferred : Bool} {w begun : Work}
    (hbind : (e.bind s.futures context).outcome w.fresh = (.ok (), begun)) :
    ((expression e deferred).render s trusted context).outcome w =
      let r := (e.value s.futures >>= fun v =>
        s.gated trusted e.environment v >>= Gate.write e.environment s.futures).outcome begun
      (r.1, w.settled begun r.2) := by
  simp only [render, Surroundings.write_eq]
  exact Gate.outcome_settled_ok hbind

/-- **Segments end as listed.**  Rendering a segment gives a result exactly when one of the listed
ends does. -/
theorem gives_iff {segment : Segment} {w w' : Work} {r : Except RenderFault String} :
    Gives s trusted context segment w r w' ↔
      (segment.render s trusted context).outcome w = (r, w') := by
  constructor
  · intro h
    cases h with
    | literal text => rfl
    | context h => exact Gate.outcome_settled_error h
    | evaluation hbind h =>
      rw [outcome_render_expression hbind, Gate.outcome_bind_error h]
    | gate hbind hvalue h =>
      rw [outcome_render_expression hbind, Gate.outcome_bind_ok hvalue, Gate.outcome_bind_error h]
    | coercion hbind hvalue hgate h =>
      rw [outcome_render_expression hbind, Gate.outcome_bind_ok hvalue, Gate.outcome_bind_ok hgate,
        h]
  · intro h
    cases segment with
    | literal text =>
      cases h
      exact .literal text w
    | expression e deferred =>
      rcases hbind : (e.bind s.futures context).outcome w.fresh with ⟨_ | _, begun⟩
      · cases (Gate.outcome_settled_error hbind).symm.trans h
        exact .context hbind
      rw [outcome_render_expression hbind] at h
      rcases hvalue : (e.value s.futures).outcome begun with ⟨_ | v, valued⟩
      · rw [Gate.outcome_bind_error hvalue] at h
        cases h
        exact .evaluation hbind hvalue
      rw [Gate.outcome_bind_ok hvalue] at h
      rcases hgate : (s.gated trusted e.environment v).outcome valued with ⟨_ | u, gated⟩
      · rw [Gate.outcome_bind_error hgate] at h
        cases h
        exact .gate hbind hvalue hgate
      rw [Gate.outcome_bind_ok hgate] at h
      cases h
      exact .coercion hbind hvalue hgate rfl

end Segment

end Interpolation
