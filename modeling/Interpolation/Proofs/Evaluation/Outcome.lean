import Interpolation.Proofs.Render.Stages

/-!
# Outcomes of evaluations

An evaluation is a state transformer with an early exit, like a gate.  `Eval.outcome` runs one on a
memory, and the equations here say how outcomes are put together and how a gate runs an evaluation,
so that no later proof has to open the monad.

An outcome is told for one memory, with the trace that has been left so far.  No evaluation looks at
its trace: it ends in the same way whatever stands there, and puts something behind it.
`Eval.Ends x s r s' told` says how `x` ends on a store, and what it puts behind any trace.  Evaluations
that end one after the other end together, which is all that is needed to follow an evaluation step
by step.

* `Eval.Ends.bind`, `Eval.Ends.bind_error` — steps one after the other.
* `Eval.Ends.unique` — an evaluation ends in one way only.
-/

namespace Interpolation

namespace Eval

variable {α β : Type}

/-- The result of an evaluation with a memory, and the memory as it is left behind. -/
def outcome (x : Eval α) (m : Memory) : Except Fault α × Memory := (x.run m).run

lemma outcome_pure (a : α) (m : Memory) : (pure a : Eval α).outcome m = (.ok a, m) := rfl

lemma outcome_throw (f : Fault) (m : Memory) : (throw f : Eval α).outcome m = (.error f, m) := rfl

/-- The second evaluation begins where the first one ended, unless that one failed. -/
lemma outcome_bind (x : Eval α) (f : α → Eval β) (m : Memory) :
    (x >>= f).outcome m =
      match x.outcome m with
      | (.ok a, m') => (f a).outcome m'
      | (.error e, m') => (.error e, m') := by
  show (ExceptT.bindCont f (x m).1 (x m).2 : Except Fault β × Memory) = _
  unfold outcome ExceptT.run
  rcases h : x m with ⟨r, m'⟩
  cases r <;> rfl

lemma outcome_bind_ok {x : Eval α} {f : α → Eval β} {m m' : Memory} {a : α}
    (h : x.outcome m = (.ok a, m')) : (x >>= f).outcome m = (f a).outcome m' := by
  rw [outcome_bind, h]

lemma outcome_bind_error {x : Eval α} {f : α → Eval β} {m m' : Memory} {e : Fault}
    (h : x.outcome m = (.error e, m')) : (x >>= f).outcome m = (.error e, m') := by
  rw [outcome_bind, h]

lemma outcome_map (f : α → β) (x : Eval α) (m : Memory) :
    (f <$> x).outcome m = ((x.outcome m).1.map f, (x.outcome m).2) := by
  rw [map_eq_pure_bind, outcome_bind]
  rcases x.outcome m with ⟨_ | _, _⟩ <;> rfl

/-- What only looks at the store leaves the memory as it is. -/
lemma outcome_look (x : Look α) (m : Memory) :
    outcome (liftM x) m = (x m.store, m) := rfl

/-- What needs no store leaves the memory as it is. -/
lemma outcome_except (x : Except Fault α) (m : Memory) :
    outcome (liftM x : Eval α) m = (x, m) := by
  cases x <;> rfl

/-- What adds cells changes nothing but the store, and never fails. -/
lemma outcome_build (x : Building α) (m : Memory) :
    outcome (liftM x : Eval α) m = (.ok (x m.store).1, ⟨(x m.store).2, m.trace⟩) := rfl

/-- Another evaluation begins where one failed. -/
lemma outcome_orElse (x : Eval α) (f : Fault → Eval α) (m : Memory) :
    (orElse x f).outcome m =
      match x.outcome m with
      | (.ok a, m') => (.ok a, m')
      | (.error e, m') => (f e).outcome m' := by
  show ((orElse x f m : Id (Except Fault α × Memory))) = _
  unfold orElse outcome ExceptT.run
  rcases h : x m with ⟨_ | _, m'⟩ <;> rfl

/-- A run on a store ends as an evaluation with an empty trace does. -/
lemma runOn_fst (x : Eval α) (store : Store) :
    (x.runOn store).1 = (x.outcome ⟨store, []⟩).1 := rfl

end Eval

/-- A gate runs an evaluation on its store and tells of the futures that were met. -/
lemma Gate.outcome_ofEval {α : Type} (logging : Bool) (x : Eval α) (w : Work) :
    (ofEval logging x).outcome w =
      ((x.outcome ⟨w.store, []⟩).1.mapError .fault,
        ⟨(x.outcome ⟨w.store, []⟩).2.store,
          w.records ++ if logging then warnings (x.outcome ⟨w.store, []⟩).2.trace else []⟩) := rfl

/-- Nothing is told of an evaluation that does nothing. -/
lemma Gate.ofEval_pure {α : Type} (logging : Bool) (a : α) :
    ofEval logging (pure a : Eval α) = pure a := by
  funext w
  show ((.ok a, ⟨w.store, w.records ++ if logging then [] else []⟩) :
    Except RenderFault α × Work) = (.ok a, w)
  rw [ite_self, List.append_nil]

/-! ## How evaluations end -/

namespace Eval

variable {α β : Type} {s s' s'' : Store} {told told' : Trace}

/-- The evaluation ends on a store with a result, leaves another store, and tells of some lookups
that met a future, whatever was told before. -/
def Ends (x : Eval α) (s : Store) (r : Except Fault α) (s' : Store) (told : Trace) : Prop :=
  ∀ trace, x.outcome ⟨s, trace⟩ = (r, ⟨s', trace ++ told⟩)

namespace Ends

/-- What leaves the memory as it is. -/
lemma of_outcome {x : Eval α} {r : Except Fault α} (h : ∀ trace, x.outcome ⟨s, trace⟩ =
    (r, ⟨s, trace⟩)) : x.Ends s r s [] := by
  intro trace
  rw [h, List.append_nil]

protected lemma pure (a : α) (s : Store) : (pure a : Eval α).Ends s (.ok a) s [] :=
  .of_outcome fun _ => outcome_pure a _

protected lemma throw (f : Fault) (s : Store) : (throw f : Eval α).Ends s (.error f) s [] :=
  .of_outcome fun _ => outcome_throw f _

/-- A look at the store answers what it finds there. -/
protected lemma look (x : Look α) (s : Store) : (liftM x : Eval α).Ends s (x.run s) s [] :=
  .of_outcome fun _ => outcome_look x _

protected lemma except (x : Except Fault α) (s : Store) : (liftM x : Eval α).Ends s x s [] :=
  .of_outcome fun _ => outcome_except x _

/-- New cells are left behind in the store. -/
protected lemma build (x : Building α) (s : Store) :
    (liftM x : Eval α).Ends s (.ok (x.run s).1) (x.run s).2 [] := by
  intro trace
  rw [outcome_build, List.append_nil]
  rfl

/-- The same, for a computation of which the run is known. -/
lemma of_run {x : Building α} {a : α} (h : x.run s = (a, s')) :
    (liftM x : Eval α).Ends s (.ok a) s' [] := by
  have hx := Ends.build x s
  rwa [h] at hx

protected lemma record (lookup : Wording) (s : Store) :
    (Eval.record lookup).Ends s (.ok ()) s [lookup] := fun _ => rfl

/-- One evaluation after the other. -/
protected lemma bind {x : Eval α} {f : α → Eval β} {a : α} {r : Except Fault β}
    (hx : x.Ends s (.ok a) s' told) (hf : (f a).Ends s' r s'' told') :
    (x >>= f).Ends s r s'' (told ++ told') := by
  intro trace
  rw [outcome_bind_ok (hx trace), hf, List.append_assoc]

/-- Nothing follows a fault. -/
protected lemma bind_error {x : Eval α} {f : α → Eval β} {e : Fault}
    (hx : x.Ends s (.error e) s' told) : (x >>= f).Ends s (.error e) s' told :=
  fun trace => outcome_bind_error (hx trace)

/-- An evaluation that tells nothing, and another one. -/
protected lemma andThen {x : Eval α} {f : α → Eval β} {a : α} {r : Except Fault β}
    (hx : x.Ends s (.ok a) s' []) (hf : (f a).Ends s' r s'' told) :
    (x >>= f).Ends s r s'' told := hx.bind hf

/-- A result is not in need of anything else. -/
protected lemma orElse {x : Eval α} {f : Fault → Eval α} {a : α} (hx : x.Ends s (.ok a) s' told) :
    (Eval.orElse x f).Ends s (.ok a) s' told := by
  intro trace
  rw [outcome_orElse, hx]

/-- After a fault another evaluation goes on. -/
lemma orElse_error {x : Eval α} {f : Fault → Eval α} {e : Fault} {r : Except Fault α}
    (hx : x.Ends s (.error e) s' told) (hf : (f e).Ends s' r s'' told') :
    (Eval.orElse x f).Ends s r s'' (told ++ told') := by
  intro trace
  rw [outcome_orElse, hx]
  dsimp only
  rw [hf, List.append_assoc]

/-- A fault leaves a stream as it does. -/
protected lemma inStream {x : Eval α} {r : Except Fault α} (hx : x.Ends s r s' told) :
    x.inStream.Ends s (r.mapError Fault.outOfStream) s' told := by
  cases r with
  | ok a => exact hx.orElse
  | error e =>
    have h := hx.orElse_error (f := fun f => throw f.outOfStream) (.throw e.outOfStream s')
    rwa [List.append_nil] at h

/-- An evaluation ends in one way only. -/
lemma unique {x : Eval α} {r r' : Except Fault α} (h : x.Ends s r s' told)
    (h' : x.Ends s r' s'' told') : r = r' ∧ s' = s'' ∧ told = told' := by
  have hboth := (h []).symm.trans (h' [])
  simp only [List.nil_append, Prod.mk.injEq, Memory.mk.injEq] at hboth
  exact hboth

end Ends

/-- An evaluation that ends in the same way whatever was told before. -/
structure Uniform (x : Eval α) : Prop where
  /-- On each store it ends in some way. -/
  ends : ∀ s, ∃ r s' told, x.Ends s r s' told

namespace Uniform

protected lemma pure (a : α) : Uniform (pure a) := ⟨fun s => ⟨_, _, _, .pure a s⟩⟩

protected lemma bind {x : Eval α} {f : α → Eval β} (hx : x.Uniform) (hf : ∀ a, (f a).Uniform) :
    (x >>= f).Uniform := by
  constructor
  intro s
  obtain ⟨r, s', told, hends⟩ := hx.ends s
  cases r with
  | error e => exact ⟨_, _, _, hends.bind_error⟩
  | ok a =>
    obtain ⟨r', s'', more, hfa⟩ := (hf a).ends s'
    exact ⟨r', s'', told ++ more, hends.bind hfa⟩

end Uniform

end Eval

end Interpolation
