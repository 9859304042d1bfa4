import Interpolation.Proofs.Evaluation.Outcome

/-!
# How gates end

A gate does not look at the records that were told before, as an evaluation does not look at its
trace.  `Gate.Ends x s r s' told` says how `x` ends on a store, and which records it puts behind any
others.

Gates are put together from such parts, and each of them ends in one way or another, so
`Gate.Uniform` is all that has to be carried through where it does not matter in which.

* `Gate.Ends.bind`, `Gate.Ends.settled` — steps one after the other.
* `Gate.Uniform` — a gate whose end does not depend on what was told before.
-/

namespace Interpolation

namespace Gate

variable {α β : Type} {s s' s'' : Store} {told told' : List Record}

/-- The gate ends on a store with a result, leaves another store, and tells some records, whatever
was told before. -/
def Ends (x : Gate α) (s : Store) (r : Except RenderFault α) (s' : Store) (told : List Record) :
    Prop :=
  ∀ records, x.outcome ⟨s, records⟩ = (r, ⟨s', records ++ told⟩)

namespace Ends

/-- What tells nothing. -/
lemma of_outcome {x : Gate α} {r : Except RenderFault α}
    (h : ∀ records, x.outcome ⟨s, records⟩ = (r, ⟨s', records⟩)) : x.Ends s r s' [] := by
  intro records
  rw [h, List.append_nil]

protected lemma pure (a : α) (s : Store) : (pure a : Gate α).Ends s (.ok a) s [] :=
  .of_outcome fun _ => rfl

protected lemma throw (f : RenderFault) (s : Store) : (throw f : Gate α).Ends s (.error f) s [] :=
  .of_outcome fun _ => rfl

protected lemma look (x : Look α) (s : Store) :
    (look x).Ends s ((x.run s).mapError .fault) s [] := .of_outcome fun _ => rfl

protected lemma tell (r : Record) (s : Store) : (tell r).Ends s (.ok ()) s [r] := fun _ => rfl

/-- One gate after the other. -/
protected lemma bind {x : Gate α} {f : α → Gate β} {a : α} {r : Except RenderFault β}
    (hx : x.Ends s (.ok a) s' told) (hf : (f a).Ends s' r s'' told') :
    (x >>= f).Ends s r s'' (told ++ told') := by
  intro records
  rw [outcome_bind_ok (hx records), hf, List.append_assoc]

protected lemma bind_error {x : Gate α} {f : α → Gate β} {e : RenderFault}
    (hx : x.Ends s (.error e) s' told) : (x >>= f).Ends s (.error e) s' told :=
  fun records => outcome_bind_error (hx records)

/-- Of what was done once some work had begun, the changes stay. -/
protected lemma settled {begin : Gate Unit} {x : Gate α} {r : Except RenderFault α}
    (hbegin : begin.Ends s.fresh (.ok ()) s' told) (hx : x.Ends s' r s'' told') :
    (settled begin x).Ends s r (s.settled s'.cells.size s'') (told ++ told') := by
  intro records
  rw [outcome_settled_ok (w := ⟨s, records⟩) (hbegin records), hx, List.append_assoc]
  rfl

/-- If the work does not begin, nothing stays. -/
protected lemma settled_error {begin : Gate Unit} {x : Gate α} {e : RenderFault}
    (hbegin : begin.Ends s.fresh (.error e) s' told) : (settled begin x).Ends s (.error e) s told :=
  fun records => outcome_settled_error (w := ⟨s, records⟩) (hbegin records)

end Ends

end Gate

/-- An evaluation ends inside of a gate as it does by itself, and its lookups may be told. -/
protected lemma Eval.Ends.ofEval {α : Type} {x : Eval α} {s s' : Store} {r : Except Fault α}
    {met : Trace} (h : x.Ends s r s' met) (logging : Bool) :
    (Gate.ofEval logging x).Ends s (r.mapError .fault) s'
      (if logging then Gate.warnings met else []) := by
  intro records
  rw [Gate.outcome_ofEval, h []]
  rfl

namespace Gate

/-- A gate that does what an evaluation does, and tells of its lookups if that is wanted. -/
structure Runs {α : Type} (logging : Bool) (x : Eval α) (g : Gate α) : Prop where
  /-- It ends as the evaluation does. -/
  ends : ∀ {s r s' met}, x.Ends s r s' met →
    g.Ends s (r.mapError .fault) s' (if logging then warnings met else [])

namespace Runs

variable {α β : Type} {logging : Bool}

protected lemma ofEval (x : Eval α) : Runs logging x (ofEval logging x) :=
  ⟨fun h => h.ofEval logging⟩

protected lemma pure (a : α) : Runs logging (pure a) (pure a) := by
  rw [← ofEval_pure logging]
  exact .ofEval _

/-- One evaluation after the other. -/
protected lemma bind {x : Eval α} {f : α → Eval β} {g : Gate α} {k : α → Gate β}
    (hg : Runs logging x g) (hk : ∀ a, Runs logging (f a) (k a)) (hx : x.Uniform)
    (hf : ∀ a, (f a).Uniform) : Runs logging (x >>= f) (g >>= k) := by
  constructor
  intro s r s' met hends
  obtain ⟨t, s₁, met₁, hx₁⟩ := hx.ends s
  cases t with
  | error e =>
    obtain ⟨rfl, rfl, rfl⟩ := hends.unique hx₁.bind_error
    exact (hg.ends hx₁).bind_error
  | ok a =>
    obtain ⟨t, s₂, met₂, hf₂⟩ := (hf a).ends s₁
    obtain ⟨rfl, rfl, rfl⟩ := hends.unique (hx₁.bind hf₂)
    have hboth := (hg.ends hx₁).bind ((hk a).ends hf₂)
    cases logging with
    | false => exact hboth
    | true => rwa [show warnings (met₁ ++ met₂) = _ from List.filterMap_append]

end Runs

end Gate

/-! ## Gates that end in any case -/

namespace Gate

variable {α β : Type}

/-- A gate whose end does not depend on what was told before. -/
structure Uniform (x : Gate α) : Prop where
  /-- On each store it ends in some way. -/
  ends : ∀ s, ∃ r s' told, x.Ends s r s' told

namespace Uniform

protected lemma pure (a : α) : Uniform (pure a) := ⟨fun s => ⟨_, _, _, .pure a s⟩⟩

protected lemma look (x : Look α) : Uniform (look x) := ⟨fun s => ⟨_, _, _, .look x s⟩⟩

/-- A gate runs an evaluation without anything having been told. -/
protected lemma ofEval (logging : Bool) (x : Eval α) : Uniform (ofEval logging x) := by
  constructor
  intro s
  exact ⟨(x.outcome ⟨s, []⟩).1.mapError .fault, (x.outcome ⟨s, []⟩).2.store,
    if logging then warnings (x.outcome ⟨s, []⟩).2.trace else [],
    fun records => outcome_ofEval logging x ⟨s, records⟩⟩

protected lemma bind {x : Gate α} {f : α → Gate β} (hx : x.Uniform) (hf : ∀ a, (f a).Uniform) :
    (x >>= f).Uniform := by
  constructor
  intro s
  obtain ⟨r, s', told, hends⟩ := hx.ends s
  cases r with
  | error e => exact ⟨_, _, _, hends.bind_error⟩
  | ok a =>
    obtain ⟨r', s'', more, hfa⟩ := (hf a).ends s'
    exact ⟨r', s'', told ++ more, hends.bind hfa⟩

protected lemma settled {begin : Gate Unit} {x : Gate α} (hbegin : begin.Uniform)
    (hx : x.Uniform) : (settled begin x).Uniform := by
  constructor
  intro s
  obtain ⟨r, s', told, hends⟩ := hbegin.ends s.fresh
  cases r with
  | error e => exact ⟨_, _, _, hends.settled_error⟩
  | ok =>
    obtain ⟨r', s'', more, hxs⟩ := hx.ends s'
    exact ⟨r', _, told ++ more, hends.settled hxs⟩

end Uniform

end Gate

end Interpolation
