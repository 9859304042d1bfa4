import Interpolation.Expr.Constant
import Interpolation.Proofs.Futures.Evaluation

/-!
# Constant parts are computed alike

The constant parts of an expression are computed when the expression is compiled, by the same
lookups, filters and tests as later.  There are no futures yet, so it makes no difference whether
these lookups would resolve them: an expression amounts to the same constant, or to none, in all
environments that treat missing values alike.

* `Setting.Alike.constantly` — constant parts have the same values in settings that are alike.
* `Expr.constant?_congr` — the constant of an expression does not depend on what lookups do with
  futures.
-/

namespace Interpolation

variable {R : Region}

namespace Eval

variable {α β : Type} [HoldsValues α] [HoldsValues β]

/-- A computation of which a fault means that there is no constant. -/
lemma Agree.perhaps {x y : Eval (Option α)} (h : Eval.Agree R x y) :
    Eval.Agree R (Eval.perhaps x) (Eval.perhaps y) :=
  h.orElse (fun _ => .pure trivial) False.elim

/-- What is there after a computation that agrees. -/
lemma Agree.some {x y : Eval α} (h : Eval.Agree R x y) :
    Eval.Agree R (do return Option.some (← x)) (do return Option.some (← y)) :=
  h.bind fun _ ha => .pure ha

end Eval

namespace Setting.Alike

variable {s t : Setting} {v : Value}

lemma mergeConstants (h : s.Alike R t) {named : List (String × Value)} (hnamed : FreeIn R named)
    (hv : FreeIn R v) :
    Eval.Agree R (s.mergeConstants named v) (t.mergeConstants named v) := by
  refine (h.addEntriesOf freeIn_nil hv).bind fun entries hentries => ?_
  refine .bind (.except (freeIn_namedEntries hentries)) fun found hfound => ?_
  exact .pure (freeIn_putAll hfound hnamed)

mutual

/-- **The constant parts** of an expression have the same values in settings that are alike. -/
theorem constantly (h : s.Alike R t) :
    ∀ {e : Expr}, FreeIn R e → Eval.Agree R (s.constantly e) (t.constantly e)
  | .literal d, .literal hd => .some (.build (Datum.safe_load (d := d) hd))
  | .name _, _ => .pure trivial
  | .alias _ _, _ => .pure trivial
  | .call _ _, _ => .pure trivial
  | .list items, .list hitems => by
    refine (h.constants hitems).bind fun found hfound => ?_
    cases found with
    | none => exact .pure trivial
    | some vs => exact .some (Eval.safe_list hfound)
  | .tuple items, .tuple hitems => by
    refine (h.constants hitems).bind fun found hfound => ?_
    cases found with
    | none => exact .pure trivial
    | some vs => exact .some (Eval.safe_tuple hfound)
  | .dict entries, .dict hkeys hentries => by
    refine (h.constantEntries freeIn_nil hkeys hentries).bind fun found hfound => ?_
    cases found with
    | none => exact .pure trivial
    | some vs => exact .some (.build (Building.safe_dict hfound))
  | .attribute e n, .attribute he _ => by
    refine .perhaps ((h.constantly he).bind fun found hfound => ?_)
    cases found with
    | none => exact .pure trivial
    | some v => exact .some (h.attributeOf hfound n)
  | .item e key, .item he hkey => by
    refine .perhaps ((h.constantly he).bind fun found hfound => ?_)
    refine (h.constantly hkey).bind fun k hk => ?_
    split
    · exact .some (h.itemOf hfound hk)
    · exact .pure trivial
  | .slice e start stop step, .slice he hstart hstop hstep => by
    refine .perhaps ((h.constantly he).bind fun found hfound => ?_)
    refine (h.constantly hstart).bind fun a ha => (h.constantly hstop).bind fun b hb => ?_
    refine (h.constantly hstep).bind fun c hc => ?_
    split
    · refine .bind (.build (Building.safe_slice ha hb hc)) fun key hkey => ?_
      exact .some (h.itemOf hfound hkey)
    · exact .pure trivial
  | .sliceKey start stop step, .sliceKey hstart hstop hstep => by
    refine (h.constantly hstart).bind fun a ha => (h.constantly hstop).bind fun b hb => ?_
    refine (h.constantly hstep).bind fun c hc => ?_
    split
    · exact .some (.build (Building.safe_slice ha hb hc))
    · exact .pure trivial
  | .filter _ e n arguments, .filter _ he _ harguments => by
    unfold Setting.constantly
    split
    · exact .pure trivial
    · next f _ =>
      refine .ite (.pure trivial) (.perhaps ?_)
      refine (h.constantArguments ⟨freeIn_nil, freeIn_nil⟩ harguments).bind fun a ha => ?_
      refine (h.constantly he).bind fun v hv => ?_
      split
      · exact .some (h.filter f hv ha)
      · exact .pure trivial
  | .test _ e n arguments, .test _ he _ harguments => by
    unfold Setting.constantly
    split
    · exact .pure trivial
    · next name _ =>
      refine .perhaps ?_
      refine (h.constantArguments ⟨freeIn_nil, freeIn_nil⟩ harguments).bind fun a ha => ?_
      refine (h.constantly he).bind fun v hv => ?_
      split
      · exact .bind (.except (name.freeIn_bind ha)) fun _ harguments =>
          .some (h.test name _ harguments)
      · exact .pure trivial
  | .negative e, .negative he => by
    refine .perhaps ((h.constantly he).bind fun found hfound => ?_)
    cases found with
    | none => exact .pure trivial
    | some v => exact .some (.except (Value.freeIn_negate v))
  | .positive e, .positive he => by
    refine .perhaps ((h.constantly he).bind fun found hfound => ?_)
    cases found with
    | none => exact .pure trivial
    | some v => exact .some (.except (Value.freeIn_plus hfound))
  | .not e, .not he => by
    refine .perhaps ((h.constantly he).bind fun found hfound => ?_)
    cases found with
    | none => exact .pure trivial
    | some v => exact .bind (.look_of_none _) fun _ _ => .pure trivial
  | .binary op left right, .binary _ hleft hright => by
    refine .perhaps ((h.constantly hleft).bind fun a ha => (h.constantly hright).bind fun b hb => ?_)
    split
    · exact .some (h.binary op ha hb)
    · exact .pure trivial
  | .concat parts, .concat hparts => h.constantText [] hparts
  | .compare first rest, .compare hfirst hrest => by
    refine .perhaps ((h.constantly hfirst).bind fun found hfound => ?_)
    cases found with
    | none => exact .pure trivial
    | some v => exact h.constantChain v hrest
  | .and left right, .and hleft hright => by
    refine (h.constantly hleft).bind fun found hfound => ?_
    cases found with
    | none => exact .pure trivial
    | some a => exact .bind (.look_of_none _) fun _ _ => .ite (h.constantly hright) (.pure hfound)
  | .or left right, .or hleft hright => by
    refine (h.constantly hleft).bind fun found hfound => ?_
    cases found with
    | none => exact .pure trivial
    | some a => exact .bind (.look_of_none _) fun _ _ => .ite (.pure hfound) (h.constantly hright)
  | .choice condition body other, .choice hcondition hbody hother => by
    refine (h.constantly hcondition).bind fun found hfound => ?_
    cases found with
    | none => exact .pure trivial
    | some c =>
      exact .bind (.look_of_none _) fun _ _ => .ite (h.constantly hbody) (h.constantly hother)
  | .guarded _ condition body, .guarded _ hcondition hbody => by
    refine (h.constantly hcondition).bind fun found hfound => ?_
    cases found with
    | none => exact .pure trivial
    | some c => exact .bind (.look_of_none _) fun _ _ => .ite (h.constantly hbody) (.pure trivial)
termination_by structural e => e

theorem constants (h : s.Alike R t) :
    ∀ {es : List Expr}, FreeIn R es → Eval.Agree R (s.constants es) (t.constants es)
  | [], _ => .pure freeIn_nil
  | e :: es, hes => by
    obtain ⟨he, hes⟩ := freeIn_cons.1 hes
    refine (h.constantly he).bind fun found hfound => ?_
    cases found with
    | none => exact .pure trivial
    | some v =>
      refine (h.constants hes).bind fun rest hrest => .pure ?_
      exact freeIn_optionMap hrest fun vs hvs => freeIn_cons.2 ⟨hfound, hvs⟩
termination_by structural es => es

theorem constantEntries (h : s.Alike R t) : ∀ {known : List (Value × Value)}
    {entries : List (Expr × Expr)}, FreeIn R known → (∀ p ∈ entries, FreeIn R p.1) →
      (∀ p ∈ entries, FreeIn R p.2) →
        Eval.Agree R (s.constantEntries known entries) (t.constantEntries known entries)
  | known, [], hknown, _, _ => .pure hknown
  | known, (k, e) :: entries, hknown, hkeys, hentries => by
    obtain ⟨hk, hkeys⟩ := List.forall_mem_cons.1 hkeys
    obtain ⟨he, hentries⟩ := List.forall_mem_cons.1 hentries
    refine (h.constantly hk).bind fun found hkey => ?_
    cases found with
    | none => exact .pure trivial
    | some key =>
      refine (h.constantly he).bind fun found hv => ?_
      cases found with
      | none => exact .pure trivial
      | some v =>
        have hentry : FreeIn R [(key, v)] := freeIn_cons.2 ⟨⟨hkey, hv⟩, freeIn_nil⟩
        refine .bind (.look (safe_insertEntries hknown hentry)) fun known hknown => ?_
        exact h.constantEntries hknown hkeys hentries
termination_by structural _ entries => entries

theorem constantText (h : s.Alike R t) (texts : List String) : ∀ {es : List Expr},
    FreeIn R es → Eval.Agree R (s.constantText texts es) (t.constantText texts es)
  | [], _ => .pure trivial
  | e :: es, hes => by
    obtain ⟨he, hes⟩ := freeIn_cons.1 hes
    rw [Setting.constantText, Setting.constantText, h.display]
    refine (h.constantly he).bind fun found hfound => ?_
    cases found with
    | none => exact .pure trivial
    | some v => exact .bind (.look_of_none _) fun text _ => h.constantText (text :: texts) hes
termination_by structural es => es

theorem constantChain (h : s.Alike R t) (left : Value) : ∀ {rest : List (CompareOp × Expr)},
    (∀ p ∈ rest, FreeIn R p.2) →
      Eval.Agree R (s.constantChain left rest) (t.constantChain left rest)
  | [], _ => .pure trivial
  | (op, e) :: rest, hrest => by
    obtain ⟨he, hrest⟩ := List.forall_mem_cons.1 hrest
    refine (h.constantly he).bind fun found hfound => ?_
    cases found with
    | none => exact .pure trivial
    | some right =>
      refine (h.holds op left hfound).bind fun _ _ => ?_
      exact .ite (h.constantChain right hrest) (.pure trivial)
termination_by structural rest => rest

theorem constantArguments (h : s.Alike R t) : ∀ {a : Arguments} {rest : List Argument},
    FreeIn R a → FreeIn R rest →
      Eval.Agree R (s.constantArguments a rest) (t.constantArguments a rest)
  | a, [], ha, _ => .pure ha
  | a, .positional e :: rest, ha, hrest => by
    obtain ⟨hargument, hrest⟩ := freeIn_cons.1 hrest
    cases hargument with | positional he =>
    refine (h.constantly he).bind fun found hfound => ?_
    cases found with
    | none => exact .pure trivial
    | some v =>
      refine h.constantArguments ⟨freeIn_append.2 ⟨ha.1, ?_⟩, ha.2⟩ hrest
      exact freeIn_cons.2 ⟨hfound, freeIn_nil⟩
  | a, .named n e :: rest, ha, hrest => by
    obtain ⟨hargument, hrest⟩ := freeIn_cons.1 hrest
    cases hargument with | named _ he =>
    refine (h.constantly he).bind fun found hfound => ?_
    cases found with
    | none => exact .pure trivial
    | some v => exact h.constantArguments ⟨ha.1, freeIn_putNamed n hfound ha.2⟩ hrest
  | a, .spread e :: rest, ha, hrest => by
    obtain ⟨hargument, hrest⟩ := freeIn_cons.1 hrest
    cases hargument with | spread he =>
    refine (h.constantly he).bind fun found hfound => ?_
    cases found with
    | none => exact .pure trivial
    | some v =>
      refine (h.items hfound).bind fun vs hvs => ?_
      exact h.constantArguments ⟨freeIn_append.2 ⟨ha.1, hvs⟩, ha.2⟩ hrest
  | a, .spreadNamed e :: rest, ha, hrest => by
    obtain ⟨hargument, hrest⟩ := freeIn_cons.1 hrest
    cases hargument with | spreadNamed he =>
    refine (h.constantly he).bind fun found hfound => ?_
    cases found with
    | none => exact .pure trivial
    | some v =>
      refine (h.mergeConstants ha.2 hfound).bind fun named hnamed => ?_
      exact h.constantArguments ⟨ha.1, hnamed⟩ hrest
termination_by structural _ rest => rest

end

end Setting.Alike

/-! ## Constants of expressions -/

/-- The store in which only the empty tuple stands is free. -/
lemma Store.isFree_empty (h : Building.emptyRow.place ∈ R) (hbeyond : ∀ p, 1 ≤ p → p ∈ R) :
    FreeIn R Store.empty where
  beyond := hbeyond
  first := h
  cells p c _ hc := by
    have hrow : c = .row #[] := by
      cases p with
      | zero => exact (Option.some.inj hc).symm
      | succ p => cases hc
    subst hrow
    exact freeIn_nil
  bound := freeIn_nil
  constants := freeIn_nil

/-- **The constant of an expression** is the same whatever its lookups would do with futures. -/
theorem Expr.constant?_congr {environment environment' : Environment}
    (h : environment.strict = environment'.strict) {e : Expr} (he : FreeIn R e) :
    e.constant? environment = e.constant? environment' := by
  have halike := (Environment.Alike.of_strict (R := Set.univ) h).setting .empty
  have hstore : FreeIn ((Set.univ : Region) : Scope) Store.empty :=
    Store.isFree_empty (Set.mem_univ _) fun p _ => Set.mem_univ p
  have hconstant := halike.constantly (Expr.IsFree.mono (Set.subset_univ R) he)
  obtain ⟨r, s', hr, hr', -⟩ := hconstant.ends_region hstore
  unfold constant?
  extract_lets s t
  rw [Eval.runOn_fst, Eval.runOn_fst]
  cases r with
  | error f => rw [Eval.outcome_bind_error (hr []), Eval.outcome_bind_error (hr' [])]
  | ok found => rw [Eval.outcome_bind_ok (hr []), Eval.outcome_bind_ok (hr' [])]

end Interpolation
