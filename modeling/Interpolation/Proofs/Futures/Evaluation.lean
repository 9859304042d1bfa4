import Interpolation.Eval.Evaluate
import Interpolation.Proofs.Futures.Streams

/-!
# Expressions evaluated without futures

An expression gets its values from three places: its constants, the values of its names, and what
every context has besides.  If the constants are free, then so is all that is computed from them and
from a free store, whatever the expression is made of: each kind of expression hands free values to
an operator, a lookup, a filter, a test or a call, and these answer free values.  Hence settings that
differ only in how they treat futures evaluate the expression alike.

* `Expr.IsFree` — an expression with free constants.
* `Setting.Alike.spread`, `Setting.Alike.spreadNamed` — arguments that are spread.
* `Setting.Alike.eval` — an expression is evaluated alike, by induction over the expression.
-/

namespace Interpolation

variable {R : Scope}

instance : HoldsNone CompareOp := .always CompareOp

/-! ## Expressions with free constants -/

mutual

/-- An expression of which all constants are free. -/
inductive Expr.IsFree (R : Scope) : Expr → Prop where
  | literal {d : Datum} (h : FreeIn R d) : Expr.IsFree R (.literal d)
  | name (n : String) : Expr.IsFree R (.name n)
  | alias (n : String) (other : Option String) : Expr.IsFree R (.alias n other)
  | list {items : List Expr} (h : ∀ e ∈ items, Expr.IsFree R e) : Expr.IsFree R (.list items)
  | tuple {items : List Expr} (h : ∀ e ∈ items, Expr.IsFree R e) : Expr.IsFree R (.tuple items)
  | dict {entries : List (Expr × Expr)} (hkeys : ∀ p ∈ entries, Expr.IsFree R p.1)
    (h : ∀ p ∈ entries, Expr.IsFree R p.2) : Expr.IsFree R (.dict entries)
  | attribute {e : Expr} (h : Expr.IsFree R e) (n : String) : Expr.IsFree R (.attribute e n)
  | item {e key : Expr} (h : Expr.IsFree R e) (hkey : Expr.IsFree R key) :
    Expr.IsFree R (.item e key)
  | slice {e start stop step : Expr} (h : Expr.IsFree R e) (hstart : Expr.IsFree R start)
    (hstop : Expr.IsFree R stop) (hstep : Expr.IsFree R step) :
    Expr.IsFree R (.slice e start stop step)
  | sliceKey {start stop step : Expr} (hstart : Expr.IsFree R start) (hstop : Expr.IsFree R stop)
    (hstep : Expr.IsFree R step) : Expr.IsFree R (.sliceKey start stop step)
  | call {callee : Expr} {arguments : List Argument} (h : Expr.IsFree R callee)
    (harguments : ∀ a ∈ arguments, Argument.IsFree R a) : Expr.IsFree R (.call callee arguments)
  | filter {e : Expr} {arguments : List Argument} (line : Nat) (h : Expr.IsFree R e) (n : String)
    (harguments : ∀ a ∈ arguments, Argument.IsFree R a) :
    Expr.IsFree R (.filter line e n arguments)
  | test {e : Expr} {arguments : List Argument} (line : Nat) (h : Expr.IsFree R e) (n : String)
    (harguments : ∀ a ∈ arguments, Argument.IsFree R a) : Expr.IsFree R (.test line e n arguments)
  | negative {e : Expr} (h : Expr.IsFree R e) : Expr.IsFree R (.negative e)
  | positive {e : Expr} (h : Expr.IsFree R e) : Expr.IsFree R (.positive e)
  | binary {left right : Expr} (op : BinaryOp) (h : Expr.IsFree R left)
    (hright : Expr.IsFree R right) : Expr.IsFree R (.binary op left right)
  | concat {parts : List Expr} (h : ∀ e ∈ parts, Expr.IsFree R e) : Expr.IsFree R (.concat parts)
  | compare {first : Expr} {rest : List (CompareOp × Expr)} (h : Expr.IsFree R first)
    (hrest : ∀ p ∈ rest, Expr.IsFree R p.2) : Expr.IsFree R (.compare first rest)
  | and {left right : Expr} (h : Expr.IsFree R left) (hright : Expr.IsFree R right) :
    Expr.IsFree R (.and left right)
  | or {left right : Expr} (h : Expr.IsFree R left) (hright : Expr.IsFree R right) :
    Expr.IsFree R (.or left right)
  | not {e : Expr} (h : Expr.IsFree R e) : Expr.IsFree R (.not e)
  | choice {condition body other : Expr} (h : Expr.IsFree R condition)
    (hbody : Expr.IsFree R body) (hother : Expr.IsFree R other) :
    Expr.IsFree R (.choice condition body other)
  | guarded {condition body : Expr} (line : Nat) (h : Expr.IsFree R condition)
    (hbody : Expr.IsFree R body) : Expr.IsFree R (.guarded line condition body)

/-- An argument of which all constants are free. -/
inductive Argument.IsFree (R : Scope) : Argument → Prop where
  | positional {e : Expr} (h : Expr.IsFree R e) : Argument.IsFree R (.positional e)
  | named {e : Expr} (n : String) (h : Expr.IsFree R e) : Argument.IsFree R (.named n e)
  | spread {e : Expr} (h : Expr.IsFree R e) : Argument.IsFree R (.spread e)
  | spreadNamed {e : Expr} (h : Expr.IsFree R e) : Argument.IsFree R (.spreadNamed e)

end

mutual

/-- Where everything can be met, all constants are free. -/
theorem Expr.isFree_everything : ∀ e : Expr, e.IsFree .everything
  | .literal d => .literal (freeIn_everything d)
  | .name n => .name n
  | .alias n other => .alias n other
  | .list items => .list (Expr.areFree_everything items)
  | .tuple items => .tuple (Expr.areFree_everything items)
  | .dict entries =>
    .dict (fun p hp => (Expr.pairsFree_everything entries p hp).1)
      fun p hp => (Expr.pairsFree_everything entries p hp).2
  | .attribute e n => .attribute e.isFree_everything n
  | .item e key => .item e.isFree_everything key.isFree_everything
  | .slice e start stop step =>
    .slice e.isFree_everything start.isFree_everything stop.isFree_everything
      step.isFree_everything
  | .sliceKey start stop step =>
    .sliceKey start.isFree_everything stop.isFree_everything step.isFree_everything
  | .call callee arguments =>
    .call callee.isFree_everything (Argument.areFree_everything arguments)
  | .filter line e n arguments =>
    .filter line e.isFree_everything n (Argument.areFree_everything arguments)
  | .test line e n arguments =>
    .test line e.isFree_everything n (Argument.areFree_everything arguments)
  | .negative e => .negative e.isFree_everything
  | .positive e => .positive e.isFree_everything
  | .binary op left right => .binary op left.isFree_everything right.isFree_everything
  | .concat parts => .concat (Expr.areFree_everything parts)
  | .compare first rest => .compare first.isFree_everything (Expr.comparedFree_everything rest)
  | .and left right => .and left.isFree_everything right.isFree_everything
  | .or left right => .or left.isFree_everything right.isFree_everything
  | .not e => .not e.isFree_everything
  | .choice condition body other =>
    .choice condition.isFree_everything body.isFree_everything other.isFree_everything
  | .guarded line condition body =>
    .guarded line condition.isFree_everything body.isFree_everything
termination_by structural e => e

theorem Expr.areFree_everything : ∀ es : List Expr, ∀ e ∈ es, e.IsFree .everything
  | [] => List.forall_mem_nil _
  | e :: es => List.forall_mem_cons.2 ⟨e.isFree_everything, Expr.areFree_everything es⟩
termination_by structural es => es

theorem Expr.pairFree_everything :
    ∀ p : Expr × Expr, p.1.IsFree .everything ∧ p.2.IsFree .everything
  | (k, e) => ⟨k.isFree_everything, e.isFree_everything⟩
termination_by structural p => p

theorem Expr.pairsFree_everything : ∀ entries : List (Expr × Expr),
    ∀ p ∈ entries, p.1.IsFree .everything ∧ p.2.IsFree .everything
  | [] => List.forall_mem_nil _
  | p :: entries =>
    List.forall_mem_cons.2 ⟨Expr.pairFree_everything p, Expr.pairsFree_everything entries⟩
termination_by structural entries => entries

theorem Expr.comparisonFree_everything : ∀ p : CompareOp × Expr, p.2.IsFree .everything
  | (_, e) => e.isFree_everything
termination_by structural p => p

theorem Expr.comparedFree_everything :
    ∀ rest : List (CompareOp × Expr), ∀ p ∈ rest, p.2.IsFree .everything
  | [] => List.forall_mem_nil _
  | p :: rest =>
    List.forall_mem_cons.2 ⟨Expr.comparisonFree_everything p, Expr.comparedFree_everything rest⟩
termination_by structural rest => rest

theorem Argument.isFree_everything : ∀ a : Argument, a.IsFree .everything
  | .positional e => .positional e.isFree_everything
  | .named n e => .named n e.isFree_everything
  | .spread e => .spread e.isFree_everything
  | .spreadNamed e => .spreadNamed e.isFree_everything
termination_by structural a => a

theorem Argument.areFree_everything : ∀ as : List Argument, ∀ a ∈ as, a.IsFree .everything
  | [] => List.forall_mem_nil _
  | a :: as => List.forall_mem_cons.2 ⟨a.isFree_everything, Argument.areFree_everything as⟩
termination_by structural as => as

end

instance : HoldsValues Expr := ⟨Expr.IsFree, Expr.isFree_everything⟩

instance : HoldsValues Argument := ⟨Argument.IsFree, Argument.isFree_everything⟩

section Larger

variable {R R' : Region}

mutual

/-- An expression that is free in a region is free in a larger one. -/
theorem Expr.IsFree.mono (h : R ⊆ R') : ∀ {e : Expr}, e.IsFree R → e.IsFree R'
  | _, .literal hd => .literal (Datum.IsFree.mono h hd)
  | _, .name n => .name n
  | _, .alias n other => .alias n other
  | _, .list hs => .list fun e he => (hs e he).mono h
  | _, .tuple hs => .tuple fun e he => (hs e he).mono h
  | _, .dict hkeys hs => .dict (fun p hp => (hkeys p hp).mono h) fun p hp => (hs p hp).mono h
  | _, .attribute he n => .attribute (he.mono h) n
  | _, .item he hkey => .item (he.mono h) (hkey.mono h)
  | _, .slice he ha hb hc => .slice (he.mono h) (ha.mono h) (hb.mono h) (hc.mono h)
  | _, .sliceKey ha hb hc => .sliceKey (ha.mono h) (hb.mono h) (hc.mono h)
  | _, .call he hs => .call (he.mono h) fun a ha => (hs a ha).mono h
  | _, .filter line he n hs => .filter line (he.mono h) n fun a ha => (hs a ha).mono h
  | _, .test line he n hs => .test line (he.mono h) n fun a ha => (hs a ha).mono h
  | _, .negative he => .negative (he.mono h)
  | _, .positive he => .positive (he.mono h)
  | _, .binary op he hf => .binary op (he.mono h) (hf.mono h)
  | _, .concat hs => .concat fun e he => (hs e he).mono h
  | _, .compare he hs => .compare (he.mono h) fun p hp => (hs p hp).mono h
  | _, .and he hf => .and (he.mono h) (hf.mono h)
  | _, .or he hf => .or (he.mono h) (hf.mono h)
  | _, .not he => .not (he.mono h)
  | _, .choice hc he hf => .choice (hc.mono h) (he.mono h) (hf.mono h)
  | _, .guarded line hc he => .guarded line (hc.mono h) (he.mono h)

theorem Argument.IsFree.mono (h : R ⊆ R') : ∀ {a : Argument}, a.IsFree R → a.IsFree R'
  | _, .positional he => .positional (he.mono h)
  | _, .named n he => .named n (he.mono h)
  | _, .spread he => .spread (he.mono h)
  | _, .spreadNamed he => .spreadNamed (he.mono h)

end

end Larger

/-! ## Constants, names and arguments -/

/-- The value of a free constant is free. -/
lemma safe_ofConstant {d : Datum} (h : FreeIn R d) : Eval.Safe R (Eval.ofConstant d) := by
  unfold Eval.ofConstant
  split
  · exact .throw _
  · exact .build (Datum.safe_literal (d := d) h)

lemma freeIn_putNamed (n : String) {v : Value} (hv : FreeIn R v) {named : List (String × Value)}
    (h : FreeIn R named) : FreeIn R (putNamed n v named) := by
  induction named with
  | nil => exact freeIn_cons.2 ⟨⟨trivial, hv⟩, freeIn_nil⟩
  | cons p named ih =>
    obtain ⟨hp, hnamed⟩ := freeIn_cons.1 h
    rw [putNamed]
    split
    · exact freeIn_cons.2 ⟨⟨trivial, hv⟩, hnamed⟩
    · exact freeIn_cons.2 ⟨hp, ih hnamed⟩

lemma freeIn_namedEntries {entries : List (Value × Value)} (h : FreeIn R entries) :
    FreeIn R (namedEntries entries) := by
  refine freeIn_mapM_except h fun p hp => ?_
  dsimp only
  split
  · exact ⟨trivial, hp.2⟩
  · exact trivial

lemma freeIn_putAll {found named : List (String × Value)} (hfound : FreeIn R found)
    (h : FreeIn R named) :
    FreeIn R (found.foldl (fun named p => putNamed p.1 p.2 named) named) := by
  induction found generalizing named with
  | nil => exact h
  | cons p found ih =>
    obtain ⟨hp, hfound⟩ := freeIn_cons.1 hfound
    exact ih hfound (freeIn_putNamed p.1 hp.2 h)

lemma freeIn_mergeNamed (merging : Bool) (callee : String) {named : List (String × Value)}
    (h : FreeIn R named) {entries : List (Value × Value)} (hentries : FreeIn R entries) :
    FreeIn R (Setting.mergeNamed merging callee named entries) := by
  unfold Setting.mergeNamed
  dsimp only
  split
  · exact trivial
  · refine freeIn_exceptBind (freeIn_namedEntries hentries) fun found hfound => ?_
    exact freeIn_putAll hfound h

/-- The arguments that a call passes on are some of those that it has. -/
lemma Arguments.freeIn_passed {a : Arguments} (ha : FreeIn R a) : FreeIn R a.passed := by
  rw [passed]
  split
  · exact trivial
  · exact ⟨ha.1, freeIn_of_subset List.filter_sublist.subset ha.2⟩

namespace Setting

lemma freeIn_unbound (s : Setting) (n : String) : FreeIn R (s.unbound n) := by
  rw [unbound]
  split <;> exact trivial

/-- What a name stands for is free. -/
lemma safe_nameAs (s : Setting) (n other : String) : (s.nameAs n other).Safe R := by
  unfold nameAs
  split
  · exact .pure trivial
  · refine .bind .get fun store hstore => ?_
    have hbound := freeIn_lookup hstore.bound other
    split
    · next v h => exact .pure (h ▸ hbound : FreeIn R (some v))
    · exact .pure trivial
    · exact .pure (freeIn_unbound s n)

namespace Alike

variable {s t : Setting} {v : Value}

lemma nameAs (h : s.Alike R t) (n other : String) : s.nameAs n other = t.nameAs n other := by
  rw [Setting.nameAs, Setting.nameAs, Setting.unbound, Setting.unbound, h.missing]

lemma spread (h : s.Alike R t) (hv : FreeIn R v) : Eval.Agree R (s.spread v) (t.spread v) := by
  refine .bind .getStore fun store hstore => ?_
  have hsource := (Value.safe_source hv).result store hstore
  split
  · exact .throw _
  · exact .throw _
  · next source hrun => exact h.drain (hrun ▸ hsource : FreeIn R (Except.ok source))

lemma spreadNamed (h : s.Alike R t) (callee : String) (hv : FreeIn R v) :
    Eval.Agree R (s.spreadNamed callee v) (t.spreadNamed callee v) := by
  unfold Setting.spreadNamed
  split
  · next r hr => exact .bind (.look (Look.safe_entries (freeIn_of_content hr hv))) fun _ => .pure
  · next r hr => exact .bind (.look (Look.safe_entries (freeIn_of_content hr hv))) fun _ => .pure
  · exact .throw _
  · refine (Value.safe_native? hv "keys").bind fun found hfound => ?_
    cases found with
    | some keys =>
      exact (h.call hfound ⟨freeIn_nil, freeIn_nil⟩).bind fun _ _ => .pure freeIn_nil
    | none => exact .throw _

/-- What a call is answered. -/
lemma answer (h : s.Alike R t) {a : Arguments} (hv : FreeIn R v) (ha : FreeIn R a) :
    Eval.Agree R (s.answer v a) (t.answer v a) := by
  unfold Setting.answer
  rw [h.missing]
  exact (h.call hv ha).orEnd (.pure (freeIn_missing t .answer))

/-! ## Expressions -/

mutual

/-- **An expression with free constants** is evaluated alike in settings that are alike without
futures. -/
theorem eval (h : s.Alike R t) : ∀ {e : Expr}, FreeIn R e → Eval.Agree R (s.eval e) (t.eval e)
  | .literal d, .literal hd => safe_ofConstant hd
  | .name n, _ => by
    rw [Setting.eval, Setting.eval, Setting.name, Setting.name, h.nameAs]
    exact .build (safe_nameAs t n n)
  | .alias n none, _ => by
    rw [Setting.eval, Setting.eval, h.missing]
    exact .pure (freeIn_missing t (.name n))
  | .alias n (some other), _ => by
    rw [Setting.eval, Setting.eval, h.nameAs]
    exact .build (safe_nameAs t n other)
  | .list items, .list hitems => (h.evalAll hitems).bind fun _ hvs => Eval.safe_list hvs
  | .tuple items, .tuple hitems => (h.evalAll hitems).bind fun _ hvs => Eval.safe_tuple hvs
  | .dict entries, .dict hkeys hentries => by
    refine (h.evalEntries hkeys hentries).bind fun pairs hpairs => ?_
    refine .bind (.look (safe_insertEntries freeIn_nil hpairs)) fun entries hentries => ?_
    exact .build (Building.safe_dict hentries)
  | .attribute e n, .attribute he _ => (h.eval he).bind fun _ hv => h.attributeOf hv n
  | .item e key, .item he hkey => by
    refine (h.eval he).bind fun v hv => (h.eval hkey).bind fun k hk => ?_
    exact h.itemOf hv hk
  | .slice e start stop step, .slice he hstart hstop hstep => by
    refine (h.eval he).bind fun v hv => (h.eval hstart).bind fun a ha => ?_
    refine (h.eval hstop).bind fun b hb => (h.eval hstep).bind fun c hc => ?_
    exact Value.safe_sliced hv ha hb hc
  | .sliceKey start stop step, .sliceKey hstart hstop hstep => by
    refine (h.eval hstart).bind fun a ha => (h.eval hstop).bind fun b hb => ?_
    refine (h.eval hstep).bind fun c hc => ?_
    exact .build (Building.safe_slice ha hb hc)
  | .call callee arguments, .call hcallee harguments => by
    refine (h.eval hcallee).bind fun f hf => ?_
    refine (h.evalArguments _ _ ⟨freeIn_nil, freeIn_nil⟩ harguments).bind fun a ha => ?_
    exact .bind (.except (Arguments.freeIn_passed ha)) fun _ ha => h.answer hf ha
  | .filter _ e n arguments, .filter _ he _ harguments => by
    refine (h.eval he).bind fun v hv => (Eval.safe_keep hv).bind fun v hv => ?_
    refine (h.evalArguments _ _ ⟨freeIn_nil, freeIn_nil⟩ harguments).bind fun a ha => ?_
    cases FilterName.ofName? n with
    | some f => exact h.filter f hv ha
    | none => exact .throw _
  | .test _ e n arguments, .test _ he _ harguments => by
    refine (h.eval he).bind fun v hv => (Eval.safe_keep hv).bind fun v hv => ?_
    refine (h.evalArguments _ _ ⟨freeIn_nil, freeIn_nil⟩ harguments).bind fun a ha => ?_
    cases TestName.ofName? n with
    | some name =>
      exact .bind (.except (name.freeIn_bind ha)) fun _ harguments => h.test name v harguments
    | none => exact .throw _
  | .negative e, .negative he => (h.eval he).bind fun v _ => .except (Value.freeIn_negate v)
  | .positive e, .positive he => (h.eval he).bind fun v hv => .except (Value.freeIn_plus hv)
  | .binary op left right, .binary _ hleft hright => by
    refine (h.eval hleft).bind fun a ha => (h.eval hright).bind fun b hb => ?_
    exact h.binary op ha hb
  | .concat parts, .concat hparts => by
    rw [Setting.eval, Setting.eval, h.display]
    refine (h.evalAll hparts).bind fun vs hvs => ?_
    exact .bind (.mapM hvs fun _ _ => .look_of_none _) fun _ _ => .pure trivial
  | .compare first rest, .compare hfirst hrest =>
    (h.eval hfirst).bind fun v hv => h.evalChain v hrest
  | .and left right, .and hleft hright => by
    refine (h.eval hleft).bind fun a ha => .bind (.look_of_none _) fun _ _ => ?_
    exact .ite (h.eval hright) (.pure ha)
  | .or left right, .or hleft hright => by
    refine (h.eval hleft).bind fun a ha => .bind (.look_of_none _) fun _ _ => ?_
    exact .ite (.pure ha) (h.eval hright)
  | .not e, .not he => (h.eval he).bind fun _ _ => .bind (.look_of_none _) fun _ _ => .pure trivial
  | .choice condition body other, .choice hcondition hbody hother => by
    refine (h.eval hcondition).bind fun c _ => .bind (.look_of_none _) fun _ _ => ?_
    exact .ite (h.eval hbody) (h.eval hother)
  | .guarded line condition body, .guarded _ hcondition hbody => by
    refine (h.eval hcondition).bind fun c _ => .bind (.look_of_none _) fun _ _ => ?_
    exact .ite (h.eval hbody) (.pure trivial)
termination_by structural e => e

/-- Several expressions are evaluated alike. -/
theorem evalAll (h : s.Alike R t) :
    ∀ {es : List Expr}, FreeIn R es → Eval.Agree R (s.evalAll es) (t.evalAll es)
  | [], _ => .pure freeIn_nil
  | e :: es, hes => by
    obtain ⟨he, hes⟩ := freeIn_cons.1 hes
    refine (h.eval he).bind fun v hv => (h.evalAll hes).bind fun vs hvs => ?_
    exact .pure (freeIn_cons.2 ⟨hv, hvs⟩)
termination_by structural es => es

/-- Entries are evaluated alike. -/
theorem evalEntries (h : s.Alike R t) : ∀ {entries : List (Expr × Expr)},
    (∀ p ∈ entries, FreeIn R p.1) → (∀ p ∈ entries, FreeIn R p.2) →
      Eval.Agree R (s.evalEntries entries) (t.evalEntries entries)
  | [], _, _ => .pure freeIn_nil
  | (k, e) :: entries, hkeys, hentries => by
    obtain ⟨hk, hkeys⟩ := List.forall_mem_cons.1 hkeys
    obtain ⟨he, hentries⟩ := List.forall_mem_cons.1 hentries
    refine (h.eval hk).bind fun key hkey => (h.eval he).bind fun v hv => ?_
    refine (h.evalEntries hkeys hentries).bind fun rest hrest => ?_
    exact .pure (freeIn_cons.2 ⟨⟨hkey, hv⟩, hrest⟩)
termination_by structural entries => entries

/-- A chain of comparisons is evaluated alike. -/
theorem evalChain (h : s.Alike R t) (left : Value) : ∀ {rest : List (CompareOp × Expr)},
    (∀ p ∈ rest, FreeIn R p.2) → Eval.Agree R (s.evalChain left rest) (t.evalChain left rest)
  | [], _ => .pure trivial
  | (op, e) :: rest, hrest => by
    obtain ⟨he, hrest⟩ := List.forall_mem_cons.1 hrest
    refine (h.eval he).bind fun right hright => (h.holds op left hright).bind fun _ _ => ?_
    exact .ite (h.evalChain right hrest) (.pure trivial)
termination_by structural rest => rest

/-- Arguments are evaluated alike. -/
theorem evalArguments (h : s.Alike R t) (callee : String) (merging : Bool) :
    ∀ {a : Arguments} {rest : List Argument}, FreeIn R a → FreeIn R rest →
      Eval.Agree R (s.evalArguments callee merging a rest) (t.evalArguments callee merging a rest)
  | a, [], ha, _ => .pure ha
  | a, .positional e :: rest, ha, hrest => by
    obtain ⟨hargument, hrest⟩ := freeIn_cons.1 hrest
    cases hargument with | positional he =>
    refine (h.eval he).bind fun v hv => (Eval.safe_keep hv).bind fun v hv => ?_
    refine h.evalArguments callee merging ⟨freeIn_append.2 ⟨ha.1, ?_⟩, ha.2⟩ hrest
    exact freeIn_cons.2 ⟨hv, freeIn_nil⟩
  | a, .spread e :: rest, ha, hrest => by
    obtain ⟨hargument, hrest⟩ := freeIn_cons.1 hrest
    cases hargument with | spread he =>
    refine (h.eval he).bind fun v hv => (h.spread hv).bind fun vs hvs => ?_
    refine .bind (.mapM hvs fun _ hv => Eval.safe_keep hv) fun vs hvs => ?_
    exact h.evalArguments callee merging ⟨freeIn_append.2 ⟨ha.1, hvs⟩, ha.2⟩ hrest
  | a, .named n e :: rest, ha, hrest => by
    obtain ⟨hargument, hrest⟩ := freeIn_cons.1 hrest
    cases hargument with | named _ he =>
    refine (h.eval he).bind fun v hv => (Eval.safe_keep hv).bind fun v hv => ?_
    exact h.evalArguments callee merging ⟨ha.1, freeIn_putNamed _ hv ha.2⟩ hrest
  | a, .spreadNamed e :: rest, ha, hrest => by
    obtain ⟨hargument, hrest⟩ := freeIn_cons.1 hrest
    cases hargument with | spreadNamed he =>
    refine (h.eval he).bind fun v hv => (h.spreadNamed _ hv).bind fun entries hentries => ?_
    refine .bind (.except (freeIn_mergeNamed merging callee ha.2 hentries)) fun named hnamed => ?_
    exact h.evalArguments callee merging ⟨ha.1, hnamed⟩ hrest
termination_by structural _ rest => rest

end

end Alike

end Setting

end Interpolation
