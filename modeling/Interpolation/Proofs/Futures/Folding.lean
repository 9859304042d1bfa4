import Interpolation.Expr.Compiled
import Interpolation.Proofs.Futures.Constants
import Interpolation.Proofs.Futures.Parsing

/-!
# Expressions are prepared alike

An expression is prepared by putting constants in the place of its constant parts.  These are the
same in environments that treat missing values alike, so the prepared expression is, too, or the
fault that refuses it.

A constant that takes the place of a part is written down from a value, and what can be written down
is a number, a text, a range or the like, or a collection of these: never a future, and nothing that
stands in the store.  So the constants of a prepared expression are free in every region, whatever
its parts amount to.

* `Value.freeIn_datumTo?` — what is written down of a value is free.
* `Expr.agree_folded`, `Expr.freeIn_settled`, `Expr.agree_assembled` — the steps of preparing.
* `Expression.agree_parse` — a source is compiled alike, and what it is compiled to is free.
-/

namespace Interpolation

/-! ## What is written down of a value -/

section Written

variable {R : Scope}

lemma Datum.areFree_iff {ds : List Datum} : Datum.AreFree R ds ↔ FreeIn R ds := by
  induction ds with
  | nil => exact iff_of_true trivial freeIn_nil
  | cons d ds ih =>
    rw [freeIn_cons, Datum.AreFree, ih]
    exact Iff.rfl

lemma Datum.entriesFree_iff {entries : List (Datum × Datum)} :
    Datum.EntriesFree R entries ↔ FreeIn R entries := by
  induction entries with
  | nil => exact iff_of_true trivial freeIn_nil
  | cons p entries ih =>
    rw [freeIn_cons, Datum.EntriesFree, ih]
    exact Iff.rfl

section Collections

variable {α β γ : Type} [HoldsValues α] [HoldsValues β]

lemma freeIn_mapM_option {f : α → Option β} {as : List α} (h : FreeIn R as)
    (hf : ∀ a, FreeIn R a → FreeIn R (f a)) : FreeIn R (as.mapM f) := by
  induction as with
  | nil => exact freeIn_nil
  | cons a as ih =>
    obtain ⟨ha, has⟩ := freeIn_cons.1 h
    rw [List.mapM_cons]
    refine freeIn_optionBind (hf a ha) fun b hb => freeIn_optionBind (ih has) fun bs hbs => ?_
    exact freeIn_cons.2 ⟨hb, hbs⟩

/-- What a walk makes of items is free if all that it may make of an item is. -/
lemma freeIn_mapM_look {f : γ → Look β} (hf : ∀ a s, FreeIn R ((f a).run s)) (as : List γ)
    (s : Store) : FreeIn R ((as.mapM f).run s) := by
  induction as with
  | nil => exact freeIn_nil
  | cons a as ih =>
    rw [List.mapM_cons]
    exact freeIn_exceptBind (hf a s) fun b hb => freeIn_exceptBind ih fun bs hbs =>
      freeIn_cons.2 ⟨hb, hbs⟩

end Collections

lemma Content.freeIn_datum? (c : Content) : FreeIn R c.datum? := by
  unfold datum?
  split <;> exact trivial

/-- An entry of free data is free, of a key and a value that are data both. -/
lemma freeIn_entryTo {s : Store} {x y : Look (Option Datum)} (hx : FreeIn R (x.run s))
    (hy : FreeIn R (y.run s)) :
    FreeIn R ((do
      match ← x, ← y with
      | some key, some d => return some (key, d)
      | _, _ => return Option.none : Look (Option (Datum × Datum))).run s) := by
  refine freeIn_exceptBind hx fun key hkey => freeIn_exceptBind hy fun d hd => ?_
  cases key with
  | none => exact trivial
  | some key =>
    cases d with
    | none => exact trivial
    | some d => exact ⟨hkey, hd⟩

/-- What is written down of a value is free, whatever the value is. -/
lemma Value.freeIn_datumTo? (fuel : Nat) (v : Value) (s : Store) :
    FreeIn R ((v.datumTo? fuel).run s) := by
  induction fuel generalizing v s with
  | zero => exact trivial
  | succ fuel ih =>
    unfold datumTo?
    extract_lets all
    have hall : ∀ r, FreeIn R ((all r).run s) := by
      intro r
      dsimp only [all]
      rw [ReaderT.run_bind]
      refine freeIn_exceptBind_of _ fun items => ?_
      have hitems := freeIn_mapM_look ih items s
      exact freeIn_exceptBind hitems fun found hfound => freeIn_mapM_option hfound fun _ hd => hd
    have hcollected : ∀ r (pack : List Datum → Datum),
        (∀ ds, FreeIn R ds → FreeIn R (pack ds)) →
          FreeIn R ((do return (← all r).map pack : Look (Option Datum)).run s) := by
      intro r pack hpack
      exact freeIn_exceptBind (hall r) fun found hfound => freeIn_optionMap hfound hpack
    split
    · exact hcollected _ _ fun ds => Datum.areFree_iff.2
    · exact hcollected _ _ fun ds => Datum.areFree_iff.2
    · exact hcollected _ _ fun ds => Datum.areFree_iff.2
    · rw [ReaderT.run_bind]
      refine freeIn_exceptBind_of _ fun entries => ?_
      have hentries := freeIn_mapM_look
        (fun (e : Value × Value) s => freeIn_entryTo (ih e.1 s) (ih e.2 s)) entries s
      refine freeIn_exceptBind hentries fun found hfound => ?_
      exact freeIn_optionMap (freeIn_mapM_option hfound fun _ he => he) fun es =>
        Datum.entriesFree_iff.2
    · exact Content.freeIn_datum? _

end Written

variable {R : Region}

/-! ## Computations without a store -/

/-- Two computations that end alike, with something free if they answer. -/
structure Except.Agree {ε α : Type} [HoldsValues α] (R : Region) (x y : Except ε α) : Prop where
  /-- They end alike. -/
  eq : x = y
  /-- What is answered is free. -/
  free : FreeIn R x

namespace Except.Agree

variable {ε α β : Type} [HoldsValues α] [HoldsValues β]

protected lemma refl {x : Except ε α} (hx : FreeIn R x) : Except.Agree R x x := ⟨rfl, hx⟩

protected lemma pure {a : α} (ha : FreeIn R a) :
    Except.Agree R (pure a : Except ε α) (pure a) := .refl ha

protected lemma bind {x y : Except ε α} {f g : α → Except ε β} (hx : Except.Agree R x y)
    (hf : ∀ a, FreeIn R a → Except.Agree R (f a) (g a)) : Except.Agree R (x >>= f) (y >>= g) := by
  obtain ⟨rfl, hx⟩ := hx
  cases x with
  | error _ => exact .refl trivial
  | ok a => exact hf a hx

end Except.Agree

namespace Expr

/-! ## Constant parts -/

section Environments

variable {environment environment' : Environment}

/-- The constant that an expression amounts to is free. -/
lemma freeIn_constant? (environment : Environment) (e : Expr) :
    FreeIn R (e.constant? environment) := by
  unfold constant?
  extract_lets s
  rw [Eval.runOn_fst]
  rcases hrun : (s.constantly e).outcome ⟨Store.empty, []⟩ with ⟨_ | found, m⟩
  · rw [Eval.outcome_bind_error hrun]
    exact trivial
  · rw [Eval.outcome_bind_ok hrun]
    cases found with
    | none => exact trivial
    | some v => exact Value.freeIn_datumTo? _ v m.store

lemma agree_reduced (hstrict : environment.strict = environment'.strict) {e : Expr}
    (he : FreeIn R e) : Except.Agree R (e.reduced environment) (e.reduced environment') := by
  unfold reduced
  rw [constant?_congr hstrict he]
  refine (Except.Agree.refl (freeIn_constant? environment' e)).bind fun found hfound => ?_
  cases found with
  | some d => exact .pure (IsFree.literal hfound)
  | none => exact .pure he

mutual

/-- Environments that treat missing values alike fold an expression alike, and leave it free. -/
theorem agree_folded (hstrict : environment.strict = environment'.strict) :
    ∀ {e : Expr}, FreeIn R e → Except.Agree R (e.folded environment) (e.folded environment')
  | .literal d, .literal h => .pure (IsFree.literal h)
  | .name n, _ => .pure (IsFree.name n)
  | .alias n other, _ => .pure (IsFree.alias n other)
  | .list items, .list h => by
    refine (agree_foldedAll hstrict h).bind fun items hitems => ?_
    exact agree_reduced hstrict (.list hitems)
  | .tuple items, .tuple h => by
    refine (agree_foldedAll hstrict h).bind fun items hitems => ?_
    exact agree_reduced hstrict (.tuple hitems)
  | .dict entries, .dict hkeys h => by
    refine (agree_foldedEntries hstrict hkeys h).bind fun entries hentries => ?_
    have hkeys : ∀ p ∈ entries, FreeIn R p.1 := fun p hp => (hentries p hp).1
    exact agree_reduced hstrict (.dict hkeys fun p hp => (hentries p hp).2)
  | .attribute e n, .attribute h _ => by
    refine (agree_folded hstrict h).bind fun e he => ?_
    exact agree_reduced hstrict (.attribute he n)
  | .item e key, .item h hkey => by
    refine (agree_folded hstrict h).bind fun e he => ?_
    refine (agree_folded hstrict hkey).bind fun key hkey => ?_
    exact agree_reduced hstrict (.item he hkey)
  | .slice e start stop step, .slice h hstart hstop hstep => by
    refine (agree_folded hstrict h).bind fun e he => ?_
    refine (agree_folded hstrict hstart).bind fun start hstart => ?_
    refine (agree_folded hstrict hstop).bind fun stop hstop => ?_
    refine (agree_folded hstrict hstep).bind fun step hstep => ?_
    exact agree_reduced hstrict (.slice he hstart hstop hstep)
  | .sliceKey start stop step, .sliceKey hstart hstop hstep => by
    refine (agree_folded hstrict hstart).bind fun start hstart => ?_
    refine (agree_folded hstrict hstop).bind fun stop hstop => ?_
    exact (agree_folded hstrict hstep).bind fun step hstep =>
      .pure (IsFree.sliceKey hstart hstop hstep)
  | .call callee arguments, .call h harguments => by
    refine (agree_folded hstrict h).bind fun callee hcallee => ?_
    exact (agree_foldedArguments hstrict harguments).bind fun arguments harguments =>
      .pure (IsFree.call hcallee harguments)
  | .filter line e n arguments, .filter _ h _ harguments => by
    refine (agree_folded hstrict h).bind fun e he => ?_
    refine (agree_foldedArguments hstrict harguments).bind fun arguments h => ?_
    exact agree_reduced hstrict (.filter line he n h)
  | .test line e n arguments, .test _ h _ harguments => by
    refine (agree_folded hstrict h).bind fun e he => ?_
    refine (agree_foldedArguments hstrict harguments).bind fun arguments h => ?_
    exact agree_reduced hstrict (.test line he n h)
  | .negative e, .negative h => by
    refine (agree_folded hstrict h).bind fun e he => ?_
    exact agree_reduced hstrict (.negative he)
  | .positive e, .positive h => by
    refine (agree_folded hstrict h).bind fun e he => ?_
    exact agree_reduced hstrict (.positive he)
  | .not e, .not h => by
    refine (agree_folded hstrict h).bind fun e he => ?_
    exact agree_reduced hstrict (.not he)
  | .binary op left right, .binary _ h hright => by
    refine (agree_folded hstrict h).bind fun left hleft => ?_
    refine (agree_folded hstrict hright).bind fun right hright => ?_
    exact agree_reduced hstrict (.binary op hleft hright)
  | .concat parts, .concat h => by
    refine (agree_foldedAll hstrict h).bind fun parts hparts => ?_
    exact agree_reduced hstrict (.concat hparts)
  | .compare first rest, .compare h hrest => by
    refine (agree_folded hstrict h).bind fun first hfirst => ?_
    refine (agree_foldedChain hstrict hrest).bind fun rest hrest => ?_
    exact agree_reduced hstrict (.compare hfirst fun p hp => (hrest p hp).2)
  | .and left right, .and h hright => by
    refine (agree_folded hstrict h).bind fun left hleft => ?_
    refine (agree_folded hstrict hright).bind fun right hright => ?_
    exact agree_reduced hstrict (.and hleft hright)
  | .or left right, .or h hright => by
    refine (agree_folded hstrict h).bind fun left hleft => ?_
    refine (agree_folded hstrict hright).bind fun right hright => ?_
    exact agree_reduced hstrict (.or hleft hright)
  | .choice condition body other, .choice h hbody hother => by
    refine (agree_folded hstrict h).bind fun condition hcondition => ?_
    refine (agree_folded hstrict hbody).bind fun body hbody => ?_
    refine (agree_folded hstrict hother).bind fun other hother => ?_
    exact agree_reduced hstrict (.choice hcondition hbody hother)
  | .guarded line condition body, .guarded _ h hbody => by
    refine (agree_folded hstrict h).bind fun condition hcondition => ?_
    refine (agree_folded hstrict hbody).bind fun body hbody => ?_
    exact agree_reduced hstrict (.guarded line hcondition hbody)
termination_by structural e => e

theorem agree_foldedAll (hstrict : environment.strict = environment'.strict) :
    ∀ {es : List Expr}, FreeIn R es →
      Except.Agree R (foldedAll environment es) (foldedAll environment' es)
  | [], _ => .pure freeIn_nil
  | e :: es, h => by
    obtain ⟨he, hes⟩ := freeIn_cons.1 h
    refine (agree_folded hstrict he).bind fun e he => ?_
    exact (agree_foldedAll hstrict hes).bind fun es hes => .pure (freeIn_cons.2 ⟨he, hes⟩)
termination_by structural es => es

theorem agree_foldedEntries (hstrict : environment.strict = environment'.strict) :
    ∀ {entries : List (Expr × Expr)}, (∀ p ∈ entries, FreeIn R p.1) → (∀ p ∈ entries, FreeIn R p.2) →
      Except.Agree R (foldedEntries environment entries) (foldedEntries environment' entries)
  | [], _, _ => .pure freeIn_nil
  | (k, e) :: entries, hkeys, h => by
    obtain ⟨hk, hkeys⟩ := List.forall_mem_cons.1 hkeys
    obtain ⟨he, h⟩ := List.forall_mem_cons.1 h
    refine (agree_folded hstrict hk).bind fun k hk => ?_
    refine (agree_folded hstrict he).bind fun e he => ?_
    refine (agree_foldedEntries hstrict hkeys h).bind fun entries hentries => ?_
    exact .pure (freeIn_cons.2 ⟨⟨hk, he⟩, hentries⟩)
termination_by structural entries => entries

theorem agree_foldedChain (hstrict : environment.strict = environment'.strict) :
    ∀ {rest : List (CompareOp × Expr)}, (∀ p ∈ rest, FreeIn R p.2) →
      Except.Agree R (foldedChain environment rest) (foldedChain environment' rest)
  | [], _ => .pure freeIn_nil
  | (op, e) :: rest, h => by
    obtain ⟨he, h⟩ := List.forall_mem_cons.1 h
    refine (agree_folded hstrict he).bind fun e he => ?_
    refine (agree_foldedChain hstrict h).bind fun rest hrest => ?_
    exact .pure (freeIn_cons.2 ⟨⟨trivial, he⟩, hrest⟩)
termination_by structural rest => rest

theorem agree_foldedArguments (hstrict : environment.strict = environment'.strict) :
    ∀ {arguments : List Argument}, FreeIn R arguments → Except.Agree R
      (foldedArguments environment arguments) (foldedArguments environment' arguments)
  | [], _ => .pure freeIn_nil
  | .positional e :: rest, h => by
    obtain ⟨hargument, h⟩ := freeIn_cons.1 h
    cases hargument with | positional he =>
    refine (agree_folded hstrict he).bind fun e he => ?_
    refine (agree_foldedArguments hstrict h).bind fun rest hrest => ?_
    exact .pure (freeIn_cons.2 ⟨.positional he, hrest⟩)
  | .named n e :: rest, h => by
    obtain ⟨hargument, h⟩ := freeIn_cons.1 h
    cases hargument with | named _ he =>
    refine (agree_folded hstrict he).bind fun e he => ?_
    refine (agree_foldedArguments hstrict h).bind fun rest hrest => ?_
    exact .pure (freeIn_cons.2 ⟨.named n he, hrest⟩)
  | .spread e :: rest, h => by
    obtain ⟨hargument, h⟩ := freeIn_cons.1 h
    cases hargument with | spread he =>
    refine (agree_folded hstrict he).bind fun e he => ?_
    refine (agree_foldedArguments hstrict h).bind fun rest hrest => ?_
    exact .pure (freeIn_cons.2 ⟨.spread he, hrest⟩)
  | .spreadNamed e :: rest, h => by
    obtain ⟨hargument, h⟩ := freeIn_cons.1 h
    cases hargument with | spreadNamed he =>
    refine (agree_folded hstrict he).bind fun e he => ?_
    refine (agree_foldedArguments hstrict h).bind fun rest hrest => ?_
    exact .pure (freeIn_cons.2 ⟨.spreadNamed he, hrest⟩)
termination_by structural arguments => arguments

end

end Environments

/-! ## What is evaluated -/

lemma freeIn_negated? (d : Datum) : FreeIn R d.negated? := by
  unfold Datum.negated?
  split
  · split
    · split <;> exact trivial
    · split <;> exact trivial
    · split <;> exact trivial
    · exact trivial
  · exact trivial

lemma freeIn_power {base exponent : Expr} (hbase : FreeIn R base) (hexponent : FreeIn R exponent) :
    FreeIn R (power base exponent) := by
  unfold power
  split
  · next d =>
    have hd := freeIn_negated? (R := R) d
    split
    · next d' h =>
      have hd' : FreeIn R d' := (h ▸ hd : FreeIn R (some d'))
      exact IsFree.negative (.binary _ (.literal hd') hexponent)
    · exact IsFree.binary _ hbase hexponent
  · exact IsFree.binary _ hbase hexponent

lemma freeIn_inPlace (names : List String) (n : String) : FreeIn R (inPlace names n) := by
  unfold inPlace
  split
  · exact IsFree.name n
  · exact IsFree.alias n _

lemma freeIn_inCallOrder {arguments : List Argument} (h : FreeIn R arguments) :
    FreeIn R (inCallOrder arguments) := by
  refine freeIn_append.2 ⟨?_, ?_⟩
  all_goals exact freeIn_of_subset List.filter_sublist.subset h

section Settling

variable {names : List String}

mutual

/-- A folded expression is free as it is evaluated. -/
theorem freeIn_settled : ∀ (later : Bool) {e : Expr}, FreeIn R e → FreeIn R (settled names later e)
  | later, .literal d, .literal h => freeIn_exceptBind_of _ fun _ => IsFree.literal h
  | later, .name n, _ => freeIn_inPlace names n
  | later, .alias n other, _ => IsFree.alias n other
  | later, .list items, .list h =>
    freeIn_exceptBind (freeIn_settledAll later h) fun _ hitems => IsFree.list hitems
  | later, .tuple items, .tuple h =>
    freeIn_exceptBind (freeIn_settledAll later h) fun _ hitems => IsFree.tuple hitems
  | later, .concat parts, .concat h =>
    freeIn_exceptBind (freeIn_settledAll later h) fun _ hparts => IsFree.concat hparts
  | later, .dict entries, .dict hkeys h =>
    freeIn_exceptBind (freeIn_settledEntries later hkeys h) fun _ hentries =>
      IsFree.dict (fun p hp => (hentries p hp).1) fun p hp => (hentries p hp).2
  | later, .attribute e n, .attribute h _ =>
    freeIn_exceptBind (freeIn_settled later h) fun _ he => IsFree.attribute he n
  | later, .item e key, .item h hkey =>
    freeIn_exceptBind (freeIn_settled later h) fun _ he =>
      freeIn_exceptBind (freeIn_settled later hkey) fun _ hkey => IsFree.item he hkey
  | later, .slice e start stop step, .slice h hstart hstop hstep => by
    refine freeIn_exceptBind (freeIn_settled later h) fun e he => ?_
    refine freeIn_exceptBind (freeIn_settled later hstart) fun start hstart => ?_
    refine freeIn_exceptBind (freeIn_settled later hstop) fun stop hstop => ?_
    exact freeIn_exceptBind (freeIn_settled later hstep) fun step hstep =>
      IsFree.slice he hstart hstop hstep
  | later, .sliceKey start stop step, .sliceKey hstart hstop hstep => by
    refine freeIn_exceptBind (freeIn_settled later hstart) fun start hstart => ?_
    refine freeIn_exceptBind (freeIn_settled later hstop) fun stop hstop => ?_
    exact freeIn_exceptBind (freeIn_settled later hstep) fun step hstep =>
      IsFree.sliceKey hstart hstop hstep
  | later, .call callee arguments, .call h harguments => by
    refine freeIn_exceptBind (freeIn_settled later h) fun callee hcallee => ?_
    exact freeIn_exceptBind (freeIn_settledArguments later harguments) fun arguments harguments =>
      IsFree.call hcallee (freeIn_inCallOrder harguments)
  | later, .filter line e n arguments, .filter _ h _ harguments => by
    refine freeIn_exceptBind_of _ fun _ => freeIn_exceptBind (freeIn_settled later h) fun e he => ?_
    exact freeIn_exceptBind (freeIn_settledArguments later harguments) fun arguments harguments =>
      IsFree.filter line he n (freeIn_inCallOrder harguments)
  | later, .test line e n arguments, .test _ h _ harguments => by
    refine freeIn_exceptBind_of _ fun _ => freeIn_exceptBind (freeIn_settled later h) fun e he => ?_
    exact freeIn_exceptBind (freeIn_settledArguments later harguments) fun arguments harguments =>
      IsFree.test line he n (freeIn_inCallOrder harguments)
  | later, .negative e, .negative h =>
    freeIn_exceptBind (freeIn_settled later h) fun _ he => IsFree.negative he
  | later, .positive e, .positive h =>
    freeIn_exceptBind (freeIn_settled later h) fun _ he => IsFree.positive he
  | later, .not e, .not h => freeIn_exceptBind (freeIn_settled later h) fun _ he => IsFree.not he
  | later, .binary op left right, .binary _ h hright => by
    have hleft := freeIn_settled later h
    have hright := freeIn_settled later hright
    cases op with
    | power =>
      exact freeIn_exceptBind hleft fun left hleft => freeIn_exceptBind hright fun right hright =>
        freeIn_power hleft hright
    | add | subtract | multiply | divide | floorDivide | remainder =>
      exact freeIn_exceptBind hleft fun left hleft => freeIn_exceptBind hright fun right hright =>
        IsFree.binary _ hleft hright
  | later, .compare first rest, .compare h hrest => by
    refine freeIn_exceptBind (freeIn_settled later h) fun first hfirst => ?_
    exact freeIn_exceptBind (freeIn_settledChain later hrest) fun rest hrest =>
      IsFree.compare hfirst fun p hp => (hrest p hp).2
  | later, .and left right, .and h hright =>
    freeIn_exceptBind (freeIn_settled later h) fun _ hleft =>
      freeIn_exceptBind (freeIn_settled later hright) fun _ hright => IsFree.and hleft hright
  | later, .or left right, .or h hright =>
    freeIn_exceptBind (freeIn_settled later h) fun _ hleft =>
      freeIn_exceptBind (freeIn_settled later hright) fun _ hright => IsFree.or hleft hright
  | later, .choice condition body other, .choice h hbody hother => by
    refine freeIn_exceptBind (freeIn_settled true hbody) fun body hbody => ?_
    refine freeIn_exceptBind (freeIn_settled true h) fun condition hcondition => ?_
    exact freeIn_exceptBind (freeIn_settled true hother) fun other hother =>
      IsFree.choice hcondition hbody hother
  | later, .guarded line condition body, .guarded _ h hbody => by
    refine freeIn_exceptBind (freeIn_settled true hbody) fun body hbody => ?_
    exact freeIn_exceptBind (freeIn_settled true h) fun condition hcondition =>
      IsFree.guarded line hcondition hbody
termination_by structural _ e => e

theorem freeIn_settledAll : ∀ (later : Bool) {es : List Expr}, FreeIn R es →
    FreeIn R (settledAll names later es)
  | later, [], _ => freeIn_nil
  | later, e :: es, h => by
    obtain ⟨he, hes⟩ := freeIn_cons.1 h
    refine freeIn_exceptBind (freeIn_settled later he) fun e he => ?_
    exact freeIn_exceptBind (freeIn_settledAll later hes) fun es hes => freeIn_cons.2 ⟨he, hes⟩
termination_by structural _ es => es

theorem freeIn_settledEntries : ∀ (later : Bool) {entries : List (Expr × Expr)},
    (∀ p ∈ entries, FreeIn R p.1) → (∀ p ∈ entries, FreeIn R p.2) →
      FreeIn R (settledEntries names later entries)
  | later, [], _, _ => freeIn_nil
  | later, (k, e) :: entries, hkeys, h => by
    obtain ⟨hk, hkeys⟩ := List.forall_mem_cons.1 hkeys
    obtain ⟨he, h⟩ := List.forall_mem_cons.1 h
    refine freeIn_exceptBind (freeIn_settled later hk) fun k hk => ?_
    refine freeIn_exceptBind (freeIn_settled later he) fun e he => ?_
    refine freeIn_exceptBind (freeIn_settledEntries later hkeys h) fun entries hentries => ?_
    exact freeIn_cons.2 ⟨⟨hk, he⟩, hentries⟩
termination_by structural _ entries => entries

theorem freeIn_settledChain : ∀ (later : Bool) {rest : List (CompareOp × Expr)},
    (∀ p ∈ rest, FreeIn R p.2) → FreeIn R (settledChain names later rest)
  | later, [], _ => freeIn_nil
  | later, (op, e) :: rest, h => by
    obtain ⟨he, h⟩ := List.forall_mem_cons.1 h
    refine freeIn_exceptBind (freeIn_settled later he) fun e he => ?_
    refine freeIn_exceptBind (freeIn_settledChain later h) fun rest hrest => ?_
    exact freeIn_cons.2 ⟨⟨trivial, he⟩, hrest⟩
termination_by structural _ rest => rest

theorem freeIn_settledArguments : ∀ (later : Bool) {arguments : List Argument},
    FreeIn R arguments → FreeIn R (settledArguments names later arguments)
  | later, [], _ => freeIn_nil
  | later, .positional e :: rest, h => by
    obtain ⟨hargument, h⟩ := freeIn_cons.1 h
    cases hargument with | positional he =>
    refine freeIn_exceptBind (freeIn_settled later he) fun e he => ?_
    refine freeIn_exceptBind (freeIn_settledArguments later h) fun rest hrest => ?_
    exact freeIn_cons.2 ⟨.positional he, hrest⟩
  | later, .named n e :: rest, h => by
    obtain ⟨hargument, h⟩ := freeIn_cons.1 h
    cases hargument with | named _ he =>
    refine freeIn_exceptBind (freeIn_settled later he) fun e he => ?_
    refine freeIn_exceptBind (freeIn_settledArguments later h) fun rest hrest => ?_
    exact freeIn_cons.2 ⟨.named n he, hrest⟩
  | later, .spread e :: rest, h => by
    obtain ⟨hargument, h⟩ := freeIn_cons.1 h
    cases hargument with | spread he =>
    refine freeIn_exceptBind (freeIn_settled later he) fun e he => ?_
    refine freeIn_exceptBind (freeIn_settledArguments later h) fun rest hrest => ?_
    exact freeIn_cons.2 ⟨.spread he, hrest⟩
  | later, .spreadNamed e :: rest, h => by
    obtain ⟨hargument, h⟩ := freeIn_cons.1 h
    cases hargument with | spreadNamed he =>
    refine freeIn_exceptBind (freeIn_settled later he) fun e he => ?_
    refine freeIn_exceptBind (freeIn_settledArguments later h) fun rest hrest => ?_
    exact freeIn_cons.2 ⟨.spreadNamed he, hrest⟩
termination_by structural _ arguments => arguments

end

end Settling

section Environments

variable {environment environment' : Environment}

lemma agree_ofConstant {x y : Except Fault Expr} (h : Except.Agree R x y) :
    Except.Agree R (ofConstant x) (ofConstant y) := by
  obtain ⟨rfl, hx⟩ := h
  cases x with
  | error _ => exact .refl trivial
  | ok e => exact .refl hx

section Assembling

variable {names : List String}

mutual

/-- Environments that treat missing values alike compute the constant parts alike. -/
theorem agree_assembled (hstrict : environment.strict = environment'.strict) :
    ∀ {e : Expr}, FreeIn R e →
      Except.Agree R (assembled names environment e) (assembled names environment' e)
  | e, h => by
    have hother : Except.Agree R (do settled names false (← ofConstant (e.folded environment)))
        (do settled names false (← ofConstant (e.folded environment'))) :=
      (agree_ofConstant (agree_folded hstrict h)).bind fun _ he => .refl (freeIn_settled false he)
    cases e with
    | literal d => exact .refl (freeIn_settled false h)
    | list items =>
      cases h with | list h =>
      exact (agree_assembledAll hstrict h).bind fun _ hitems => .pure (IsFree.list hitems)
    | tuple items =>
      cases h with | tuple h =>
      exact (agree_assembledAll hstrict h).bind fun _ hitems => .pure (IsFree.tuple hitems)
    | dict entries =>
      cases h with | dict hkeys h =>
      refine (agree_assembledEntries hstrict hkeys h).bind fun _ hentries => .pure ?_
      exact IsFree.dict (fun p hp => (hentries p hp).1) fun p hp => (hentries p hp).2
    | _ => exact hother
termination_by structural e => e

theorem agree_assembledAll (hstrict : environment.strict = environment'.strict) :
    ∀ {es : List Expr}, FreeIn R es →
      Except.Agree R (assembledAll names environment es) (assembledAll names environment' es)
  | [], _ => .pure freeIn_nil
  | e :: es, h => by
    obtain ⟨he, hes⟩ := freeIn_cons.1 h
    refine (agree_assembled hstrict he).bind fun e he => ?_
    refine (agree_assembledAll hstrict hes).bind fun es hes => ?_
    exact .pure (freeIn_cons.2 ⟨he, hes⟩)
termination_by structural es => es

theorem agree_assembledEntries (hstrict : environment.strict = environment'.strict) :
    ∀ {entries : List (Expr × Expr)}, (∀ p ∈ entries, FreeIn R p.1) → (∀ p ∈ entries, FreeIn R p.2) →
      Except.Agree R
        (assembledEntries names environment entries) (assembledEntries names environment' entries)
  | [], _, _ => .pure freeIn_nil
  | (k, e) :: entries, hkeys, h => by
    obtain ⟨hk, hkeys⟩ := List.forall_mem_cons.1 hkeys
    obtain ⟨he, h⟩ := List.forall_mem_cons.1 h
    refine (agree_assembled hstrict hk).bind fun k hk => ?_
    refine (agree_assembled hstrict he).bind fun e he => ?_
    refine (agree_assembledEntries hstrict hkeys h).bind fun entries hentries => ?_
    exact .pure (freeIn_cons.2 ⟨⟨hk, he⟩, hentries⟩)
termination_by structural entries => entries

end

end Assembling

/-- An expression is prepared alike, and free. -/
lemma agree_prepared (hstrict : environment.strict = environment'.strict) {e : Expr}
    (he : FreeIn R e) : Except.Agree R (prepared environment e) (prepared environment' e) :=
  (agree_assembled hstrict he).bind fun _ hp => .refl (freeIn_exceptBind_of _ fun _ => hp)

end Environments

end Expr

/-! ## Compiled sources -/

/-- **A source is compiled alike** by environments that treat missing values alike, and what it is
compiled to is free. -/
theorem Expression.agree_parse {environment environment' : Environment}
    (hstrict : environment.strict = environment'.strict) (source : List Char) :
    Except.Agree R (parse environment source) (parse environment' source) := by
  unfold parse
  split
  · exact .refl trivial
  · refine (Except.Agree.refl (Expr.freeIn_ofSource _)).bind fun e he => ?_
    exact (Expr.agree_prepared hstrict he).bind fun _ hp => .pure hp

end Interpolation
