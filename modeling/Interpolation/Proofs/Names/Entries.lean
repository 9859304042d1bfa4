import Interpolation.Proofs.Names.Identifiers
import Interpolation.Proofs.Paths.SeeingThrough

/-!
# The entries of a context

A mapping of names is handed to an expression with all its entries, but the expression asks for its
own names only, and what every context has comes behind what this one says.  So a name that stands
alone amounts to the entry of its key, and neither the other keys nor the word that was chosen for
the key can change that.  There are two exceptions.  A context with the key `self` is refused by
every expression, and the word under which the value of an expression is kept is lost in all shapes
but its own.

A mapping may be written down, or it may be in the store already; the two are looked at in different
ways, and `Datum.Assigns` holds for both.

* `Datum.Assigns` — a context is a mapping of names and has a datum for one of them.
* `Datum.Assigns.bind_ends` — then the name gets the value that is made from the datum.
* **`Engine.name_has_value`** — a name that stands alone amounts to its entry.
-/

namespace Interpolation

/-- The context is a mapping of names, without `self`, and has a datum for a name. -/
inductive Datum.Assigns (store : Store) (n : String) : Datum → Datum → Prop
  /-- The mapping is written down; the last entry for the name counts. -/
  | written {entries d} (h : NamesOnly entries) (hd : valueOf? entries n = some d) :
    Assigns store n (.dict entries) d
  /-- The mapping is in the store. -/
  | stored {v r e} (hv : v.content = .dict r)
    (htexts : ∀ e ∈ store.entries r, e.1.text?.isSome)
    (hfree : ∀ e ∈ store.entries r, e.1.text? ≠ some "self")
    (he : (store.entries r).find? (fun e => e.1.text? == some n) = some e) :
    Assigns store n (.held v) (.held e.2)

/-- The store in which a datum was made into a value, which is the one that a name has. -/
def Store.giving (σ : Store) (n : String) (d : Datum) : Store :=
  { (d.load.run σ).2 with bound := [(n, (d.load.run σ).1)] }

/-! ## Entries as names -/

/-- Entries whose keys are texts are named values, and a name has the value of the first entry for
it. -/
lemma lookup_namedEntries {entries : List (Value × Value)}
    (h : ∀ e ∈ entries, e.1.text?.isSome) :
    ∃ named, namedEntries entries = .ok named ∧
      ∀ n, (named.map fun (n, v) => (n, Datum.held v)).lookup n =
        (entries.find? fun e => e.1.text? == some n).map fun e => .held e.2 := by
  induction entries with
  | nil => exact ⟨[], rfl, fun _ => rfl⟩
  | cons e entries ih =>
    obtain ⟨he, hentries⟩ := List.forall_mem_cons.1 h
    obtain ⟨m, hm⟩ := Option.isSome_iff_exists.1 he
    obtain ⟨named, hnamed, hlookup⟩ := ih hentries
    refine ⟨(m, e.2) :: named, ?_, fun n => ?_⟩
    · rw [namedEntries] at hnamed ⊢
      simp only [List.mapM_cons, hm, hnamed]
      rfl
    · rw [List.map_cons, lookup_cons_eq_ite, List.find?_cons, hlookup, hm]
      by_cases hn : n = m
      · simp [hn]
      · have hm : (some m == some n) = false := by simpa using Ne.symm hn
        rw [if_neg hn, hm]

/-! ## Names with their values -/

/-- What is made from a datum is the value of the name. -/
lemma Store.valueOf?_giving (σ : Store) (n : String) (d : Datum) :
    (σ.giving n d).valueOf? n = some (d.load.run σ).1 := by
  simp [giving, valueOf?]

/-- A name without a value is given the one that is made from its datum. -/
lemma Context.run_bindName {σ : Store} (hσ : σ.bound = []) (n : String) (d : Datum) :
    (bindName n d).run σ = ((), σ.giving n d) := by
  have hbound : (d.load.run σ).2.bound = [] := by rw [(Datum.addsOnly_load d).bound, hσ]
  simp only [bindName, StateT.run_bind, StateT.run_get, pure_bind, hσ]
  show ((), { (d.load.run σ).2 with bound := (d.load.run σ).2.bound ++ [(n, (d.load.run σ).1)] }) = _
  rw [hbound]
  rfl

namespace Datum.Assigns

variable {store : Store} {n : String} {context d : Datum}

/-- The context gives the name the value that is made from the datum. -/
lemma bind_ends (h : Assigns store n context d) :
    ∃ c, Template.opening context store = (c, ⟨store.unbound.fresh, []⟩) ∧
      ∀ s, (c.bind s [n]).Ends store.unbound.fresh (.ok ()) (store.unbound.fresh.giving n d) [] := by
  cases h with
  | @written entries d h hd =>
    obtain ⟨names, hnames, hcontext⟩ := h.ofDatum
    refine ⟨.mapping names, ?_, fun s => ?_⟩
    · rw [Template.opening, hcontext]
      rfl
    · have hnaming : store.unbound.fresh.naming entries n = store.unbound.fresh.giving n d :=
        Store.naming_of_load rfl hd rfl
      exact hnaming ▸ Context.bind_ends hnames s n store.unbound.fresh
  | @stored v r e hv htexts hfree he =>
    obtain ⟨named, hnamed, hlookup⟩ := lookup_namedEntries htexts
    have hkeep : Building.keep v = pure v := by
      rw [Building.keep, hv]
      cases v.identity <;> rfl
    refine ⟨.value v, ?_, fun s => ?_⟩
    · have hloaded : Context.ofDatum (.held v) store.unbound.fresh =
          (.value v, store.unbound.fresh) := by
        show Context.loaded (.held v) store.unbound.fresh = _
        rw [Context.loaded, load, hkeep]
        rfl
      rw [Template.opening, hloaded]
    · have hself : (named.map fun (n, v) => (n, held v)).lookup "self" = none := by
        rw [hlookup, List.find?_eq_none.2 fun e he => ?_]
        · rfl
        · simpa using hfree e he
      have hentries : store.entries r ≠ [] := by
        intro hnil
        rw [hnil] at he
        cases he
      have hfound : ((Context.value v).found s).Ends store.unbound.fresh
          (.ok (named.map fun (n, v) => (n, held v))) store.unbound.fresh [] := by
        have htruth : (v.truth : Look Bool).run store.unbound.fresh = .ok true := by
          simp only [Value.truth, hv]
          show Except.ok (!(store.entries r).isEmpty) = _
          rw [List.isEmpty_eq_false_iff.2 hentries]
          rfl
        have hread : (s.entriesOf v).Ends store.unbound.fresh (.ok (store.entries r))
            store.unbound.fresh [] := by
          simp only [Setting.entriesOf, hv]
          exact .look (Look.entries r) store.unbound.fresh
        refine (htruth ▸ Eval.Ends.look v.truth store.unbound.fresh).andThen ?_
        refine hread.andThen ?_
        have hnames : (liftM (namedEntries (store.entries r)) : Eval _).Ends store.unbound.fresh
            (.ok named) store.unbound.fresh [] := by
          rw [← hnamed]
          exact .except _ _
        refine hnames.andThen ?_
        rw [Context.requireFree, hself]
        exact .pure _ _
      refine hfound.andThen (.andThen (.of_run rfl) (.of_run ?_))
      refine Building.run_forM_singleton _ ?_
      simp only [hlookup, he]
      exact Context.run_bindName rfl n _

/-- A name that a context has is not `self`. -/
lemma ne_self (h : Assigns store n context d) : n ≠ "self" := by
  rintro rfl
  cases h with
  | written h hd =>
    rw [h.free] at hd
    cases hd
  | stored hv htexts hfree he =>
    have htext := List.find?_some he
    exact hfree _ (List.mem_of_find?_eq_some he) (beq_iff_eq.1 htext)

end Datum.Assigns

/-- What a compiled selection comes to, with the value of its name from the context. -/
lemma Expression.OfSelection.answer_of_ends {x : Expression} {p : Selection} {fs : Futures}
    {store τ : Store} {context d : Datum} {a : Except Fault Value} {told : Trace}
    (hx : x.OfSelection p) (h : Datum.Assigns store p.name context d)
    (heval : (((x.setting fs).eval p.expr).inStream >>=
      (x.setting fs).conclude (x.environment.settlement (fs.now τ))).Ends
        (store.unbound.fresh.giving p.name d) a τ told) :
    ∃ records, x.answer fs context store = (a.mapError .fault, ⟨τ, records⟩) := by
  obtain ⟨c, hopening, hbind⟩ := h.bind_ends
  obtain ⟨records, hvalue⟩ : ∃ records, (x.value fs).outcome
      ⟨store.unbound.fresh.giving p.name d, []⟩ = (a.mapError .fault, ⟨τ, records⟩) :=
    hx.outcome_value heval
  refine ⟨records, ?_⟩
  rw [Expression.answer, hopening]
  exact (Gate.outcome_bind_ok (hx.outcome_bind_of_ends (hbind _))).trans hvalue

/-! ## Names as expressions -/

/-- **A name that stands alone amounts to its entry.**  Every engine compiles a name that stands for
what a context says, whether or not every context has a value or a filter of the name.  In a context
of names that has a datum for it, whatever the other names are, and with futures left alone, the
expression amounts to the value that is made from the datum, strictly and leniently.  A value that
is missing itself is one for which the expression is refused, or has nothing. -/
theorem Engine.name_has_value (g : Engine) (logging : Option Bool) {n : String}
    (hn : Expr.IsOrdinary n) :
    ∃ x, (g.compile n (some false) logging).1 = .ok x ∧
      ∀ (fs : Futures) (store : Store) (context d : Datum), Datum.Assigns store n context d →
        let given := d.load.run store.unbound.fresh
        ∃ records, x.answer fs context store =
            ((Expression.settle g.strict given.1).mapError .fault,
              ⟨store.unbound.fresh.giving n d, records⟩) ∧
          (given.1.isMissing = false → (x.answer fs context store).1 = .ok given.1) := by
  obtain ⟨x, hcompile, hx, hstrict, hresolving⟩ :=
    g.compile_path (Path.writtenAs_identifier hn) (some false) logging
  refine ⟨x, hcompile, fun fs store context d h => ?_⟩
  intro given
  have hname := (x.setting fs).name_ends h.ne_self (store.unbound.fresh.giving n d)
  rw [Store.valueOf?_giving] at hname
  have heval : (((x.setting fs).eval (.name n)).inStream >>=
      (x.setting fs).conclude
        (x.environment.settlement (fs.now (store.unbound.fresh.giving n d)))).Ends
        (store.unbound.fresh.giving n d) (Expression.settle g.strict given.1)
        (store.unbound.fresh.giving n d) [] := by
    refine hname.inStream.andThen ?_
    have hsettle : (Expression.settle (x.setting fs).strict given.1 >>=
        (x.environment.settlement (fs.now (store.unbound.fresh.giving n d))).result) =
          Expression.settle g.strict given.1 := by
      rw [x.environment.settlement_of_leaving (hx.resolving.trans hresolving), ← hstrict]
      exact bind_pure _
    rw [Setting.conclude, Option.getD_some, hsettle]
    exact .except _ _
  obtain ⟨records, hanswer⟩ := hx.answer_of_ends h heval
  refine ⟨_, hanswer, fun hthere => ?_⟩
  rw [hanswer, Expression.settle_there hthere]
  rfl

/-- The name of a range is taken by an entry of a context, strictly and leniently, and so is the
name of a filter; other keys are no names at all. -/
theorem Engine.name_has_value_range :
    let context : Datum := .dict [(.atom (.str "upper"), .atom .none), (.atom (.str "range"),
      .atom (.int 5)), (.atom (.str "no name"), .atom (.int 6)), (.atom (.str ""), .list [])]
    Expr.IsOrdinary "range" ∧ Datum.Assigns .empty "range" context (.atom (.int 5)) ∧
      ∀ strict, ∃ x, ((Engine.new strict true true).compile "range" (some false) none).1 = .ok x ∧
        (x.answer .empty context .empty).1 = .ok (.ofContent (.int 5)) := by
  intro context
  have hname : Expr.IsOrdinary "range" := ⟨by decide +kernel, by decide, by decide +kernel⟩
  have hcontext : Datum.Assigns .empty "range" context (.atom (.int 5)) :=
    .written ⟨by decide, rfl⟩ rfl
  refine ⟨hname, hcontext, fun strict => ?_⟩
  obtain ⟨x, hcompile, hall⟩ := Engine.name_has_value (Engine.new strict true true) none hname
  obtain ⟨records, -, hvalue⟩ := hall .empty .empty context _ hcontext
  exact ⟨x, hcompile, hvalue rfl⟩

end Interpolation
