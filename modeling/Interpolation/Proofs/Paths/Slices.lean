import Interpolation.Proofs.Names.Entries
import Interpolation.Proofs.Paths.Nameless

/-!
# Slices and futures

A slice is no lookup of the environment: it takes the value as it is, and so nothing resolves a
future that is sliced.  Items and attributes look at what a future stands for, so behind the first of
them the value is the same as if the name stood for that, and everything that follows is the same.
The name has different values on the two sides all the while, but no step asks for it.

* `Setting.Alike.walkParts_ends` — from a value without futures on, settings that resolve and settings
  that do not go the same way, whatever the names stand for.
* `Setting.SettlesBy.lookup_seen` — a lookup looks at what a future stands for.
* `Setting.Alike.eval_seen`, `Setting.eval_sliced_future` — selections that begin with a lookup, and
  those that begin with a slice.
* **`Engine.slice_of_future`** — a slice does not see through a future, unless a lookup comes first.
-/

namespace Interpolation

variable {R : Region} {σ τ : Store}

/-! ## Futures that are sliced -/

/-- A future has no parts to be taken. -/
lemma Value.sliced_future {v : Value} {id : FutureId} (hv : v.content = .future id)
    (start stop step : Value) :
    v.sliced start stop step = throw (.notSubscriptable v.typeWord) := by
  simp only [sliced, cut?, hv]

/-! ## Steps from free values -/

namespace Setting

variable {s t : Setting} {ts tt : Settlement} {v : Value}

/-- Steps and slices of a free value are found alike. -/
lemma Alike.part (h : s.Alike R t) (hv : FreeIn R v) (k : Part) :
    Eval.Agree R (s.part v k) (t.part v k) := by
  cases k with
  | slice b =>
    have hbound : ∀ b : Bound, FreeIn R b.value := fun b => by cases b <;> exact trivial
    exact v.safe_sliced hv (hbound _) (hbound _) (hbound _)
  | lookup k =>
    cases k with
    | attr n => exact h.attributeOf hv n
    | item k =>
      have hkey : FreeIn R k.value := by cases k <;> exact trivial
      exact h.itemOf hv hkey

lemma Alike.walkParts (h : s.Alike R t) (ks : List Part) :
    ∀ {v}, FreeIn R v → Eval.Agree R (s.walkParts v ks) (t.walkParts v ks) := by
  induction ks with
  | nil => exact fun hv => .pure hv
  | cons k ks ih => exact fun hv => (h.part hv k).bind fun _ hw => ih hw

/-- What steps come to is no future, so nothing becomes of it once more. -/
lemma conclude_free (hs : ts.Still) (hv : FreeIn R v) :
    s.conclude ts v = liftM (Expression.settle s.strict v) := by
  have hfree := Expression.freeIn_settle (R := R) s.strict hv
  rw [Setting.conclude]
  cases hsettle : Expression.settle s.strict v with
  | error f => rfl
  | ok u =>
    rw [hsettle] at hfree
    exact congrArg liftM (hs u fun id hid => freeIn_of_content hid hfree)

end Setting

/-! ## The first step -/

lemma Store.valueOf?_withNames (σ : Store) (n : String) (v : Value) :
    (σ.withNames [(n, v)]).valueOf? n = some v := by
  simp [withNames, valueOf?]

/-- What an evaluation amounts to that ends with a free value or a fault. -/
lemma Setting.conclude_ends {s : Setting} {ts : Settlement} (hs : ts.Still) {x : Eval Value}
    {r : Except Fault Value} {told : Trace} (hr : FreeIn R r) (hx : x.Ends σ r τ told) :
    (x.inStream >>= s.conclude ts).Ends σ
      (r.mapError Fault.outOfStream >>= Expression.settle s.strict) τ told := by
  cases r with
  | error f => exact hx.inStream.bind_error
  | ok v =>
    have hconclude : (s.conclude ts v).Ends τ (Expression.settle s.strict v) τ [] := by
      rw [conclude_free hs hr]
      exact .except _ τ
    have hboth := hx.inStream.bind hconclude
    rwa [List.append_nil] at hboth

/-- What comes behind an evaluation that tells nothing. -/
lemma Eval.Ends.rest {α β : Type} {x : Eval α} {f : α → Eval β} {a : α} {r : Except Fault β}
    {σ' : Store} {told : Trace} (hx : x.Ends σ (.ok a) σ' []) (h : (x >>= f).Ends σ r τ told) :
    (f a).Ends σ' r τ told := by
  intro trace
  have hboth := h trace
  rwa [outcome_bind_ok (hx trace), List.append_nil] at hboth

namespace Setting

variable {s t : Setting} {ts tt : Settlement} {v u : Value}

/-- A lookup from a value that counts as another one goes on as the lookup from that one does. -/
lemma SettlesBy.lookup_seen (hs : s.SettlesBy σ.commons ts) (hv : ts.result v = .ok u)
    (hu : ts.result u = .ok u) (hquiet : ∀ text, ts.told u text = []) (k : Lookup)
    (f : Value → Eval Value) {r : Except Fault Value} {told : Trace}
    (h : (s.lookup u k >>= f).Ends σ r τ told) :
    (s.lookup v k >>= f).Ends σ r τ (ts.told v k.word ++ told) := by
  have hsettled : (s.settled k.key u).Ends σ (.ok u) σ [] := by
    have hends := hs.ends_key k u rfl
    rwa [hu, hquiet] at hends
  have hseen : (s.settled k.key v).Ends σ (.ok u) σ (ts.told v k.word) := hv ▸ hs.ends_key k v rfl
  rw [lookup_eq, bind_assoc] at h ⊢
  exact hseen.bind (hsettled.rest h)

/-- From a free value on, the steps come to the same in both settings, and in the first one whatever
names stand for. -/
lemma Alike.walkParts_ends (h : s.Alike R t) (hs : s.Settles) (ht : t.Settles) (ks : List Part)
    (hu : FreeIn R u) {names : List (String × Value)} (hσ : FreeIn R (σ.withNames names)) :
    ∃ (r : Except Fault Value) (τ : Store), FreeIn R r ∧
      (∀ names, (s.walkParts u ks).Ends (σ.withNames names) r (τ.withNames names) []) ∧
      (t.walkParts u ks).Ends (σ.withNames names) r (τ.withNames names) [] := by
  obtain ⟨r, τ, told, hfirst⟩ := hs.nameless_walkParts ks u σ
  obtain ⟨r', τ', told', hsecond⟩ := ht.nameless_walkParts ks u σ
  obtain ⟨a, after, hx, hy, hfree, -⟩ := (h.walkParts ks hu).ends_region hσ
  obtain ⟨rfl, rfl, rfl⟩ := hx.unique (hfirst names)
  exact ⟨a, τ, hfree, hfirst, hy⟩

/-- **Behind a lookup, a future is as good as what it stands for.** -/
theorem Alike.eval_seen (h : s.Alike R t) (hs : s.Settles) (ht : t.Settles)
    (hts : s.SettlesBy σ.commons ts) (hstill : ts.Still) {p : Selection} {k : Lookup}
    {rest : List Part} (hparts : p.parts = .lookup k :: rest) (hself : p.name ≠ "self")
    (hv : ts.result v = .ok u) (hquiet : ∀ text, ts.told u text = []) (hu : FreeIn R u)
    (hσ : FreeIn R (σ.withNames [(p.name, u)])) :
    ∃ (r : Except Fault Value) (τ : Store) (told : Trace), FreeIn R r ∧
      (s.eval p.expr).Ends (σ.withNames [(p.name, v)]) r (τ.withNames [(p.name, v)]) told ∧
      (t.eval p.expr).Ends (σ.withNames [(p.name, u)]) r (τ.withNames [(p.name, u)]) [] := by
  obtain ⟨r, τ, hr, hfirst, hsecond⟩ := h.walkParts_ends hs ht p.parts hu hσ
  have hname : ∀ (s : Setting) (w : Value), Eval.Ends (liftM (s.name p.name))
      (σ.withNames [(p.name, w)]) (.ok w) (σ.withNames [(p.name, w)]) [] := fun s w => by
    have h := s.name_ends hself (σ.withNames [(p.name, w)])
    rwa [Store.valueOf?_withNames] at h
  have hstays : ts.result u = .ok u := hstill u fun id hid => freeIn_of_content hid hu
  refine ⟨r, τ, ts.told v k.word ++ [], hr, ?_, ?_⟩
  · have hwalk := hfirst [(p.name, v)]
    rw [hparts, walkParts_cons] at hwalk
    rw [eval_selection]
    refine (hname s v).andThen ?_
    rw [hparts, walkParts_cons]
    exact hts.lookup_seen (σ := σ.withNames [(p.name, v)]) hv hstays hquiet k _ hwalk
  · rw [eval_selection]
    exact (hname t u).andThen hsecond

/-- **A future that is sliced is an error**, whatever it stands for, and whatever comes behind the
slice. -/
theorem eval_sliced_future {p : Selection} {b : Bounds} {rest : List Part}
    (hparts : p.parts = .slice b :: rest) (hself : p.name ≠ "self") {id : FutureId}
    (hv : v.content = .future id) :
    (s.eval p.expr).Ends (σ.withNames [(p.name, v)]) (.error (.notSubscriptable v.typeWord))
      (σ.withNames [(p.name, v)]) [] := by
  have hname := s.name_ends hself (σ.withNames [(p.name, v)])
  rw [Store.valueOf?_withNames] at hname
  rw [eval_selection]
  refine hname.andThen ?_
  rw [hparts, walkParts_cons, part, Option.getD_some, Value.sliced_future hv]
  exact .bind_error (.throw _ _)

end Setting

/-! ## Sources with slices -/

section Sources

open Text

lemma Selection.writtenAs_slice :
    WrittenAs ⟨"x", [.slice ⟨.whole 0 rfl, .whole 1 rfl, .nothing⟩]⟩ "x[0:1]" := by
  let words : TokenList := ⟨[⟨1, .name "x"⟩, ⟨1, .symbol .leftBracket⟩, ⟨1, .integer 0⟩,
    ⟨1, .symbol .colon⟩, ⟨1, .integer 1⟩, ⟨1, .symbol .rightBracket⟩], none⟩
  have hwords : tokenize (strip "x[0:1]".toList) = words := by
    set_option maxRecDepth 4000 in rfl
  have hread : words.toExpr = .ok (.slice (.name "x") (Bound.whole 0 rfl).expr
      (Bound.whole 1 rfl).expr Bound.nothing.expr) := by
    set_option maxRecDepth 2000 in rfl
  exact ⟨_, (congrArg TokenList.toExpr hwords).trans hread,
    .slice (.name "x") (Bound.of_expr _) (Bound.of_expr _) (Bound.of_expr _), by decide⟩

lemma Selection.writtenAs_item_slice :
    WrittenAs ⟨"x", [.lookup (.item (.whole 0 rfl)),
      .slice ⟨.whole 0 rfl, .whole 1 rfl, .nothing⟩]⟩ "x[0][0:1]" := by
  let words : TokenList := ⟨[⟨1, .name "x"⟩, ⟨1, .symbol .leftBracket⟩, ⟨1, .integer 0⟩,
    ⟨1, .symbol .rightBracket⟩, ⟨1, .symbol .leftBracket⟩, ⟨1, .integer 0⟩, ⟨1, .symbol .colon⟩,
    ⟨1, .integer 1⟩, ⟨1, .symbol .rightBracket⟩], none⟩
  have hwords : tokenize (strip "x[0][0:1]".toList) = words := by
    set_option maxRecDepth 4000 in rfl
  have hread : words.toExpr = .ok (.slice (.item (.name "x") (Key.whole 0 rfl).expr)
      (Bound.whole 0 rfl).expr (Bound.whole 1 rfl).expr Bound.nothing.expr) := by
    set_option maxRecDepth 2000 in rfl
  exact ⟨_, (congrArg TokenList.toExpr hwords).trans hread,
    .slice (.item (.name "x") (Key.of_expr _)) (Bound.of_expr _) (Bound.of_expr _)
      (Bound.of_expr _), by decide⟩

end Sources

/-! ## Contexts with futures -/

/-- A free store with other free values for names. -/
lemma Store.IsFree.withNames (h : σ.IsFree R) {n : String} {v : Value} (hv : FreeIn R v) :
    FreeIn R (σ.withNames [(n, v)]) :=
  ⟨h.beyond, h.first, h.cells, List.forall_mem_singleton.2 ⟨trivial, hv⟩, h.constants⟩

/-- A name has the value that the context holds for it, if that is kept already. -/
lemma Store.giving_held {n : String} {v : Value} (h : (Building.keep v).run σ = (v, σ)) :
    σ.giving n (.held v) = σ.withNames [(n, v)] := by
  rw [giving, Datum.load, h]
  rfl

/-- There is only one value for a future, so it need not be kept. -/
lemma Building.keep_future {v : Value} {id : FutureId} (hv : v.content = .future id) (σ : Store) :
    (keep v).run σ = (v, σ) := by
  rw [keep, hv]
  cases v.identity <;> rfl

/-- **A slice does not see through a future, unless a lookup comes first.**  A source that is a name
with attributes, items and slices behind it, with any bounds, has a compiled expression, whether
futures are resolved or left alone.  Let a context, written down or in the store, have a future for
the name.

If a slice comes first, the expression ends with the fault that a future has no parts, in whatever
state the future is, whatever comes behind the slice, and whether futures are resolved or not.

If an attribute or an item comes first, the expression that resolves futures has the value, or ends
with the fault, that the one which leaves them alone has in any context in which the name has what
the future stands for: its result if it is done, and nothing while it is pending or when it was
cancelled.  No future may occur in the result at any depth.  The parts of values are the same
afterwards, apart from what the name stands for. -/
theorem Engine.slice_of_future {source : String} {p : Selection} (hsource : p.WrittenAs source)
    (g : Engine) (logging logging' : Option Bool) :
    ∃ x y, (g.compile source (some true) logging).1 = .ok x ∧
      (g.compile source (some false) logging').1 = .ok y ∧
      ∀ (fs : Futures) (store : Store) (context : Datum) (v : Value) (id : FutureId),
        v.content = .future id → Datum.Assigns store p.name context (.held v) →
        (∀ b rest, p.parts = .slice b :: rest → ∃ records records',
          x.answer fs context store = (.error (.fault (.notSubscriptable v.typeWord)),
            ⟨store.unbound.fresh.withNames [(p.name, v)], records⟩) ∧
          y.answer fs context store = (.error (.fault (.notSubscriptable v.typeWord)),
            ⟨store.unbound.fresh.withNames [(p.name, v)], records'⟩)) ∧
        (∀ k rest, p.parts = .lookup k :: rest →
          ∀ u, (fs.now store).resolve v = .ok u → (Datum.held u).FutureFree store →
            (∀ s, (Building.keep u).run s = (u, s)) →
            ∀ context', Datum.Assigns store p.name context' (.held u) →
              ∃ (r : Except RenderFault Value) (τ : Store) (records records' : List Record),
                x.answer fs context store = (r, ⟨τ.withNames [(p.name, v)], records⟩) ∧
                y.answer fs context' store = (r, ⟨τ.withNames [(p.name, u)], records'⟩)) := by
  obtain ⟨x, hx, hxof, hxstrict, hxresolving⟩ := g.compile_selection hsource (some true) logging
  obtain ⟨y, hy, hyof, hystrict, hyresolving⟩ := g.compile_selection hsource (some false) logging'
  refine ⟨x, y, hx, hy, fun fs store context v id hv hcontext => ⟨fun b rest hparts => ?_,
    fun k rest hparts u hu hfree hkept context' hcontext' => ?_⟩⟩
  · have heval := fun (e : Expression) (ts : Setting.Settlement) =>
      ((e.setting fs).eval_sliced_future (σ := store.unbound.fresh) hparts hcontext.ne_self
        hv).inStream.bind_error (f := (e.setting fs).conclude ts)
    rw [← Store.giving_held (Building.keep_future hv _)] at heval ⊢
    obtain ⟨records, hfirst⟩ := hxof.answer_of_ends hcontext (heval x _)
    obtain ⟨records', hsecond⟩ := hyof.answer_of_ends hcontext (heval y _)
    exact ⟨records, records', hfirst, hsecond⟩
  · obtain ⟨R, hstore, hufree⟩ := hfree
    have halike : (x.setting fs).Alike R (y.setting fs) :=
      (Environment.Alike.of_strict (hxstrict.trans hystrict.symm)).setting fs
    have hseen : (x.environment.settlement (fs.now store)).result v = .ok u := by
      rw [x.environment.settlement_of_resolving (hxof.resolving.trans hxresolving)]
      exact hu
    obtain ⟨r, τ, told, hr, hfirst, hsecond⟩ := halike.eval_seen (σ := store.unbound.fresh)
      (x.environment.settles fs) (y.environment.settles fs) (x.environment.settlesBy fs store)
      (x.environment.still _) hparts hcontext.ne_self hseen
      (x.environment.settlement_told hufree) hufree (hstore.fresh.withNames hufree)
    rw [← Store.giving_held (Building.keep_future hv _)] at hfirst
    rw [← Store.giving_held (hkept _)] at hsecond
    have hfirst := fun fs' => (x.setting fs).conclude_ends (x.environment.still fs') hr hfirst
    have hsecond := fun fs' => (y.setting fs).conclude_ends (y.environment.still fs') hr hsecond
    rw [← halike.strict] at hsecond
    obtain ⟨records, hx⟩ := hxof.answer_of_ends hcontext (hfirst _)
    obtain ⟨records', hy⟩ := hyof.answer_of_ends hcontext' (hsecond _)
    exact ⟨_, τ, records, records', hx, hy⟩

/-- The result of the future is a list in which a list of two numbers stands.  The first of its items
cannot be taken as a slice of the future, but a slice of the first item is what it is without the
future. -/
theorem Engine.slice_of_future_list :
    let g := Engine.new false true false
    let u : Value := .ofContent (.list ⟨2⟩)
    let v : Value := .ofContent (.future ⟨0, .threads⟩)
    let fs : Futures := ⟨[⟨.done u⟩]⟩
    let row : Cell := .row #[.ofContent (.int 1), .ofContent (.int 2)]
    let store : Store :=
      ⟨#[.row #[], row, .row #[.ofContent (.list ⟨1⟩)]], 0, none, [], [], .untouched⟩
    let context (w : Value) : Datum := .dict [(.atom (.str "x"), .held w)]
    fs.resolve v = .ok u ∧ (Datum.held u).FutureFree store ∧
      (∃ x τ records, (g.compile "x[0:1]" (some true) none).1 = .ok x ∧
        x.answer fs (context v) store =
          (.error (.fault (.notSubscriptable v.typeWord)), ⟨τ, records⟩)) ∧
      ∃ x y r τ τ' records records',
        (g.compile "x[0][0:1]" (some true) none).1 = .ok x ∧
        (g.compile "x[0][0:1]" (some false) none).1 = .ok y ∧
        x.answer fs (context v) store = (r, ⟨τ, records⟩) ∧
        y.answer fs (context u) store = (r, ⟨τ', records'⟩) := by
  intro g u v fs row store context
  have hcells : FreeIn (Set.univ : Region) store.cells := by
    have hnumbers : FreeIn (Set.univ : Region) row :=
      List.forall_mem_cons.2 ⟨trivial, List.forall_mem_singleton.2 trivial⟩
    have hlists : FreeIn (Set.univ : Region) (Cell.row #[.ofContent (.list ⟨1⟩)]) :=
      List.forall_mem_singleton.2 trivial
    exact List.forall_mem_cons.2 ⟨freeIn_nil, List.forall_mem_cons.2
      ⟨hnumbers, List.forall_mem_singleton.2 hlists⟩⟩
  have hfree : (Datum.held u).FutureFree store := Datum.futureFree_of_univ hcells freeIn_nil trivial
  have hassigns : ∀ w, Datum.Assigns store "x" (context w) (.held w) := fun w =>
    .written ⟨List.forall_mem_singleton.2 rfl, rfl⟩ rfl
  refine ⟨rfl, hfree, ?_, ?_⟩
  · obtain ⟨x, y, hx, -, hfuture⟩ := Engine.slice_of_future Selection.writtenAs_slice g none none
    obtain ⟨records, -, hanswer, -⟩ := (hfuture fs store (context v) v ⟨0, .threads⟩ rfl
      (hassigns v)).1 _ [] rfl
    exact ⟨x, _, records, hx, hanswer⟩
  · obtain ⟨x, y, hx, hy, hfuture⟩ := Engine.slice_of_future Selection.writtenAs_item_slice g none
      none
    obtain ⟨r, τ, records, records', hanswer, hanswer'⟩ := (hfuture fs store (context v) v
      ⟨0, .threads⟩ rfl (hassigns v)).2 _ _ rfl u rfl hfree (fun _ => rfl) (context u) (hassigns u)
    exact ⟨x, y, r, _, _, records, records', hx, hy, hanswer, hanswer'⟩

end Interpolation
