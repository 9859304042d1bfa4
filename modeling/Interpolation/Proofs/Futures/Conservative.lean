import Interpolation.Proofs.Futures.Rendering
import Interpolation.Proofs.Scan.Compiling

/-!
# Resolving futures is conservative

Environments that resolve futures and environments that leave them differ in nothing but what their
lookups do with futures.  So in a context in which no future occurs at any depth, an expression
compiled to resolve them and the same expression compiled to leave them cannot be told apart, and it
makes no difference whether an expression of a template is deferred.

* `Datum.FutureFree` — no future occurs in a datum at any depth.
* `Expression.compile_alike`, `Engine.segments_alike` — the same sources are compiled alike.
* **`Engine.resolving_conservative`** — expressions have the same values, and templates the same
  texts.
-/

namespace Interpolation

/-! ## Contexts without futures -/

/-- No future occurs in a datum at any depth: some places of the store hold no future and refer to
each other only, and the datum holds none and refers to these places only.  The empty tuple and the
constants that the store keeps are among them, since they can be used in any context. -/
def Datum.FutureFree (d : Datum) (store : Store) : Prop :=
  ∃ R : Region, FreeIn R store.unbound ∧ FreeIn R d

/-- If there are no futures in the store at all, those that are written in the datum matter only. -/
lemma Datum.futureFree_of_univ {d : Datum} {store : Store}
    (hcells : FreeIn (Set.univ : Region) store.cells)
    (hconstants : FreeIn (Set.univ : Region) (store.constants.map Prod.snd))
    (hd : FreeIn (Set.univ : Region) d) : d.FutureFree store := by
  refine ⟨Set.univ, ⟨fun _ _ => trivial, trivial, fun p c _ hc => ?_, freeIn_nil, hconstants⟩, hd⟩
  exact hcells c (Array.mem_toList_iff.2 (Array.mem_of_getElem? hc))

/-- A rendering begins without futures. -/
lemma Template.freeIn_opening {R : Region} {context : Datum} {store : Store}
    (hstore : FreeIn R store.unbound) (hcontext : FreeIn R context) :
    FreeIn R (opening context store).1 ∧ FreeIn R (opening context store).2.store := by
  have hsafe := Context.safe_ofDatum (R := R) hcontext
  exact ⟨hsafe.result _ hstore.fresh, hsafe.store _ hstore.fresh⟩

/-! ## Compiling -/

section Compiling

variable {α β : Type} {P : α → α → Prop} {Q : β → β → Prop}

/-- Two compiles end with the same fault, or with results that are related. -/
inductive CompiledAlike {α : Type} (P : α → α → Prop) :
    Except SyntaxFault α → Except SyntaxFault α → Prop
  | error (f : SyntaxFault) : CompiledAlike P (.error f) (.error f)
  | ok {a a' : α} (h : P a a') : CompiledAlike P (.ok a) (.ok a')

namespace CompiledAlike

variable {r r' : Except SyntaxFault α}

protected lemma bind {f f' : α → Except SyntaxFault β} (h : CompiledAlike P r r')
    (hf : ∀ a a', P a a' → CompiledAlike Q (f a) (f' a')) :
    CompiledAlike Q (r >>= f) (r' >>= f') := by
  cases h with
  | error f => exact .error f
  | ok h => exact hf _ _ h

protected lemma map {f f' : α → β} (h : CompiledAlike P r r')
    (hf : ∀ a a', P a a' → Q (f a) (f' a')) : CompiledAlike Q (r.map f) (r'.map f') := by
  cases h with
  | error f => exact .error f
  | ok h => exact .ok (hf _ _ h)

protected lemma imp {Q : α → α → Prop} (h : CompiledAlike P r r')
    (hPQ : ∀ a a', r = .ok a → r' = .ok a' → P a a' → Q a a') : CompiledAlike Q r r' := by
  cases h with
  | error f => exact .error f
  | ok h => exact .ok (hPQ _ _ rfl rfl h)

end CompiledAlike

end Compiling

/-- A source is compiled to something free. -/
lemma Expression.freeIn_parse (R : Scope) (environment : Environment) (source : List Char) :
    FreeIn R (parse environment source) := by
  by_cases hR : R.futures
  · exact freeIn_of_futures hR _
  · rw [R.eq_region hR]
    have hparse : Except.Agree R.places (parse environment source) (parse environment source) :=
      agree_parse rfl source
    exact hparse.free

/-- A source is compiled alike for environments that are alike. -/
lemma Expression.compile_alike {R : Scope} {environment environment' : Environment}
    (h : environment.Alike R environment') {resolving resolving' logging' : Bool}
    (hresolving : R.futures → resolving = resolving')
    (hsilent : R.futures → resolving' = true → logging' = false) (logging : Bool)
    (source : String) :
    CompiledAlike (Expression.Alike R) (compile environment resolving logging source)
      (compile environment' resolving' logging' source) := by
  have hfree := freeIn_parse R environment source.toList
  have hparse : parse environment source.toList = parse environment' source.toList :=
    (agree_parse (R := ∅) h.strict source.toList).eq
  unfold compile
  rw [← hparse]
  cases hbody : parse environment source.toList with
  | error f => exact .error f
  | ok body =>
    rw [hbody] at hfree
    exact .ok ⟨rfl, hfree, h, hresolving, fun _ => rfl, hsilent⟩

/-- A compiled expression keeps what it was compiled from and for. -/
lemma Engine.eq_of_compile {g : Engine} {source : String} {resolving logging : Option Bool}
    {e : Expression} (h : (g.compile source resolving logging).1 = .ok e) :
    ∃ body, e = ⟨source, body, ⟨g.strict, resolving.getD g.resolving,
      resolving.getD g.resolving && logging.getD g.logging⟩, resolving.getD g.resolving,
      logging.getD g.logging⟩ := by
  rw [compile_fst, Expression.compile] at h
  cases hbody : Expression.parse
      ⟨g.strict, resolving.getD g.resolving, resolving.getD g.resolving && logging.getD g.logging⟩
      source.toList with
  | error f => rw [hbody] at h; cases h
  | ok body =>
    rw [hbody] at h
    cases h
    exact ⟨body, rfl⟩

/-- It tells of the future that is its value if it tells of those that its lookups meet. -/
lemma Engine.told_of_compile {g : Engine} {source : String} {resolving logging : Option Bool}
    {e : Expression} (h : (g.compile source resolving logging).1 = .ok e)
    (hresolving : e.resolving = true) : e.environment.logging = e.logging := by
  obtain ⟨body, rfl⟩ := eq_of_compile h
  exact congrArg (· && logging.getD g.logging) hresolving

/-- A piece whose expression is not deferred. -/
def Piece.undeferred : Piece → Piece
  | .literal text => .literal text
  | .expression source _ => .expression source false

namespace Engine

variable {g : Engine} {R : Region}

/-- A piece is compiled alike, whether its expression is deferred or not. -/
lemma segment_alike {p p' : Piece} (h : p.undeferred = p'.undeferred) :
    CompiledAlike (Segment.Alike R) (g.segment p) (g.segment p') := by
  cases p with
  | literal text =>
    cases p' with
    | literal text' =>
      cases h
      exact .ok (.literal _)
    | expression => cases h
  | expression source deferred =>
    cases p' with
    | literal => cases h
    | expression source' deferred' =>
      cases h
      rw [segment, segment, expression_eq, expression_eq]
      refine (Expression.compile_alike (R := R) (.of_strict (by rfl)) False.elim False.elim _
        _).map fun e e' he => ?_
      exact .expression deferred deferred' he

/-- So are pieces one after the other. -/
lemma segments_alike {pieces pieces' : List Piece}
    (h : pieces.map Piece.undeferred = pieces'.map Piece.undeferred) :
    CompiledAlike (List.Forall₂ (Segment.Alike R)) (pieces.mapM g.segment)
      (pieces'.mapM g.segment) := by
  induction pieces generalizing pieces' with
  | nil =>
    cases pieces' with
    | nil => exact .ok .nil
    | cons p' pieces' => cases h
  | cons p pieces ih =>
    cases pieces' with
    | nil => cases h
    | cons p' pieces' =>
      obtain ⟨hp, hpieces⟩ := List.cons.inj h
      rw [List.mapM_cons, List.mapM_cons]
      refine (segment_alike (R := R) hp).bind fun s s' hs => (ih hpieces).bind fun ss ss' hss => ?_
      exact .ok (.cons hs hss)

end Engine

/-! ## Renderings -/

/-- Two renderings have the same text, report faults that are alike, or raise the same fault. -/
inductive Rendering.Alike : Rendering → Rendering → Prop
  | text (s : String) : Alike (.text s) (.text s)
  | reported {f f' : InterpolationFault} (h : f.cause.Alike f'.cause) :
    Alike (.reported f) (.reported f')
  | raised (f : Fault) : Alike (.raised f) (.raised f)

/-- Faults that are alike are both reported, or the same is raised in their place. -/
lemma RenderFault.Alike.raised?_eq {f f' : RenderFault} (h : f.Alike f') : f.raised? = f'.raised? := by
  cases h <;> rfl

/-- Gates that end alike make renderings that are alike. -/
lemma Rendering.Alike.ofResult {r r' : Except RenderFault String}
    (h : Gate.SameUpTo RenderFault.Alike r r') (text text' : String) (before : Nat) :
    (Rendering.ofResult text before r).Alike (Rendering.ofResult text' before r') := by
  cases h with
  | ok out => exact .text out
  | @error f f' h =>
    have hraised := h.raised?_eq
    rw [Rendering.ofResult, Rendering.ofResult]
    cases hf : f.raised? with
    | none =>
      rw [ofFault_of_none hf, ofFault_of_none (hraised.symm.trans hf)]
      exact .reported h
    | some e =>
      rw [ofFault_of_some hf, ofFault_of_some (hraised.symm.trans hf)]
      exact .raised e

/-! ## Resolving is conservative -/

/-- The value of an expression in a context, or the fault for which it has none, with the store and
the records afterwards. -/
def Expression.answer (e : Expression) (futures : Futures) (context : Datum) (store : Store) :
    Except RenderFault Value × Work :=
  let (c, w) := Template.opening context store
  (e.bind futures c >>= fun _ => e.value futures).outcome w

/-- **Resolving futures is conservative.**  In a context without futures, at any depth, and however
missing values are taken:

An expression compiled to resolve futures and the one compiled to leave them, telling of futures or
not, have the same syntax fault, or the same value, or the same fault, and the same parts of values
afterwards; nothing is told.

Pieces of a text that differ in being deferred only have the same syntax fault, or are segments that
are rendered to the same text, or end with the same fault, with any approvals being asked for, and
leave the same work behind. -/
theorem Engine.resolving_conservative (g : Engine) (futures : Futures) {context : Datum}
    {store : Store} (h : context.FutureFree store) :
    (∀ (source : String) (logging logging' : Option Bool),
      CompiledAlike
        (fun e e' => ∃ r store', e.answer futures context store = (r, ⟨store', []⟩) ∧
          e'.answer futures context store = (r, ⟨store', []⟩))
        (g.compile source (some true) logging).1 (g.compile source (some false) logging').1) ∧
    ∀ pieces pieces' : List Piece,
      pieces.map Piece.undeferred = pieces'.map Piece.undeferred →
      CompiledAlike
        (fun segments segments' => ∀ policy trusted source source', ∃ r r' after,
          Template.render ⟨source, segments, trusted⟩ ⟨policy, futures⟩ context store =
            (r, after) ∧
          Template.render ⟨source', segments', trusted⟩ ⟨policy, futures⟩ context store =
            (r', after) ∧
          r.Alike r')
        (Template.segmentsOf g pieces).1 (Template.segmentsOf g pieces').1 := by
  obtain ⟨R, hstore, hcontext⟩ := h
  obtain ⟨hc, hw⟩ := Template.freeIn_opening hstore hcontext
  constructor
  · intro source logging logging'
    have hcompile : CompiledAlike (Expression.Alike R) (g.compile source (some true) logging).1
        (g.compile source (some false) logging').1 := by
      rw [Engine.compile_fst, Engine.compile_fst]
      exact Expression.compile_alike (.of_strict (by rfl)) False.elim False.elim _ source
    refine hcompile.imp fun e e' hok hok' he => ?_
    obtain ⟨r, store', hends, hends', -⟩ :=
      (he.computation False.elim futures hc).ends_region hw
    have hanswer := (e.runs_computation futures (Engine.told_of_compile hok) _).ends hends
    have hanswer' := (e'.runs_computation futures (Engine.told_of_compile hok') _).ends hends'
    rw [show Gate.warnings [] = [] from rfl, ite_self] at hanswer hanswer'
    exact ⟨_, store', hanswer [], hanswer' []⟩
  · intro pieces pieces' hpieces
    rw [Template.segmentsOf_fst, Template.segmentsOf_fst]
    refine (Engine.segments_alike (R := R) hpieces).imp fun segments segments' _ _ hsegments => ?_
    intro policy trusted source source'
    obtain ⟨r, r', after, told, hr, hr', -, hends⟩ :=
      (Template.renderAll_agree hsegments ⟨policy, futures⟩ trusted hc).ends_region hw
    rw [Template.render_eq, Template.render_eq]
    dsimp only
    rw [hr _, hr' _]
    exact ⟨_, _, _, rfl, rfl, .ofResult hends _ _ _⟩

/-- An attribute of what a name stands for, in a context of two mappings. -/
theorem Engine.resolving_conservative_attribute :
    let g := Engine.new true false true
    let context := Datum.dict [(.atom (.str "x"), .dict [(.atom (.str "y"), .atom (.int 1))])]
    context.FutureFree .empty ∧ ∃ e e' r store',
      (g.compile "x.y" (some true) none).1 = .ok e ∧
      (g.compile "x.y" (some false) none).1 = .ok e' ∧
      e.answer .empty context .empty = (r, ⟨store', []⟩) ∧
      e'.answer .empty context .empty = (r, ⟨store', []⟩) := by
  intro g context
  have hcells : FreeIn (Set.univ : Region) Store.empty.cells := by
    intro c hc
    cases List.mem_singleton.1 hc
    exact freeIn_nil
  have hfree : context.FutureFree .empty :=
    Datum.futureFree_of_univ hcells freeIn_nil ⟨⟨trivial, ⟨trivial, trivial⟩, trivial⟩, trivial⟩
  have hcompiled : (g.compile "x.y" (some true) none).1.toOption.isSome := by decide +kernel
  refine ⟨hfree, ?_⟩
  have hboth := (Engine.resolving_conservative g .empty hfree).1 "x.y" none none
  generalize (g.compile "x.y" (some true) none).1 = r, (g.compile "x.y" (some false) none).1 = r'
    at hboth hcompiled
  cases hboth with
  | error f => cases hcompiled
  | ok h =>
    obtain ⟨r, store', hr, hr'⟩ := h
    exact ⟨_, _, r, store', rfl, rfl, hr, hr'⟩

end Interpolation
