import Interpolation.Proofs.Futures.Conservative
import Interpolation.Proofs.Scan.Segments

/-!
# Warnings

Whether it is told that a lookup met a future is said twice: in the environment, of the lookups of
an expression and of its filters, and in the expression, of the value that it amounts to.  Without
resolving neither has any effect, and with resolving there is one only: what was looked up has to be
put into words.  If it is nested too deeply for that, the evaluation ends there, which it does not if
nothing is told.  In all other cases telling changes no value, no fault, and no part of a value.

A deferred expression resolves futures and tells of none, whatever the defaults of the engine are.

* `Expression.met` — the lookups of an evaluation that meet futures.
* `Expression.compile_silent` — sources that are compiled to tell, and not to tell.
* **`Engine.telling_transparent`** — options that only tell change no value and no fault, as long as
  there are words for what was looked up; and deferred segments never tell.
-/

namespace Interpolation

open Trust

/-- The lookups of an evaluation in a context that meet futures, by what is looked up. -/
def Expression.met (e : Expression) (futures : Futures) (context : Datum) (store : Store) : Trace :=
  ((e.computation futures (Template.opening context store).1).runOn
    (Template.opening context store).2.store).2.1

namespace Expression

variable {e e' : Expression}

/-- The two environments for the same options, of which the second one is silent. -/
lemma silent_environment (strict resolving : Bool) :
    Environment.Alike .everything ⟨strict, resolving, resolving && true⟩
      ⟨strict, resolving, resolving && false⟩ :=
  ⟨rfl, fun _ => rfl, fun _ h => by rw [show resolving = true from h]; rfl, fun _ => Bool.and_false _⟩

/-- **A source is compiled alike** to tell of futures and not to tell of them. -/
lemma compile_silent (strict resolving : Bool) (source : String) :
    CompiledAlike (Expression.Alike .everything)
      (compile ⟨strict, resolving, resolving && true⟩ resolving true source)
      (compile ⟨strict, resolving, resolving && false⟩ resolving false source) :=
  compile_alike (silent_environment strict resolving) (fun _ => rfl) (fun _ _ => rfl) true source

/-- What an expression that tells answers, and what the silent one does, if both resolve futures. -/
lemma Alike.answer (h : e.Alike .everything e')
    (htold : e.resolving = true → e.environment.logging = e.logging)
    (htold' : e'.resolving = true → e'.environment.logging = e'.logging)
    (htelling : e.environment.logging = true) (hlogging : e.logging = true)
    (futures : Futures) (context : Datum) (store : Store) :
    ∃ r after, e'.answer futures context store = (r, ⟨after, []⟩) ∧
      ((e'.met futures context store).Fits → e.answer futures context store =
        (r, ⟨after, Gate.warnings (e'.met futures context store)⟩)) ∧
      (¬ (e'.met futures context store).Fits → ∃ f w, f.IsOverflow ∧
        e.answer futures context store = (.error (.fault f), w)) := by
  have hagree := h.computation (fun _ _ => hlogging) futures
    (freeIn_everything (Template.opening context store).1)
  obtain ⟨r, after, met, htogether⟩ :=
    hagree.ends (Template.opening context store).2.store (freeIn_everything _)
  have hmet : e'.met futures context store = met :=
    congrArg (fun p => p.2.trace) (htogether.silent [])
  have hruns := e.runs_computation futures htold (Template.opening context store).1
  have hruns' := (e'.runs_computation futures htold' _).ends htogether.silent
  rw [h.environment.silent trivial] at hruns'
  rw [htelling] at hruns
  rw [hmet]
  refine ⟨_, after, hruns' [], fun hfits => hruns.ends (htogether.fits hfits) [], fun hover => ?_⟩
  obtain ⟨f, last, told, hf, hends⟩ := htogether.overflow hover
  exact ⟨f, _, hf, hruns.ends hends []⟩

/-- A silent expression has no warnings. -/
lemma answer_silent (hsilent : e.environment.logging = false)
    (htold : e.resolving = true → e.environment.logging = e.logging) (futures : Futures)
    (context : Datum) (store : Store) :
    ∃ r after, e.answer futures context store = (r, ⟨after, []⟩) := by
  have huniform : (e.computation futures (Template.opening context store).1).Uniform :=
    (e.uniform_naming futures _).bind fun _ =>
      (e.uniform_evaluate futures).bind (e.uniform_resolved futures)
  obtain ⟨r, after, met, hends⟩ := huniform.ends (Template.opening context store).2.store
  have hruns := (e.runs_computation futures htold _).ends hends
  rw [hsilent] at hruns
  exact ⟨_, after, hruns []⟩

end Expression

namespace Engine

variable {g h : Engine}

lemma compile_silent (g : Engine) (source : String) (resolving : Option Bool) :
    CompiledAlike (Expression.Alike .everything) (g.compile source resolving (some true)).1
      (g.compile source resolving (some false)).1 := by
  rw [compile_fst, compile_fst]
  exact Expression.compile_silent _ _ source

/-- A silent expression has a version that tells. -/
lemma exists_telling {source : String} {resolving : Option Bool} {e : Expression}
    (he : (g.compile source resolving (some false)).1 = .ok e) :
    ∃ e₁ : Expression, e₁.Alike .everything e := by
  have hboth := g.compile_silent source resolving
  rw [he] at hboth
  generalize (g.compile source resolving (some true)).1 = r at hboth
  cases hboth with
  | ok h => exact ⟨_, h⟩

/-- A deferred expression is compiled like one of an engine that resolves futures and tells of them
by default, but is silent. -/
lemma compile_deferred (hstrict : h.strict = g.strict) (hresolving : h.resolving = true)
    (hlogging : h.logging = true) (source : String) :
    CompiledAlike (Expression.Alike .everything) (h.compile source none none).1
      (g.compile source (some true) (some false)).1 := by
  rw [compile_fst, compile_fst, hstrict]
  simp only [Option.getD_none, Option.getD_some, hresolving, hlogging]
  exact Expression.compile_silent _ _ source

end Engine

/-- A gate that has a silent version ends as it does, or with what is nested too deeply. -/
lemma Gate.Agree.outcome {α : Type} [HoldsValues α] {P : RenderFault → RenderFault → Prop}
    {x y : Gate α} (h : Gate.Agree .everything P x y) (store : Store) (records : List Record) :
    ∃ r r' after told, y.outcome ⟨store, records⟩ = (r', ⟨after, records ++ Record.unwarned told⟩) ∧
      SameUpTo P r r' ∧
      (x.outcome ⟨store, records⟩ = (r, ⟨after, records ++ told⟩) ∨
        ∃ f w, f.IsOverflow ∧ x.outcome ⟨store, records⟩ = (.error (.fault f), w)) := by
  obtain ⟨r, r', after, told, fits, htogether⟩ := h.ends store (freeIn_everything store)
  refine ⟨r, r', after, told, htogether.silent records, htogether.same, ?_⟩
  by_cases hfits : fits
  · exact .inl (htogether.telling hfits records)
  · obtain ⟨f, last, more, hf, hends⟩ := htogether.overflow hfits
    exact .inr ⟨f, _, hf, hends records⟩

/-- A silent expression is rendered without a warning. -/
lemma Segment.outcome_silent {e e₁ : Expression} (h : e₁.Alike .everything e) (deferred : Bool)
    (s : Surroundings) (trusted : Option Category) (c : Context) (store : Store)
    (records : List Record) :
    ∃ r after told, ((expression e deferred).render s trusted c).outcome ⟨store, records⟩ =
      (r, ⟨after, records ++ Record.unwarned told⟩) := by
  have hagree := (Segment.Alike.expression false deferred h).render s trusted (freeIn_everything c)
  obtain ⟨-, r', after, told, hrun, -⟩ := hagree.outcome store records
  exact ⟨r', after, told, hrun⟩

/-- **Telling changes nothing but what is told**, as long as there are words for it.  Whatever the
defaults of an engine are, and however missing values are taken:

A source compiled to tell of futures and the same source compiled not to tell have the same syntax
fault, or else the second one never has a warning, and the first one has the same value or the same
fault and leaves the same parts of values behind: without resolving it has no warnings either, and
with resolving it has those for the lookups that met futures.  Only if one of these was a lookup of
something nested too deeply to be told, the first one ends there with that fault.

A source compiled as a deferred expression, and the same source compiled by an engine that resolves
futures by default, have the same syntax fault, or are rendered to the same text, or end with the
same fault, wherever they are used, and the deferred one tells the same without the warnings; unless
the other one tells of futures, and ends because of what is nested too deeply.

The deferred expressions of any template are rendered without a warning. -/
theorem Engine.telling_transparent (g : Engine) :
    (∀ (source : String) (resolving : Option Bool),
      CompiledAlike
        (fun e e' => ∀ futures context store, ∃ r after,
          e'.answer futures context store = (r, ⟨after, []⟩) ∧
          (resolving.getD g.resolving = false →
            e.answer futures context store = (r, ⟨after, []⟩)) ∧
          (resolving.getD g.resolving = true → (e'.met futures context store).Fits →
            e.answer futures context store =
              (r, ⟨after, Gate.warnings (e'.met futures context store)⟩)) ∧
          (resolving.getD g.resolving = true → ¬ (e'.met futures context store).Fits →
            ∃ f w, f.IsOverflow ∧ e.answer futures context store = (.error (.fault f), w)))
        (g.compile source resolving (some true)).1 (g.compile source resolving (some false)).1) ∧
    (∀ (h : Engine) (source : String), h.strict = g.strict → h.resolving = true →
      CompiledAlike
        (fun e e' => ∀ s trusted context store records, ∃ r r' after told,
          ((Segment.expression e' true).render s trusted context).outcome ⟨store, records⟩ =
            (r', ⟨after, records ++ Record.unwarned told⟩) ∧
          Gate.SameUpTo RenderFault.Alike r r' ∧
          (((Segment.expression e false).render s trusted context).outcome ⟨store, records⟩ =
              (r, ⟨after, records ++ told⟩) ∨
            h.logging = true ∧ ∃ f w, f.IsOverflow ∧
              ((Segment.expression e false).render s trusted context).outcome ⟨store, records⟩ =
                (.error (.fault f), w)))
        (h.compile source none none).1 (g.compile source (some true) (some false)).1) ∧
    ∀ (i : Interpolator) (request : CompileRequest) (t : Template) (e : Expression),
      (i.compile request).1 = .ok (some t) → .expression e true ∈ t.segments →
        (i.engine.compile e.source (some true) (some false)).1 = .ok e ∧
        ∀ s trusted context w, ∃ told,
          (((Segment.expression e true).render s trusted context).outcome w).2.records =
            w.records ++ told ∧ ∀ r ∈ told, r.isWarning = false := by
  refine ⟨fun source resolving => ?_, fun h source hstrict hresolving => ?_,
    fun i request t e ht he => ?_⟩
  · refine (g.compile_silent source resolving).imp fun e e' hok hok' he futures context store => ?_
    have htold := told_of_compile hok
    have htold' := told_of_compile hok'
    cases hresolving : resolving.getD g.resolving with
    | false =>
      -- without resolving the two expressions differ in an option that has no effect
      obtain ⟨r, after, hanswer⟩ := Expression.answer_silent (he.environment.silent trivial) htold'
        futures context store
      have hsame : e.answer futures context store = e'.answer futures context store := by
        have hbody := he.body
        obtain ⟨body, rfl⟩ := eq_of_compile hok
        obtain ⟨body', rfl⟩ := eq_of_compile hok'
        obtain rfl : body = body' := hbody
        rw [hresolving]
        rfl
      exact ⟨r, after, hanswer, fun _ => hsame.trans hanswer, nofun, nofun⟩
    | true =>
      obtain ⟨body, heq⟩ := eq_of_compile hok
      have htelling : e.environment.logging = true := by rw [heq, hresolving]; rfl
      obtain ⟨r, after, hanswer, hfits, hover⟩ :=
        he.answer htold htold' htelling (by rw [heq]; rfl) futures context store
      exact ⟨r, after, hanswer, nofun, fun _ => hfits, fun _ => hover⟩
  · cases hlogging : h.logging with
    | true =>
      refine (compile_deferred hstrict hresolving hlogging source).imp fun e e' _ _ he => ?_
      intro s trusted context store records
      have hagree := (Segment.Alike.expression false true he).render s trusted
        (freeIn_everything context)
      obtain ⟨r, r', after, told, hrun, hsame, hends⟩ := hagree.outcome store records
      exact ⟨r, r', after, told, hrun, hsame, hends.imp_right fun hover => ⟨rfl, hover⟩⟩
    | false =>
      -- an engine that tells of nothing compiles the source as a deferred expression
      have hcompile : (h.compile source none none).1 =
          (g.compile source (some true) (some false)).1 := by
        rw [compile_fst, compile_fst, hstrict]
        simp only [Option.getD_none, Option.getD_some, hresolving, hlogging]
      rw [hcompile]
      cases hok : (g.compile source (some true) (some false)).1 with
      | error f => exact .error f
      | ok e =>
        refine .ok fun s trusted context store records => ?_
        obtain ⟨e₁, he₁⟩ := exists_telling hok
        obtain ⟨r, after, told, hrun⟩ :=
          Segment.outcome_silent he₁ true s trusted context store records
        refine ⟨r, r, after, Record.unwarned told, ?_, .alike (.refl r), .inl hrun⟩
        rw [hrun, Record.unwarned_unwarned]
  · have hcompile : (i.engine.compile e.source (some true) (some false)).1 = .ok e :=
      Interpolator.expression_of_mem ht he
    refine ⟨hcompile, fun s trusted context w => ?_⟩
    obtain ⟨e₁, he₁⟩ := exists_telling hcompile
    obtain ⟨r, after, told, hrun⟩ :=
      Segment.outcome_silent he₁ true s trusted context w.store w.records
    refine ⟨Record.unwarned told, ?_, fun r hr => Record.not_isWarning_of_mem hr⟩
    exact congrArg (fun p => p.2.records) hrun

/-- An attribute that is a future: both find its result, and one of them tells of it. -/
theorem Engine.telling_transparent_attribute :
    let futures : Futures := ⟨[⟨.done (.ofContent (.int 7))⟩]⟩
    let s : Surroundings := ⟨.standard, futures⟩
    let object := Datum.dict [(.atom (.str "f"), .atom (.future ⟨0, .threads⟩))]
    let opening := Template.opening (.dict [(.atom (.str "x"), object)]) .empty
    let i : Interpolator := ⟨.standard, .new false false true, .standard⟩
    ∃ t e e' after told,
      (i.compile ⟨"\x7b||x.f||\x7d", false, none⟩).1 = .ok (some t) ∧
      .expression e' true ∈ t.segments ∧
      ((Engine.new false true true).compile "x.f" none none).1 = .ok e ∧
      ((Segment.expression e false).render s none opening.1).outcome ⟨opening.2.store, []⟩ =
        (.ok "7", ⟨after, told⟩) ∧
      ((Segment.expression e' true).render s none opening.1).outcome ⟨opening.2.store, []⟩ =
        (.ok "7", ⟨after, Record.unwarned told⟩) ∧
      told.map Record.isWarning = [true] := by
  intro futures s object opening i
  have hpieces : (i.template? ⟨"\x7b||x.f||\x7d", false, none⟩).map
      (fun t => t.segments.map Segment.piece) = some [.expression "x.f".toList true] := by
    decide +kernel
  have hrun : ((Engine.new false true true).compile "x.f" none none).1.toOption.map (fun e =>
      let r := ((Segment.expression e false).render s none opening.1).outcome
        ⟨opening.2.store, []⟩
      (r.1.toOption, r.2.records.map Record.isWarning)) = some (some "7", [true]) := by
    decide +kernel
  obtain ⟨t, ht, hsegments⟩ := Option.map_eq_some_iff.1 hpieces
  replace ht := Interpolator.template?_eq_some_iff.1 ht
  obtain ⟨segment, hsegment, hpiece⟩ := List.map_eq_singleton_iff.1 hsegments
  cases segment with
  | literal => cases hpiece
  | expression e' deferred =>
    obtain ⟨hsource, rfl⟩ := Piece.expression.inj hpiece
    have he' : .expression e' true ∈ t.segments := hsegment ▸ List.mem_singleton_self _
    obtain ⟨-, hprimary, hdeferred⟩ := Engine.telling_transparent i.engine
    obtain ⟨hcompile, -⟩ := hdeferred i _ t e' ht he'
    have hboth := hprimary (.new false true true) "x.f" rfl rfl
    rw [← String.toList_inj.1 hsource, hcompile, String.toList_inj.1 hsource] at hboth
    generalize hcompile' : ((Engine.new false true true).compile "x.f" none none).1 = r
      at hboth hrun
    cases hboth with
    | ok h =>
      obtain ⟨r, r', after, told, hsilent, hsame, htelling⟩ := h s none opening.1 opening.2.store []
      rcases htelling with htelling | ⟨-, f, w, -, hover⟩
      · simp only [Except.toOption, Option.map_some, htelling, List.nil_append, Option.some.injEq,
          Prod.mk.injEq] at hrun
        cases hsame with
        | error => exact absurd hrun.1 (by simp)
        | ok text =>
          obtain rfl := Option.some.inj hrun.1
          exact ⟨t, _, e', after, told, ht, he', rfl, htelling, hsilent, hrun.2⟩
      · simp [Except.toOption, hover] at hrun

end Interpolation
