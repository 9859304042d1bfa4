import Interpolation.Proofs.Evaluation.Adding
import Interpolation.Proofs.Render.FirstFailure
import Interpolation.Proofs.Scan.Compiling
import Interpolation.Session

/-!
# What a step of a session can change

A rendering depends on few parts of its session: the resources that are allowed, the futures with
the parts of their results, the random numbers, the clock, and the kind of sink.  A compile depends
on the markers and the defaults of the engine.  Most steps touch none of this, and the others do the
same to two sessions that agree on it.  The one exception is a rendering whose expressions change a
future or its result, draw random numbers or ask the clock, so it is asked of renderings that they
spare what was there before them.

* `Session.RendersLike`, `Session.CompilesLike` — two sessions agree on what a rendering, or a
  compile, depends on.
* **`Session.answer_congr`** — then a template renders alike in both.
* `Session.step_idle` — all that a step can change if it does not bear on renderings.
* `Session.Tied.skip`, `Session.Tied.step` — steps that can be left out, and steps that cannot.
-/

namespace Interpolation

/-! ## What a rendering and a compile depend on -/

/-- Whether a sink collects faults. -/
def Sink.collects : Sink → Bool
  | .collecting _ => true
  | .logging => false

lemma Sink.collects_report (sink : Sink) (f : InterpolationFault) :
    (sink.report f).1.collects = sink.collects := by cases sink <;> rfl

lemma Sink.collects_clear (sink : Sink) : sink.clear.collects = sink.collects := by
  cases sink <;> rfl

/-- Only a rendering with a text answers with one. -/
lemma Rendered.outcome_eq_text_iff {answer : Rendered} {out : String}
    {reported reported' : List InterpolationFault} :
    answer.outcome reported' = .ok (.rendered (some out) reported) ↔
      answer = .text out ∧ reported' = reported := by
  cases answer <;> simp [outcome]

namespace Template

variable {t : Template} {s : Surroundings} {context : Datum} {store : Store}

lemma collects_renderTo (t : Template) (sink : Sink) (s : Surroundings) (context : Datum)
    (store : Store) :
    (t.renderTo sink s context store).2.1.collects = sink.collects := by
  rw [renderTo]
  rcases t.render s context store with ⟨_ | f | _, _⟩
  · rfl
  · exact sink.collects_report f
  · rfl

/-- A rendering that gives no cell other content that was there before it.  Its first cell stands for
the futures, the random numbers and the clock. -/
def Spares (t : Template) (s : Surroundings) (context : Datum) (store : Store) : Prop :=
  ((renderAll s t.trusted (opening context store).1 t.segments).outcome
    (opening context store).2).2.store.keepsFirst store.cells.size = true

/-- What is spared is there afterwards as it was before. -/
lemma Spares.store_eq (h : t.Spares s context store) (sink : Sink) :
    (t.renderTo sink s context store).2.2.store = store.unbound := by
  have hrender : (t.render s context store).2.store = store.unbound := by
    rw [render_eq]
    show (store.unbound.settled store.cells.size _).unbound = _
    rw [Spares] at h
    rw [Store.settled, if_pos h]
    rfl
  rw [renderTo]
  split <;> next heq => rw [heq] at hrender; exact hrender

end Template

namespace Session

variable {s s' : Session} {i i' : Interpolator} {id : String}

/-- Two sessions agree on what a compile depends on. -/
structure CompilesLike (s s' : Session) : Prop where
  delimiters : s.interpolator.1.delimiters = s'.interpolator.1.delimiters
  engine : s.interpolator.1.engine.Alike s'.interpolator.1.engine

/-- Two sessions agree on what a rendering depends on, apart from the template. -/
structure RendersLike (s s' : Session) : Prop where
  policy : s.interpolator.1.policy = s'.interpolator.1.policy
  futures : s.futures = s'.futures
  store : s.store = s'.store
  collects : s.sink.collects = s'.sink.collects

/-- What a step that renders a template answers, and the records that it tells. -/
def answer (s : Session) (id : String) (context : Datum) :
    Except StepFault Outcome × List Record :=
  ((s.step (.render id context)).1, (s.step (.render id context)).2.2)

/-- What a rendering answers, in terms of the template. -/
lemma answer_eq {c : Compiled} {context : Datum} (hc : s.find id = .ok c) :
    s.answer id context =
      let r := c.template.renderTo s.sink ⟨s.interpolator.1.policy, s.futures⟩ context s.store
      (r.1.outcome (r.2.1.faults.drop s.sink.faults.length), r.2.2.records) := by
  simp only [answer, step, render, hc]

lemma interpolator_of_made (h : s.made = some i) : s.interpolator = (i, s) := by
  rw [interpolator, h]

/-- What a compile does to a session with an interpolator. -/
lemma step_compile (h : s.made = some i) (id : String) (request : CompileRequest) :
    ∃ templates count, (s.step (.compile id request)).2.1 =
        { s with made := some (i.compile request).2.1, templates := templates, count := count } ∧
      (∀ other, other ≠ id → templates.lookup other = s.templates.lookup other) ∧
      (∀ f, (s.step (.compile id request)).1 = .error f → templates = s.templates) ∧
      (∀ t, (s.step (.compile id request)).1 = .ok (.template (some t)) →
        (i.compile request).1 = .ok (some t) ∧ templates.lookup id = some (some ⟨s.count, t⟩)) := by
  have hother : ∀ c : Option Compiled, ∀ other, other ≠ id →
      List.lookup other ((id, c) :: s.templates) = s.templates.lookup other := by
    intro c other hne
    rw [List.lookup_cons, beq_eq_false_iff_ne.2 hne]
  simp only [step, compile, interpolator_of_made h, put]
  rcases (i.compile request).1 with f | _ | t
  · refine ⟨s.templates, s.count, rfl, fun _ _ => rfl, fun _ _ => rfl, ?_⟩
    rintro t ⟨⟩
  · refine ⟨(id, none) :: s.templates, s.count, rfl, ?_, ?_, ?_⟩
    · exact hother none
    · rintro f ⟨⟩
    · rintro t ⟨⟩
  · refine ⟨(id, some ⟨s.count, t⟩) :: s.templates, s.count + 1, rfl, ?_, ?_, ?_⟩
    · exact hother _
    · rintro f ⟨⟩
    · rintro u ⟨⟩
      exact ⟨rfl, by rw [List.lookup_cons, beq_self_eq_true]⟩

/-- A compile gives a template when its text has one, and then the name stands for it. -/
lemma step_compile_eq_some_iff {request : CompileRequest} {t : Template} (h : s.made = some i) :
    (s.step (.compile id request)).1 = .ok (.template (some t)) ↔
      (i.compile request).1 = .ok (some t) := by
  simp only [step, compile, interpolator_of_made h, put]
  rcases (i.compile request).1 with f | _ | u
  · constructor <;> rintro ⟨⟩
  · constructor <;> rintro ⟨⟩
  · constructor <;> rintro ⟨⟩ <;> rfl

lemma find_of_compile {request : CompileRequest} {t : Template} (h : s.made = some i)
    (ht : (s.step (.compile id request)).1 = .ok (.template (some t))) :
    ∃ c, (s.step (.compile id request)).2.1.find id = .ok c ∧ c.template = t := by
  obtain ⟨templates, count, hsession, -, -, hnew⟩ := step_compile h id request
  refine ⟨⟨s.count, t⟩, ?_, rfl⟩
  rw [hsession, find, (hnew t ht).2]

/-- A step after which a name stands for the same template: unless it is a compile under this name
that does not fail. -/
def LeavesName (id : String) (s : Session) : Step → Prop
  | .compile other request => other = id → ∃ f, (s.step (.compile other request)).1 = .error f
  | _ => True

/-- A step that spares what was there before it: unless it is a rendering that does not. -/
def Spares (s : Session) : Step → Prop
  | .render id context => ∀ c, s.find id = .ok c →
    c.template.Spares ⟨s.interpolator.1.policy, s.futures⟩ context s.store
  | _ => True

/-- A session with an interpolator keeps one, with the same markers and the same strictness. -/
lemma exists_made_step (h : s.made = some i) (st : Step) :
    ∃ i', (s.step st).2.1.made = some i' ∧ i'.delimiters = i.delimiters ∧
      i'.engine.strict = i.engine.strict := by
  cases st with
  | compile id request =>
    obtain ⟨_, _, hsession, -⟩ := step_compile h id request
    obtain ⟨hdelimiters, halike⟩ := Interpolator.alike_compile (i := i) request
    exact ⟨_, by rw [hsession], hdelimiters, halike.strict.symm⟩
  | render id context =>
    simp only [step, render]
    split <;> exact ⟨i, h, rfl, rfl⟩
  | getMarker _ | setMarker _ _ | freeze | isFrozen | showTemplate _ | compare _ _
  | expressions _ | faults | clear | makeFuture _ _ => exact ⟨i, h, rfl, rfl⟩
  | markers | getDefault _ =>
    exact ⟨i, by simp only [step, quiet, interpolator_of_made h, h], rfl, rfl⟩
  | setDefault name value =>
    simp only [step, quiet, interpolator_of_made h]
    split
    · exact ⟨i, h, rfl, rfl⟩
    · refine ⟨_, rfl, rfl, ?_⟩
      cases name <;> rfl
  | sameEnvironment first second =>
    have hfirst := i.engine.alike_environment first.1 first.2
    have hsecond := (i.engine.environment first.1 first.2).2.alike_environment second.1 second.2
    simp only [step, quiet, interpolator_of_made h]
    exact ⟨_, rfl, rfl, (hfirst.trans hsecond).strict.symm⟩
  | allow entry =>
    simp only [step, quiet, interpolator_of_made h]
    exact ⟨_, rfl, rfl, rfl⟩
  | settle name progress =>
    simp only [step, quiet, settle]
    split
    · exact ⟨i, h, rfl, rfl⟩
    · split <;> exact ⟨i, h, rfl, rfl⟩

/-- Only compiles change what names of templates stand for. -/
lemma find_step (h : s.made = some i) (st : Step) (hst : LeavesName id s st) :
    (s.step st).2.1.find id = s.find id := by
  cases st with
  | compile other request =>
    obtain ⟨templates, _, hsession, hother, herror, -⟩ := step_compile h other request
    have hlookup : templates.lookup id = s.templates.lookup id := by
      by_cases hid : other = id
      · obtain ⟨f, hf⟩ := hst hid
        rw [herror f hf]
      · exact hother id (Ne.symm hid)
    rw [hsession, find, find]
    simp only [hlookup]
  | render other context =>
    simp only [step, render]
    split <;> rfl
  | getMarker _ | setMarker _ _ | freeze | isFrozen | showTemplate _ | compare _ _
  | expressions _ | faults | clear | makeFuture _ _ => rfl
  | markers | getDefault _ => simp only [step, quiet, interpolator_of_made h]
  | sameEnvironment _ _ | allow _ =>
    simp only [step, quiet, interpolator_of_made h]
    rfl
  | setDefault name value =>
    simp only [step, quiet, interpolator_of_made h]
    split <;> rfl
  | settle name progress =>
    simp only [step, quiet, settle]
    split
    · rfl
    · split <;> rfl

end Session

/-! ## Steps that can be left out -/

namespace Step

/-- Whether a step bears on later renderings of templates that are compiled already. -/
def bearsOnRendering : Step → Bool
  | .allow _ | .makeFuture _ _ | .settle _ _ => true
  | _ => false

/-- Whether a step bears on later compiles, or on renderings. -/
def bearsOnCompile : Step → Bool
  | .setDefault _ _ => true
  | st => st.bearsOnRendering

end Step

namespace Session

variable {s s' : Session} {i i' : Interpolator} {st : Step}

/-- What a step can change that does not bear on renderings. -/
lemma step_idle (h : s.made = some i) (hbound : s.store.bound = [])
    (hst : st.bearsOnRendering = false) (hspared : s.Spares st) :
    ∃ i' delimiters templates count sink, (s.step st).2.1 =
        { s with made := some i', delimiters := delimiters, templates := templates,
                 count := count, sink := sink } ∧
      i'.policy = i.policy ∧ i'.delimiters = i.delimiters ∧ sink.collects = s.sink.collects ∧
      (st.bearsOnCompile = false → i'.engine.Alike i.engine) := by
  -- most steps leave all but the markers and the sink as they are
  have hself : ∀ delimiters sink, sink.collects = s.sink.collects →
      (s.step st).2.1 = { s with delimiters := delimiters, sink := sink } →
      ∃ i' delimiters templates count sink, (s.step st).2.1 =
        { s with made := some i', delimiters := delimiters, templates := templates,
                 count := count, sink := sink } ∧
      i'.policy = i.policy ∧ i'.delimiters = i.delimiters ∧ sink.collects = s.sink.collects ∧
      (st.bearsOnCompile = false → i'.engine.Alike i.engine) := fun delimiters sink hsink hs =>
    ⟨i, delimiters, s.templates, s.count, sink, by rw [hs, ← h], rfl, rfl, hsink, fun _ => .refl _⟩
  cases st with
  | compile id request =>
    obtain ⟨templates, count, hsession, -⟩ := step_compile h id request
    obtain ⟨hdelimiters, halike⟩ := Interpolator.alike_compile (i := i) request
    exact ⟨_, s.delimiters, templates, count, s.sink, hsession, rfl, hdelimiters, rfl,
      fun _ => halike.symm⟩
  | render id context =>
    cases hc : s.find id with
    | error f => exact hself s.delimiters s.sink rfl (by simp only [step, render, hc])
    | ok c =>
      refine hself s.delimiters _ (c.template.collects_renderTo s.sink
        ⟨s.interpolator.1.policy, s.futures⟩ context s.store) ?_
      have hstore := (hspared c hc).store_eq s.sink
      simp only [step, render, hc, hstore]
      rw [Store.unbound, ← hbound]
  | getMarker _ | isFrozen | showTemplate _ | compare _ _ | expressions _ | faults =>
    exact hself s.delimiters s.sink rfl rfl
  | setMarker name value => exact hself (s.delimiters.set name value).2 s.sink rfl rfl
  | freeze => exact hself s.delimiters.freeze s.sink rfl rfl
  | clear => exact hself s.delimiters s.sink.clear s.sink.collects_clear rfl
  | markers | getDefault _ =>
    exact hself s.delimiters s.sink rfl (by simp only [step, quiet, interpolator_of_made h])
  | setDefault name value =>
    simp only [step, quiet, interpolator_of_made h]
    split
    · exact ⟨i, s.delimiters, s.templates, s.count, s.sink, by rw [← h], rfl, rfl, rfl, nofun⟩
    · exact ⟨_, s.delimiters, s.templates, s.count, s.sink, rfl, rfl, rfl, rfl, nofun⟩
  | sameEnvironment first second =>
    have hfirst := i.engine.alike_environment first.1 first.2
    have hsecond := (i.engine.environment first.1 first.2).2.alike_environment second.1 second.2
    simp only [step, quiet, interpolator_of_made h]
    exact ⟨_, s.delimiters, s.templates, s.count, s.sink, rfl, rfl, rfl, rfl,
      fun _ => (hfirst.trans hsecond).symm⟩
  | allow _ | makeFuture _ _ | settle _ _ => cases hst

/-! ## Sessions that stay alike -/

/-- Two sessions with interpolators agree on what renderings depend on and on the names of
futures. -/
structure Tied (s s' : Session) : Prop extends s.RendersLike s' where
  made : ∃ i, s.made = some i
  made' : ∃ i, s'.made = some i
  bound : s.store.bound = []
  names : s.names = s'.names

lemma tied_iff (hi : s.made = some i) (hi' : s'.made = some i') :
    s.Tied s' ↔ (i.policy = i'.policy ∧ s.futures = s'.futures ∧ s.store = s'.store ∧
      s.sink.collects = s'.sink.collects) ∧ s.store.bound = [] ∧ s.names = s'.names := by
  constructor
  · rintro ⟨⟨hpolicy, hfutures, hstore, hcollects⟩, -, -, hbound, hnames⟩
    rw [interpolator_of_made hi, interpolator_of_made hi'] at hpolicy
    exact ⟨⟨hpolicy, hfutures, hstore, hcollects⟩, hbound, hnames⟩
  · rintro ⟨⟨hpolicy, hfutures, hstore, hcollects⟩, hbound, hnames⟩
    refine ⟨⟨?_, hfutures, hstore, hcollects⟩, ⟨i, hi⟩, ⟨i', hi'⟩, hbound, hnames⟩
    rw [interpolator_of_made hi, interpolator_of_made hi']
    exact hpolicy

lemma compilesLike_iff (hi : s.made = some i) (hi' : s'.made = some i') :
    s.CompilesLike s' ↔ i.delimiters = i'.delimiters ∧ i.engine.Alike i'.engine := by
  constructor
  · rintro ⟨hdelimiters, halike⟩
    rw [interpolator_of_made hi, interpolator_of_made hi'] at hdelimiters halike
    exact ⟨hdelimiters, halike⟩
  · rintro ⟨hdelimiters, halike⟩
    constructor <;> rw [interpolator_of_made hi, interpolator_of_made hi']
    · exact hdelimiters
    · exact halike

lemma Tied.refl (hi : s.made = some i) (hbound : s.store.bound = []) : s.Tied s :=
  (tied_iff hi hi).2 ⟨⟨rfl, rfl, rfl, rfl⟩, hbound, rfl⟩

lemma CompilesLike.refl (s : Session) : s.CompilesLike s := ⟨rfl, .refl _⟩

/-- A step that does not bear on renderings can be left out. -/
lemma Tied.skip (h : s.Tied s') (st : Step) (hst : st.bearsOnRendering = false)
    (hspared : s.Spares st) :
    (s.step st).2.1.Tied s' := by
  obtain ⟨i, hi⟩ := h.made
  obtain ⟨i', hi'⟩ := h.made'
  obtain ⟨j, _, _, _, _, hs, hpolicy, -, hcollects, -⟩ := step_idle hi h.bound hst hspared
  obtain ⟨⟨hp, hfutures, hstore, hc⟩, hbound, hnames⟩ := (tied_iff hi hi').1 h
  rw [hs]
  exact (tied_iff rfl hi').2
    ⟨⟨hpolicy.trans hp, hfutures, hstore, hcollects.trans hc⟩, hbound, hnames⟩

/-- A step that does not bear on compiles can be left out. -/
lemma CompilesLike.skip (h : s.CompilesLike s') (htied : s.Tied s')
    (hst : st.bearsOnCompile = false) (hspared : s.Spares st) :
    (s.step st).2.1.CompilesLike s' := by
  obtain ⟨i, hi⟩ := htied.made
  obtain ⟨i', hi'⟩ := htied.made'
  have hrendering : st.bearsOnRendering = false := by
    cases st <;> first | rfl | cases hst
  obtain ⟨j, _, _, _, _, hs, -, hdelimiters, -, halike⟩ :=
    step_idle hi htied.bound hrendering hspared
  obtain ⟨hd, he⟩ := (compilesLike_iff hi hi').1 h
  rw [hs]
  exact (compilesLike_iff rfl hi').2 ⟨hdelimiters.trans hd, (halike hst).trans he⟩

/-- The store of a final state names nothing. -/
lemma bound_loaded (store : Store) (p : Progress Datum) : (loaded store p).2.bound = store.bound := by
  cases p with
  | done d => exact d.addsOnly_load.bound store
  | failed _ _ | cancelled | dropped | pending | running => rfl

/-- A final state of a future does the same to both sessions. -/
lemma Tied.step_settle (h : s.Tied s') (name : String) (progress : Progress Datum) :
    ∃ futures store, store.bound = [] ∧
      (s.step (.settle name progress)).2.1 = { s with futures := futures, store := store } ∧
      (s'.step (.settle name progress)).2.1 = { s' with futures := futures, store := store } := by
  have hself : ∃ futures store, store.bound = [] ∧
      s = { s with futures := futures, store := store } ∧
      s' = { s' with futures := futures, store := store } :=
    ⟨s'.futures, s'.store, h.store ▸ h.bound, by rw [← h.futures, ← h.store], rfl⟩
  have hlookup : s.names.lookup name = s'.names.lookup name := by rw [h.names]
  simp only [step, quiet, settle, hlookup, h.futures, h.store]
  split
  · exact hself
  · split
    · refine ⟨_, _, ?_, rfl, rfl⟩
      exact (bound_loaded s'.store _).trans (h.store ▸ h.bound)
    · exact hself
    · exact hself

/-- A step that bears on compiles does the same to both sessions. -/
lemma Tied.step (h : s.Tied s') (hst : st.bearsOnCompile = true) :
    (s.step st).2.1.Tied (s'.step st).2.1 ∧
      (s.CompilesLike s' → (s.step st).2.1.CompilesLike (s'.step st).2.1) := by
  obtain ⟨i, hi⟩ := h.made
  obtain ⟨i', hi'⟩ := h.made'
  obtain ⟨⟨hpolicy, hfutures, hstore, hcollects⟩, hbound, hnames⟩ := (tied_iff hi hi').1 h
  rw [compilesLike_iff hi hi']
  cases st with
  | setDefault name value =>
    simp only [step, quiet, interpolator_of_made hi, interpolator_of_made hi', truthOf, hstore]
    split
    · exact ⟨h, Iff.mpr (compilesLike_iff hi hi')⟩
    · refine ⟨Iff.mpr (tied_iff rfl rfl)
        ⟨⟨hpolicy, hfutures, hstore, hcollects⟩, hbound, hnames⟩, ?_⟩
      rintro ⟨hdelimiters, hstrict, hresolving, hlogging⟩
      refine Iff.mpr (compilesLike_iff rfl rfl) ⟨hdelimiters, ?_⟩
      cases name with
      | resolving => exact ⟨hstrict, rfl, hlogging⟩
      | logging => exact ⟨hstrict, hresolving, rfl⟩
  | allow entry =>
    simp only [step, quiet, interpolator_of_made hi, interpolator_of_made hi']
    exact ⟨Iff.mpr (tied_iff rfl rfl) ⟨⟨congrArg (·.allow entry) hpolicy, hfutures, hstore,
      hcollects⟩, hbound, hnames⟩, fun ⟨hdelimiters, halike⟩ =>
        Iff.mpr (compilesLike_iff rfl rfl) ⟨hdelimiters, halike⟩⟩
  | makeFuture name runner =>
    simp only [step, quiet, hfutures, hnames]
    exact ⟨Iff.mpr (tied_iff hi hi') ⟨⟨hpolicy, rfl, hstore, hcollects⟩, hbound, rfl⟩,
      Iff.mpr (compilesLike_iff hi hi')⟩
  | settle name progress =>
    obtain ⟨futures, store, hempty, hs, hs'⟩ := h.step_settle name progress
    rw [hs, hs']
    exact ⟨Iff.mpr (tied_iff hi hi') ⟨⟨hpolicy, rfl, rfl, hcollects⟩, hempty, hnames⟩,
      Iff.mpr (compilesLike_iff hi hi')⟩
  | getMarker _ | setMarker _ _ | freeze | isFrozen | markers | compile _ _ | render _ _
  | showTemplate _ | compare _ _ | expressions _ | faults | clear | getDefault _
  | sameEnvironment _ _ => cases hst

end Session

end Interpolation
