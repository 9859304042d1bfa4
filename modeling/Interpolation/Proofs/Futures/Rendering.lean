import Mathlib.Data.List.Forall2
import Interpolation.Proofs.Futures.Contexts
import Interpolation.Proofs.Render.Ends
import Interpolation.Proofs.Render.FirstFailure

/-!
# Segments that agree

A rendering is compared like an evaluation: `Gate.Agree` says that two gates end alike in a scope,
leave the same store behind, and tell the same records, except for warnings, of which the second one
tells none.  In a region there are none.  Where futures are met, the first gate may instead end
early, because one of the futures was met under something too deeply nested to be told.

Only one other thing may differ: a refused value remembers what its expression was compiled for,
which neither is told nor is looked at.

Two expressions that have the same body and the same environment, as far as it matters in a scope,
go through all the stages of a segment together; so do two lists of such segments, since each
segment begins with the free store that the one before it left behind.

* `Gate.Agree` — two gates end alike in a scope.
* `Expression.Alike` — expressions that differ only in how they take futures.
* `Segment.Alike.render`, `Template.renderAll_agree` — what they are rendered to.
-/

namespace Interpolation

open Trust

variable {R : Scope}

/-! ## Records -/

namespace Record

/-- Whether a record is a warning. -/
def isWarning (r : Record) : Bool := r.level == .warning

/-- Records without the warnings among them. -/
def unwarned (records : List Record) : List Record := records.filter (!·.isWarning)

@[simp]
lemma unwarned_nil : unwarned [] = [] := rfl

@[simp]
lemma unwarned_append (records more : List Record) :
    unwarned (records ++ more) = unwarned records ++ unwarned more := List.filter_append ..

@[simp]
lemma unwarned_unwarned (records : List Record) : unwarned (unwarned records) = unwarned records := by
  simp [unwarned]

lemma not_isWarning_of_mem {r : Record} {records : List Record} (h : r ∈ unwarned records) :
    r.isWarning = false := by
  simpa using (List.mem_filter.1 h).2

lemma unwarned_singleton {r : Record} (h : r.isWarning = false) : unwarned [r] = [r] := by
  simp [unwarned, h]

/-- All that is told about futures are warnings. -/
@[simp]
lemma unwarned_warnings (t : Trace) : unwarned (Gate.warnings t) = [] := by
  refine List.filter_eq_nil_iff.2 fun r hr => ?_
  obtain ⟨text, -, htext⟩ := List.mem_filterMap.1 hr
  cases text with
  | text name =>
    cases htext
    simp [isWarning]
  | unwritten why => cases htext

end Record

/-! ## Faults and results -/

/-- Two faults that differ at most in what the expression of a refused value was compiled for. -/
inductive RenderFault.Alike : RenderFault → RenderFault → Prop
  | fault (f : Fault) : RenderFault.Alike (.fault f) (.fault f)
  | untrusted (c : Category) (v : Value) (shown : String) (e e' : Environment) (store : Store) :
    RenderFault.Alike (.untrusted ⟨c, v, shown, e, store⟩) (.untrusted ⟨c, v, shown, e', store⟩)

lemma RenderFault.Alike.refl (f : RenderFault) : f.Alike f := by
  cases f with
  | fault f => exact .fault f
  | untrusted r => exact .untrusted r.category r.value r.shown r.environment r.environment r.store

namespace Gate

variable {α β : Type}

/-- Two results are the same, up to the relation `P` between the faults. -/
inductive SameUpTo (P : RenderFault → RenderFault → Prop) :
    Except RenderFault α → Except RenderFault α → Prop
  | ok (a : α) : SameUpTo P (.ok a) (.ok a)
  | error {f f' : RenderFault} (h : P f f') : SameUpTo P (.error f) (.error f')

lemma SameUpTo.refl (r : Except RenderFault α) : SameUpTo Eq r r := by
  cases r with
  | ok a => exact .ok a
  | error f => exact .error rfl

lemma SameUpTo.eq {r r' : Except RenderFault α} (h : SameUpTo Eq r r') : r = r' := by
  cases h with
  | ok a => rfl
  | error h => rw [h]

lemma SameUpTo.alike {r r' : Except RenderFault α} (h : SameUpTo Eq r r') :
    SameUpTo RenderFault.Alike r r' := by
  cases h with
  | ok a => exact .ok a
  | error h => exact .error (h ▸ .refl _)

/-- The gate ends on a store with the fault of something that is nested too deeply. -/
def Overflows (x : Gate α) (s : Store) : Prop :=
  ∃ f s' told, f.IsOverflow ∧ x.Ends s (.error (.fault f)) s' told

lemma Overflows.bind {x : Gate α} {s : Store} (h : x.Overflows s) (f : α → Gate β) :
    (x >>= f).Overflows s := by
  obtain ⟨e, s', told, he, hx⟩ := h
  exact ⟨e, s', told, he, hx.bind_error⟩

lemma Ends.overflows_bind {x : Gate α} {f : α → Gate β} {a : α} {s s' : Store}
    {told : List Record} (hx : x.Ends s (.ok a) s' told) (hf : (f a).Overflows s') :
    (x >>= f).Overflows s := by
  obtain ⟨e, s'', more, he, hfa⟩ := hf
  exact ⟨e, s'', told ++ more, he, hx.bind hfa⟩

/-! ## Gates that agree -/

variable [HoldsValues α] [HoldsValues β]

/-- How two gates end on a store: the second one with a result `r'`, and the first one with a result
`r` that is the same up to `P`; of the records that the first one tells, the second one tells those
that are no warnings.  If something that is to be told does not fit, the first one ends early. -/
structure Together (R : Scope) (P : RenderFault → RenderFault → Prop) (x y : Gate α) (s : Store)
    (r r' : Except RenderFault α) (s' : Store) (told : List Record) (fits : Prop) : Prop where
  /-- The second gate tells no warnings. -/
  silent : y.Ends s r' s' (Record.unwarned told)
  /-- The first gate ends in the same way if everything can be told. -/
  telling : fits → x.Ends s r s' told
  /-- Otherwise it ends because of what cannot be told. -/
  overflow : ¬ fits → x.Overflows s
  /-- Without futures there is nothing to tell. -/
  quiet : ¬ R.futures → fits ∧ Record.unwarned told = told
  /-- The results are the same. -/
  same : SameUpTo P r r'
  /-- What is answered is free. -/
  result : FreeIn R r
  /-- The store stays free. -/
  store : FreeIn R s'

/-- Two gates that are the same in a scope, up to the relation `P` between the faults, except that
the first one may have to tell of the futures that are met. -/
structure Agree (R : Scope) (P : RenderFault → RenderFault → Prop) (x y : Gate α) : Prop where
  /-- On a free store they end together. -/
  ends : ∀ s, FreeIn R s → ∃ r r' s' told fits, Together R P x y s r r' s' told fits

lemma freeIn_mapError {r : Except Fault α} (hr : FreeIn R r) :
    FreeIn R (r.mapError RenderFault.fault) := by
  cases r
  · exact trivial
  · exact hr

namespace Agree

variable {P : RenderFault → RenderFault → Prop}

/-- Gates that end in the same way without a warning. -/
lemma of_ends {x y : Gate α} (h : ∀ s, FreeIn R s → ∃ r r' s' told, x.Ends s r s' told ∧
    y.Ends s r' s' told ∧ Record.unwarned told = told ∧ SameUpTo P r r' ∧ FreeIn R r ∧
    FreeIn R s') : Agree R P x y := by
  constructor
  intro s hs
  obtain ⟨r, r', s', told, hx, hy, htold, hsame, hr, hs'⟩ := h s hs
  exact ⟨r, r', s', told, True, htold.symm ▸ hy, fun _ => hx, fun h => absurd trivial h,
    fun _ => ⟨trivial, htold⟩, hsame, hr, hs'⟩

/-- In a region without futures gates that agree end in the same way. -/
lemma ends_region {R : Region} {x y : Gate α} (h : Agree R P x y) {s : Store} (hs : FreeIn R s) :
    ∃ r r' s' told, x.Ends s r s' told ∧ y.Ends s r' s' told ∧ Record.unwarned told = told ∧
      SameUpTo P r r' := by
  obtain ⟨r, r', s', told, fits, htogether⟩ := h.ends s hs
  obtain ⟨hfits, htold⟩ := htogether.quiet id
  have hsilent := htogether.silent
  rw [htold] at hsilent
  exact ⟨r, r', s', told, htogether.telling hfits, hsilent, htold, htogether.same⟩

/-- Faults that are equal are alike. -/
protected lemma alike {x y : Gate α} (h : Agree R Eq x y) : Agree R RenderFault.Alike x y := by
  constructor
  intro s hs
  obtain ⟨r, r', s', told, fits, h⟩ := h.ends s hs
  exact ⟨r, r', s', told, fits, h.silent, h.telling, h.overflow, h.quiet, h.same.alike, h.result,
    h.store⟩

protected lemma pure {a : α} (ha : FreeIn R a) : Agree R Eq (pure a) (pure a) :=
  of_ends fun s hs => ⟨_, _, s, [], .pure a s, .pure a s, rfl, .ok a, ha, hs⟩

protected lemma throw {f f' : RenderFault} (h : P f f') :
    Agree R P (throw f : Gate α) (throw f') :=
  of_ends fun s hs => ⟨_, _, s, [], .throw f s, .throw f' s, rfl, .error h, trivial, hs⟩

/-- A look at the store changes nothing. -/
protected lemma look {x : Look α} (hx : x.Safe R) : Agree R Eq (look x) (look x) :=
  of_ends fun s hs => ⟨_, _, s, [], .look x s, .look x s, rfl, .refl _,
    freeIn_mapError (hx.result s hs), hs⟩

/-- A record that is no warning is told in any case. -/
protected lemma tell {r : Record} (h : r.isWarning = false) : Agree R Eq (tell r) (tell r) :=
  of_ends fun s hs => ⟨_, _, s, [r], .tell r s, .tell r s, Record.unwarned_singleton h, .ok (),
    trivial, hs⟩

/-- All that is told of an evaluation are warnings. -/
protected lemma ofEval {x y : Eval α} (h : Eval.Agree R x y) (logging : Bool) {logging' : Bool}
    (hsilent : R.futures → logging' = false) :
    Agree R Eq (ofEval logging x) (ofEval logging' y) := by
  constructor
  intro s hs
  obtain ⟨r, s', met, h⟩ := h.ends s hs
  refine ⟨r.mapError .fault, r.mapError .fault, s', if logging then warnings met else [], met.Fits,
    ?_, fun hfits => (h.fits hfits).ofEval logging, fun hmet => ?_, fun hnone => ?_, .refl _,
    freeIn_mapError h.result, h.store⟩
  · have hends := h.silent.ofEval logging'
    rcases Classical.em R.futures with hR | hR
    · obtain rfl := hsilent hR
      rwa [apply_ite Record.unwarned, Record.unwarned_warnings, Record.unwarned_nil, ite_self]
    · rw [h.none_met hR] at hends ⊢
      rwa [show warnings [] = [] from rfl, ite_self] at hends ⊢
  · obtain ⟨f, after, more, hf, hends⟩ := h.overflow hmet
    exact ⟨f, after, _, hf, hends.ofEval logging⟩
  · rw [h.none_met hnone, show warnings [] = [] from rfl, ite_self]
    exact ⟨Trace.fits_nil, rfl⟩

/-- **Gates that agree step by step agree.** -/
protected theorem bind {x y : Gate α} {f g : α → Gate β} (hx : Agree R P x y)
    (hf : ∀ a, FreeIn R a → Agree R P (f a) (g a)) : Agree R P (x >>= f) (y >>= g) := by
  constructor
  intro s hs
  obtain ⟨r, r', s', told, fits, h⟩ := hx.ends s hs
  rcases h.same with ⟨a⟩ | hfault
  · obtain ⟨t, t', s'', more, fits', h'⟩ := (hf a h.result).ends s' h.store
    refine ⟨t, t', s'', told ++ more, fits ∧ fits', ?_, fun hfits => ?_, fun hmet => ?_,
      fun hnone => ?_, h'.same, h'.result, h'.store⟩
    · rw [Record.unwarned_append]
      exact h.silent.bind h'.silent
    · exact (h.telling hfits.1).bind (h'.telling hfits.2)
    · by_cases hfirst : fits
      · exact (h.telling hfirst).overflows_bind (h'.overflow fun hmore => hmet ⟨hfirst, hmore⟩)
      · exact (h.overflow hfirst).bind f
    · obtain ⟨hfirst, htold⟩ := h.quiet hnone
      obtain ⟨hsecond, hmore⟩ := h'.quiet hnone
      exact ⟨⟨hfirst, hsecond⟩, by rw [Record.unwarned_append, htold, hmore]⟩
  · exact ⟨_, _, s', told, fits, h.silent.bind_error, fun hfits => (h.telling hfits).bind_error,
      fun hmet => (h.overflow hmet).bind f, h.quiet, .error hfault, trivial, h.store⟩

end Agree

/-- Gates that agree leave behind the same changes of the values that were there. -/
protected lemma Agree.settled {P : RenderFault → RenderFault → Prop} {begin begin' : Gate Unit}
    {x y : Gate α} (hbegin : Agree R P begin begin') (hx : Agree R P x y) :
    Agree R P (settled begin x) (settled begin' y) := by
  constructor
  intro s hs
  obtain ⟨r, r', begun, told, fits, h⟩ := hbegin.ends s.fresh hs.fresh
  have hover : ¬ fits → (Gate.settled begin x).Overflows s := by
    intro hmet
    obtain ⟨f, after, more, hf, hends⟩ := h.overflow hmet
    exact ⟨f, s, more, hf, hends.settled_error⟩
  rcases h.same with _ | hfault
  · obtain ⟨t, t', done, more, fits', h'⟩ := hx.ends begun h.store
    refine ⟨t, t', _, told ++ more, fits ∧ fits', ?_, fun hfits => ?_, fun hmet => ?_,
      fun hnone => ?_, h'.same, h'.result, hs.settled h'.store begun.cells.size⟩
    · rw [Record.unwarned_append]
      exact h.silent.settled h'.silent
    · exact (h.telling hfits.1).settled (h'.telling hfits.2)
    · by_cases hfirst : fits
      · obtain ⟨f, after, rest, hf, hends⟩ := h'.overflow fun hmore => hmet ⟨hfirst, hmore⟩
        exact ⟨f, _, told ++ rest, hf, (h.telling hfirst).settled hends⟩
      · exact hover hfirst
    · obtain ⟨hfirst, htold⟩ := h.quiet hnone
      obtain ⟨hsecond, hmore⟩ := h'.quiet hnone
      exact ⟨⟨hfirst, hsecond⟩, by rw [Record.unwarned_append, htold, hmore]⟩
  · exact ⟨_, _, s, told, fits, h.silent.settled_error,
      fun hfits => (h.telling hfits).settled_error, hover, h.quiet, .error hfault, trivial, hs⟩

end Gate

/-! ## The gate before sensitive places -/

/-- The value without its approval is free. -/
lemma Value.safe_unwrapped {v : Value} (hv : FreeIn R v) : v.unwrapped.Safe R := by
  unfold Value.unwrapped
  split
  · next r hr => exact Look.safe_itemAt (freeIn_of_content hr hv) 0
  · exact .pure hv

section Environments

variable {e e' : Environment} (h : e.Alike R e') (futures : Futures) {v : Value}

include h

lemma Gate.Agree.write (hv : FreeIn R v) :
    Gate.Agree R Eq (Gate.write e futures v) (Gate.write e' futures v) :=
  .ofEval ((h.setting futures).coerce hv) _ h.silent

namespace Policy

lemma shown_eq (v : Value) : shown e futures v = shown e' futures v := by
  rw [shown, shown, (h.setting futures).repr]

lemma agree_refuse {α : Type} [HoldsValues α] (c : Category) (v : Value) :
    Gate.Agree R RenderFault.Alike (refuse e futures c v : Gate α) (refuse e' futures c v) := by
  unfold refuse
  rw [shown_eq h]
  refine .bind (Gate.Agree.look (.of_none _)).alike fun text _ => .of_ends fun s hs => ?_
  exact ⟨_, _, s, [], .of_outcome fun _ => rfl, .of_outcome fun _ => rfl, rfl,
    .error (.untrusted c v text e e' s), trivial, hs⟩

lemma agree_getResource (p : Policy) (url : String) (hv : FreeIn R v) :
    Gate.Agree R RenderFault.Alike (p.getResource e futures v url)
      (p.getResource e' futures v url) := by
  unfold getResource
  split
  · exact .throw (.fault _)
  · exact (Gate.Agree.pure hv).alike
  · rw [shown_eq h]
    refine .bind (Gate.Agree.look (.of_none _)).alike fun text _ => ?_
    exact .bind (Gate.Agree.tell rfl).alike fun _ _ => agree_refuse h futures .resourceUrl v

/-- Values pass the gate alike. -/
lemma agree_getTrusted (p : Policy) (c : Category) (hv : FreeIn R v) :
    Gate.Agree R RenderFault.Alike (p.getTrusted e futures c v) (p.getTrusted e' futures c v) := by
  unfold getTrusted
  split
  · exact (Gate.Agree.pure hv).alike
  · exact (Gate.Agree.pure hv).alike
  · split
    · exact (Gate.Agree.look (Value.safe_unwrapped hv)).alike
    · exact agree_refuse h futures c v
  · split
    · exact (Gate.Agree.pure hv).alike
    · exact (Gate.Agree.pure (a := Value.markup _) trivial).alike
    · exact (Gate.Agree.pure (a := Value.markup _) trivial).alike
    · exact (Gate.Agree.write h futures hv).alike.bind fun _ _ =>
        (Gate.Agree.pure (a := Value.markup _) trivial).alike
    · exact agree_getResource h futures p _ hv
    · exact agree_refuse h futures _ v

end Policy

lemma Surroundings.agree_write (s : Surroundings) (trusted : Option Category) (hv : FreeIn R v) :
    Gate.Agree R RenderFault.Alike (s.write trusted e v) (s.write trusted e' v) := by
  rw [write_eq, write_eq]
  refine .bind ?_ fun u hu => (Gate.Agree.write h s.futures hu).alike
  cases trusted with
  | some c => exact s.policy.agree_getTrusted h s.futures c hv
  | none => exact (Gate.Agree.look (Value.safe_unwrapped hv)).alike

end Environments

/-! ## Expressions -/

/-- Expressions of one source that take futures alike where any are met, except that the second one
does not tell of them. -/
structure Expression.Alike (R : Scope) (e e' : Expression) : Prop where
  /-- They are the same expression. -/
  body : e.body = e'.body
  /-- No future is written in it. -/
  free : FreeIn R e.body
  /-- They are evaluated alike. -/
  environment : e.environment.Alike R e'.environment
  /-- A future that is the value is resolved by both, or by none of them. -/
  resolving : R.futures → e.resolving = e'.resolving
  /-- What is told of it has a name. -/
  source : R.futures → e.source = e'.source
  /-- The second expression does not tell of it. -/
  silent : R.futures → e'.resolving = true → e'.logging = false

namespace Expression

/-- What an expression amounts to is free. -/
lemma freeIn_settle (strict : Bool) {v : Value} (hv : FreeIn R v) : FreeIn R (settle strict v) := by
  unfold settle
  split
  · split
    · exact trivial
    · split
      · exact trivial
      · exact hv
  · exact hv

/-- Where no futures are met, a free value stands for itself. -/
lemma resolvePending_eq (hR : ¬ R.futures) (logging : Bool) (futures : Futures) (name : String)
    {v : Value} (hv : FreeIn R v) : resolvePending logging futures name v = pure v := by
  rw [resolvePending, futures.settling_eq hR logging (.str name) hv]
  exact Gate.ofEval_pure logging v

/-- A name is never nested too deeply to be told. -/
lemma agree_resolvePending (hR : R.futures) (logging : Bool) (futures : Futures) (name : String)
    (v : Value) :
    Gate.Agree R Eq (resolvePending logging futures name v)
      (resolvePending false futures name v) := by
  rw [resolvePending, futures.settling_str logging true]
  exact .ofEval (futures.agree_settling hR (.str name) v) logging fun _ => rfl

/-- The names of an expression get their values from a context. -/
def naming (e : Expression) (futures : Futures) (c : Context) : Eval Unit :=
  if e.body.isNone then return () else c.bind (e.setting futures) e.names

/-- The value that an expression has, once a future is resolved that it amounts to. -/
def resolved (e : Expression) (futures : Futures) (v : Value) : Eval Value :=
  if e.resolving then futures.settling e.logging (.str e.source) v else return v

/-- The whole computation of an expression in a context. -/
def computation (e : Expression) (futures : Futures) (c : Context) : Eval Value := do
  e.naming futures c
  e.resolved futures (← e.evaluate futures)

namespace Alike

variable {e e' : Expression}

lemma evaluate (h : e.Alike R e') (futures : Futures) :
    Eval.Agree R (e.evaluate futures) (e'.evaluate futures) := by
  have hbody := h.free
  unfold Expression.evaluate
  rw [← h.body, ← h.environment.strict]
  split
  · exact .pure trivial
  · next body heq =>
    rw [heq] at hbody
    have heval := (h.environment.setting futures).eval hbody
    exact heval.inStream.bind fun v hv => .except (freeIn_settle _ hv)

lemma naming (h : e.Alike R e') (futures : Futures) {c : Context} (hc : FreeIn R c) :
    Eval.Agree R (e.naming futures c) (e'.naming futures c) := by
  have halike : (e.setting futures).Alike R (e'.setting futures) := h.environment.setting futures
  unfold Expression.naming
  rw [names, names, ← h.body]
  exact .ite (.pure trivial) (halike.bind hc _)

/-- A future that is the value is resolved by both, if the first one tells of it. -/
lemma resolved (h : e.Alike R e') (htelling : R.futures → e.resolving = true → e.logging = true)
    (futures : Futures) {v : Value} (hv : FreeIn R v) :
    Eval.Agree R (e.resolved futures v) (e'.resolved futures v) := by
  unfold Expression.resolved
  by_cases hR : R.futures
  · rw [← h.resolving hR, ← h.source hR]
    split
    · next hresolving =>
      rw [htelling hR hresolving, h.silent hR (h.resolving hR ▸ hresolving)]
      exact futures.agree_settling hR _ v
    · exact .pure hv
  · simp only [futures.settling_eq hR _ _ hv, ite_self]
    exact .pure hv

/-- The whole computation is the same. -/
lemma computation (h : e.Alike R e') (htelling : R.futures → e.resolving = true → e.logging = true)
    (futures : Futures) {c : Context} (hc : FreeIn R c) :
    Eval.Agree R (e.computation futures c) (e'.computation futures c) :=
  (h.naming futures hc).bind fun _ _ => (h.evaluate futures).bind fun _ hv =>
    h.resolved htelling futures hv

/-- The names get the same values. -/
lemma bind (h : e.Alike R e') (futures : Futures) {c : Context} (hc : FreeIn R c) :
    Gate.Agree R Eq (e.bind futures c) (e'.bind futures c) := by
  have halike : (e.setting futures).Alike R (e'.setting futures) := h.environment.setting futures
  unfold Expression.bind
  rw [names, names, ← h.body]
  split
  · exact .pure trivial
  · exact .ofEval (halike.bind hc _) _ h.environment.silent

/-- The value is the same, also where a future is resolved that is the value of the whole. -/
lemma value (h : e.Alike R e') (futures : Futures) :
    Gate.Agree R Eq (e.value futures) (e'.value futures) := by
  refine (Gate.Agree.ofEval (h.evaluate futures) _ h.environment.silent).bind fun v hv => ?_
  by_cases hR : R.futures
  · rw [h.resolving hR, h.source hR]
    split
    · next hresolving =>
      rw [h.silent hR hresolving]
      exact agree_resolvePending hR e.logging futures e'.source v
    · exact .pure hv
  · simp only [resolvePending_eq hR _ _ _ hv, ite_self]
    exact .pure hv

end Alike

section Runs

variable (e : Expression) (futures : Futures)

lemma uniform_naming (c : Context) : (e.naming futures c).Uniform := by
  unfold naming
  split
  · exact .pure ()
  · exact e.environment.uniform futures fun halike => halike.bind (freeIn_everything c) e.names

lemma uniform_evaluate : (e.evaluate futures).Uniform := by
  unfold evaluate
  split
  · exact .pure _
  · next body _ =>
    refine e.environment.uniform futures (f := fun s => do
      settle e.environment.strict (← (s.eval body).inStream)) fun halike => ?_
    have heval := halike.eval (freeIn_everything body)
    exact heval.inStream.bind fun v _ => .except (freeIn_everything _)

lemma uniform_resolved (v : Value) : (e.resolved futures v).Uniform := by
  unfold resolved
  split
  · rw [futures.settling_str e.logging true]
    exact (futures.agree_settling (R := .everything) trivial _ v).uniform_left
  · exact .pure v

/-- The two steps of an evaluation do what the computation does, and what is told is told of its
lookups. -/
lemma runs_computation (h : e.resolving = true → e.environment.logging = e.logging) (c : Context) :
    Gate.Runs e.environment.logging (e.computation futures c)
      (e.bind futures c >>= fun _ => e.value futures) := by
  have hnaming : Gate.Runs e.environment.logging (e.naming futures c) (e.bind futures c) := by
    unfold naming Expression.bind
    split
    · exact .pure ()
    · exact .ofEval _
  have hresolved : ∀ v, Gate.Runs e.environment.logging (e.resolved futures v)
      (if e.resolving then resolvePending e.logging futures e.source v else pure v) := by
    intro v
    unfold resolved
    split
    · next hresolving =>
      rw [h hresolving]
      exact .ofEval _
    · exact .pure v
  have hvalue : Gate.Runs e.environment.logging
      (e.evaluate futures >>= e.resolved futures) (e.value futures) :=
    .bind (.ofEval _) hresolved (e.uniform_evaluate futures) (e.uniform_resolved futures)
  exact hnaming.bind (fun _ => hvalue) (e.uniform_naming futures c) fun _ =>
    (e.uniform_evaluate futures).bind (e.uniform_resolved futures)

end Runs

end Expression

/-! ## Segments -/

/-- Segments that differ at most in how they take futures. -/
inductive Segment.Alike (R : Scope) : Segment → Segment → Prop
  | literal (text : String) : Segment.Alike R (.literal text) (.literal text)
  | expression {e e' : Expression} (deferred deferred' : Bool) (h : e.Alike R e') :
    Segment.Alike R (.expression e deferred) (.expression e' deferred')

variable {c : Context}

/-- A segment has the same text, or the same fault. -/
lemma Segment.Alike.render {segment segment' : Segment} (h : segment.Alike R segment')
    (s : Surroundings) (trusted : Option Category) (hc : FreeIn R c) :
    Gate.Agree R RenderFault.Alike (segment.render s trusted c) (segment'.render s trusted c) := by
  cases h with
  | literal text => exact (Gate.Agree.pure trivial).alike
  | expression _ _ h =>
    refine .settled (h.bind s.futures hc).alike ?_
    refine .bind (h.value s.futures).alike fun v hv => ?_
    exact s.agree_write h.environment trusted hv

/-- **Segments from left to right** have the same texts, or the same first fault. -/
theorem Template.renderAll_agree {segments segments' : List Segment}
    (h : List.Forall₂ (Segment.Alike R) segments segments') (s : Surroundings)
    (trusted : Option Category) (hc : FreeIn R c) :
    Gate.Agree R RenderFault.Alike (renderAll s trusted c segments)
      (renderAll s trusted c segments') := by
  induction h with
  | nil => exact (Gate.Agree.pure trivial).alike
  | cons hsegment _ ih =>
    exact (hsegment.render s trusted hc).bind fun _ _ => ih.bind fun _ _ =>
      (Gate.Agree.pure trivial).alike

end Interpolation
