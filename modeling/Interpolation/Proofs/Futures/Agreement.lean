import Interpolation.Proofs.Evaluation.Outcome
import Interpolation.Proofs.Futures.Region
import Interpolation.Value.Document

/-!
# Computations that agree

Two settings that treat futures differently run the same evaluation, as long as it meets no future;
and two settings that differ only in whether they tell of futures run the same evaluation in any
case, unless what is to be told is nested too deeply.  `Eval.Agree` compares two computations in a
scope: they end alike, the store stays free, and what they answer is free.  In a region no lookup
meets a future.  Where futures are met, the first computation may instead end early because there
is something too deeply nested to be told; the second one is silent.

A computation that agrees with itself is safe.  Agreement is carried through all the ways in which
computations are put together, so an evaluation is compared step by step along its definition, and
what it answers is known to be free when the next step begins.

* `Look.Safe`, `Building.Safe` — a look at the store, or new cells, that answer something free.
* `Wording.Fits`, `Fault.IsOverflow` — what can be told, and the faults of what is nested too deeply.
* `Eval.Agree` — two evaluations end alike in a scope.
* `Eval.Agree.bind` — evaluations that agree step by step agree.
-/

namespace Interpolation

/-! ## Too many levels -/

/-- A wording can be told unless it is of something that is nested too deeply. -/
def Wording.Fits (w : Wording) : Prop := ∀ activity, w ≠ .unwritten (.tooDeep activity)

/-- Everything that was met can be told. -/
def Trace.Fits (met : Trace) : Prop := ∀ w ∈ met, w.Fits

namespace Trace

@[simp]
lemma fits_nil : Fits [] := fun _ h => absurd h List.not_mem_nil

@[simp]
lemma fits_append {met more : Trace} : Fits (met ++ more) ↔ Fits met ∧ Fits more :=
  List.forall_mem_append

end Trace

/-- The faults of something that is nested too deeply, met inside of a document or not. -/
inductive Fault.IsOverflow : Fault → Prop
  | tooDeep (activity : String) : IsOverflow (.tooDeep activity)
  | inDocument (activity : String) : IsOverflow (Fault.tooDeep activity).inDocument

/-- Such a fault stays one when it is met inside of a document. -/
lemma Fault.IsOverflow.met_inDocument {f : Fault} (h : f.IsOverflow) : f.inDocument.IsOverflow := by
  cases h with
  | tooDeep activity => exact .inDocument activity
  | inDocument activity => exact .inDocument activity

/-- Such a fault says nothing about further items. -/
lemma Fault.IsOverflow.endsStream_eq {f : Fault} (h : f.IsOverflow) : f.endsStream = false := by
  cases h <;> rfl

/-- It leaves a stream as it is. -/
lemma Fault.IsOverflow.outOfStream_eq {f : Fault} (h : f.IsOverflow) : f.outOfStream = f := by
  rw [Fault.outOfStream, h.endsStream_eq]
  rfl

namespace Eval

variable {α β : Type}

/-- The evaluation ends on a store with the fault of something that is nested too deeply. -/
def Overflows (x : Eval α) (s : Store) : Prop :=
  ∃ f s' told, f.IsOverflow ∧ x.Ends s (.error f) s' told

lemma overflows_throw {f : Fault} (h : f.IsOverflow) (s : Store) :
    Overflows (throw f : Eval α) s := ⟨f, s, [], h, .throw f s⟩

lemma Overflows.bind {x : Eval α} {s : Store} (h : x.Overflows s) (f : α → Eval β) :
    (x >>= f).Overflows s := by
  obtain ⟨e, s', told, he, hx⟩ := h
  exact ⟨e, s', told, he, hx.bind_error⟩

lemma Ends.overflows_bind {x : Eval α} {f : α → Eval β} {a : α} {s s' : Store} {told : Trace}
    (hx : x.Ends s (.ok a) s' told) (hf : (f a).Overflows s') : (x >>= f).Overflows s := by
  obtain ⟨e, s'', more, he, hfa⟩ := hf
  exact ⟨e, s'', told ++ more, he, hx.bind hfa⟩

end Eval

variable {α β σ : Type} [HoldsValues α] [HoldsValues β] [HoldsValues σ] {R : Scope}

/-! ## Looking -/

/-- A look at a free store answers something free. -/
structure Look.Safe (R : Scope) (x : Look α) : Prop where
  /-- What is answered is free. -/
  result : ∀ s, FreeIn R s → FreeIn R (x.run s)

namespace Look.Safe

/-- Any look is safe that answers something without values. -/
protected lemma of_none {γ : Type} [HoldsNone γ] (x : Look γ) : x.Safe R := by
  constructor
  intro s _
  cases x.run s with
  | error _ => exact trivial
  | ok a => exact freeIn_of_none R a

protected lemma pure {a : α} (ha : FreeIn R a) : (pure a : Look α).Safe R := ⟨fun _ _ => ha⟩

protected lemma throw (f : Fault) : (throw f : Look α).Safe R := ⟨fun _ _ => trivial⟩

protected lemma bind {x : Look α} {f : α → Look β} (hx : x.Safe R)
    (hf : ∀ a, FreeIn R a → (f a).Safe R) : (x >>= f).Safe R := by
  constructor
  intro s hs
  exact freeIn_exceptBind (hx.result s hs) fun a ha => (hf a ha).result s hs

protected lemma map {x : Look α} {f : α → β} (hx : x.Safe R)
    (hf : ∀ a, FreeIn R a → FreeIn R (f a)) : (f <$> x).Safe R := by
  rw [map_eq_pure_bind]
  exact hx.bind fun a ha => .pure (hf a ha)

/-- What needs no store is safe if it is free. -/
protected lemma except {x : Except Fault α} (hx : FreeIn R x) : Look.Safe R (liftM x) :=
  ⟨fun _ _ => hx⟩

/-- A filter keeps some of the items. -/
protected lemma filterM {p : α → Look Bool} {as : List α} (h : FreeIn R as) :
    (as.filterM p).Safe R := by
  have haux : ∀ acc, FreeIn R acc → (List.filterAuxM p as acc).Safe R := by
    intro acc hacc
    induction as generalizing acc with
    | nil => exact .pure hacc
    | cons a as ih =>
      obtain ⟨ha, has⟩ := freeIn_cons.1 h
      refine .bind (.of_none (p a)) fun b _ => ih has _ ?_
      cases b
      · exact hacc
      · exact freeIn_cons.2 ⟨ha, hacc⟩
  exact (haux [] freeIn_nil).bind fun bs hbs => .pure (freeIn_reverse hbs)

end Look.Safe

namespace Look

variable {r : Ref}

lemma safe_row (hr : FreeIn R r) : (row r).Safe R := ⟨fun _ hs => hs.row hr⟩

lemma safe_items (hr : FreeIn R r) : (items r).Safe R := ⟨fun _ hs => hs.row hr⟩

lemma safe_itemAt (hr : FreeIn R r) (i : Nat) : (itemAt r i).Safe R :=
  ⟨fun _ hs => freeIn_getD (freeIn_array_getElem? (hs.row hr) i) trivial⟩

lemma safe_entries (hr : FreeIn R r) : (entries r).Safe R := ⟨fun _ hs => hs.entries hr⟩

lemma safe_course (hr : FreeIn R r) : (course r).Safe R := ⟨fun _ hs => hs.course hr⟩

lemma safe_attributes (hr : FreeIn R r) : (attributes r).Safe R := ⟨fun _ hs => hs.attributes hr⟩

end Look

/-! ## Building -/

/-- New cells on a free store, and an answer, that are free. -/
structure Building.Safe (R : Scope) (x : Building α) : Prop where
  /-- What is answered is free. -/
  result : ∀ s, FreeIn R s → FreeIn R (x.run s).1
  /-- The store stays free. -/
  store : ∀ s, FreeIn R s → FreeIn R (x.run s).2

namespace Building.Safe

protected lemma pure {a : α} (ha : FreeIn R a) : (pure a : Building α).Safe R :=
  ⟨fun _ _ => ha, fun _ hs => hs⟩

protected lemma bind {x : Building α} {f : α → Building β} (hx : x.Safe R)
    (hf : ∀ a, FreeIn R a → (f a).Safe R) : (x >>= f).Safe R where
  result s hs := (hf _ (hx.result s hs)).result _ (hx.store s hs)
  store s hs := (hf _ (hx.result s hs)).store _ (hx.store s hs)

protected lemma map {x : Building α} {f : α → β} (hx : x.Safe R)
    (hf : ∀ a, FreeIn R a → FreeIn R (f a)) : (x >>= fun a => pure (f a)).Safe R :=
  hx.bind fun a ha => .pure (hf a ha)

protected lemma get : Building.Safe R (get : Building Store) := ⟨fun _ hs => hs, fun _ hs => hs⟩

/-- A change of the store is safe if it keeps free stores free. -/
protected lemma modify {f : Store → Store} (hf : ∀ s, FreeIn R s → FreeIn R (f s)) :
    Building.Safe R (modify f : Building Unit) := ⟨fun _ _ => trivial, hf⟩

protected lemma mapM {f : α → Building β} {as : List α} (has : FreeIn R as)
    (hf : ∀ a, FreeIn R a → (f a).Safe R) : (as.mapM f).Safe R := by
  induction as with
  | nil => exact .pure freeIn_nil
  | cons a as ih =>
    obtain ⟨ha, has⟩ := freeIn_cons.1 has
    rw [List.mapM_cons]
    exact (hf a ha).bind fun b hb => (ih has).map fun bs hbs => freeIn_cons.2 ⟨hb, hbs⟩

protected lemma foldlM {γ : Type} {f : β → γ → Building β} (hf : ∀ b c, FreeIn R b → (f b c).Safe R)
    (cs : List γ) {b : β} (hb : FreeIn R b) : (cs.foldlM f b).Safe R := by
  induction cs generalizing b with
  | nil => exact .pure hb
  | cons c cs ih => exact (hf b c hb).bind fun _ h => ih h

protected lemma forM {γ : Type} {f : γ → Building Unit} (hf : ∀ a, (f a).Safe R) (as : List γ) :
    Building.Safe R (as.forM f) := by
  induction as with
  | nil => exact .pure trivial
  | cons a as ih => exact (hf a).bind fun _ _ => ih

end Building.Safe

/-! ## Evaluations -/

/-- How two evaluations end on a store: the second one with a result, and with the lookups that met
futures; the first one in the same way, unless one of these lookups cannot be told. -/
structure Eval.Together (R : Scope) (x y : Eval α) (s : Store) (r : Except Fault α) (s' : Store)
    (met : Trace) : Prop where
  /-- The second evaluation ends with the result. -/
  silent : y.Ends s r s' met
  /-- What is answered is free. -/
  result : FreeIn R r
  /-- The store stays free. -/
  store : FreeIn R s'
  /-- Without futures none is met. -/
  none_met : ¬ R.futures → met = []
  /-- The first evaluation ends in the same way if everything can be told. -/
  fits : met.Fits → x.Ends s r s' met
  /-- Otherwise it ends because of what cannot be told. -/
  overflow : ¬ met.Fits → x.Overflows s

/-- Two evaluations that are the same in a scope, except that the first one may have to tell of the
futures that are met. -/
structure Eval.Agree (R : Scope) (x y : Eval α) : Prop where
  /-- On a free store they end together. -/
  ends : ∀ s, FreeIn R s → ∃ r s' met, Eval.Together R x y s r s' met

/-- An evaluation that stays in a scope and tells of no futures. -/
abbrev Eval.Safe (R : Scope) (x : Eval α) : Prop := Eval.Agree R x x

namespace Eval.Agree

/-- Evaluations that end in the same way and meet no futures. -/
lemma of_ends {x y : Eval α} (h : ∀ s, FreeIn R s → ∃ r s', x.Ends s r s' [] ∧ y.Ends s r s' [] ∧
    FreeIn R r ∧ FreeIn R s') : Eval.Agree R x y := by
  constructor
  intro s hs
  obtain ⟨r, s', hx, hy, hr, hs'⟩ := h s hs
  exact ⟨r, s', [], hy, hr, hs', fun _ => rfl, fun _ => hx, fun hmet => absurd Trace.fits_nil hmet⟩

/-- In a region without futures evaluations that agree end in the same way. -/
lemma ends_region {R : Region} {x y : Eval α} (h : Eval.Agree R x y) {s : Store}
    (hs : FreeIn R s) : ∃ r s', x.Ends s r s' [] ∧ y.Ends s r s' [] ∧ FreeIn R r ∧ FreeIn R s' := by
  obtain ⟨r, s', met, htogether⟩ := h.ends s hs
  obtain rfl := htogether.none_met id
  exact ⟨r, s', htogether.fits Trace.fits_nil, htogether.silent, htogether.result,
    htogether.store⟩

/-- In everything, evaluations that agree end in some way, each of them. -/
lemma uniform_right {x y : Eval α} (h : Eval.Agree .everything x y) : y.Uniform := by
  constructor
  intro s
  obtain ⟨r, s', met, htogether⟩ := h.ends s (freeIn_everything s)
  exact ⟨r, s', met, htogether.silent⟩

lemma uniform_left {x y : Eval α} (h : Eval.Agree .everything x y) : x.Uniform := by
  constructor
  intro s
  obtain ⟨r, s', met, htogether⟩ := h.ends s (freeIn_everything s)
  by_cases hfits : met.Fits
  · exact ⟨r, s', met, htogether.fits hfits⟩
  · obtain ⟨f, after, told, -, hends⟩ := htogether.overflow hfits
    exact ⟨.error f, after, told, hends⟩

protected lemma pure {a : α} (ha : FreeIn R a) : Eval.Safe R (pure a : Eval α) :=
  of_ends fun s hs => ⟨_, s, .pure a s, .pure a s, ha, hs⟩

protected lemma throw (f : Fault) : Eval.Safe R (throw f : Eval α) :=
  of_ends fun s hs => ⟨_, s, .throw f s, .throw f s, trivial, hs⟩

/-- Nothing follows a fault. -/
protected lemma throw_bind {γ : Type} (e : Fault) (f g : γ → Eval α) :
    Eval.Agree R ((throw e : Eval γ) >>= f) ((throw e : Eval γ) >>= g) :=
  of_ends fun s hs => ⟨_, s, (Ends.throw e s).bind_error, (Ends.throw e s).bind_error, trivial, hs⟩

/-- A look at the store changes nothing. -/
protected lemma look {x : Look α} (hx : x.Safe R) : Eval.Safe R (liftM x : Eval α) :=
  of_ends fun s hs => ⟨_, s, .look x s, .look x s, hx.result s hs, hs⟩

protected lemma look_of_none {γ : Type} [HoldsNone γ] (x : Look γ) :
    Eval.Safe R (liftM x : Eval γ) := .look (.of_none x)

protected lemma except {x : Except Fault α} (hx : FreeIn R x) : Eval.Safe R (liftM x : Eval α) :=
  of_ends fun s hs => ⟨x, s, .except x s, .except x s, hx, hs⟩

protected lemma except_of_none {γ : Type} [HoldsNone γ] (x : Except Fault γ) :
    Eval.Safe R (liftM x : Eval γ) := by
  refine .except ?_
  cases x with
  | error _ => exact trivial
  | ok a => exact freeIn_of_none R a

protected lemma build {x : Building α} (hx : x.Safe R) : Eval.Safe R (liftM x : Eval α) :=
  of_ends fun s hs => ⟨_, _, .build x s, .build x s, hx.result s hs, hx.store s hs⟩

protected lemma getStore : Eval.Safe R (getThe Store : Eval Store) := .build .get

/-- **Evaluations that agree step by step agree.** -/
protected theorem bind {x y : Eval α} {f g : α → Eval β} (hx : Eval.Agree R x y)
    (hf : ∀ a, FreeIn R a → Eval.Agree R (f a) (g a)) : Eval.Agree R (x >>= f) (y >>= g) := by
  constructor
  intro s hs
  obtain ⟨r, s', met, h⟩ := hx.ends s hs
  cases r with
  | error e =>
    exact ⟨.error e, s', met, h.silent.bind_error, trivial, h.store, h.none_met,
      fun hfits => (h.fits hfits).bind_error, fun hmet => (h.overflow hmet).bind f⟩
  | ok a =>
    obtain ⟨r', s'', more, h'⟩ := (hf a h.result).ends s' h.store
    refine ⟨r', s'', met ++ more, h.silent.bind h'.silent, h'.result, h'.store, fun hnone => ?_,
      fun hfits => ?_, fun hmet => ?_⟩
    · rw [h.none_met hnone, h'.none_met hnone]
      rfl
    · obtain ⟨hfirst, hmore⟩ := Trace.fits_append.1 hfits
      exact (h.fits hfirst).bind (h'.fits hmore)
    · by_cases hfirst : met.Fits
      · exact (h.fits hfirst).overflows_bind
          (h'.overflow fun hmore => hmet (Trace.fits_append.2 ⟨hfirst, hmore⟩))
      · exact (h.overflow hfirst).bind f

protected lemma ite {c : Prop} [Decidable c] {x x' y y' : Eval α} (hx : Eval.Agree R x x')
    (hy : Eval.Agree R y y') : Eval.Agree R (if c then x else y) (if c then x' else y') := by
  split
  · exact hx
  · exact hy

protected lemma map {x y : Eval α} {f : α → β} (hx : Eval.Agree R x y)
    (hf : ∀ a, FreeIn R a → FreeIn R (f a)) : Eval.Agree R (f <$> x) (f <$> y) := by
  rw [map_eq_pure_bind, map_eq_pure_bind]
  exact hx.bind fun a ha => .pure (hf a ha)

/-- Going on in another way after a fault; the fault of what is nested too deeply passes. -/
protected lemma orElse {x y : Eval α} {f g : Fault → Eval α} (hx : Eval.Agree R x y)
    (hf : ∀ e, Eval.Agree R (f e) (g e))
    (hpass : R.futures → ∀ e, e.IsOverflow → ∀ s, (f e).Overflows s) :
    Eval.Agree R (Eval.orElse x f) (Eval.orElse y g) := by
  constructor
  intro s hs
  obtain ⟨r, s', met, h⟩ := hx.ends s hs
  have hover : ¬ met.Fits → (Eval.orElse x f).Overflows s := by
    intro hmet
    have hfutures : R.futures := by
      by_contra hnone
      rw [h.none_met hnone] at hmet
      exact hmet Trace.fits_nil
    obtain ⟨e, after, told, he, hends⟩ := h.overflow hmet
    obtain ⟨e', last, more, he', hends'⟩ := hpass hfutures e he after
    exact ⟨e', last, told ++ more, he', hends.orElse_error hends'⟩
  cases r with
  | ok a =>
    exact ⟨.ok a, s', met, h.silent.orElse, h.result, h.store, h.none_met,
      fun hfits => (h.fits hfits).orElse, hover⟩
  | error e =>
    obtain ⟨r', s'', more, h'⟩ := (hf e).ends s' h.store
    refine ⟨r', s'', met ++ more, h.silent.orElse_error h'.silent, h'.result, h'.store,
      fun hnone => ?_, fun hfits => ?_, fun hmet => ?_⟩
    · rw [h.none_met hnone, h'.none_met hnone]
      rfl
    · obtain ⟨hfirst, hmore⟩ := Trace.fits_append.1 hfits
      exact (h.fits hfirst).orElse_error (h'.fits hmore)
    · by_cases hfirst : met.Fits
      · obtain ⟨e', last, told, he', hends⟩ :=
          h'.overflow fun hmore => hmet (Trace.fits_append.2 ⟨hfirst, hmore⟩)
        exact ⟨e', last, met ++ told, he', (h.fits hfirst).orElse_error hends⟩
      · exact hover hfirst

/-- An answer in the place of the faults that say that there are no more items. -/
protected lemma orEnd {x y a b : Eval α} (hxy : Eval.Agree R x y) (hab : Eval.Agree R a b) :
    Eval.Agree R (Eval.orElse x fun f => if f.endsStream then a else throw f)
      (Eval.orElse y fun f => if f.endsStream then b else throw f) := by
  refine hxy.orElse (fun _ => .ite hab (.throw _)) fun _ f hf s => ?_
  rw [hf.endsStream_eq]
  exact Eval.overflows_throw hf s

/-- What is computed as a stream does. -/
protected lemma inStream {x y : Eval α} (hxy : Eval.Agree R x y) :
    Eval.Agree R x.inStream y.inStream := by
  refine hxy.orElse (fun _ => .throw _) fun _ f hf s => ?_
  rw [hf.outOfStream_eq]
  exact Eval.overflows_throw hf s

/-! ### Walks -/

protected lemma mapM {f g : α → Eval β} {as : List α} (has : FreeIn R as)
    (hf : ∀ a, FreeIn R a → Eval.Agree R (f a) (g a)) :
    Eval.Agree R (as.mapM f) (as.mapM g) := by
  induction as with
  | nil => exact .pure freeIn_nil
  | cons a as ih =>
    obtain ⟨ha, has⟩ := freeIn_cons.1 has
    rw [List.mapM_cons, List.mapM_cons]
    refine (hf a ha).bind fun b hb => (ih has).bind fun bs hbs => ?_
    exact .pure (freeIn_cons.2 ⟨hb, hbs⟩)

protected lemma foldlM {f g : σ → α → Eval σ} {as : List α} {a : σ} (has : FreeIn R as)
    (ha : FreeIn R a) (hf : ∀ b c, FreeIn R b → FreeIn R c → Eval.Agree R (f b c) (g b c)) :
    Eval.Agree R (as.foldlM f a) (as.foldlM g a) := by
  induction as generalizing a with
  | nil => exact .pure ha
  | cons c as ih =>
    obtain ⟨hc, has⟩ := freeIn_cons.1 has
    rw [List.foldlM_cons, List.foldlM_cons]
    exact (hf a c ha hc).bind fun b hb => ih has hb

protected lemma forM {f g : α → Eval Unit} {as : List α} (has : FreeIn R as)
    (hf : ∀ a, FreeIn R a → Eval.Agree R (f a) (g a)) :
    Eval.Agree R (as.forM f) (as.forM g) := by
  induction as with
  | nil => exact .pure trivial
  | cons a as ih =>
    obtain ⟨ha, has⟩ := freeIn_cons.1 has
    exact (hf a ha).bind fun _ _ => ih has

end Eval.Agree

end Interpolation
