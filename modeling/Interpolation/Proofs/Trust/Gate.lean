import Interpolation.Proofs.Render.Stages

/-!
# The gate only filters

Outside of markup, `Policy.getTrusted` never makes a value: it hands on the value that a template
without a sensitive place would use as well, or it refuses.  `Policy.Passes` lists what is handed
on, and **`Policy.outcome_getTrusted_eq_ok_iff`** says that nothing else is, and that the gate
leaves the store and the records as they were whenever it hands something on.

Markup is different, since plain text is escaped there; it is left out of this file.
-/

namespace Interpolation

open Trust

variable {e : Environment} {futures : Futures} {w w' : Work}

namespace Gate

lemma outcome_look_ok {α : Type} {x : Look α} {a : α} (h : x.run w.store = .ok a) :
    (look x).outcome w = (.ok a, w) := by
  show ((x.run w.store).mapError RenderFault.fault, w) = _
  rw [h]
  rfl

lemma outcome_look_eq_ok_iff {α : Type} {x : Look α} {a : α} :
    (look x).outcome w = (.ok a, w') ↔ x.run w.store = .ok a ∧ w' = w := by
  constructor
  · intro h
    have hrun : ((x.run w.store).mapError RenderFault.fault, w) = (.ok a, w') := h
    cases hx : x.run w.store with
    | error f => rw [hx] at hrun; cases hrun
    | ok b => rw [hx] at hrun; cases hrun; exact ⟨rfl, rfl⟩
  · rintro ⟨h, rfl⟩
    exact outcome_look_ok h

end Gate

namespace Policy

/-- The value that stands behind a refusal is lost: a refused value never comes out. -/
lemma outcome_refuse {α : Type} (c : Category) (v : Value) (a : α) :
    (refuse e futures c v).outcome w ≠ (.ok a, w') := by
  rw [refuse, Gate.outcome_bind]
  split
  · rw [Gate.outcome_bind]
    intro h
    cases h
  · intro h
    cases h

/-- What may be used in a place other than markup: nothing and the empty text, what is approved for
the place, and a text that names an allowed resource. -/
inductive Passes (p : Policy) (c : Category) (v : Value) : Prop
  | nothing (h : v.content = .none)
  | empty (h : v.text? = some "")
  | approved {d r} (h : v.content = .trusted d r) (hd : d = c ∨ d = .resourceUrl ∧ c = .url)
  | allowed {url} (hc : c = .resourceUrl) (h : v.text? = some url) (ha : p.allows url = .ok true)

lemma admits_iff {d c : Category} : d.admits c = true ↔ d = c ∨ d = .resourceUrl ∧ c = .url := by
  simp [Category.admits]

/-- Only an approved value is anything else without its approval. -/
lemma unwrapped_of_not_trusted {v : Value} (h : ∀ d r, v.content ≠ .trusted d r) :
    v.unwrapped = pure v := by
  rw [Value.unwrapped]
  split
  · next d r hv => exact absurd hv (h d r)
  · rfl

lemma not_trusted_of_text {v : Value} {text : String} (h : v.text? = some text) :
    ∀ d r, v.content ≠ .trusted d r := by
  intro d r hv
  rw [Value.text?, hv] at h
  cases h

/-- A value without approval is handed on as it would be used without a sensitive place. -/
lemma outcome_pure_eq_ok_iff {v u : Value} (h : ∀ d r, v.content ≠ .trusted d r) :
    (pure v : Gate Value).outcome w = (.ok u, w') ↔
      v.unwrapped.run w.store = .ok u ∧ w' = w := by
  have hrun : v.unwrapped.run w.store = .ok v := by rw [unwrapped_of_not_trusted h]; rfl
  rw [Gate.outcome_pure, hrun, Prod.mk.injEq, Except.ok.injEq, Except.ok.injEq]
  exact and_congr Iff.rfl eq_comm

/-- A text that names a resource comes out as it is, if the list accepts it. -/
lemma outcome_getResource_eq_ok_iff {p : Policy} {v u : Value} {url : String}
    (h : ∀ d r, v.content ≠ .trusted d r) :
    (p.getResource e futures v url).outcome w = (.ok u, w') ↔
      p.allows url = .ok true ∧ v.unwrapped.run w.store = .ok u ∧ w' = w := by
  rw [getResource]
  split
  · next f ha =>
    simp only [ha, reduceCtorEq, false_and, iff_false]
    intro hrun
    cases hrun
  · next ha => rw [outcome_pure_eq_ok_iff h]; simp only [ha, true_and]
  · next ha =>
    simp only [ha, Except.ok.injEq, Bool.false_eq_true, false_and, iff_false]
    rw [Gate.outcome_bind]
    split
    · rw [Gate.outcome_bind]
      split
      · exact outcome_refuse _ _ _
      · intro hrun
        cases hrun
    · intro hrun
      cases hrun

/-- What counts as text can be shown in full, down to any number of levels. -/
lemma exists_reprInside_of_text {v : Value} {text : String} (h : v.text? = some text)
    (future : FutureId → Look String) (levels : Nat) (store : Store) :
    ∃ shown, (Value.reprInside future (levels + 1) [] v).run store = .ok shown := by
  rw [Value.text?] at h
  cases hv : v.content with
  | str x => exact ⟨_, by simp only [Value.reprInside, hv]; rfl⟩
  | markup x => exact ⟨_, by simp only [Value.reprInside, hv]; rfl⟩
  | category d => exact ⟨_, by simp only [Value.reprInside, hv]; rfl⟩
  | _ => rw [hv] at h; cases h

lemma exists_repr_of_text {v : Value} {text : String} (h : v.text? = some text) (s : Setting)
    (store : Store) : ∃ shown, (s.repr v).run store = .ok shown :=
  exists_reprInside_of_text h s.futures.shown (Value.shownLevels - 1) store

/-- A text that names a resource that is not allowed is refused. -/
lemma outcome_getTrusted_blocked {p : Policy} {v : Value} {url : String} (h : v.text? = some url)
    (hne : url ≠ "") (ha : p.allows url = .ok false) :
    ∃ r w', (p.getTrusted e futures .resourceUrl v).outcome w = (.error (.untrusted r), w') := by
  obtain ⟨text, hshown⟩ := exists_repr_of_text h (e.setting futures) w.store
  have hresource : p.getTrusted e futures .resourceUrl v = p.getResource e futures v url := by
    rw [getTrusted]
    split
    · next hv => rw [Value.text?, hv] at h; cases h
    · next hv _ => exact absurd (Option.some.inj (h.symm.trans hv)) hne
    · next hv _ => exact absurd hv (not_trusted_of_text h _ _)
    · rw [h]
  have hlook : (shown e futures v).outcome w = (.ok text, w) := Gate.outcome_look_ok hshown
  -- the record that is told does not touch the store
  let record : Record := ⟨.debug, "stencil.trust", "Blocked resource URL " ++ text⟩
  let told : Work := { w with records := w.records ++ [record] }
  have htell : (Gate.tell record).outcome w = (.ok (), told) := rfl
  have hagain : (shown e futures v).outcome told = (.ok text, told) := Gate.outcome_look_ok hshown
  refine ⟨⟨.resourceUrl, v, text, e, told.store⟩, told, ?_⟩
  rw [hresource, getResource, ha, Gate.outcome_bind_ok hlook, Gate.outcome_bind_ok htell, refuse,
    Gate.outcome_bind_ok hagain]
  rfl

/-- **The gate only filters.**  In a place other than markup the gate hands on what would be used
without such a place, for just the values that may pass, and leaves everything else as it was. -/
theorem outcome_getTrusted_eq_ok_iff {p : Policy} {c : Category} {v u : Value} (hc : c ≠ .html) :
    (p.getTrusted e futures c v).outcome w = (.ok u, w') ↔
      p.Passes c v ∧ v.unwrapped.run w.store = .ok u ∧ w' = w := by
  rw [getTrusted]
  split
  · next hv =>
    rw [outcome_pure_eq_ok_iff (by simp [hv])]
    exact (and_iff_right (.nothing hv)).symm
  · next hv _ =>
    rw [outcome_pure_eq_ok_iff (not_trusted_of_text hv)]
    exact (and_iff_right (.empty hv)).symm
  · next d r hv htext =>
    split
    · next hd =>
      rw [Gate.outcome_look_eq_ok_iff]
      exact (and_iff_right (.approved hv (admits_iff.1 hd))).symm
    · next hd =>
      refine iff_of_false (outcome_refuse _ _ _) ?_
      rintro ⟨hpass, -⟩
      cases hpass with
      | nothing h => rw [hv] at h; cases h
      | empty h => exact htext h
      | approved h hd' => rw [hv] at h; cases h; exact hd (admits_iff.2 hd')
      | allowed _ h _ => exact not_trusted_of_text h d r hv
  · next hnone htrusted htext =>
    -- what is left is neither nothing nor empty nor approved, so only an allowed resource passes
    have hpass : p.Passes c v → c = .resourceUrl ∧ ∃ url, v.text? = some url ∧
        p.allows url = .ok true := by
      intro hpass
      cases hpass with
      | nothing h => exact absurd h hnone
      | empty h => exact absurd h htext
      | approved h _ => exact absurd h (htrusted _ _)
      | allowed hc h ha => exact ⟨hc, _, h, ha⟩
    split
    · exact absurd rfl hc
    · exact absurd rfl hc
    · exact absurd rfl hc
    · exact absurd rfl hc
    · next url hurl =>
      rw [outcome_getResource_eq_ok_iff htrusted]
      refine and_congr_left' ⟨fun ha => .allowed rfl hurl ha, fun h => ?_⟩
      obtain ⟨-, url', h', ha⟩ := hpass h
      rw [hurl] at h'
      cases h'
      exact ha
    · next hresource =>
      refine iff_of_false (outcome_refuse _ _ _) ?_
      rintro ⟨h, -⟩
      obtain ⟨hc', url, hurl, -⟩ := hpass h
      exact hresource url hc' hurl

end Policy

end Interpolation
