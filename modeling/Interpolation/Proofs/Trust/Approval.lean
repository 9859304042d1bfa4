import Interpolation.Proofs.Render.FirstFailure
import Interpolation.Proofs.Scan.Segments
import Interpolation.Proofs.Trust.Gate

/-!
# Where trusted output comes from

A template for a sensitive place has a single segment, and what it renders has a single origin: the
literal text of the template itself, or the value of its one expression, if that is approved.
Markup is left out here, since plain text may go there after escaping.

* `Surroundings.Releases` — what a sensitive place lets out for a value: the empty text, the text of
  an approved value without its approval, or an allowed resource.
* `Segment.Gives.without_place` — what a segment gives with a sensitive place, it gives without one.
* **`Interpolator.trusted_output_approved`** — a rendering for a sensitive place has a text exactly
  when the place releases it, and the text is the one that the same template has without a place.
-/

namespace Interpolation

open Trust

/-- The value of an expression in a context: its names get their values, then it is evaluated. -/
def Expression.Answers (e : Expression) (futures : Futures) (context : Context) (w : Work)
    (v : Value) (valued : Work) : Prop :=
  ∃ begun, (e.bind futures context).outcome w.fresh = (.ok (), begun) ∧
    (e.value futures).outcome begun = (.ok v, valued)

/-- What a sensitive place lets out for a value. -/
inductive Surroundings.Releases (s : Surroundings) (c : Category) (e : Environment) (v : Value)
    (w : Work) : String → Prop
  | nothing (h : v.content = .none) : Releases s c e v w ""
  | empty (h : v.text? = some "") : Releases s c e v w ""
  /-- The value is approved for the place, and what it wraps is written. -/
  | approved {d r u text} (h : v.content = .trusted d r) (hd : d = c ∨ d = .resourceUrl ∧ c = .url)
    (hu : (Look.itemAt r 0).run w.store = .ok u)
    (htext : ((Gate.write e s.futures u).outcome w).1 = .ok text) : Releases s c e v w text
  /-- The value is a text that names an allowed resource. -/
  | allowed {url} (hc : c = .resourceUrl) (h : v.text? = some url)
    (ha : s.policy.allows url = .ok true) : Releases s c e v w url

variable {s : Surroundings} {c : Category} {context : Context} {e : Environment} {v : Value}
  {w w' : Work} {text : String}

/-- A template of one expression ends with what is written for the value of the expression. -/
lemma Template.exists_render_expression {t : Template} {e : Expression} {deferred : Bool}
    {datum : Datum} {store : Store} (hs : t.segments = [.expression e deferred])
    (hv : e.Answers s.futures (opening datum store).1 (opening datum store).2 v w) :
    ∃ after, t.render s datum store = (.ofResult t.source store.cells.size
      ((s.write t.trusted e.environment v).outcome w).1, after) := by
  obtain ⟨begun, hbind, hvalue⟩ := hv
  have hsegment := @Segment.outcome_render_expression s t.trusted _ e deferred _ _ hbind
  rw [Gate.outcome_bind_ok hvalue, ← Surroundings.write_eq] at hsegment
  rw [render_eq, hs, renderAll, Gate.outcome_bind, hsegment]
  rcases (s.write t.trusted e.environment v).outcome w with ⟨f | text, done⟩
  · exact ⟨_, rfl⟩
  · simp [renderAll, Gate.outcome_pure]

/-! ## Writing what was handed on -/

lemma Gate.outcome_write_of_coerce {futures : Futures}
    (h : (e.setting futures).coerce v = pure text) :
    (Gate.write e futures v).outcome w = (.ok text, w) := by
  rw [Gate.write, h]
  show ((Except.ok text, ⟨w.store, w.records ++ if e.logging then [] else []⟩) :
    Except RenderFault String × Work) = _
  split <;> rw [List.append_nil]

/-- Nothing is written as the empty text. -/
lemma Gate.outcome_write_none {futures : Futures} (h : v.content = .none) :
    (Gate.write e futures v).outcome w = (.ok "", w) := by
  refine outcome_write_of_coerce ?_
  rw [Setting.coerce]
  split
  · rfl
  · next hne => exact absurd h hne
  · next hne => exact absurd h hne

/-- A text is written as it is. -/
lemma Gate.outcome_write_text {futures : Futures} (h : v.text? = some text) :
    (Gate.write e futures v).outcome w = (.ok text, w) := by
  refine outcome_write_of_coerce ?_
  rw [Setting.coerce]
  split
  · next hv => rw [Value.text?, hv] at h; cases h
  · next ht _ => rw [h] at ht; cases ht; rfl
  · next ht _ => rw [h] at ht; cases ht

/-- **A place releases what passes its gate and is written then.** -/
lemma Surroundings.releases_iff (hc : c ≠ .html) :
    s.Releases c e v w text ↔ ∃ u w', (s.gated (some c) e v).outcome w = (.ok u, w) ∧
      (Gate.write e s.futures u).outcome w = (.ok text, w') := by
  simp only [gated, Policy.outcome_getTrusted_eq_ok_iff hc, and_true]
  constructor
  · intro h
    cases h with
    | nothing h =>
      have hrun := Policy.unwrapped_of_not_trusted (v := v) (by simp [h])
      exact ⟨v, w, ⟨.nothing h, by rw [hrun]; rfl⟩, Gate.outcome_write_none h⟩
    | empty h =>
      have hrun := Policy.unwrapped_of_not_trusted (Policy.not_trusted_of_text h)
      exact ⟨v, w, ⟨.empty h, by rw [hrun]; rfl⟩, Gate.outcome_write_text h⟩
    | @approved d r u _ h hd hu htext =>
      refine ⟨u, _, ⟨.approved h hd, ?_⟩, Prod.ext htext rfl⟩
      rw [Value.unwrapped, h]
      exact hu
    | allowed hc h ha =>
      have hrun := Policy.unwrapped_of_not_trusted (Policy.not_trusted_of_text h)
      exact ⟨v, w, ⟨.allowed hc h ha, by rw [hrun]; rfl⟩, Gate.outcome_write_text h⟩
  · rintro ⟨u, w', ⟨hpass, hu⟩, hwrite⟩
    have hsame (h : ∀ d r, v.content ≠ .trusted d r) : u = v := by
      rw [Policy.unwrapped_of_not_trusted h] at hu
      exact (Except.ok.inj hu).symm
    cases hpass with
    | nothing h =>
      rw [hsame (by simp [h]), Gate.outcome_write_none h] at hwrite
      cases hwrite
      exact .nothing h
    | empty h =>
      rw [hsame (Policy.not_trusted_of_text h), Gate.outcome_write_text h] at hwrite
      cases hwrite
      exact .empty h
    | approved h hd =>
      rw [Value.unwrapped, h] at hu
      exact .approved h hd hu (by rw [hwrite])
    | allowed hc h ha =>
      rw [hsame (Policy.not_trusted_of_text h), Gate.outcome_write_text h] at hwrite
      cases hwrite
      exact .allowed hc h ha

/-! ## Segments with and without a place -/

/-- What a segment gives with a sensitive place, it gives without one. -/
lemma Segment.Gives.without_place {segment : Segment} (hc : c ≠ .html)
    (h : segment.Gives s (some c) context w (.ok text) w') :
    segment.Gives s none context w (.ok text) w' := by
  cases h with
  | literal text => exact .literal _ _
  | coercion hbind hvalue hgate h =>
    obtain ⟨-, hu, rfl⟩ := (Policy.outcome_getTrusted_eq_ok_iff hc).1 hgate
    exact .coercion hbind hvalue (Gate.outcome_look_ok hu) h

lemma AllGive.without_place {segments : List Segment} {texts : List String} (hc : c ≠ .html)
    (h : AllGive s (some c) context segments w texts w') :
    AllGive s none context segments w texts w' := by
  induction h with
  | nil w => exact .nil w
  | cons hgives _ ih => exact .cons (hgives.without_place hc) ih

lemma allGive_singleton_iff {trusted : Option Category} {segment : Segment} {texts : List String} :
    AllGive s trusted context [segment] w texts w' ↔
      ∃ text, segment.Gives s trusted context w (.ok text) w' ∧ texts = [text] := by
  constructor
  · intro h
    cases h with
    | cons hgives hrest =>
      cases hrest
      exact ⟨_, hgives, rfl⟩
  · rintro ⟨text, h, rfl⟩
    exact .cons h (.nil w')

/-- An expression gives the texts that its place releases for its value. -/
lemma Segment.exists_gives_expression_iff {e : Expression} {deferred : Bool} (hc : c ≠ .html) :
    (∃ w', (expression e deferred).Gives s (some c) context w (.ok text) w') ↔
      ∃ v valued, e.Answers s.futures context w v valued ∧
        s.Releases c e.environment v valued text := by
  simp only [Surroundings.releases_iff hc]
  constructor
  · rintro ⟨w', h⟩
    cases h with
    | coercion hbind hvalue hgate h =>
      obtain ⟨-, -, rfl⟩ := (Policy.outcome_getTrusted_eq_ok_iff hc).1 hgate
      exact ⟨_, _, ⟨_, hbind, hvalue⟩, _, _, hgate, h⟩
  · rintro ⟨v, valued, ⟨begun, hbind, hvalue⟩, u, w', hgate, h⟩
    exact ⟨_, .coercion hbind hvalue hgate h⟩

/-! ## Templates for a sensitive place -/

namespace Interpolator

variable {i : Interpolator} {needed : Bool} {t : Template}

/-- A template for a sensitive place is the text as a literal, or a single expression. -/
lemma segments_of_place (h : (i.compile ⟨text, needed, some c.name⟩).1 = .ok (some t)) :
    t.trusted = some c ∧ (t.segments = [.literal text] ∨
      ∃ e deferred, t.segments = [.expression e deferred]) := by
  obtain ⟨-, hplace, -, hone, -⟩ := compile_eq_some_iff.1 h
  have htrusted : t.trusted = some c := by
    have hname : Template.categoryNamed (some c.name) = .ok (some c) := by cases c <;> rfl
    exact (Except.ok.inj (hplace.symm.trans hname))
  have hlength : t.segments.length = 1 := by
    have := hone (by simp [htrusted])
    have := List.length_pos_iff.2 (Template.segments_ne_nil h)
    omega
  obtain ⟨segment, hsegments⟩ := List.length_eq_one_iff.1 hlength
  refine ⟨htrusted, ?_⟩
  cases segment with
  | literal x =>
    have hwritten := Template.written_of_compile h
    rw [Template.written, hsegments] at hwritten
    have hx : x = text := by simpa [Segment.written] using hwritten
    exact Or.inl (by rw [hsegments, hx])
  | expression e deferred => exact Or.inr ⟨e, deferred, hsegments⟩

/-- The same text without a place becomes a template of the same segments. -/
lemma compile_without_place {place : Option String}
    (h : (i.compile ⟨text, needed, place⟩).1 = .ok (some t)) :
    (i.compile ⟨text, needed, none⟩).1 = .ok (some { t with trusted := none }) := by
  obtain ⟨hsource, -, hsegments, -, hneeded⟩ := compile_eq_some_iff.1 h
  exact compile_eq_some_iff.2 ⟨hsource, rfl, hsegments, by simp, hneeded⟩

/-- **Trusted output has a single approved origin, and the gate only filters.**  Let a text become a
template for a sensitive place other than markup.  A rendering of it has a text exactly when the
template is the text itself as a literal, and then it is that, or when the template is a single
expression and the place releases the text for its value.  The same text compiled without a place,
by any interpolator with the same markers and defaults, then renders the same. -/
theorem trusted_output_approved (hc : c ≠ .html)
    (h : (i.compile ⟨text, needed, some c.name⟩).1 = .ok (some t)) (s : Surroundings)
    (context : Datum) (store : Store) (sink : Sink) (out : String) :
    ((t.renderTo sink s context store).1 = .text out ↔
      t.segments = [.literal text] ∧ out = text ∨
      ∃ e deferred v valued, t.segments = [.expression e deferred] ∧
        e.Answers s.futures (Template.opening context store).1 (Template.opening context store).2
          v valued ∧
        s.Releases c e.environment v valued out) ∧
    ((t.renderTo sink s context store).1 = .text out →
      ∀ j : Interpolator, j.delimiters = i.delimiters → j.engine.Alike i.engine →
        ∃ u, (j.compile ⟨text, needed, none⟩).1 = .ok (some u) ∧
          ∀ sink', (u.renderTo sink' s context store).1 = .text out) := by
  obtain ⟨htrusted, hshape⟩ := segments_of_place h
  simp only [Template.renderTo_eq_text_iff, htrusted]
  constructor
  · obtain hs | ⟨e, deferred, hs⟩ := hshape
    · simp only [hs, allGive_singleton_iff, true_and, List.cons.injEq, reduceCtorEq, false_and,
        exists_false, or_false]
      constructor
      · rintro ⟨texts, w, ⟨x, hgives, rfl⟩, rfl⟩
        cases hgives
        simp
      · rintro rfl
        exact ⟨[out], _, ⟨out, .literal _ _, rfl⟩, by simp⟩
    · simp only [hs, allGive_singleton_iff, List.cons.injEq, reduceCtorEq, false_and, false_or,
        Segment.expression.injEq, and_true]
      constructor
      · rintro ⟨texts, w, ⟨x, hgives, rfl⟩, rfl⟩
        obtain ⟨v, valued, hv, hout⟩ := (Segment.exists_gives_expression_iff hc).1 ⟨w, hgives⟩
        exact ⟨e, deferred, v, valued, ⟨rfl, rfl⟩, hv, by simpa using hout⟩
      · rintro ⟨_, _, v, valued, ⟨rfl, rfl⟩, hv, hout⟩
        obtain ⟨w, hgives⟩ := (Segment.exists_gives_expression_iff hc).2 ⟨v, valued, hv, hout⟩
        exact ⟨[out], w, ⟨out, hgives, rfl⟩, by simp⟩
  · rintro ⟨texts, w, hall, rfl⟩ j hd he
    refine ⟨_, (compile_congr hd he).trans (compile_without_place h), fun sink' => ?_⟩
    exact ⟨texts, w, hall.without_place hc, rfl⟩

/-- A value approved for style sheets, in a template for a style sheet. -/
theorem trusted_output_approved_css :
    let i := Config.standard.interpolator
    let context := Datum.dict [(.atom (.str "x"), .trusted .css (.atom (.str "red")))]
    let s : Surroundings := ⟨.standard, .empty⟩
    ∃ t u, (i.compile ⟨"\x7b\x7bx\x7d\x7d", false, some Category.css.name⟩).1 = .ok (some t) ∧
      (t.renderTo .logging s context .empty).1 = .text "red" ∧
      (i.compile ⟨"\x7b\x7bx\x7d\x7d", false, none⟩).1 = .ok (some u) ∧
      (u.renderTo .logging s context .empty).1 = .text "red" := by
  intro i context s
  have hrun : ((i.template? ⟨"\x7b\x7bx\x7d\x7d", false, some Category.css.name⟩).map fun t =>
      (t.renderTo .logging s context .empty).1) = some (.text "red") := by
    decide +kernel
  obtain ⟨t, ht, hred⟩ := Option.map_eq_some_iff.1 hrun
  have h := template?_eq_some_iff.1 ht
  obtain ⟨u, hu, hplain⟩ := (trusted_output_approved (by decide) h s context .empty .logging
    "red").2 hred i rfl (.refl _)
  exact ⟨t, u, h, hred, hu, hplain .logging⟩

end Interpolator

end Interpolation
