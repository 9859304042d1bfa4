import Interpolation.Proofs.Evaluation.Outcome
import Interpolation.Proofs.Trust.Approval
import Interpolation.Proofs.Trust.References

/-!
# Values inside markup

Markup is the one sensitive place that takes values without an approval: it escapes what would be
written in their place.  So a template for markup renders what the same template renders without a
place, escaped, unless the value is markup or approved already; and since escaping can be undone,
nothing is lost on the way.

* `Surroundings.outcome_write_html` — writing for markup is writing, and then escaping.
* `Policy.outcome_getTrusted_ne_ok` — a value approved for another place never comes out.
* **`Interpolator.markup_escapes`** — what a rendering for markup can hold, what it is read back to,
  and what it never is.
-/

namespace Interpolation

open Text Trust

variable {s : Surroundings} {e : Environment} {v : Value} {w w' : Work} {context : Context}

/-! ## The gate before markup -/

/-- A value that markup does not take as it is: neither markup itself nor approved for a place. -/
structure Value.IsUnapproved (v : Value) : Prop where
  not_markup : ∀ t, v.content ≠ .markup t
  not_trusted : ∀ c r, v.content ≠ .trusted c r

lemma Value.IsUnapproved.unwrapped (h : v.IsUnapproved) : v.unwrapped = pure v :=
  Policy.unwrapped_of_not_trusted h.not_trusted

/-- Without a place, a value without approval is written as it is. -/
lemma Surroundings.outcome_write_plain (h : v.IsUnapproved) :
    (s.write none e v).outcome w = (Gate.write e s.futures v).outcome w := by
  have hlook : (Gate.look v.unwrapped).outcome w = (.ok v, w) :=
    Gate.outcome_look_ok (by rw [h.unwrapped]; rfl)
  exact Gate.outcome_bind_ok hlook

/-- **Writing for markup is writing, and then escaping.** -/
theorem Surroundings.outcome_write_html (h : v.IsUnapproved)
    (hc : ∀ c, v.content ≠ .category c) :
    (s.write (some .html) e v).outcome w =
      (((s.write none e v).outcome w).1.map escapeHtml, ((s.write none e v).outcome w).2) := by
  rw [outcome_write_plain h, write_eq, gated, Policy.getTrusted]
  split
  · next hv =>
    rw [Gate.outcome_bind_ok (Gate.outcome_pure v w), Gate.outcome_write_none hv]
    rfl
  · next hv _ =>
    rw [Gate.outcome_bind_ok (Gate.outcome_pure v w), Gate.outcome_write_text hv]
    rfl
  · next hv _ => exact absurd hv (h.not_trusted _ _)
  · split
    · next hv => exact absurd hv (h.not_markup _)
    · next hv => exact absurd hv (hc _)
    · next ht _ _ =>
      rw [Gate.outcome_bind_ok (Gate.outcome_pure _ w), Gate.outcome_write_text ht,
        Gate.outcome_write_text rfl]
      rfl
    · rw [Gate.outcome_bind, Gate.outcome_bind]
      rcases (Gate.write e s.futures v).outcome w with ⟨f | text, w'⟩
      · rfl
      · exact Gate.outcome_write_text rfl
    · next hhtml _ => cases hhtml
    · next htext hnone _ =>
      cases ht : v.text? with
      | none => exact absurd ht (hnone rfl)
      | some text => exact absurd ht (htext text rfl)

/-- A category is written by its full name in markup, which has nothing to escape. -/
lemma Surroundings.outcome_write_category {c : Category} (hc : v.content = .category c) :
    (s.write (some .html) e v).outcome w = (.ok (escapeHtml c.text), w) := by
  have hgate : s.gated (some .html) e v = pure (.markup (escapeHtml c.text)) := by
    rw [gated, Policy.getTrusted, Value.text?, hc]
    cases c <;> rfl
  rw [write_eq, hgate, Gate.outcome_bind_ok (Gate.outcome_pure _ w), Gate.outcome_write_text rfl]

/-- **What is written for markup is an escaped text**, and unless the value is a category, it is the
one that is written without a place. -/
theorem Surroundings.exists_of_write_html {out : String} (h : v.IsUnapproved)
    (hout : ((s.write (some .html) e v).outcome w).1 = .ok out) :
    ∃ text, out = escapeHtml text ∧
      ((∀ c, v.content ≠ .category c) → ((Gate.write e s.futures v).outcome w).1 = .ok text) := by
  by_cases hc : ∃ c, v.content = .category c
  · obtain ⟨c, hc⟩ := hc
    rw [outcome_write_category hc] at hout
    cases hout
    exact ⟨c.text, rfl, fun hne => absurd hc (hne c)⟩
  · rw [not_exists] at hc
    rw [outcome_write_html h hc, outcome_write_plain h] at hout
    cases hplain : ((Gate.write e s.futures v).outcome w).1 with
    | error f => rw [hplain] at hout; cases hout
    | ok text => rw [hplain] at hout; cases hout; exact ⟨text, rfl, fun _ => rfl⟩

/-- A value approved for another place is never written. -/
lemma Surroundings.outcome_write_trusted {c : Category} {r : Ref} {out : String}
    (hv : v.content = .trusted c r) (hc : c ≠ .html) :
    ((s.write (some .html) e v).outcome w).1 ≠ .ok out := by
  have hadmits : c.admits .html = false := by cases c <;> first | rfl | exact absurd rfl hc
  have hgate : s.gated (some .html) e v = Policy.refuse e s.futures .html v := by
    rw [gated, Policy.getTrusted, Value.text?, hv]
    simp only [Content.text?, hadmits, Bool.false_eq_true, if_false]
  rw [write_eq, hgate, Gate.outcome_bind]
  split
  · next u w' hrefuse => exact absurd hrefuse (Policy.outcome_refuse _ _ _)
  · intro h
    cases h

/-! ## What is written -/

/-- What is no text is written as its document. -/
lemma Gate.outcome_write_document {futures : Futures} {text : String}
    (hnone : v.content ≠ .none) (htext : v.text? = none)
    (h : ((Gate.write e futures v).outcome w).1 = .ok text) :
    ∃ j, (((e.setting futures).toDocument documentDepth [] v).runOn w.store).1 = .ok j ∧
      text = j.write := by
  have hcoerce : (e.setting futures).coerce v =
      (fun j => j.write) <$> (e.setting futures).toDocument documentDepth [] v := by
    rw [Setting.coerce]
    split
    · next hv => exact absurd hv hnone
    · next ht _ => rw [htext] at ht; cases ht
    · rfl
  rw [Gate.write, outcome_ofEval, hcoerce, Eval.outcome_map] at h
  show ∃ j, (((e.setting futures).toDocument documentDepth [] v).outcome ⟨w.store, []⟩).1 =
    .ok j ∧ text = j.write
  cases hj : (((e.setting futures).toDocument documentDepth [] v).outcome ⟨w.store, []⟩).1 with
  | error f => rw [hj] at h; cases h
  | ok j => rw [hj] at h; cases h; exact ⟨j, rfl, rfl⟩

/-! ## Templates of one expression -/

section Expressions

variable {t : Template} {e : Expression} {deferred : Bool} {sink : Sink} {datum : Datum}
  {store : Store}

/-- A template of one expression renders what is written for the value of the expression. -/
lemma Template.renderTo_expression_eq_text_iff {out : String}
    (hs : t.segments = [.expression e deferred])
    (hv : e.Answers s.futures (opening datum store).1 (opening datum store).2 v w) :
    (t.renderTo sink s datum store).1 = .text out ↔
      ((s.write t.trusted e.environment v).outcome w).1 = .ok out := by
  obtain ⟨after, hrender⟩ := exists_render_expression hs hv
  rw [renderTo, hrender]
  rcases ((s.write t.trusted e.environment v).outcome w).1 with f | text
  · cases hf : f.raised? with
    | none => simp [Rendering.ofResult, Rendering.ofFault_of_none hf]
    | some raised => simp [Rendering.ofResult, Rendering.ofFault_of_some hf]
  · simp [Rendering.ofResult]

/-- The value of an expression in a context, if it has one, and the work that is left. -/
def Expression.answer? (e : Expression) (futures : Futures) (context : Context) (w : Work) :
    Option (Value × Work) :=
  match ((e.bind futures context >>= fun () => e.value futures).outcome w.fresh) with
  | (.ok v, valued) => some (v, valued)
  | (.error _, _) => none

lemma Expression.answer?_eq_some_iff {futures : Futures} {valued : Work} :
    e.answer? futures context w = some (v, valued) ↔ e.Answers futures context w v valued := by
  rw [answer?, Answers, Gate.outcome_bind]
  rcases (e.bind futures context).outcome w.fresh with ⟨f | ⟨⟩, begun⟩
  · simp
  · rcases hvalue : (e.value futures).outcome begun with ⟨f | u, done⟩ <;> simp [hvalue]

end Expressions

namespace Interpolator

variable {i : Interpolator} {text : String} {needed : Bool} {t : Template} {e : Expression}
  {deferred : Bool}

/-- **Markup gets nothing unapproved, and escaping loses nothing.**  Let a text become a template
for markup that is a single expression, and let the expression have a value in a context.

If the value is neither markup nor approved, then what is rendered has none of the characters that
set markup off, and every ampersand in it begins a reference.  Unless the value is a category, what
is rendered is the escaped text of a rendering without a place, so reading the references back gives
this text: nothing for nothing, a text itself, and the document of all else.

If the value is approved for another place, nothing is rendered. -/
theorem markup_escapes (h : (i.compile ⟨text, needed, some Category.html.name⟩).1 = .ok (some t))
    (hs : t.segments = [.expression e deferred]) (s : Surroundings) (datum : Datum)
    (store : Store) (v : Value) (valued : Work)
    (hv : e.Answers s.futures (Template.opening datum store).1 (Template.opening datum store).2
      v valued) :
    (v.IsUnapproved → ∀ sink out, (t.renderTo sink s datum store).1 = .text out →
      (∀ c ∈ htmlSpecials, c ≠ '&' → c ∉ out.toList) ∧
      (∀ rest, '&' :: rest <:+ out.toList → ∃ r ∈ htmlReferences, r <+: '&' :: rest) ∧
      ((∀ c, v.content ≠ .category c) →
        (∀ j : Interpolator, j.delimiters = i.delimiters → j.engine.Alike i.engine →
          ∃ u, (j.compile ⟨text, needed, none⟩).1 = .ok (some u) ∧
            ∀ sink', (u.renderTo sink' s datum store).1 = .text (unescapeReferences out)) ∧
        (v.content = .none → unescapeReferences out = "") ∧
        (∀ x, v.text? = some x → unescapeReferences out = x) ∧
        (v.content ≠ .none → v.text? = none →
          ∃ j, (((e.setting s.futures).toDocument documentDepth [] v).runOn valued.store).1 = .ok j
            ∧ unescapeReferences out = j.write))) ∧
    (∀ c r, v.content = .trusted c r → c ≠ .html →
      ∀ sink, (t.renderTo sink s datum store).1.text? = none) := by
  obtain ⟨htrusted, -⟩ := segments_of_place h
  simp only [Template.renderTo_expression_eq_text_iff hs hv, htrusted]
  constructor
  · intro hun sink out hout
    obtain ⟨plain, rfl, hplain⟩ := Surroundings.exists_of_write_html hun hout
    simp only [unescapeReferences_escapeHtml]
    rw [escapeHtml, String.toList_ofList]
    refine ⟨fun c hc hne => not_mem_escapeHtmlChars hc hne _, fun rest => reference_of_ampersand,
      fun hc => ⟨?_, ?_, ?_, ?_⟩⟩
    · intro j hd he
      refine ⟨_, (compile_congr hd he).trans (compile_without_place h), fun sink' => ?_⟩
      rw [Template.renderTo_expression_eq_text_iff (t := { t with trusted := none }) hs hv,
        Surroundings.outcome_write_plain hun]
      exact hplain hc
    · intro hnone
      have htext := hplain hc
      rw [Gate.outcome_write_none hnone] at htext
      exact (Except.ok.inj htext).symm
    · intro x hx
      have htext := hplain hc
      rw [Gate.outcome_write_text hx] at htext
      exact (Except.ok.inj htext).symm
    · intro hnone htext
      exact Gate.outcome_write_document hnone htext (hplain hc)
  · intro c r hc hne sink
    rw [Option.eq_none_iff_forall_ne_some]
    intro out hout
    exact Surroundings.outcome_write_trusted hc hne
      ((htrusted ▸ Template.renderTo_expression_eq_text_iff hs hv).1 (Rendered.text?_eq_some_iff.1 hout))

/-- A text with a tag and with what looks like a reference, in a template for markup. -/
theorem markup_escapes_tag :
    let i := Config.standard.interpolator
    let datum := Datum.dict [(.atom (.str "x"), .atom (.str "<b>&amp;"))]
    let s : Surroundings := ⟨.standard, .empty⟩
    ∃ t e deferred v valued,
      (i.compile ⟨"\x7b\x7bx\x7d\x7d", false, some Category.html.name⟩).1 = .ok (some t) ∧
      t.segments = [.expression e deferred] ∧
      e.Answers s.futures (Template.opening datum .empty).1 (Template.opening datum .empty).2
        v valued ∧
      v.IsUnapproved ∧ v.text? = some "<b>&amp;" ∧
      (t.renderTo .logging s datum .empty).1 = .text "&lt;b&gt;&amp;amp;" ∧
      unescapeReferences "&lt;b&gt;&amp;amp;" = "<b>&amp;" := by
  intro i datum s
  have hrun : ((i.template? ⟨"\x7b\x7bx\x7d\x7d", false, some Category.html.name⟩).bind fun t =>
      (t.segments.head?.bind Segment.expression?).bind fun e =>
        (e.answer? s.futures (Template.opening datum .empty).1
          (Template.opening datum .empty).2).map fun a =>
            (t.segments.length, a.1.text?, a.1.isMarkup,
              (t.renderTo .logging s datum .empty).1)) =
      some (1, some "<b>&amp;", false, .text "&lt;b&gt;&amp;amp;") := by
    decide +kernel
  obtain ⟨t, ht, hrun⟩ := Option.bind_eq_some_iff.1 hrun
  obtain ⟨e, he, hrun⟩ := Option.bind_eq_some_iff.1 hrun
  obtain ⟨⟨v, valued⟩, hv, hrun⟩ := Option.map_eq_some_iff.1 hrun
  obtain ⟨hone, htext, hmarkup, hout⟩ : t.segments.length = 1 ∧ v.text? = some "<b>&amp;" ∧
      v.isMarkup = false ∧ (t.renderTo .logging s datum .empty).1 = .text "&lt;b&gt;&amp;amp;" := by
    simpa using hrun
  obtain ⟨deferred, hs⟩ : ∃ deferred, t.segments = [.expression e deferred] := by
    obtain ⟨segment, hs⟩ := List.length_eq_one_iff.1 hone
    rw [hs] at he
    cases segment with
    | literal => cases he
    | expression _ deferred =>
      cases he
      exact ⟨deferred, hs⟩
  have h := template?_eq_some_iff.1 ht
  have hanswer := Expression.answer?_eq_some_iff.1 hv
  have hun : v.IsUnapproved := ⟨fun x hx => by simp [Value.isMarkup, hx] at hmarkup,
    Policy.not_trusted_of_text htext⟩
  have hc : ∀ c, v.content ≠ .category c := by
    rintro c hc
    rw [Value.text?, hc] at htext
    cases c <;> simp [Content.text?, Category.name] at htext
  obtain ⟨-, -, hread⟩ := (markup_escapes h hs s datum .empty v valued hanswer).1 hun .logging
    "&lt;b&gt;&amp;amp;" hout
  exact ⟨t, e, deferred, v, valued, h, hs, hanswer, hun, htext, hout, (hread hc).2.2.1 _ htext⟩

end Interpolator

end Interpolation
