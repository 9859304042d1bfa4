import Interpolation.Eval.LayoutFilter
import Interpolation.Proofs.Futures.Sequences
import Interpolation.Proofs.Futures.TextFilters

/-!
# Filters that lay free values out

What these filters answer is a text, so it is free whatever it was made of.  All that is to be shown
is that they walk through the same items in settings that are alike, and call the same methods of
free values.

* `Setting.Alike.wrapped` — lines of limited width.
* `Setting.Alike.attributesText` — attributes of a tag.
* `Setting.Alike.linkText` — links.
-/

namespace Interpolation

variable {R : Scope}

lemma safe_sizeText (v binary : Value) : (sizeText v binary).Safe R := by
  refine .bind (.of_none _) fun x _ => .bind (.of_none _) fun isBinary _ => ?_
  extract_lets base order
  split
  · exact .pure trivial
  · split
    · exact .bind (.of_none _) fun _ _ => .pure trivial
    · exact .pure trivial

namespace Setting.Alike

variable {s t : Setting} {v : Value} {arguments : List Value}

/-! ## Lines -/

instance : HoldsNone Text.LineWidth := .always Text.LineWidth

lemma wrappedLine (h : s.Alike R t) : s.wrappedLine = t.wrappedLine := by
  have hwidth : s.lineWidth = t.lineWidth := by
    funext width cuts hyphens all parts
    rw [Setting.lineWidth, Setting.lineWidth, h.repr]
  funext width cuts hyphens line
  rw [Setting.wrappedLine, Setting.wrappedLine, hwidth]

/-- The parts of a line are texts. -/
lemma safe_wrappedLine (s : Setting) (width cuts hyphens line : Value) :
    (s.wrappedLine width cuts hyphens line).Safe R :=
  .bind (.of_none _) fun _ _ => .bind (.of_none _) fun _ _ =>
    .pure (freeIn_map (freeIn_of_none R _) fun _ _ => trivial)

lemma callWithList (h : s.Alike R t) {callee : Value} (hcallee : FreeIn R callee)
    {items : List Value} (hitems : FreeIn R items) :
    Eval.Agree R (s.callWithList callee items) (t.callWithList callee items) :=
  (Eval.safe_list hitems).bind fun _ hlist =>
    h.call hcallee ⟨freeIn_cons.2 ⟨hlist, freeIn_nil⟩, freeIn_nil⟩

lemma wrapped (h : s.Alike R t) (hv : FreeIn R v) (harguments : FreeIn R arguments) :
    Eval.Agree R (s.wrapped v arguments) (t.wrapped v arguments) := by
  unfold Setting.wrapped
  rw [h.wrappedLine]
  extract_lets width cuts given hyphens between
  have hbetween : FreeIn R between := by
    dsimp only [between]
    split
    · exact trivial
    · exact freeIn_getD (freeIn_getElem? harguments 2) trivial
  refine (Value.safe_attributeNamed hbetween _).bind fun join hjoin => ?_
  refine (h.answerOf hv _).bind fun lines hlines => ?_
  refine .bind (.look (Value.safe_source hlines)) fun source hsource => ?_
  refine (h.mapSource (fun line _ => ?_) hsource).bind fun texts htexts => h.callWithList hjoin htexts
  refine (Value.safe_attributeNamed hbetween _).bind fun join hjoin => ?_
  exact .bind (.look (safe_wrappedLine t _ _ _ _)) fun _ hparts => h.callWithList hjoin hparts

/-! ## Attributes of a tag -/

lemma attributeText (h : s.Alike R t) (hv : FreeIn R v) :
    Eval.Agree R (s.attributeText v) (t.attributeText v) := by
  unfold Setting.attributeText
  rw [h.repr, h.escaped]
  refine (h.pairOf hv).bind fun p _ => .ite (.pure (freeIn_of_none R _)) ?_
  refine .bind (.except_of_none _) fun chars _ => ?_
  extract_lets go
  have hgo : ∀ u, Eval.Safe R (go u) := fun _ =>
    .bind (.look_of_none _) fun _ _ => .bind (.look_of_none _) fun _ _ => .pure (freeIn_of_none R _)
  exact .ite (.bind (.look_of_none _) fun _ _ => .throw_bind _ _ _) (hgo ())

lemma attributesText (h : s.Alike R t) (hv : FreeIn R v) (autospace : Value) :
    Eval.Agree R (s.attributesText v autospace) (t.attributesText v autospace) := by
  refine (h.answerOf hv _).bind fun entries hentries => ?_
  refine .bind (.look (Value.safe_source hentries)) fun source hsource => ?_
  refine (h.mapSource (fun _ he => h.attributeText he) hsource).bind fun parts _ => ?_
  exact .bind (.look_of_none _) fun _ _ => .ite (.pure trivial) (.pure trivial)

/-! ## Links -/

lemma relations (h : s.Alike R t) {related : Value} (hrelated : FreeIn R related)
    (nofollow : Value) : Eval.Agree R (s.relations related nofollow) (t.relations related nofollow) := by
  have hwords : Eval.Agree R (s.wordsOf related) (t.wordsOf related) := by
    refine .bind (.look_of_none _) fun isGiven _ => .ite ?_ (.pure freeIn_nil)
    exact (h.answerOf hrelated _).bind fun _ hgiven => h.items hgiven
  exact hwords.bind fun _ _ => .bind (.look_of_none _) fun _ _ => .look_of_none _

/-- The beginnings of addresses agree. -/
lemma schemesOf (h : s.Alike R t) (hv : FreeIn R v) :
    Eval.Agree R (s.schemesOf v) (t.schemesOf v) := by
  have hscheme : s.schemeOf = t.schemeOf := by
    funext w
    rw [Setting.schemeOf, Setting.schemeOf, h.repr]
  unfold Setting.schemesOf
  rw [hscheme]
  refine .ite (.pure (freeIn_of_none R _)) (.bind (.look (Value.safe_source hv)) fun source hsource => ?_)
  refine (h.mapSource (fun _ _ => .look_of_none _) hsource).bind fun schemes _ => ?_
  split <;> exact .pure (freeIn_of_none R _)

/-- A text with links agrees. -/
lemma linkText (h : s.Alike R t) (v : Value) (harguments : FreeIn R arguments) :
    Eval.Agree R (s.linkText v arguments) (t.linkText v arguments) := by
  have htarget : s.targetAttribute = t.targetAttribute := by
    funext target
    rw [Setting.targetAttribute, Setting.targetAttribute, h.escaped]
  unfold Setting.linkText
  rw [h.escaped, htarget]
  extract_lets arg
  have harg : ∀ i, FreeIn R (arg i) := fun i =>
    freeIn_getD (freeIn_getElem? harguments i) (a := Value.none) trivial
  refine (h.relations (harg 3) (arg 1)).bind fun related _ => ?_
  refine (h.schemesOf (harg 4)).bind fun schemes _ => .bind (.look_of_none _) fun text _ => ?_
  exact .bind (.look_of_none _) fun _ _ => .bind (.look_of_none _) fun _ _ => .pure trivial

end Setting.Alike

end Interpolation
