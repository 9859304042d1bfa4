import Interpolation.Proofs.Futures.Operators
import Interpolation.Proofs.Futures.Texts
import Interpolation.Eval.TextFilter

/-!
# Filters of free texts

What a filter makes of a text is a text again, so there is little in it that could be a future.  At
most a filter leaves the text as it is, or answers a part of a value that it could not take as a
text.  The settings matter only for what is shown, and that is alike.

* `Setting.safe_softChange`, `safe_titled`, `safe_trimmed` — texts made anew.
* `Setting.Alike.indented`, `truncated`, `urlEncoded` — the filters that walk or compute.
* `Setting.safe_script` — values inside scripts.
-/

namespace Interpolation

variable {R : Scope}

namespace Setting

variable {s : Setting} {v : Value}

/-! ## Texts made anew -/

lemma safe_softly (s : Setting) (hv : FreeIn R v) : (s.softly v).Safe R := by
  rw [softly]
  split
  · exact .pure hv
  · exact .bind (.of_none _) fun _ _ => .pure trivial

lemma safe_softMap (s : Setting) (f : List Char → List Char) (v : Value) :
    (s.softMap f v).Safe R := by
  constructor
  intro store _
  exact freeIn_exceptBind_of _ fun t => t.textKind.freeIn_pack _

lemma safe_softChange (s : Setting) (f : List Char → Except Fault (List Char)) (hv : FreeIn R v) :
    (s.softChange f v).Safe R :=
  (safe_softly s hv).bind fun t ht => .bind (.of_none _) fun _ _ =>
    .pure (t.textKind.freeIn_packAs ht _)

lemma safe_titled (s : Setting) (hv : FreeIn R v) : (s.titled v).Safe R :=
  (safe_softly s hv).bind fun _ _ => .pure trivial

lemma safe_trimmed (s : Setting) (hv : FreeIn R v) (characters : Value) :
    (s.trimmed v characters).Safe R := safe_softChange s _ hv

lemma safe_plainly (s : Setting) (hv : FreeIn R v) : (s.plainly v).Safe R := by
  unfold plainly
  split
  · exact .pure hv
  · exact .bind (.of_none _) fun _ _ => .pure trivial

/-! ## Indentation and shortening -/

lemma safe_indention {width : Value} (h : FreeIn R width) : Eval.Safe R (indention width) := by
  rw [indention]
  split
  · exact .pure h
  · exact Value.safe_multiply (a := .str " ") trivial h

lemma freeIn_indentedByMarkup (space : List Char) (first blank : Bool) (t : List Char) :
    FreeIn R (indentedByMarkup space first blank t) := by
  rw [indentedByMarkup]
  split
  · exact trivial
  · split <;> exact trivial

lemma freeIn_beforeLastWord (hv : FreeIn R v) : FreeIn R (beforeLastWord v) := by
  unfold beforeLastWord
  split
  · exact trivial
  · exact trivial
  · exact v.textKind.freeIn_packAs hv _
  · exact trivial

/-- A value inside a script is a text. -/
lemma safe_script {width : Value} (v : Value) (hwidth : FreeIn R width) :
    Eval.Safe R (script v width) := by
  unfold script
  extract_lets go
  have hgo : ∀ spread, FreeIn R spread → Eval.Safe R (go spread) :=
    fun _ _ => .bind (.look_of_none _) fun _ _ => .pure trivial
  refine .ite (.bind (.pure trivial) hgo) ?_
  exact (safe_indention hwidth).bind fun _ _ => .bind (.pure (freeIn_of_none R _)) hgo

namespace Alike

variable {t : Setting} {arguments : List Value}

lemma softly (h : s.Alike R t) : s.softly = t.softly := by
  funext v
  rw [Setting.softly, Setting.softly, h.display]

lemma plainly (h : s.Alike R t) : s.plainly = t.plainly := by
  funext v
  rw [Setting.plainly, Setting.plainly, h.display]

lemma urlBytes (h : s.Alike R t) : s.urlBytes = t.urlBytes := by
  funext v
  rw [Setting.urlBytes, Setting.urlBytes, h.display]

/-- The lines of a free value are indented alike. -/
lemma indented (h : s.Alike R t) (hv : FreeIn R v) (harguments : FreeIn R arguments) :
    Eval.Agree R (s.indented v arguments) (t.indented v arguments) := by
  have hwidth : FreeIn R ((arguments[0]?).getD (.int 4)) :=
    freeIn_getD (freeIn_getElem? harguments 0) trivial
  simp only [Setting.indented, Setting.markupIndention, h.display]
  refine (safe_indention hwidth).bind fun width _ => ?_
  split
  · refine .bind (.look_of_none _) fun space _ => .bind (.look_of_none _) fun blank _ => ?_
    exact .bind (.look_of_none _) fun first _ => .pure trivial
  · refine .bind (.look_of_none _) fun blank _ => .bind (.look_of_none _) fun first _ => ?_
    exact .ite (.pure (freeIn_indentedByMarkup _ _ _ _)) (.pure trivial)
  · next r _ _ =>
    refine .bind (.build (Building.safe_append r (v := .str "\n") trivial)) fun _ _ => ?_
    exact .bind (.look_of_none _) fun _ _ => .throw _
  · have hadd : Eval.Safe R (v.add (.str "\n")) :=
      Value.safe_add (b := .str "\n") hv trivial
    refine (hadd.orElse (fun _ => .throw _) fun _ e he after => ?_).bind fun _ _ => .throw _
    cases he with
    | tooDeep activity => exact Eval.overflows_throw (.tooDeep activity) after
    | inDocument activity => exact Eval.overflows_throw (.inDocument activity) after

/-- A free value is shortened alike. -/
lemma truncated (h : s.Alike R t) (hv : FreeIn R v) (harguments : FreeIn R arguments) :
    Eval.Agree R (s.truncated v arguments) (t.truncated v arguments) := by
  unfold Setting.truncated
  rw [h.display]
  extract_lets length killWords ending given leeway
  have hlength : FreeIn R length := freeIn_getD (freeIn_getElem? harguments 0) trivial
  have hending : FreeIn R ending := freeIn_getD (freeIn_getElem? harguments 2) trivial
  have hleeway : FreeIn R leeway := by
    dsimp only [leeway]
    split
    · exact trivial
    · exact freeIn_getD (freeIn_getElem? harguments 3) trivial
  refine .bind (.look_of_none _) fun least _ => .bind (.look_of_none _) fun isLong _ => ?_
  extract_lets cut checked cut' checked'
  have hcut : ∀ u, Eval.Agree R (cut u) (cut' u) := by
    intro _
    refine .bind (.look_of_none _) fun size _ => (Value.safe_add hlength hleeway).bind fun sum _ => ?_
    refine .bind (.look_of_none _) fun isShort _ => .ite (.pure hv) ?_
    refine .bind (.look_of_none _) fun killed _ => ?_
    refine (h.subtract hlength (b := .int least) trivial).bind fun stop hstop => ?_
    have hnone : FreeIn R Value.none := trivial
    refine (Value.safe_sliced hv hnone hstop hnone).bind fun kept hkept => ?_
    refine .ite (Value.safe_add hkept hending) ?_
    exact .bind (.except (freeIn_beforeLastWord hkept)) fun w hw => Value.safe_add hw hending
  have hchecked : ∀ u, Eval.Agree R (checked u) (checked' u) := by
    intro _
    refine .bind (.look_of_none _) fun isEnough _ => ?_
    exact .ite (.bind (.look_of_none _) fun _ _ => .throw_bind _ _ _) (hcut ())
  exact .ite (.bind (.look_of_none _) fun _ _ => .throw_bind _ _ _) (hchecked ())

/-! ## Values inside URLs -/

lemma pairOf (h : s.Alike R t) (hv : FreeIn R v) :
    Eval.Agree R (s.pairOf v) (t.pairOf v) := by
  refine .bind .getStore fun store hstore => ?_
  have hsource := (Value.safe_source hv).result store hstore
  split
  · exact .throw _
  · exact .throw _
  · next source hrun =>
    have hsource : FreeIn R source := (hrun ▸ hsource : FreeIn R (Except.ok source))
    refine (h.pull hsource).bind fun found hfound => ?_
    rcases found with _ | ⟨first, source⟩
    · exact .throw _
    · obtain ⟨hfirst, hsource⟩ := hfound
      refine (h.pull hsource).bind fun found hfound => ?_
      rcases found with _ | ⟨second, source⟩
      · exact .throw _
      · obtain ⟨hsecond, hsource⟩ := hfound
        refine (h.pull hsource).bind fun found _ => ?_
        exact .ite (.throw _) (.pure ⟨hfirst, hsecond⟩)

lemma queryPart (h : s.Alike R t) (hv : FreeIn R v) :
    Eval.Agree R (s.queryPart v) (t.queryPart v) := by
  rw [Setting.queryPart, Setting.queryPart, h.urlBytes]
  refine (h.pairOf hv).bind fun _ _ => ?_
  exact .bind (.look_of_none _) fun _ _ => .bind (.look_of_none _) fun _ _ =>
    .pure (freeIn_of_none R _)

/-- A free value is put into a URL alike. -/
lemma urlEncoded (h : s.Alike R t) (hv : FreeIn R v) :
    Eval.Agree R (s.urlEncoded v) (t.urlEncoded v) := by
  unfold Setting.urlEncoded
  rw [h.urlBytes]
  extract_lets pairs
  have hpairs : FreeIn R pairs := by
    dsimp only [pairs]
    split
    · next r hr => exact (freeIn_of_content hr hv : FreeIn R r)
    · exact hv
  refine .bind .getStore fun store hstore => ?_
  have hsource := (Value.safe_source hpairs).result store hstore
  refine .ite ?_ (.bind (.look_of_none _) fun _ _ => .pure trivial)
  refine .bind (.except hsource) fun source hsource => ?_
  exact (h.mapSource (fun _ hw => h.queryPart hw) hsource).bind fun _ _ => .pure trivial

end Alike

end Setting

end Interpolation
