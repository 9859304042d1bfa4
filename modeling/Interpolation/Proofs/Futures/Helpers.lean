import Interpolation.Eval.Helper
import Interpolation.Proofs.Futures.Texts

/-!
# Helpers on free values

The circles and joiners keep the values that they were made from in their cells, so they are free if
those are.  What is drawn by chance is no part of a value: a text without a meaning is free whatever
was drawn for it.

* `safe_makeCycler`, `safe_callCycler` — values that go round.
* `safe_makeJoiner`, `safe_callJoiner` — texts between other ones.
* `Setting.Alike.callLipsum` — texts without a meaning.
-/

namespace Interpolation

variable {R : Scope}

/-! ## Texts without a meaning -/

instance : HoldsNone Lorem.Draft := .always Lorem.Draft

namespace Lorem

lemma safe_drawWord (last : Option Nat) : (drawWord last).Safe R := by
  unfold drawWord
  split
  · exact Building.safe_draw _
  · exact (Building.safe_draw _).map fun _ _ => trivial

lemma safe_write (d : Draft) (place : Nat) : (write d place).Safe R :=
  (safe_drawWord _).bind fun _ _ => (Building.safe_draw _).bind fun _ _ =>
    (Building.safe_draw _).map fun _ _ => trivial

lemma safe_paragraph (count : Nat) : (paragraph count).Safe R :=
  (Building.Safe.foldlM (fun d place _ => safe_write d place) _ trivial).map fun _ _ =>
    freeIn_of_none R _

end Lorem

namespace Setting.Alike

variable {s t : Setting}

lemma drawBetween (h : s.Alike R t) (low high : Value) :
    Eval.Agree R (s.drawBetween low high) (t.drawBetween low high) := by
  unfold Setting.drawBetween
  rw [h.repr]
  refine .bind (.look_of_none _) fun first _ => .ite (.ite ?_ (.throw _)) ?_
  · exact .bind (.build (Building.safe_draw _)) fun _ _ => .pure trivial
  · refine .bind (.look_of_none _) fun last _ => .ite ?_ ?_
    · exact .bind (.build (Building.safe_draw _)) fun _ _ => .pure trivial
    · exact .bind (.look_of_none _) fun _ _ => .throw _

lemma callLipsum (h : s.Alike R t) {a : Arguments} (ha : FreeIn R a) :
    Eval.Agree R (s.callLipsum a) (t.callLipsum a) := by
  have hparameters : FreeIn R [optional "n" (.int 5), optional "html" (.bool true),
      optional "min" (.int 20), optional "max" (.int 100)] := by
    repeat (first | exact freeIn_nil | refine freeIn_cons.2 ⟨trivial, ?_⟩)
  refine .bind (.except (Signature.freeIn_bind hparameters ha)) fun vs _ => ?_
  refine .bind (.except_of_none _) fun count _ => ?_
  refine .bind (.mapM (freeIn_of_none R _) fun _ _ => ?_) fun paragraphs _ => ?_
  · exact (h.drawBetween _ _).bind fun size _ => .build (Lorem.safe_paragraph _)
  · exact .bind (.look_of_none _) fun _ _ => .ite (.pure trivial) (.pure trivial)

end Setting.Alike

/-! ## Circles -/

variable {r : Ref} {a : Arguments}

lemma safe_makeCycler (ha : FreeIn R a) : Eval.Safe R (makeCycler a) := by
  unfold makeCycler
  split
  · exact .throw _
  · exact .throw _
  · next v vs _ hpositional =>
    have hvs : FreeIn R (v :: vs) := hpositional ▸ ha.1
    refine (Eval.safe_tuple hvs).bind fun items hitems => ?_
    have hfields : FreeIn R [items, .int 0, v] :=
      freeIn_cons.2 ⟨hitems, freeIn_cons.2 ⟨trivial, freeIn_cons.2 ⟨(freeIn_cons.1 hvs).1, freeIn_nil⟩⟩⟩
    exact .bind (.build (Building.safe_addRow hfields)) fun _ hr => .pure hr

lemma safe_tupleItems {v : Value} (hv : FreeIn R v) : (tupleItems v).Safe R := by
  unfold tupleItems
  split
  · next r hr => exact Look.safe_items (freeIn_of_content hr hv)
  · exact .pure freeIn_nil

lemma safe_turnTo (r : Ref) {circle : Value} (hcircle : FreeIn R circle) {items : List Value}
    (hitems : FreeIn R items) (place : Nat) : (turnTo r circle items place).Safe R :=
  Building.safe_putRow r (freeIn_cons.2 ⟨hcircle, freeIn_cons.2 ⟨trivial, freeIn_cons.2
    ⟨freeIn_getD (freeIn_getElem? hitems place) trivial, freeIn_nil⟩⟩⟩)

/-- A method of a free circle answers one of its items. -/
lemma safe_callCycler (hr : FreeIn R r) (name : String) (ha : FreeIn R a) :
    Eval.Safe R (callCycler r name a) := by
  unfold callCycler
  refine .bind (.except (Signature.freeIn_bind freeIn_nil ha)) fun _ _ => ?_
  refine .bind (.look (Look.safe_itemAt hr 0)) fun circle hcircle => ?_
  refine .bind (.look (safe_tupleItems hcircle)) fun items hitems => ?_
  refine .bind (.look (Look.safe_itemAt hr 1)) fun place _ => ?_
  refine .bind (.look (Look.safe_itemAt hr 2)) fun current hcurrent => ?_
  split
  · exact .bind (.build (safe_turnTo r hcircle hitems _)) fun _ _ => .pure hcurrent
  · exact .bind (.build (safe_turnTo r hcircle hitems _)) fun _ _ => .pure trivial

/-! ## Texts between other ones -/

lemma safe_makeJoiner (ha : FreeIn R a) : Eval.Safe R (makeJoiner a) := by
  have hparameters : FreeIn R [optional "sep" (.str ", ")] := freeIn_cons.2 ⟨trivial, freeIn_nil⟩
  refine .bind (.except (Signature.freeIn_bind hparameters ha)) fun vs hvs => ?_
  have hfields : FreeIn R [(vs[0]?).getD .none, .bool false] :=
    freeIn_cons.2 ⟨freeIn_getD (freeIn_getElem? hvs 0) trivial, freeIn_cons.2 ⟨trivial, freeIn_nil⟩⟩
  exact .bind (.build (Building.safe_addRow hfields)) fun _ hr => .pure hr

lemma safe_callJoiner (hr : FreeIn R r) (ha : FreeIn R a) : Eval.Safe R (callJoiner r a) := by
  refine .bind (.except (Signature.freeIn_bind freeIn_nil ha)) fun _ _ => ?_
  refine .bind (.look (Look.safe_itemAt hr 0)) fun mark hmark => ?_
  refine .bind (.look (Look.safe_itemAt hr 1)) fun used _ => .bind (.look_of_none _) fun isUsed _ => ?_
  refine .ite (.pure hmark) (.bind (.build (Building.safe_putRow r ?_)) fun _ _ => .pure trivial)
  exact freeIn_cons.2 ⟨hmark, freeIn_cons.2 ⟨trivial, freeIn_nil⟩⟩

end Interpolation
