import Interpolation.Proofs.Futures.Arithmetic
import Interpolation.Proofs.Futures.Walks

/-!
# Operators on free values

Sums, products and differences of free values are free: numbers are computed anew, and a sequence
that is put together from others has their items.  A layout that is filled with values is a text, or
the only text that was put into it.

* `Value.safe_add`, `Value.safe_multiply` — sums and products.
* `Setting.Alike.subtract`, `Setting.Alike.modulo` — differences and remainders.
* `Setting.Alike.binary`, `Setting.Alike.holds` — any operator, any comparison.
-/

namespace Interpolation

variable {R : Scope}

namespace Value

variable {v a b : Value}

lemma freeIn_addTexts (ha : FreeIn R a) (hb : FreeIn R b) (s t : String) :
    FreeIn R (addTexts a b s t) := by
  rw [addTexts]
  split
  · exact ha
  · split
    · exact hb
    · exact trivial

lemma freeIn_addBytes (ha : FreeIn R a) (hb : FreeIn R b) (x y : List UInt8) :
    FreeIn R (addBytes a b x y) := by
  rw [addBytes]
  split
  · exact hb
  · split
    · exact ha
    · exact trivial

lemma safe_addTuples (ha : FreeIn R a) (hb : FreeIn R b) {xs ys : List Value} (hxs : FreeIn R xs)
    (hys : FreeIn R ys) : Eval.Safe R (addTuples a b xs ys) := by
  rw [addTuples]
  split
  · exact .pure hb
  · split
    · exact .pure ha
    · exact Eval.safe_tuple (freeIn_append.2 ⟨hxs, hys⟩)

lemma safe_addSequences (ha : FreeIn R a) (hb : FreeIn R b) :
    Eval.Safe R (a.addSequences b) := by
  unfold addSequences
  split
  · exact .throw _
  · split
    · exact .pure trivial
    · exact .throw _
  · split
    · exact .pure trivial
    · exact .throw _
    · exact .throw _
    · exact .throw _
  · exact .throw _
  · next r r' h h' =>
    refine .bind (.look (Look.safe_items (freeIn_of_content h ha))) fun xs hxs => ?_
    refine .bind (.look (Look.safe_items (freeIn_of_content h' hb))) fun ys hys => ?_
    exact Eval.safe_list (freeIn_append.2 ⟨hxs, hys⟩)
  · exact .throw _
  · next r r' h h' =>
    refine .bind (.look (Look.safe_items (freeIn_of_content h ha))) fun xs hxs => ?_
    refine .bind (.look (Look.safe_items (freeIn_of_content h' hb))) fun ys hys => ?_
    exact safe_addTuples ha hb hxs hys
  · exact .throw _
  · exact .pure (freeIn_addBytes ha hb _ _)
  · exact .throw _
  · split
    · exact .pure (freeIn_addTexts ha hb _ _)
    · exact .throw _
    · exact .throw _

/-- The sum of free values is free. -/
lemma safe_add (ha : FreeIn R a) (hb : FreeIn R b) : Eval.Safe R (a.add b) := by
  have hsum := Content.freeIn_sum? (R := R) a.content b.content
  rw [add]
  split
  · next c h => exact .bind (.except (h ▸ hsum : FreeIn R (some c))) fun _ hc => .pure hc
  · exact safe_addSequences ha hb

lemma freeIn_replicate {α : Type} [HoldsValues α] {xs : List α} (h : FreeIn R xs) (n : Nat) :
    FreeIn R (List.replicate n xs).flatten := by
  intro x hx
  obtain ⟨l, hl, hxl⟩ := List.mem_flatten.1 hx
  rw [List.eq_of_mem_replicate hl] at hxl
  exact h x hxl

lemma safe_repeated (hv : FreeIn R v) (n : Int) : Eval.Safe R (v.repeated n) := by
  unfold repeated
  dsimp only
  split
  · split
    · exact .pure hv
    · exact .pure trivial
  · exact .pure trivial
  · exact .pure trivial
  · split
    · exact .pure hv
    · exact .pure trivial
  · next r h =>
    exact .bind (.look (Look.safe_items (freeIn_of_content h hv))) fun xs hxs =>
      Eval.safe_list (freeIn_replicate hxs _)
  · next r h =>
    split
    · exact .pure hv
    · exact .bind (.look (Look.safe_items (freeIn_of_content h hv))) fun xs hxs =>
        Eval.safe_tuple (freeIn_replicate hxs _)
  · exact .pure hv

lemma safe_of_repetition? {count : Value} {x : Eval Value} (hv : FreeIn R v)
    (h : repetition? v count = some x) : Eval.Safe R x := by
  unfold repetition? at h
  split at h
  · cases h
    split
    · exact safe_repeated hv _
    · exact .throw _
  · cases h

/-- The product of free values is free. -/
lemma safe_multiply (ha : FreeIn R a) (hb : FreeIn R b) : Eval.Safe R (a.multiply b) := by
  have hproduct := Content.freeIn_product? (R := R) a.content b.content
  unfold multiply
  split
  · next c h => exact .bind (.except (h ▸ hproduct : FreeIn R (some c))) fun _ hc => .pure hc
  · split
    · exact .throw _
    · exact .throw _
    · split
      · next h => exact safe_of_repetition? ha h
      · next h => exact safe_of_repetition? hb h
      · split
        · exact .throw _
        · split
          · exact .throw _
          · split
            · exact .throw _
            · exact .throw _

end Value

namespace Setting

lemma safe_soleValue? {b : Value} (hb : FreeIn R b) : (soleValue? b).Safe R := by
  unfold soleValue?
  split
  · next r h =>
    refine (Look.safe_items (freeIn_of_content h hb)).bind fun vs hvs => ?_
    split
    · exact .pure (freeIn_cons.1 hvs).1
    · exact .pure trivial
  · exact .pure hb

lemma safe_laidOut (s : Setting) (layout : String) {b : Value} (hb : FreeIn R b) :
    (s.laidOut layout b).Safe R := by
  rw [laidOut]
  refine .bind (.of_none _) fun t _ => (safe_soleValue? hb).bind fun found hfound => ?_
  split
  · refine .pure ?_
    split
    · exact hfound
    · exact trivial
  · exact .pure trivial

/-- A remainder, or a layout that is filled with a free value, is free. -/
lemma safe_modulo (s : Setting) (a : Value) {b : Value} (hb : FreeIn R b) :
    (s.modulo a b).Safe R := by
  rw [modulo]
  split
  · exact safe_laidOut s _ hb
  · exact .bind (.of_none _) fun _ _ => .pure trivial
  · exact safe_laidOut s _ hb
  · exact .except (Value.freeIn_computed _ a b (Content.freeIn_rest? _ _))

namespace Alike

variable {s t : Setting} {v a b : Value}

lemma modulo (h : s.Alike R t) : s.modulo = t.modulo := by
  funext a b
  simp only [Setting.modulo, Setting.laidOut, h.futures]

lemma members (h : s.Alike R t) (hv : FreeIn R v) :
    Eval.Agree R (s.members v) (t.members v) := by
  refine .bind (.look (Value.safe_source hv)) fun source hsource => ?_
  refine h.foldSource (fun found w hfound hw => ?_) hsource freeIn_nil
  refine .bind (.look_of_none _) fun _ _ => .bind (.look_of_none _) fun b _ => .pure ?_
  split
  · exact hfound
  · exact freeIn_append.2 ⟨hfound, freeIn_cons.2 ⟨hw, freeIn_nil⟩⟩

lemma withoutItems (h : s.Alike R t) {found : List Value} (hfound : FreeIn R found)
    (hv : FreeIn R v) : Eval.Agree R (s.withoutItems found v) (t.withoutItems found v) := by
  refine .bind (.look (Value.safe_source hv)) fun source hsource => ?_
  refine h.foldSource (fun found w hfound _ => ?_) hsource hfound
  exact .bind (.look_of_none _) fun _ _ => .look (.filterM hfound)

lemma subtract (h : s.Alike R t) (ha : FreeIn R a) (hb : FreeIn R b) :
    Eval.Agree R (s.subtract a b) (t.subtract a b) := by
  have hdifference := Content.freeIn_difference? (R := R) a.content b.content
  unfold Setting.subtract
  split
  · next c hc => exact .bind (.except (hc ▸ hdifference : FreeIn R (some c))) fun _ hc => .pure hc
  · split
    · exact .throw _
    · split
      · refine (h.members ha).bind fun found hfound => ?_
        exact (h.withoutItems hfound hb).bind fun rest hrest => .build (Building.safe_set hrest)
      · exact .throw _

/-- Every operator agrees on free values. -/
lemma binary (h : s.Alike R t) (op : BinaryOp) (ha : FreeIn R a) (hb : FreeIn R b) :
    Eval.Agree R (s.binary op a b) (t.binary op a b) := by
  cases op with
  | add => exact Value.safe_add ha hb
  | subtract => exact h.subtract ha hb
  | multiply => exact Value.safe_multiply ha hb
  | divide => exact .except (Value.freeIn_divide a b)
  | floorDivide => exact .except (Value.freeIn_floorDivide a b)
  | remainder =>
    rw [Setting.binary, Setting.binary, h.modulo]
    exact .look (safe_modulo t a hb)
  | power => exact .except (Value.freeIn_power a b)

/-- Every comparison agrees on free values. -/
lemma holds (h : s.Alike R t) (op : CompareOp) (a : Value) (hb : FreeIn R b) :
    Eval.Agree R (s.holds op a b) (t.holds op a b) := by
  cases op with
  | equal => exact .look_of_none _
  | unequal => exact .bind (.look_of_none _) fun _ _ => .pure trivial
  | ordered c => exact .look_of_none _
  | within => exact h.contains hb a
  | without => exact (h.contains hb a).bind fun _ _ => .pure trivial

end Alike

end Setting

end Interpolation
