import Interpolation.Eval.Filter
import Interpolation.Proofs.Futures.Region

/-!
# What is computed from numbers is free

Numbers, durations and moments have no parts, so whatever an operator makes of two contents is free
in any region, whether the contents are or not.  The same holds of roundings and conversions, unless
they answer with a value that they were given.

* `Content.freeIn_sum?`, `Content.freeIn_product?` and the like — the operators on contents.
* `Value.freeIn_divide`, `Value.freeIn_negate` and the like — the operators on values.
-/

namespace Interpolation

open Interpolation.Number Interpolation.Calendar

variable {R : Scope}

/-! ## Contents -/

lemma freeIn_ofDecimalResult (r : DecimalResult Decimal) : FreeIn R (ofDecimalResult r) :=
  freeIn_exceptMap_of (f := Content.decimal) _ fun _ => trivial

namespace Content

lemma freeIn_moved? (a : Content) (d : Duration) : FreeIn R (a.moved? d) := by
  unfold moved?
  split
  · exact freeIn_exceptMap_of _ fun _ => trivial
  · exact freeIn_exceptMap_of _ fun _ => trivial
  · exact trivial

/-- An operation on numbers of one type, or another one on contents that are no such numbers. -/
lemma freeIn_ofSides (a b : Content) {f : Sides → Except Fault Content}
    {other : Option (Except Fault Content)} (hf : ∀ s, FreeIn R (f s)) (hother : FreeIn R other) :
    FreeIn R (match sides? a b with
      | some s => some (s >>= f)
      | Option.none => other) := by
  cases sides? a b with
  | none => exact hother
  | some s => exact freeIn_exceptBind_of s hf

lemma freeIn_sum? (a b : Content) : FreeIn R (a.sum? b) := by
  refine freeIn_ofSides a b (fun s => ?_) ?_
  · cases s with
    | integers _ _ | floats _ _ | complexes _ _ _ _ => exact trivial
    | decimals _ _ => exact freeIn_ofDecimalResult _
  · split
    · exact freeIn_exceptMap_of _ fun _ => trivial
    · exact freeIn_moved? _ _
    · exact freeIn_moved? _ _
    · exact trivial

lemma freeIn_difference? (a b : Content) : FreeIn R (a.difference? b) := by
  refine freeIn_ofSides a b (fun s => ?_) ?_
  · cases s with
    | integers _ _ | floats _ _ | complexes _ _ _ _ => exact trivial
    | decimals _ _ => exact freeIn_ofDecimalResult _
  · split
    · exact freeIn_exceptMap_of _ fun _ => trivial
    · exact freeIn_exceptMap_of _ fun _ => trivial
    · exact freeIn_exceptMap_of _ fun _ => trivial
    · exact trivial
    · exact freeIn_exceptMap_of _ fun _ => trivial
    · exact trivial

lemma freeIn_multipleOf? (d : Duration) (a : Content) : FreeIn R (multipleOf? d a) := by
  unfold multipleOf?
  split
  · exact freeIn_exceptMap_of _ fun _ => trivial
  · exact freeIn_exceptBind_of _ fun _ => freeIn_exceptBind_of _ fun _ => trivial
  · exact trivial

lemma freeIn_product? (a b : Content) : FreeIn R (a.product? b) := by
  refine freeIn_ofSides a b (fun s => ?_) ?_
  · cases s with
    | integers _ _ | floats _ _ | complexes _ _ _ _ => exact trivial
    | decimals _ _ => exact freeIn_ofDecimalResult _
  · split
    · exact freeIn_multipleOf? _ _
    · exact freeIn_multipleOf? _ _
    · exact trivial

lemma freeIn_complexQuotient (a b c d : Float) : FreeIn R (complexQuotient a b c d) := by
  unfold complexQuotient
  split
  · split <;> exact trivial
  · split <;> exact trivial

lemma freeIn_partOf? (d : Duration) (a : Content) : FreeIn R (partOf? d a) := by
  unfold partOf?
  split
  · split <;> exact trivial
  · split
    · exact trivial
    · exact freeIn_exceptMap_of _ fun _ => trivial
  · refine freeIn_exceptBind_of _ fun p => ?_
    dsimp only
    split
    · exact trivial
    · exact freeIn_exceptBind_of _ fun _ => trivial
  · exact trivial

lemma freeIn_quotient? (a b : Content) : FreeIn R (a.quotient? b) := by
  refine freeIn_ofSides a b (fun s => ?_) ?_
  · cases s with
    | integers _ _ =>
      dsimp only
      split
      · exact trivial
      · split <;> exact trivial
    | floats _ _ =>
      dsimp only
      split <;> exact trivial
    | decimals _ _ => exact freeIn_ofDecimalResult _
    | complexes p q r s => exact freeIn_complexQuotient p q r s
  · split
    · exact freeIn_partOf? _ _
    · exact trivial

/-- The same for an operation without a result on numbers with imaginary parts. -/
lemma freeIn_ofRealSides (a b : Content) {f : Sides → Except Fault Content}
    {other : Option (Except Fault Content)} (hf : ∀ s, FreeIn R (f s)) (hother : FreeIn R other) :
    FreeIn R (match sides? a b with
      | some (.ok (.complexes ..)) => Option.none
      | some s => some (s >>= f)
      | Option.none => other) := by
  rcases sides? a b with _ | _ | s
  · exact hother
  · exact trivial
  · cases s with
    | complexes _ _ _ _ => exact trivial
    | integers _ _ | floats _ _ | decimals _ _ => exact hf _

lemma freeIn_floorQuotient? (a b : Content) : FreeIn R (a.floorQuotient? b) := by
  refine freeIn_ofRealSides a b (fun s => ?_) ?_
  · cases s with
    | integers _ _ | floats _ _ =>
      dsimp only
      split <;> exact trivial
    | decimals _ _ => exact freeIn_ofDecimalResult _
    | complexes _ _ _ _ => exact trivial
  · split
    · split <;> exact trivial
    · refine freeIn_optionMap_of _ fun n => ?_
      split
      · exact trivial
      · exact freeIn_exceptMap_of _ fun _ => trivial
    · exact trivial

lemma freeIn_rest? (a b : Content) : FreeIn R (a.rest? b) := by
  refine freeIn_ofRealSides a b (fun s => ?_) ?_
  · cases s with
    | integers _ _ | floats _ _ =>
      dsimp only
      split <;> exact trivial
    | decimals _ _ => exact freeIn_ofDecimalResult _
    | complexes _ _ _ _ => exact trivial
  · split
    · split <;> exact trivial
    · exact trivial

lemma freeIn_floatPower (x y : Float) : FreeIn R (floatPower x y) := by
  unfold floatPower
  split
  · exact trivial
  · split
    · exact trivial
    · dsimp only
      split <;> exact trivial

lemma freeIn_power? (a b : Content) : FreeIn R (a.power? b) := by
  refine freeIn_ofRealSides a b (fun s => ?_) trivial
  · cases s with
    | integers m n =>
      dsimp only
      split
      · exact trivial
      · split
        · exact freeIn_floatPower _ _
        · exact trivial
    | floats x y => exact freeIn_floatPower x y
    | decimals _ _ => exact freeIn_ofDecimalResult _
    | complexes _ _ _ _ => exact trivial

lemma freeIn_negative? (a : Content) : FreeIn R a.negative? := by
  unfold negative?
  split
  · exact trivial
  · exact trivial
  · exact freeIn_ofDecimalResult _
  · exact freeIn_exceptMap_of _ fun _ => trivial
  · exact freeIn_optionMap_of _ fun _ => trivial

lemma freeIn_positive? (a : Content) : FreeIn R a.positive? := by
  unfold positive?
  split
  · exact trivial
  · exact trivial
  · exact freeIn_ofDecimalResult _
  · exact trivial
  · exact freeIn_optionMap_of _ fun _ => trivial

lemma freeIn_magnitude? (a : Content) : FreeIn R a.magnitude? := by
  unfold magnitude?
  split
  · exact trivial
  · exact trivial
  · exact freeIn_ofDecimalResult _
  · exact freeIn_exceptMap_of _ fun _ => trivial
  · exact freeIn_optionMap_of _ fun _ => trivial

end Content

/-! ## Values -/

/-- A free content makes a free value. -/
lemma freeIn_ofContent {r : Except Fault Content} (h : FreeIn R r) :
    FreeIn R (r.map Value.ofContent) := freeIn_exceptMap h fun _ hc => hc

namespace Value

lemma freeIn_computed (symbol : String) (a b : Value) {r : Option (Except Fault Content)}
    (h : FreeIn R r) : FreeIn R (computed symbol a b r) := by
  cases r with
  | none => exact trivial
  | some c => exact freeIn_ofContent h

lemma freeIn_divide (a b : Value) : FreeIn R (a.divide b) :=
  freeIn_computed _ a b (Content.freeIn_quotient? _ _)

lemma freeIn_floorDivide (a b : Value) : FreeIn R (a.floorDivide b) :=
  freeIn_computed _ a b (Content.freeIn_floorQuotient? _ _)

lemma freeIn_power (a b : Value) : FreeIn R (a.power b) :=
  freeIn_computed _ a b (Content.freeIn_power? _ _)

lemma freeIn_signed (name : String) (v : Value) {r : Option (Except Fault Content)}
    (h : FreeIn R r) : FreeIn R (signed name v r) := by
  unfold signed
  split
  · exact freeIn_ofContent h
  · exact trivial
  · exact trivial

lemma freeIn_negate (v : Value) : FreeIn R v.negate :=
  freeIn_signed _ v (Content.freeIn_negative? _)

lemma freeIn_plus {v : Value} (hv : FreeIn R v) : FreeIn R v.plus := by
  rw [plus]
  split
  · exact hv
  · exact freeIn_signed _ v (Content.freeIn_positive? _)

lemma freeIn_magnitude {v : Value} (hv : FreeIn R v) : FreeIn R v.magnitude := by
  have hmagnitude := Content.freeIn_magnitude? (R := R) v.content
  unfold magnitude
  split
  · next n c _ h =>
    rw [h] at hmagnitude
    split
    · exact hv
    · exact freeIn_ofContent hmagnitude
  · exact trivial
  · exact freeIn_signed _ v hmagnitude

end Value

/-! ## Conversions and roundings -/

namespace Setting

variable {v default : Value}

lemma freeIn_wholeOr (hv : FreeIn R v) (hdefault : FreeIn R default) (base : Value) :
    FreeIn R (wholeOr v default base) := by
  unfold wholeOr
  split
  · exact hv
  · exact trivial
  · split
    · split
      · exact trivial
      · split
        · exact hdefault
        · exact trivial
    · exact trivial

lemma freeIn_floatOr (hv : FreeIn R v) (hdefault : FreeIn R default) :
    FreeIn R (floatOr v default) := by
  unfold floatOr
  split
  · exact hv
  · exact trivial
  · split
    · exact hdefault
    · exact trivial

lemma freeIn_decimalWithPlaces (d : Decimal) (places : Value) :
    FreeIn R (decimalWithPlaces d places) := by
  unfold decimalWithPlaces
  split
  · split
    · exact freeIn_ofContent (freeIn_ofDecimalResult _)
    · exact trivial
  · exact trivial

/-- What holds an integer already stays the value it is. -/
lemma freeIn_wholeValue (hv : FreeIn R v) (n : Int) :
    FreeIn R (match v.content with
      | .int _ => v
      | _ => .int n) := by
  split
  · exact hv
  · exact trivial

lemma freeIn_nearestTo (hv : FreeIn R v) (places : Value) : FreeIn R (nearestTo v places) := by
  unfold nearestTo
  split
  · next n _ =>
    dsimp only
    split
    · exact freeIn_wholeValue hv n
    · refine freeIn_exceptBind_of _ fun p => ?_
      split
      · exact freeIn_wholeValue hv n
      · exact trivial
  · split
    · exact freeIn_exceptBind_of _ fun _ => trivial
    · refine freeIn_exceptBind_of _ fun p => ?_
      split <;> exact trivial
  · split
    · exact freeIn_exceptBind_of _ fun _ => trivial
    · exact freeIn_decimalWithPlaces _ _
  · exact trivial

end Setting

end Interpolation
