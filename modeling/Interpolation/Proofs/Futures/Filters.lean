import Interpolation.Eval.Filter
import Interpolation.Eval.Test
import Interpolation.Proofs.Futures.Arithmetic
import Interpolation.Proofs.Futures.LayoutFilters

/-!
# Filters and tests of free values

A filter is handed a value and arguments, and takes what it was not handed from its signature, where
all defaults are atoms.  So all that a filter works with is free, and what it answers is the value
itself, a part of it, something computed, or a new cell; a stream is a new cell that keeps the value
and the arguments for later.  Tests answer truth values.

* `FilterName.freeIn_bind`, `TestName.freeIn_bind` — the arguments of filters and tests.
* `Setting.Alike.appliedFilter`, `Setting.Alike.filter` — the filters.
* `Setting.Alike.test` — the tests.
-/

namespace Interpolation

variable {R : Scope}

/-! ## Arguments -/

/-- The defaults of every filter are free. -/
lemma FilterName.freeIn_parameters (f : FilterName) : FreeIn R f.signature.parameters := by
  cases f <;> repeat (first | exact freeIn_nil | refine freeIn_cons.2 ⟨trivial, ?_⟩)

/-- The arguments of a filter are free. -/
lemma FilterName.freeIn_bind (f : FilterName) {a : Arguments} (ha : FreeIn R a) :
    FreeIn R (f.bind a) := by
  unfold FilterName.bind
  split
  case h_11 => exact Signature.freeIn_bind f.freeIn_parameters ha
  all_goals exact freeIn_exceptBind_of _ fun _ => freeIn_nil

/-- The arguments of a test are free. -/
lemma TestName.freeIn_bind (t : TestName) {a : Arguments} (ha : FreeIn R a) :
    FreeIn R (t.bind a) := by
  unfold TestName.bind
  dsimp only
  split
  case h_1 =>
    split
    · exact trivial
    · split
      · exact trivial
      · exact freeIn_nil
  case h_2 | h_3 | h_4 =>
    split
    · exact trivial
    · split
      · exact trivial
      · exact ha.1
  case h_5 | h_6 | h_7 =>
    exact Signature.freeIn_bind (freeIn_cons.2 ⟨freeIn_required _, freeIn_nil⟩) ha
  case h_8 | h_9 | h_10 => exact Signature.freeIn_bind freeIn_nil ha

namespace Setting

variable {s : Setting} {v : Value}

/-! ## Filters of single values -/

/-- A default is answered, or the value. -/
lemma safe_orDefault {default : Value} (hv : FreeIn R v) (hdefault : FreeIn R default)
    (ofFalse : Value) : (orDefault v default ofFalse).Safe R := by
  unfold orDefault
  split
  · exact .pure hdefault
  · refine .bind (.of_none _) fun asked _ => ?_
    refine .bind (.of_none _) fun _ _ => ?_
    split
    · exact .pure hdefault
    · exact .pure hv

/-- A number that is rounded up or down. -/
lemma safe_roundedTowards (up : Bool) (hv : FreeIn R v) (places : Value) :
    Eval.Safe R (roundedTowards up v places) := by
  refine .bind (.except (Value.freeIn_power (.int 10) places)) fun scale hscale => ?_
  refine (Value.safe_multiply hv hscale).bind fun product _ => ?_
  exact .bind (.except_of_none _) fun whole _ => .except (Value.freeIn_divide _ _)

lemma safe_rounded (hv : FreeIn R v) (places method : Value) : Eval.Safe R (rounded v places method) := by
  unfold rounded
  extract_lets go
  have hgo : ∀ u, Eval.Safe R (go u) := by
    intro _
    dsimp only [go]
    split
    · exact .except (freeIn_nearestTo hv places)
    · exact safe_roundedTowards false hv places
    · exact safe_roundedTowards true hv places
    · exact .throw _
  exact .ite (.bind (.look_of_none _) fun _ _ => hgo ()) (hgo ())

lemma safe_streamOf {j : Job} (hj : FreeIn R j) (hv : FreeIn R v) :
    Eval.Safe R (streamOf j v) := by
  have hcourse : FreeIn R (Course.waiting j v) := ⟨hj, hv⟩
  exact .build (Building.safe_stream _ hcourse)

namespace Alike

variable {t : Setting} {a : Arguments} {arguments : List Value}

lemma attributeOnly (h : s.Alike R t) (hv : FreeIn R v) (name : Value) :
    Eval.Agree R (s.attributeOnly v name) (t.attributeOnly v name) := by
  rw [Setting.attributeOnly, Setting.attributeOnly, h.missing]
  refine .bind (.look_of_none _) fun _ _ => ?_
  cases name.text? with
  | none => exact .throw _
  | some n =>
    refine (Value.safe_native? hv n).bind fun found _ => ?_
    cases found with
    | some _ => exact h.attributeOf hv n
    | none => exact .pure trivial

/-- A value shown with a part replaced. -/
lemma replaced (h : s.Alike R t) {old new : Value} (hv : FreeIn R v) (hold : FreeIn R old)
    (hnew : FreeIn R new) {count : Value} (hcount : FreeIn R count) :
    Eval.Agree R (s.replaced v old new count) (t.replaced v old new count) := by
  rw [Setting.replaced, Setting.replaced, h.plainly]
  refine .bind (.look (safe_plainly t hv)) fun text htext => ?_
  refine .bind (.look (safe_plainly t hold)) fun old hold => ?_
  refine .bind (.look (safe_plainly t hnew)) fun new hnew => ?_
  have hlimit : FreeIn R (if count.isNone then Value.int (-1) else count) := by
    split
    · exact trivial
    · exact hcount
  refine h.replacedIn _ htext _ ⟨?_, freeIn_nil⟩
  exact freeIn_cons.2 ⟨hold, freeIn_cons.2 ⟨hnew, freeIn_cons.2 ⟨hlimit, freeIn_nil⟩⟩⟩

/-- A text filled with the arguments as a layout. -/
lemma formatted (h : s.Alike R t) (hv : FreeIn R v) (ha : FreeIn R a) :
    Eval.Agree R (s.formatted v a) (t.formatted v a) := by
  unfold Setting.formatted
  rw [h.softly, h.modulo]
  extract_lets go
  have hgo : ∀ u, Eval.Safe R (go u) := by
    intro _
    refine .bind (.look (safe_softly t hv)) fun layout _ => ?_
    extract_lets fill
    have hfill : ∀ values, FreeIn R values → Eval.Safe R (fill values) := fun values hvalues =>
      .look (safe_modulo t layout hvalues)
    refine .ite ((Eval.safe_tuple ha.1).bind hfill) (.bind (.build (Building.safe_dict ?_)) hfill)
    exact freeIn_map ha.2 fun p hp => ⟨trivial, hp.2⟩
  exact .ite (.throw_bind _ _ _) (hgo ())

lemma lastItem (h : s.Alike R t) (hv : FreeIn R v) :
    Eval.Agree R (s.lastItem v) (t.lastItem v) := by
  rw [Setting.lastItem, Setting.lastItem, h.missing]
  refine .bind (.look (Value.safe_backwards? hv)) fun found hfound => ?_
  rcases found with _ | ⟨type, source⟩
  · exact .throw _
  · refine (h.pull hfound.2).bind fun next hnext => .pure (freeIn_getD ?_ trivial)
    exact freeIn_optionMap hnext fun p hp => hp.1

lemma firstItem (h : s.Alike R t) (hv : FreeIn R v) :
    Eval.Agree R (s.firstItem v) (t.firstItem v) := by
  rw [Setting.firstItem, Setting.firstItem, h.missing]
  exact (h.firstItem? hv).bind fun _ hfound => .pure (freeIn_getD hfound trivial)

/-- An item that is drawn by chance is an item. -/
lemma randomItem (h : s.Alike R t) (hv : FreeIn R v) :
    Eval.Agree R (s.randomItem v) (t.randomItem v) := by
  unfold Setting.randomItem
  rw [h.missing, h.repr]
  refine .bind (.look_of_none _) fun size _ => .ite (.pure trivial) ?_
  refine .bind (.build (Building.safe_draw size)) fun place _ => ?_
  have hplace : FreeIn R (Value.int place) := trivial
  refine (Value.safe_item? hv hplace).bind fun found hfound => ?_
  split
  · exact .pure hfound
  · exact .bind (.look_of_none _) fun _ _ => .throw _
  · exact .bind (.look_of_none _) fun _ _ => .throw _
  · exact .throw _

/-! ## Filters by name -/

lemma textFilter? (h : s.Alike R t) : s.textFilter? = t.textFilter? := by
  funext f v arg
  simp only [Setting.textFilter?, Setting.softMap, Setting.titled, Setting.softChange,
    Setting.trimmed, h.softly, h.display, h.escaped, h.futures]

end Alike

/-- What a filter answers that changes texts. -/
lemma safe_of_textFilter? {f : FilterName} {arg : Nat → Value} {answer : Look Value}
    (hv : FreeIn R v) (harg : ∀ i, FreeIn R (arg i)) (h : s.textFilter? f v arg = some answer) :
    answer.Safe R := by
  unfold textFilter? at h
  split at h
  all_goals cases h
  · exact safe_softMap s _ v
  · exact safe_softMap s _ v
  · exact safe_softMap s _ v
  · exact safe_titled s hv
  · exact safe_softChange s _ hv
  · exact safe_trimmed s hv _
  · exact safe_softly s hv
  · exact .bind (.of_none _) fun _ _ => .pure trivial
  · exact .bind (.of_none _) fun _ _ => .pure trivial
  · exact .bind (.of_none _) fun _ _ => .pure trivial
  · exact .bind (.of_none _) fun _ _ => .pure trivial
  · exact (safe_softly s hv).bind fun _ _ => .pure trivial
  · exact safe_orDefault hv (harg 0) _
  · exact .bind (.of_none _) fun _ _ => .pure trivial
  · exact safe_sizeText v _
  · exact .bind (.of_none _) fun _ _ => .pure trivial

namespace Alike

variable {t : Setting} {a : Arguments} {arguments : List Value}

/-- A filter with arguments for all its parameters agrees on free values. -/
lemma appliedFilter (h : s.Alike R t) (f : FilterName) (hv : FreeIn R v)
    (harguments : FreeIn R arguments) :
    Eval.Agree R (s.appliedFilter f v arguments) (t.appliedFilter f v arguments) := by
  unfold Setting.appliedFilter
  rw [h.textFilter?]
  extract_lets arg
  have harg : ∀ i, FreeIn R (arg i) := fun i =>
    freeIn_getD (freeIn_getElem? harguments i) (a := Value.none) trivial
  split
  · exact .except (Value.freeIn_magnitude hv)
  · exact h.attributeOnly hv _
  · exact safe_streamOf ⟨harg 0, harg 1⟩ hv
  · exact h.entriesSorted hv _ _ _
  · exact h.firstItem hv
  · exact .except (freeIn_floatOr hv (harg 0))
  · exact h.grouped hv (harg 0) (harg 1) _
  · exact h.indented hv harguments
  · exact .except (freeIn_wholeOr hv (harg 0) _)
  · exact safe_streamOf trivial hv
  · exact h.joined hv _ (harg 1)
  · exact h.lastItem hv
  · exact (h.items hv).bind fun _ hvs => Eval.safe_list hvs
  · exact h.extreme .gt hv _ (harg 1)
  · exact h.extreme .lt hv _ (harg 1)
  · exact h.randomItem hv
  · exact h.replaced hv (harg 0) (harg 1) (harg 2)
  · exact h.reversed hv
  · exact safe_rounded hv _ _
  · exact safe_streamOf ⟨harg 0, harg 1⟩ hv
  · exact h.sorted hv _ _ (harg 2)
  · exact h.summed hv (harg 0) (harg 1)
  · exact safe_script v (harg 0)
  · exact h.truncated hv harguments
  · exact safe_streamOf ⟨harg 0, harg 1⟩ hv
  · exact h.urlEncoded hv
  · exact h.linkText v harguments
  · exact h.wrapped hv harguments
  · exact h.attributesText hv _
  · split
    · next answer hanswer => exact .look (safe_of_textFilter? hv harg hanswer)
    · exact .pure hv

/-- **A filter** agrees on a free value and free arguments. -/
theorem filter (h : s.Alike R t) (f : FilterName) (hv : FreeIn R v) (ha : FreeIn R a) :
    Eval.Agree R (s.filter f v a) (t.filter f v a) := by
  refine .bind (.except (f.freeIn_bind ha)) fun arguments harguments => ?_
  split
  · exact h.formatted hv ha
  · exact safe_streamOf (j := .map a) ha hv
  · exact safe_streamOf (j := .select true a) ha hv
  · exact safe_streamOf (j := .select false a) ha hv
  · exact safe_streamOf (j := .selectBy true a) ha hv
  · exact safe_streamOf (j := .selectBy false a) ha hv
  · exact h.appliedFilter _ hv harguments

/-! ## Tests -/

lemma hasRest (h : s.Alike R t) : s.hasRest = t.hasRest := by
  funext v divisor rest
  rw [Setting.hasRest, Setting.hasRest, h.modulo]

/-- **A test** agrees on free values; its answer is a truth value. -/
theorem test (h : s.Alike R t) (name : TestName) (v : Value) (harguments : FreeIn R arguments) :
    Eval.Agree R (s.test name v arguments) (t.test name v arguments) := by
  have hother : FreeIn R ((arguments[0]?).getD .none) :=
    freeIn_getD (freeIn_getElem? harguments 0) (a := Value.none) trivial
  unfold Setting.test
  rw [h.hasRest, h.display]
  extract_lets other
  split
  case h_7 => exact (h.contains hother v).bind fun _ _ => .pure trivial
  case h_13 => exact .pure trivial
  case h_14 => exact .pure trivial
  all_goals exact .bind (.look_of_none _) fun _ _ => .pure trivial

end Alike

end Setting

end Interpolation
