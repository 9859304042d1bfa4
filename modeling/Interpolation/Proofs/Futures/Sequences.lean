import Interpolation.Eval.SequenceFilter
import Interpolation.Proofs.Futures.Calls
import Interpolation.Proofs.Futures.Operators

/-!
# Filters of free sequences

A filter of a sequence answers one of its items, its items in another order, or something that is
computed from them.  The items of a free value are free, and so are the ends of the ways that lead
from them to attributes, because a way is a chain of lookups.

* `Setting.Alike.follow`, `Setting.Alike.keyOf` — ways to attributes.
* `Setting.safe_sortedBy` — items in order are still free.
* `Setting.Alike.joined`, `summed`, `extreme`, `sorted`, `entriesSorted`, `grouped`, `reversed` — the
  filters.
-/

namespace Interpolation

variable {R : Scope}

/-! ## Ways to attributes -/

lemma freeIn_pathPart (part : List Char) : FreeIn R (pathPart part) := by
  rw [pathPart]
  split
  · exact freeIn_exceptMap_of _ fun _ => trivial
  · exact trivial

lemma freeIn_pathOf {selector : Value} (h : FreeIn R selector) : FreeIn R (pathOf selector) := by
  unfold pathOf
  split
  · exact freeIn_nil
  · exact freeIn_mapM_except (freeIn_of_none R _) fun part _ => freeIn_pathPart part
  · exact freeIn_cons.2 ⟨h, freeIn_nil⟩

lemma freeIn_pathsOf {selector : Value} (h : FreeIn R selector) :
    FreeIn R (Setting.pathsOf selector) := by
  unfold Setting.pathsOf
  split
  · exact freeIn_mapM_except (freeIn_of_none R _) fun _ _ => freeIn_pathOf trivial
  · exact freeIn_exceptBind (freeIn_pathOf h) fun _ hpath => freeIn_cons.2 ⟨hpath, freeIn_nil⟩

lemma Value.freeIn_ignoringCase {v : Value} (hv : FreeIn R v) : FreeIn R v.ignoringCase := by
  unfold ignoringCase
  split
  · exact trivial
  · exact trivial
  · exact hv

/-! ## Sorting -/

lemma Setting.safe_sortedBy {α : Type} [HoldsValues α] (less : α → α → Look Bool) (backwards : Bool)
    {keyed : List (α × Value)} (h : FreeIn R keyed) :
    (Setting.sortedBy less backwards keyed).Safe R := by
  unfold Setting.sortedBy
  refine .bind (safe_sortBy _ ?_) fun sorted hsorted =>
    .pure (freeIn_map ?_ fun p (hp : FreeIn R p) => hp.2)
  · split
    · exact freeIn_reverse h
    · exact h
  · split
    · exact freeIn_reverse hsorted
    · exact hsorted

/-! ## The filters -/

namespace Setting.Alike

variable {s t : Setting} {v w : Value} {path : List Value}

lemma follow (h : s.Alike R t) (hpath : FreeIn R path) (hv : FreeIn R v) :
    Eval.Agree R (s.follow path v) (t.follow path v) :=
  .foldlM hpath hv fun _ _ hb hpart => h.itemOf hb hpart

lemma followOr (h : s.Alike R t) {default : Value} (hdefault : FreeIn R default)
    (hpath : FreeIn R path) (hv : FreeIn R v) :
    Eval.Agree R (s.followOr default path v) (t.followOr default path v) := by
  refine .ite (h.follow hpath hv) (.foldlM hpath hv fun b part hb hpart => ?_)
  refine (h.itemOf hb hpart).bind fun w hw => .pure ?_
  split
  · exact hdefault
  · exact hw

lemma keyOf (h : s.Alike R t) (hpath : FreeIn R path) (sensitive : Bool) (hv : FreeIn R v) :
    Eval.Agree R (s.keyOf path sensitive v) (t.keyOf path sensitive v) := by
  refine (h.follow hpath hv).bind fun w hw => .pure ?_
  split
  · exact hw
  · exact Value.freeIn_ignoringCase hw

lemma keysOf (h : s.Alike R t) {paths : List (List Value)} (hpaths : FreeIn R paths)
    (sensitive : Bool) (hv : FreeIn R v) :
    Eval.Agree R (s.keysOf paths sensitive v) (t.keysOf paths sensitive v) :=
  .mapM hpaths fun _ hpath => h.keyOf hpath sensitive hv

lemma followNext (h : s.Alike R t) (hpath : FreeIn R path) (hv : FreeIn R v) :
    Eval.Agree R (s.followNext path v) (t.followNext path v) :=
  .orEnd ((h.follow hpath hv).bind fun w hw => .pure (show FreeIn R (some w) from hw))
    (.pure (show FreeIn R (none : Option Value) from trivial))

lemma shownPart (h : s.Alike R t) (hv : FreeIn R v) :
    Eval.Agree R (s.shownPart v) (t.shownPart v) := by
  unfold Setting.shownPart
  rw [h.display]
  split
  · exact .pure hv
  · exact .bind (.look_of_none _) fun _ _ => .pure trivial

lemma joined (h : s.Alike R t) {selector : Value} (hv : FreeIn R v) (between : Value)
    (hselector : FreeIn R selector) :
    Eval.Agree R (s.joined v between selector) (t.joined v between selector) := by
  unfold Setting.joined
  rw [h.display]
  refine .bind (.except (freeIn_pathOf hselector)) fun path hpath => ?_
  extract_lets put go put' go'
  have hput : ∀ texts item, FreeIn R texts → FreeIn R item →
      Eval.Agree R (put texts item) (put' texts item) := by
    intro texts item htexts hitem
    refine (h.followNext hpath hitem).bind fun found hfound => ?_
    cases found with
    | some w =>
      exact (h.shownPart hfound).bind fun _ htext => .pure ⟨trivial, freeIn_cons.2 ⟨htext, htexts⟩⟩
    | none => exact .pure ⟨trivial, htexts⟩
  have hgo : ∀ early, FreeIn R early → Eval.Agree R (go early) (go' early) := by
    intro early hearly
    refine .bind (.look_of_none _) fun mark _ => ?_
    extract_lets walk walk'
    have hwalk : ∀ source, FreeIn R source → Eval.Agree R (walk source) (walk' source) := by
      intro source hsource
      refine (h.foldFrom hput walkLimit hsource freeIn_nil).bind fun texts htexts => ?_
      have hreversed := freeIn_reverse htexts
      split
      · next text hrun => exact .pure (freeIn_cons.1 (hrun ▸ hreversed : FreeIn R [text])).1
      · exact .pure trivial
    cases early with
    | some source => exact .bind (.pure hearly) hwalk
    | none => exact .bind (.look (Value.safe_source hv)) hwalk
  refine .ite (.bind (.pure trivial) hgo) ?_
  exact .bind (.look (Value.safe_source hv)) fun source hsource => .bind (.pure hsource) hgo

/-- The items in order. -/
lemma sorted (h : s.Alike R t) {selector : Value} (hv : FreeIn R v)
    (backwards caseSensitive : Value) (hselector : FreeIn R selector) :
    Eval.Agree R (s.sorted v backwards caseSensitive selector)
      (t.sorted v backwards caseSensitive selector) := by
  refine .bind (.look_of_none _) fun sensitive _ => ?_
  refine .bind (.except (freeIn_pathsOf hselector)) fun paths hpaths => ?_
  refine (h.items hv).bind fun items hitems => .bind (.except_of_none _) fun backwards _ => ?_
  refine .bind (.mapM hitems fun item hitem => ?_) fun keyed hkeyed => ?_
  · exact (h.keysOf hpaths sensitive hitem).bind fun _ hkeys => .pure ⟨hkeys, hitem⟩
  · exact .bind (.look (safe_sortedBy _ backwards hkeyed)) fun _ hvs => Eval.safe_list hvs

lemma answerOf (h : s.Alike R t) (hv : FreeIn R v) (name : String) :
    Eval.Agree R (s.answerOf v name) (t.answerOf v name) :=
  (Value.safe_attributeNamed hv name).bind fun _ hmethod => h.call hmethod ⟨freeIn_nil, freeIn_nil⟩

lemma itemsOf (h : s.Alike R t) (hv : FreeIn R v) :
    Eval.Agree R (s.itemsOf v) (t.itemsOf v) :=
  (h.answerOf hv "items").bind fun _ hitems => h.items hitems

lemma entriesSorted (h : s.Alike R t) (hv : FreeIn R v) (caseSensitive column backwards : Value) :
    Eval.Agree R (s.entriesSorted v caseSensitive column backwards)
      (t.entriesSorted v caseSensitive column backwards) := by
  refine .bind (.look_of_none _) fun isKey _ => ?_
  extract_lets go go'
  have hgo : ∀ u, Eval.Agree R (go u) (go' u) := by
    intro _
    refine (h.itemsOf hv).bind fun pairs hpairs => .bind (.except_of_none _) fun backwards _ => ?_
    refine .bind (.mapM hpairs fun pair hpair => ?_) fun keyed hkeyed => ?_
    · have hplace : FreeIn R (Value.int (if isKey then 0 else 1)) := trivial
      refine (Value.safe_item? hpair hplace).bind fun found hfound => ?_
      have hw : FreeIn R (found.getD Value.none) := freeIn_getD hfound trivial
      refine .bind (.look_of_none _) fun sensitive _ => .pure ⟨?_, hpair⟩
      dsimp only
      split
      · exact hw
      · exact Value.freeIn_ignoringCase hw
    · exact .bind (.look (safe_sortedBy _ backwards hkeyed)) fun _ hvs => Eval.safe_list hvs
  refine .ite (.bind (.look_of_none _) fun isValue _ => ?_) (hgo ())
  exact .ite (.throw_bind _ _ _) (hgo ())

/-- An item is put into one of the groups, which stay free. -/
lemma safe_putIntoRuns {runs : List Run} (hruns : FreeIn R runs) {key : Value}
    (hkey : FreeIn R key) (hv : FreeIn R v) : (putIntoRuns runs key v).Safe R := by
  have hsole : FreeIn R [v] := freeIn_cons.2 ⟨hv, freeIn_nil⟩
  unfold putIntoRuns
  split
  · exact .pure (freeIn_cons.2 ⟨⟨hkey, hsole⟩, freeIn_nil⟩)
  · obtain ⟨hfirst, hrest⟩ := freeIn_cons.1 hruns
    refine .bind (.of_none _) fun fits _ => ?_
    split
    · exact .pure (freeIn_cons.2 ⟨⟨hfirst.1, freeIn_cons.2 ⟨hv, hfirst.2⟩⟩, hrest⟩)
    · exact .pure (freeIn_cons.2 ⟨⟨hkey, hsole⟩, hruns⟩)

lemma safe_groupOf {key items : Value} (hkey : FreeIn R key) (hitems : FreeIn R items) :
    Eval.Safe R (groupOf key items) :=
  .bind (.build (Building.safe_addRow (freeIn_cons.2 ⟨hkey, freeIn_cons.2 ⟨hitems, freeIn_nil⟩⟩)))
    fun _ hr => .pure hr

/-- The items in groups. -/
lemma grouped (h : s.Alike R t) {selector default : Value} (hv : FreeIn R v)
    (hselector : FreeIn R selector) (hdefault : FreeIn R default) (caseSensitive : Value) :
    Eval.Agree R (s.grouped v selector default caseSensitive)
      (t.grouped v selector default caseSensitive) := by
  refine .bind (.look_of_none _) fun sensitive _ => ?_
  refine .bind (.except (freeIn_pathOf hselector)) fun path hpath => ?_
  extract_lets keyOf keyOf'
  have hkeyOf : ∀ item, FreeIn R item → Eval.Agree R (keyOf item) (keyOf' item) := by
    intro item hitem
    refine (h.followOr hdefault hpath hitem).bind fun key hkey => .pure ?_
    split
    · exact hkey
    · exact Value.freeIn_ignoringCase hkey
  refine (h.items hv).bind fun items hitems => ?_
  refine .bind (.mapM hitems fun item hitem => ?_) fun keyed hkeyed => ?_
  · exact (hkeyOf item hitem).bind fun _ hkey => .pure ⟨hkey, hitem⟩
  refine .bind (.look (safe_sortedBy _ false hkeyed)) fun sorted hsorted => ?_
  refine .bind (.foldlM hsorted freeIn_nil fun runs item hruns hitem => ?_) fun runs hruns => ?_
  · exact (hkeyOf item hitem).bind fun key hkey => .look (safe_putIntoRuns hruns hkey hitem)
  refine .bind (.mapM (freeIn_reverse hruns) fun run hrun => ?_) fun groups hgroups => ?_
  · exact (Eval.safe_list (freeIn_reverse hrun.2)).bind fun _ hlist => .pure ⟨hrun.1, hlist⟩
  refine .bind (.mapM hgroups fun group hgroup => ?_) fun _ hvs => Eval.safe_list hvs
  refine .ite (safe_groupOf hgroup.1 hgroup.2) ?_
  refine (h.firstItem? hgroup.2).bind fun found hfound => ?_
  cases found with
  | some item =>
    exact (h.followOr hdefault hpath hfound).bind fun key hkey => safe_groupOf hkey hgroup.2
  | none => exact safe_groupOf hgroup.1 hgroup.2

/-- The sum of the items. -/
lemma summed (h : s.Alike R t) {selector start : Value} (hv : FreeIn R v)
    (hselector : FreeIn R selector) (hstart : FreeIn R start) :
    Eval.Agree R (s.summed v selector start) (t.summed v selector start) := by
  refine .bind (.except (freeIn_pathOf hselector)) fun path hpath => ?_
  refine .bind (.look (Value.safe_source hv)) fun source hsource => ?_
  refine .bind (.except_of_none _) fun _ _ => ?_
  refine h.foldFrom (fun total item htotal hitem => ?_) walkLimit hsource hstart
  refine (h.followNext hpath hitem).bind fun found hfound => ?_
  cases found with
  | some w => exact (Value.safe_add htotal hfound).bind fun _ hsum => .pure ⟨trivial, hsum⟩
  | none => exact .pure ⟨trivial, htotal⟩

/-- The least or the greatest item. -/
lemma extreme (h : s.Alike R t) (c : Comparison) {selector : Value} (hv : FreeIn R v)
    (caseSensitive : Value) (hselector : FreeIn R selector) :
    Eval.Agree R (s.extreme c v caseSensitive selector)
      (t.extreme c v caseSensitive selector) := by
  unfold Setting.extreme
  rw [h.missing]
  refine .bind (.look (Value.safe_source hv)) fun source hsource => ?_
  refine (h.pull hsource).bind fun found hfound => ?_
  cases found with
  | none => exact .pure trivial
  | some next =>
    obtain ⟨first, source⟩ := next
    obtain ⟨hfirst, hsource⟩ := hfound
    refine .bind (.look_of_none _) fun sensitive _ => ?_
    refine .bind (.except (freeIn_pathOf hselector)) fun path hpath => ?_
    refine (h.keyOf hpath sensitive hfirst).bind fun key hkey => ?_
    have hstart : FreeIn R (key, first) := ⟨hkey, hfirst⟩
    refine (h.foldSource (fun best item hbest hitem => ?_) hsource hstart).bind
      fun _ hbest => .pure hbest.2
    refine (h.keyOf hpath sensitive hitem).bind fun key hkey => ?_
    refine .bind (.look_of_none _) fun b _ => .pure ?_
    split
    · exact ⟨hkey, hitem⟩
    · exact hbest

/-- The items from the last one to the first. -/
lemma reversed (h : s.Alike R t) (hv : FreeIn R v) :
    Eval.Agree R (s.reversed v) (t.reversed v) := by
  have hlist : Eval.Agree R (do Eval.list (← s.items v).reverse)
      (do Eval.list (← t.items v).reverse) :=
    (h.items hv).bind fun _ hvs => Eval.safe_list (freeIn_reverse hvs)
  have hpass : R.futures → ∀ e, e.IsOverflow → ∀ after,
      Eval.Overflows (throw (notWalkable e) : Eval Value) after := by
    intro _ e he after
    cases he with
    | tooDeep activity => exact Eval.overflows_throw (.tooDeep activity) after
    | inDocument activity => exact Eval.overflows_throw (.inDocument activity) after
  unfold Setting.reversed
  split
  · exact .pure trivial
  · exact .pure trivial
  · refine .bind .getStore fun store hstore => ?_
    have hback := (Value.safe_backwards? hv).result store hstore
    split
    · next type source hrun =>
      have hsource : FreeIn R (some (type, source)) :=
        (hrun ▸ hback : FreeIn R (Except.ok (some (type, source))))
      have hcourse : FreeIn R (Course.plain source) := hsource.2
      exact .build (Building.safe_stream type hcourse)
    · exact hlist.orElse (fun _ => .throw _) hpass
    · exact hlist.orElse (fun _ => .throw _) hpass
    · exact .throw _

end Setting.Alike

end Interpolation
