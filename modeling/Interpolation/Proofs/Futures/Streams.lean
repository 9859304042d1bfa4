import Interpolation.Eval.Environment
import Interpolation.Proofs.Futures.Filters

/-!
# Streams of free values

A stream keeps what it was asked for in its cell, so the cell of a free stream is free, and it stays
free from item to item.  Whether the streams of two settings give the same items is a question about
the streams that their sources are: it is settled by induction on the depth to which streams within
streams are followed.

* `Setting.Alike.work` — the way to the next item, by induction along the source.
* `Setting.Alike.advance` — the next item of a free stream is the same, and free.
* `Environment.Alike.setting` — environments that are alike give settings that are alike.
-/

namespace Interpolation

variable {R : Scope}

namespace Setting

instance : HoldsNone FilterName := .always FilterName

instance : HoldsNone TestName := .always TestName

/-! ## The beginning -/

lemma freeIn_attributeStage {named : List (String × Value)} (h : FreeIn R named) :
    FreeIn R (attributeStage named) := by
  have hselector := freeIn_lookup h "attribute"
  unfold attributeStage
  split
  · exact trivial
  · next selector hlookup =>
    split
    · exact trivial
    · refine freeIn_exceptBind (freeIn_pathOf (hlookup ▸ hselector : FreeIn R (some selector)))
        fun path hpath => ?_
      exact ⟨hpath, freeIn_getD (freeIn_lookup h "default") trivial⟩

/-- What a stream does with each item is free if its job is. -/
lemma safe_stageOf {job : Job} (h : FreeIn R job) : (stageOf job).Safe R := by
  unfold stageOf
  split
  · exact .except (freeIn_attributeStage h.2)
  · obtain ⟨hname, hrest⟩ := freeIn_cons.1 h.1
    exact .pure ⟨hname, hrest, h.2⟩
  · exact .pure h
  · exact .throw _
  · obtain ⟨hselector, hrest⟩ := freeIn_cons.1 h.1
    exact .bind (.except (freeIn_pathOf hselector)) fun _ hpath => .pure ⟨hpath, hrest, h.2⟩
  · refine .bind (.of_none _) fun _ _ => .bind (.except (freeIn_pathOf h.2)) fun _ hpath => ?_
    exact .pure ⟨hpath, freeIn_nil⟩
  · exact .pure ⟨h.1, h.2, freeIn_nil⟩
  · exact .pure trivial
  · exact .pure trivial

lemma safe_sourceOf (job : Job) {v : Value} (hv : FreeIn R v) : (sourceOf job v).Safe R := by
  unfold sourceOf
  split
  · exact .pure trivial
  · next r h =>
    exact (Look.safe_entries (freeIn_of_content h hv)).bind fun _ _ =>
      .pure (freeIn_of_content h hv : FreeIn R r)
  · next r h =>
    exact (Look.safe_entries (freeIn_of_content h hv)).bind fun _ _ =>
      .pure (freeIn_of_content h hv : FreeIn R r)
  · exact .throw _
  · exact (Value.safe_source hv).bind fun _ hsource => .pure hsource

namespace Alike

variable {s t : Setting} {v : Value} {a : Arguments}

lemma sliceBeginning (h : s.Alike R t) (hv : FreeIn R v) {count fill : Value}
    (hcount : FreeIn R count) (hfill : FreeIn R fill) :
    Eval.Agree R (s.sliceBeginning v count fill) (t.sliceBeginning v count fill) := by
  unfold Setting.sliceBeginning
  rw [h.modulo]
  refine (h.items hv).bind fun items hitems => ?_
  refine .bind (.except (Value.freeIn_floorDivide _ _)) fun per _ => ?_
  refine .bind (.look (safe_modulo t _ hcount)) fun extra _ => ?_
  exact .bind (.except_of_none _) fun _ _ => .pure ⟨⟨hitems, hfill⟩, trivial⟩

/-- What a stream finds out before its first item is the same, and free. -/
lemma beginning (h : s.Alike R t) {job : Job} (hjob : FreeIn R job) (hv : FreeIn R v) :
    Eval.Agree R (s.beginning job v) (t.beginning job v) := by
  unfold Setting.beginning
  split
  · next count fill =>
    exact (h.sliceBeginning hv hjob.1 hjob.2).bind fun _ hbegun => .pure hbegun
  · extract_lets go
    have hgo : ∀ skipped, FreeIn R skipped → Eval.Safe R (go skipped) := by
      intro skipped _
      refine .ite (.pure trivial) ?_
      refine .bind (.look (safe_stageOf hjob)) fun stage hstage => ?_
      refine .bind (.look (safe_sourceOf job hv)) fun source hsource => .pure ?_
      exact freeIn_optionMap hsource fun _ h => ⟨hstage, h⟩
    split
    case h_4 => exact .bind (.pure trivial) hgo
    all_goals exact .bind (.look_of_none _) fun _ _ => .bind (.pure trivial) hgo

/-! ## Filters and tests named by values -/

lemma notApplicable (h : s.Alike R t) {α : Type} :
    @Setting.notApplicable s α = @Setting.notApplicable t α := by
  funext what name
  rw [Setting.notApplicable, Setting.notApplicable, h.repr]

lemma filterNamed (h : s.Alike R t) (name : Value) (hv : FreeIn R v) (ha : FreeIn R a) :
    Eval.Agree R (s.filterNamed name v a) (t.filterNamed name v a) := by
  rw [Setting.filterNamed, Setting.filterNamed, h.notApplicable]
  refine .bind (.look_of_none _) fun _ _ => ?_
  split
  · refine .look (.bind (.of_none _) fun _ _ => .throw _)
  · exact h.filter _ hv ha

lemma question (h : s.Alike R t) (ha : FreeIn R a) (v : Value) :
    Eval.Agree R (s.question a v) (t.question a v) := by
  unfold Setting.question
  rw [h.notApplicable]
  split
  · exact .look_of_none _
  · next name rest hpositional =>
    have hrest : FreeIn R rest := (freeIn_cons.1 (hpositional ▸ ha.1 : FreeIn R (name :: rest))).2
    refine .bind (.look_of_none _) fun _ _ => ?_
    split
    · exact .look_of_none _
    · next asked _ =>
      refine .bind (.except (asked.freeIn_bind ⟨hrest, ha.2⟩)) fun arguments harguments => ?_
      exact (h.test asked v harguments).bind fun _ _ => .look_of_none _

/-! ## The way to the next item -/

lemma freeIn_ite {c : Prop} [Decidable c] (hv : FreeIn R v) :
    FreeIn R (if c then some v else none) := by
  split
  · exact hv
  · exact trivial

/-- The items of a group are some of the given ones, and perhaps the one to fill it up. -/
lemma freeIn_sliceAt {items : List Value} (hitems : FreeIn R items) (per extra : Nat) {fill : Value}
    (hfill : FreeIn R fill) (number : Nat) : FreeIn R (sliceAt items per extra fill number) := by
  have hgroup (low high : Nat) : FreeIn R ((items.take high).drop low) :=
    freeIn_of_subset (List.drop_subset _ _) (freeIn_of_subset (List.take_subset _ _) hitems)
  unfold sliceAt
  extract_lets start group
  split
  · exact hgroup _ _
  · exact freeIn_append.2 ⟨hgroup _ _, freeIn_cons.2 ⟨hfill, freeIn_nil⟩⟩

/-- What a free stage makes of a free item is free, and so is the stage afterwards. -/
lemma process (h : s.Alike R t) {stage : Stage} (hstage : FreeIn R stage) (hv : FreeIn R v) :
    Eval.Agree R (s.process stage v) (t.process stage v) := by
  rcases stage with ⟨path, default⟩ | ⟨name, a⟩ | ⟨wanted, a⟩ | ⟨wanted, path, a⟩ |
    ⟨path, sensitive, seen⟩ | ⟨size, fill, group⟩ | ⟨items, per, extra, fill⟩ | _
  · exact (h.followOr hstage.2 hstage.1 hv).bind fun w hw => .pure ⟨hw, hstage⟩
  · exact (h.filterNamed name hv hstage.2).bind fun w hw => .pure ⟨hw, hstage⟩
  · refine (h.question hstage v).bind fun answer _ => .pure ⟨?_, hstage⟩
    exact freeIn_ite hv
  · refine (h.follow hstage.1 hv).bind fun w _ => (h.question hstage.2 w).bind fun answer _ => ?_
    exact .pure ⟨freeIn_ite hv, hstage⟩
  · refine (h.keyOf hstage.1 sensitive hv).bind fun key hkey => ?_
    refine .bind (.look_of_none _) fun _ _ => .bind (.look_of_none _) fun found _ => ?_
    exact .ite (.pure ⟨trivial, hstage⟩)
      (.pure ⟨hv, hstage.1, freeIn_cons.2 ⟨hkey, hstage.2⟩⟩)
  · obtain ⟨hsize, hfill, hgroup⟩ := hstage
    have hsole : FreeIn R [v] := freeIn_cons.2 ⟨hv, freeIn_nil⟩
    refine .bind (.look_of_none _) fun isFull _ => .ite ?_ ?_
    · exact (Eval.safe_list hgroup).bind fun w hw => .pure ⟨hw, hsize, hfill, hsole⟩
    · exact .pure ⟨trivial, hsize, hfill, freeIn_append.2 ⟨hgroup, hsole⟩⟩
  · exact (Eval.safe_list (freeIn_sliceAt hstage.1 per extra hstage.2 _)).bind fun _ hw =>
      .pure ⟨hw, hstage⟩
  · exact .pure ⟨hv, hstage⟩

lemma lastGroup (h : s.Alike R t) {size fill : Value} (hsize : FreeIn R size)
    (hfill : FreeIn R fill) {group : List Value} (hgroup : FreeIn R group) :
    Eval.Agree R (s.lastGroup size fill group) (t.lastGroup size fill group) := by
  have hcount : FreeIn R (Value.int group.length) := trivial
  have hfills : FreeIn R [fill] := freeIn_cons.2 ⟨hfill, freeIn_nil⟩
  refine .ite (Eval.safe_list hgroup) (.bind (.look_of_none _) fun isShort _ => .ite ?_ ?_)
  · refine (Eval.safe_list hgroup).bind fun w hw => (Eval.safe_list hfills).bind fun sole hsole => ?_
    refine (h.subtract hsize hcount).bind fun n hn => ?_
    exact (Value.safe_multiply hsole hn).bind fun more hmore => Value.safe_add hw hmore
  · exact Eval.safe_list hgroup

lemma finish (h : s.Alike R t) {stage : Stage} (hstage : FreeIn R stage) :
    Eval.Agree R (s.finish stage) (t.finish stage) := by
  unfold Setting.finish
  split
  · exact (h.lastGroup hstage.1 hstage.2.1 hstage.2.2).bind fun _ hw => .pure hw
  · exact .pure trivial

/-- The way to the next item; the induction is along the source. -/
lemma work (h : s.Alike R t) (fuel : Nat) {stage : Stage} {source : Source}
    (hstage : FreeIn R stage) (hsource : FreeIn R source) :
    Eval.Agree R (s.work fuel stage source) (t.work fuel stage source) := by
  induction fuel generalizing stage source with
  | zero => exact .pure ⟨trivial, trivial⟩
  | succ fuel ih =>
    refine (h.pull hsource).bind fun found hfound => ?_
    rcases found with _ | ⟨v, source⟩
    · refine (h.finish hstage).bind fun last hlast => ?_
      cases last with
      | some w => exact .pure ⟨hlast, freeIn_nil⟩
      | none => exact .pure ⟨trivial, trivial⟩
    · obtain ⟨hv, hsource⟩ := hfound
      refine (h.process hstage hv).bind fun p hp => ?_
      rcases p with ⟨_ | w, stage⟩
      · exact ih hp.2 hsource
      · exact .pure ⟨hp.1, hp.2, hsource⟩

lemma exclusively (r : Ref) {x y : Eval (Option Value × Course)} (hxy : Eval.Agree R x y) :
    Eval.Agree R (Setting.exclusively r x) (Setting.exclusively r y) := by
  refine .bind (.build (Building.safe_put r (c := .stream .running) trivial)) fun _ _ => ?_
  refine (hxy.inStream.orElse (fun f => ?_) fun _ f hf s => ?_).bind fun p hp => ?_
  · exact .bind (.build (Building.safe_put r (c := .stream .ended) trivial)) fun _ _ => .throw _
  · exact (Eval.Ends.build _ s).overflows_bind (Eval.overflows_throw hf _)
  · exact .bind (.build (Building.safe_put r (c := .stream p.2) hp.2)) fun _ _ => .pure hp.1

/-- **The next item** of a free stream is the same in settings that are alike, and it is free. -/
theorem advance (h : s.Alike R t) {r : Ref} (hr : FreeIn R r) :
    Eval.Agree R (s.advance r) (t.advance r) := by
  refine .bind .getStore fun store hstore => ?_
  have hcourse := Store.IsFree.course hstore hr
  split
  · exact .pure trivial
  · exact .throw _
  · next source hrun =>
    refine (h.pull (hrun ▸ hcourse : FreeIn R (Course.plain source))).bind fun found hfound => ?_
    rcases found with _ | ⟨v, source⟩
    · exact .bind (.build (Building.safe_put r (c := .stream .ended) trivial)) fun _ _ =>
        .pure trivial
    · exact .bind (.build (Building.safe_put r (c := .stream (.plain source)) hfound.2)) fun _ _ =>
        .pure hfound.1
  · next job v hrun =>
    have hwaiting : FreeIn R (Course.waiting job v) := hrun ▸ hcourse
    refine exclusively r ((h.beginning hwaiting.1 hwaiting.2).bind fun found hfound => ?_)
    rcases found with _ | ⟨stage, source⟩
    · exact .pure ⟨trivial, trivial⟩
    · exact h.work walkLimit hfound.1 hfound.2
  · next stage source hrun =>
    have hworking : FreeIn R (Course.working stage source) := hrun ▸ hcourse
    exact exclusively r (h.work walkLimit hworking.1 hworking.2)

end Alike

/-! ## Streams within streams -/

/-- Settings in which lookups of free values agree are alike, however deep streams are followed. -/
lemma alike_ofDepth (strict : Bool) (futures : Futures)
    {settled settled' : Value → Value → Eval Value}
    (h : ∀ key {v : Value}, FreeIn R v → Eval.Agree R (settled key v) (settled' key v))
    (depth : Nat) :
    (Setting.ofDepth strict futures settled depth).Alike R
      (Setting.ofDepth strict futures settled' depth) := by
  induction depth with
  | zero => exact ⟨rfl, rfl, h, fun _ => .throw _⟩
  | succ depth ih => exact ⟨rfl, rfl, h, fun hr => ih.advance hr⟩

end Setting

/-! ## What a lookup finds -/

namespace Futures

variable (fs : Futures)

/-- Where no futures are met, a free value is none, so nothing is put into its place. -/
lemma settling_eq (hR : ¬ R.futures) (logging : Bool) (key : Value) {v : Value}
    (hv : FreeIn R v) : fs.settling logging key v = pure v := by
  unfold settling
  split
  · next h => exact absurd (freeIn_of_content h hv) hR
  · rfl

/-- That a future was met is told, and changes nothing, unless what was looked up is nested too
deeply to be told. -/
lemma agree_announce (hR : R.futures) (key : Value) :
    Eval.Agree R (fs.announce true key) (fs.announce false key) := by
  refine .bind (.look_of_none _) fun text _ => ⟨fun s hs => ⟨.ok (), s, [text], ?_⟩⟩
  have hrecord : (Eval.record text).Ends s (.ok ()) s [text] := .record text s
  have hnothing : (pure () : Eval Unit).Ends s (.ok ()) s [] := .pure () s
  have hfits : ¬ (∃ activity, text = .unwritten (.tooDeep activity)) → Trace.Fits [text] := by
    intro h w hw activity hactivity
    exact h ⟨activity, (List.mem_singleton.1 hw).symm.trans hactivity⟩
  rcases text with t | _ | activity | ⟨label, t⟩
  · exact ⟨hrecord.bind hnothing, trivial, hs, absurd hR, fun _ => hrecord.bind hnothing,
      fun h => absurd (hfits (by simp)) h⟩
  · exact ⟨hrecord.bind hnothing, trivial, hs, absurd hR, fun _ => hrecord.bind hnothing,
      fun h => absurd (hfits (by simp)) h⟩
  · refine ⟨hrecord.bind hnothing, trivial, hs, absurd hR, fun h => ?_, fun _ => ?_⟩
    · exact absurd rfl (h _ (List.mem_singleton_self _) activity)
    · exact hrecord.overflows_bind (Eval.overflows_throw (.tooDeep activity) s)
  · exact ⟨hrecord.bind hnothing, trivial, hs, absurd hR, fun _ => hrecord.bind hnothing,
      fun h => absurd (hfits (by simp)) h⟩

/-- The same holds for what is put into the place of the future. -/
lemma agree_settling (hR : R.futures) (key v : Value) :
    Eval.Agree R (fs.settling true key v) (fs.settling false key v) := by
  unfold settling
  split
  · refine .bind .getStore fun store _ => ?_
    split
    · exact (fs.agree_announce hR key).bind fun _ _ => .except (freeIn_of_futures hR _)
    · exact .pure (freeIn_of_futures hR v)
  · exact .pure (freeIn_of_futures hR v)

/-- A name is told in any case, and whether it is makes no difference. -/
lemma settling_str (logging logging' : Bool) (name : String) (v : Value) :
    fs.settling logging (.str name) v = fs.settling logging' (.str name) v := rfl

end Futures

/-! ## Environments -/

/-- Environments in which expressions are evaluated alike: they take missing values alike; and where
futures can be met, they take futures alike as well, and the second one is silent about them. -/
structure Environment.Alike (R : Scope) (e e' : Environment) : Prop where
  strict : e.strict = e'.strict
  resolving : R.futures → e.resolving = e'.resolving
  telling : R.futures → e.resolving = true → e.logging = true
  silent : R.futures → e'.logging = false

namespace Environment

/-- A lookup finds a free value where no futures are met, whether it would resolve them or not. -/
lemma settling_eq (hR : ¬ R.futures) (e : Environment) (futures : Futures) (key : Value)
    {v : Value} (hv : FreeIn R v) : e.settling futures key v = pure v := by
  unfold settling
  split
  · exact futures.settling_eq hR e.logging key hv
  · rfl

/-- In a region it makes no difference how futures are taken. -/
lemma Alike.of_strict {R : Region} {e e' : Environment} (h : e.strict = e'.strict) : e.Alike R e' :=
  ⟨h, False.elim, False.elim, False.elim⟩

/-- **Environments that are alike** give settings that are alike. -/
theorem Alike.setting {e e' : Environment} (h : e.Alike R e') (futures : Futures) :
    (e.setting futures).Alike R (e'.setting futures) := by
  rw [Environment.setting, Environment.setting, h.strict]
  refine Setting.alike_ofDepth _ _ (fun key v hv => ?_) _
  by_cases hR : R.futures
  · rw [settling, settling, h.silent hR, ← h.resolving hR]
    split
    · next hresolving =>
      rw [h.telling hR hresolving]
      exact futures.agree_settling hR key v
    · exact .pure hv
  · rw [settling_eq hR e futures key hv, settling_eq hR e' futures key hv]
    exact .pure hv

/-- In any environment an evaluation ends in the same way whatever was told before. -/
lemma uniform {α : Type} [HoldsValues α] (e : Environment) (futures : Futures)
    {f : Setting → Eval α} (hf : ∀ {s t : Setting}, s.Alike .everything t →
      Eval.Agree .everything (f s) (f t)) : (f (e.setting futures)).Uniform := by
  by_cases h : e.resolving = true ∧ e.logging = false
  · have halike : Alike .everything { e with logging := true } e :=
      ⟨rfl, fun _ => rfl, fun _ _ => rfl, fun _ => h.2⟩
    exact (hf (halike.setting futures)).uniform_right
  · have halike : Alike .everything e { e with logging := false } :=
      ⟨rfl, fun _ => rfl, fun _ hresolving => by simpa using fun hlogging => h ⟨hresolving, hlogging⟩,
        fun _ => rfl⟩
    exact (hf (halike.setting futures)).uniform_left

end Environment

end Interpolation
