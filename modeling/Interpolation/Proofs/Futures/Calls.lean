import Interpolation.Proofs.Futures.Collections
import Interpolation.Proofs.Futures.FutureMethods
import Interpolation.Proofs.Futures.Helpers

/-!
# Calls on free values

A call of a free value with free arguments answers something free, and what it puts into a list or a
mapping is free as well: it comes from the arguments, or from what is walked through, and goes into a
cell of the region.

* `Setting.Alike.addArguments` — the entries that a call adds to others.
* `Setting.Alike.callDict`, `Setting.Alike.callList` — methods of mappings and lists.
* `Setting.Alike.callMethod` — any method.
* `Setting.Alike.call` — any call.
-/

namespace Interpolation

variable {R : Scope}

lemma freeIn_makeRange (a : Arguments) : FreeIn R (makeRange a) := by
  unfold makeRange
  dsimp only
  split
  · exact trivial
  · split
    · exact trivial
    · exact freeIn_exceptBind_of _ fun _ => trivial
    · exact freeIn_exceptBind_of _ fun _ => freeIn_exceptBind_of _ fun _ => trivial
    · refine freeIn_exceptBind_of _ fun _ => freeIn_exceptBind_of _ fun _ =>
        freeIn_exceptBind_of _ fun _ => ?_
      split <;> exact trivial
    · exact trivial

namespace Setting

/-- The place of an item is a number. -/
lemma safe_callIndex (s : Setting) (type : String) (items : List Value) {a : Arguments}
    (ha : FreeIn R a) : (s.callIndex type items a).Safe R := by
  unfold callIndex
  refine .bind (.except (a.freeIn_between ha _ _ _ _)) fun vs hvs => ?_
  extract_lets v fromFirst
  have hfirst : ∀ n, (fromFirst n).Safe R := by
    intro first
    dsimp -zeta only [fromFirst]
    extract_lets upTo
    have hlast : ∀ n, (upTo n).Safe R := by
      intro last
      refine .bind (.of_none _) fun found _ => ?_
      split
      · exact .pure trivial
      · split
        · exact .throw _
        · exact .bind (.of_none _) fun _ _ => .throw _
    split
    · exact .bind (.of_none _) fun n _ => hlast n
    · exact .bind (.of_none _) fun n _ => hlast n
  split
  · exact .bind (.of_none _) fun n _ => hfirst n
  · exact .bind (.of_none _) fun n _ => hfirst n

lemma safe_callTuple (s : Setting) (items : List Value) (name : String) {a : Arguments}
    (ha : FreeIn R a) : (s.callTuple items name a).Safe R := by
  unfold callTuple
  split
  · exact safe_callIndex s _ items ha
  · exact .bind (.except (a.freeIn_one ha _)) fun _ _ => .bind (.of_none _) fun _ _ => .pure trivial
  · exact .throw _

lemma safe_popItem (r : Ref) {items : List Value} (hitems : FreeIn R items) {a : Arguments}
    (ha : FreeIn R a) : Eval.Safe R (popItem r items a) := by
  unfold popItem
  refine .bind (.except (a.freeIn_between ha _ _ _ _)) fun vs _ => ?_
  refine .bind (.except_of_none _) fun n _ => ?_
  refine .ite (.throw_bind _ _ _) ?_
  split
  · refine .bind (.build (Building.safe_putRow r ?_)) fun _ _ => .pure ?_
    · exact freeIn_of_subset List.eraseIdx_subset hitems
    · exact freeIn_getD (freeIn_getElem? hitems _) trivial
  · exact .throw _

namespace Alike

variable {s t : Setting} {v callee : Value} {a : Arguments} {r : Ref}

/-! ## Mappings -/

lemma entryOf (h : s.Alike R t) (index : Nat) (hv : FreeIn R v) :
    Eval.Agree R (s.entryOf index v) (t.entryOf index v) := by
  refine .bind .getStore fun store hstore => ?_
  have hsource := (Value.safe_source hv).result store hstore
  split
  · exact .throw _
  · next source hrun =>
    refine (h.drain (hrun ▸ hsource : FreeIn R (Except.ok source))).bind fun items hitems => ?_
    split
    · obtain ⟨hk, hrest⟩ := freeIn_cons.1 hitems
      exact .pure ⟨hk, (freeIn_cons.1 hrest).1⟩
    · exact .throw _

lemma addPairs (h : s.Alike R t) {entries : List (Value × Value)} (hentries : FreeIn R entries)
    {source : Source} (hsource : FreeIn R source) :
    Eval.Agree R (s.addPairs entries source) (t.addPairs entries source) := by
  have hstart : FreeIn R ((0 : Nat), entries) := ⟨trivial, hentries⟩
  refine (h.foldSource (fun p v hp hv => ?_) hsource hstart).bind fun _ hp => .pure hp.2
  refine (h.entryOf p.1 hv).bind fun e he => ?_
  exact .bind (.look (safe_insertEntries hp.2 (freeIn_cons.2 ⟨he, freeIn_nil⟩))) fun _ hmore =>
    .pure ⟨trivial, hmore⟩

lemma addEntriesOf (h : s.Alike R t) {entries : List (Value × Value)}
    (hentries : FreeIn R entries) (hv : FreeIn R v) :
    Eval.Agree R (s.addEntriesOf entries v) (t.addEntriesOf entries v) := by
  unfold Setting.addEntriesOf
  split
  · next r hr =>
    refine .look ((Look.safe_entries (freeIn_of_content hr hv)).bind fun more hmore => ?_)
    exact safe_insertEntries hentries hmore
  · next r hr =>
    refine .look ((Look.safe_entries (freeIn_of_content hr hv)).bind fun more hmore => ?_)
    exact safe_insertEntries hentries hmore
  · exact .throw _
  · exact .bind (.look (Value.safe_source hv)) fun _ hsource => h.addPairs hentries hsource

lemma entriesOf (h : s.Alike R t) (hv : FreeIn R v) :
    Eval.Agree R (s.entriesOf v) (t.entriesOf v) := by
  unfold Setting.entriesOf
  split
  · next r hr => exact .bind (.look (Look.safe_entries (freeIn_of_content hr hv))) fun _ => .pure
  · next r hr => exact .bind (.look (Look.safe_entries (freeIn_of_content hr hv))) fun _ => .pure
  · exact h.addEntriesOf freeIn_nil hv

/-- The entries that free arguments add to free ones. -/
lemma addArguments (h : s.Alike R t) (callee : String) {entries : List (Value × Value)}
    (hentries : FreeIn R entries) (ha : FreeIn R a) :
    Eval.Agree R (s.addArguments callee entries a) (t.addArguments callee entries a) := by
  have hnamed : FreeIn R (a.named.map fun p => (Value.str p.1, p.2)) :=
    freeIn_map ha.2 fun _ hp => ⟨trivial, hp.2⟩
  obtain ⟨positional, named⟩ := a
  have hpositional : FreeIn R positional := ha.1
  unfold Setting.addArguments
  dsimp only at hnamed ⊢
  have hrest : ∀ start, FreeIn R start → Eval.Safe R (liftM (insertEntries start
      (named.map fun p => (Value.str p.1, p.2))) : Eval (List (Value × Value))) :=
    fun start hstart => .look (safe_insertEntries hstart hnamed)
  split
  · exact .bind (.pure hentries) hrest
  · exact (h.addEntriesOf hentries (freeIn_cons.1 hpositional).1).bind hrest
  · exact .throw_bind _ _ _

/-- A mapping of free keys with one free value. -/
lemma fromKeys (h : s.Alike R t) (ha : FreeIn R a) :
    Eval.Agree R (s.fromKeys a) (t.fromKeys a) := by
  refine .bind (.except (a.freeIn_between ha _ _ _ _)) fun vs hvs => ?_
  have hargument : ∀ i : Nat, FreeIn R ((vs[i]?).getD Value.none) :=
    fun i => freeIn_getD (freeIn_getElem? hvs i) trivial
  refine .bind (.look (Value.safe_source (hargument 0))) fun source hsource => ?_
  refine (Eval.safe_keep (hargument 1)).bind fun v hv => ?_
  refine (h.foldSource (fun entries k hentries hk => ?_) hsource freeIn_nil).bind
    fun _ hentries => .build (Building.safe_dict hentries)
  exact .look (safe_insertEntries hentries (freeIn_cons.2 ⟨⟨hk, hv⟩, freeIn_nil⟩))

/-- A method of a mapping agrees, and leaves free entries behind. -/
lemma callDict (h : s.Alike R t) (owner : String) (hr : FreeIn R r) (name : String)
    (ha : FreeIn R a) : Eval.Agree R (s.callDict owner r name a) (t.callDict owner r name a) := by
  unfold Setting.callDict
  rw [h.repr]
  refine .bind (.look (Look.safe_entries hr)) fun entries hentries => ?_
  dsimp only
  split
  case h_1 | h_2 | h_3 => exact .bind (.except_of_none _) fun _ _ => .pure hr
  case h_4 => exact .bind (.except_of_none _) fun _ _ => .build (Building.safe_dict hentries)
  case h_5 => exact h.fromKeys ha
  case h_6 =>
    exact .bind (.except_of_none _) fun _ _ =>
      .bind (.build (Building.safe_putEntries r freeIn_nil)) fun _ _ => .pure trivial
  case h_7 =>
    exact (h.addArguments "update" hentries ha).bind fun _ hafter =>
      .bind (.build (Building.safe_putEntries r hafter)) fun _ _ => .pure trivial
  case h_8 =>
    refine .bind (.except_of_none _) fun _ _ => ?_
    split
    · next k v hlast =>
      obtain ⟨hk, hv⟩ := hentries (k, v) (List.mem_of_getLast? hlast)
      have hinit : FreeIn R entries.dropLast := freeIn_of_subset (List.dropLast_subset _) hentries
      exact .bind (.build (Building.safe_putEntries r hinit)) fun _ _ =>
        Eval.safe_tuple (freeIn_cons.2 ⟨hk, freeIn_cons.2 ⟨hv, freeIn_nil⟩⟩)
    · exact .throw _
  case h_12 => exact .throw _
  -- the methods that look for a key
  all_goals
    refine .bind (.except (a.freeIn_between ha _ _ _ _)) fun vs hvs => ?_
    have hkey : FreeIn R ((vs[0]?).getD Value.none) := freeIn_getD (freeIn_getElem? hvs 0) trivial
    have hother : FreeIn R vs[1]? := freeIn_getElem? hvs 1
    refine .bind (.look_of_none _) fun _ _ => ?_
    refine .bind (.look (safe_lookup? _ hentries)) fun found hfound => ?_
    split
    · refine .ite (.bind (.look (safe_removeEntry _ hentries)) fun _ hrest => ?_) (.pure hfound)
      exact .bind (.build (Building.safe_putEntries r hrest)) fun _ _ => .pure hfound
    · split
      · exact .bind (.look_of_none _) fun _ _ => .throw _
      · refine (Eval.safe_keep (freeIn_getD (a := Value.none) hother trivial)).bind fun v hv => ?_
        refine .bind (.build (Building.safe_putEntries r ?_)) fun _ _ => .pure hv
        exact freeIn_append.2 ⟨hentries, freeIn_cons.2 ⟨⟨hkey, hv⟩, freeIn_nil⟩⟩
      · exact .pure (freeIn_getD hother trivial)

/-! ## Lists -/

lemma callIndex (h : s.Alike R t) : s.callIndex = t.callIndex := by
  funext type items a
  rw [Setting.callIndex, Setting.callIndex, h.repr]

lemma extend (h : s.Alike R t) (r : Ref) (hv : FreeIn R v) :
    Eval.Agree R (s.extend r v) (t.extend r v) := by
  unfold Setting.extend
  split
  · next other hother =>
    refine .bind (.look (Look.safe_items (freeIn_of_content hother hv))) fun items hitems => ?_
    refine .bind (.forM hitems fun w hw => ?_) fun _ _ => .pure trivial
    exact .build (Building.safe_append r hw)
  · refine .bind (.look (Value.safe_source hv)) fun source hsource => ?_
    refine (h.foldSource (fun _ w _ hw => ?_) hsource trivial).bind fun _ _ => .pure trivial
    exact .build (Building.safe_append r hw)

/-- A method of a list agrees, and leaves free items behind. -/
lemma callList (h : s.Alike R t) {apply apply' : Value → Arguments → Eval Value}
    (happly : ∀ {v a}, FreeIn R v → FreeIn R a → Eval.Agree R (apply v a) (apply' v a))
    (hr : FreeIn R r) (name : String) (ha : FreeIn R a) :
    Eval.Agree R (s.callList apply r name a) (t.callList apply' r name a) := by
  have hput : ∀ after, FreeIn R after →
      Eval.Safe R ((do (Building.putRow r after : Building _); return .none) : Eval Value) :=
    fun after hafter => .bind (.build (Building.safe_putRow r hafter)) fun _ _ => .pure trivial
  unfold Setting.callList
  rw [h.callIndex]
  refine .bind (.look (Look.safe_items hr)) fun items hitems => ?_
  dsimp only
  split
  · exact .bind (.except (a.freeIn_one ha _)) fun _ hv =>
      .bind (.build (Building.safe_append r hv)) fun _ _ => .pure trivial
  · exact .look (safe_callIndex t _ items ha)
  · exact .bind (.except (a.freeIn_one ha _)) fun _ _ => .bind (.look_of_none _) fun _ _ =>
      .pure trivial
  · exact .bind (.except_of_none _) fun _ _ => Eval.safe_list hitems
  · exact .bind (.except_of_none _) fun _ _ => hput _ freeIn_nil
  · exact .bind (.except_of_none _) fun _ _ => hput _ (freeIn_reverse hitems)
  · exact safe_popItem r hitems ha
  · exact sortRow happly hr ha
  · exact .bind (.except (a.freeIn_one ha _)) fun _ hv => h.extend r hv
  · refine .bind (.except (a.freeIn_between ha _ _ _ _)) fun vs hvs => ?_
    refine .bind (.except_of_none _) fun _ _ => .bind (.except_of_none _) fun place _ => hput _ ?_
    refine freeIn_append.2 ⟨freeIn_of_subset (List.take_subset _ _) hitems, freeIn_cons.2 ⟨?_, ?_⟩⟩
    · exact freeIn_getD (freeIn_getElem? hvs 1) trivial
    · exact freeIn_of_subset (List.drop_subset _ _) hitems
  · refine .bind (.except (a.freeIn_one ha _)) fun v _ => .bind (.look_of_none _) fun found _ => ?_
    split
    · exact hput _ (freeIn_of_subset List.eraseIdx_subset hitems)
    · exact .throw _
  · exact .throw _

/-! ## Everything that can be called -/

lemma callTuple (h : s.Alike R t) : s.callTuple = t.callTuple := by
  funext items name a
  simp only [Setting.callTuple, h.callIndex]

lemma safe_typeOrder (hv : FreeIn R v) (a : Arguments) : Eval.Safe R (typeOrder v a) :=
  .bind (.except_of_none _) fun _ _ =>
    Eval.safe_list (freeIn_cons.2 ⟨hv, freeIn_cons.2 ⟨trivial, freeIn_nil⟩⟩)

/-- What a method computes is shown alike, and is free if its receiver is. -/
lemma answerTo (h : s.Alike R t) (hv : FreeIn R v) (name : String) (a : Arguments) :
    Eval.Agree R (do
        let answer ← (s.answerTo v name a : Look _)
        (answer.build v : Building _))
      (do
        let answer ← (t.answerTo v name a : Look _)
        (answer.build v : Building _)) := by
  have hsame : s.answerTo v name a = t.answerTo v name a := by
    simp only [Setting.answerTo, h.repr]
  rw [hsame]
  exact .bind (.look_of_none _) fun answer _ => .build (answer.safe_build hv)

/-- What a method answers that asks the clock is free if its receiver is. -/
lemma safe_callClock (hv : FreeIn R v) (type name : String) (a : Arguments) :
    Eval.Safe R (callClock type v name a) :=
  .bind (.build Building.safe_readClock) fun _ _ => .bind (.except_of_none _) fun answer _ =>
    .build (answer.safe_build hv)

section Applying

variable {apply apply' : Value → Arguments → Eval Value}

/-- **A method** of a free value agrees if functions of free values do. -/
theorem callMethod (h : s.Alike R t)
    (happly : ∀ {v a}, FreeIn R v → FreeIn R a → Eval.Agree R (apply v a) (apply' v a))
    (hv : FreeIn R v) (name : String) (ha : FreeIn R a) :
    Eval.Agree R (s.callMethod apply v name a) (t.callMethod apply' v name a) := by
  unfold Setting.callMethod
  rw [h.callTuple]
  split
  · exact h.callText _ hv _ _ ha
  · exact h.callText _ hv _ _ ha
  · exact .bind (.except (a.freeIn_one ha _)) fun _ hw => h.joinBytes _ hw
  · exact h.intFromBytes false ha
  · exact h.intFromBytes true ha
  · next hr => exact h.callDict _ (freeIn_of_content hr hv) _ ha
  · next hr => exact h.callDict _ (freeIn_of_content hr hv) _ ha
  · exact .bind (.except (a.freeIn_one ha _)) fun _ hw =>
      (h.areDisjoint hv hw).bind fun _ _ => .pure trivial
  · next hr => exact h.callSet hv (freeIn_of_content hr hv) _ ha
  · next hr => exact h.callList happly (freeIn_of_content hr hv) _ ha
  · next hr =>
    exact .bind (.look (Look.safe_items (freeIn_of_content hr hv))) fun items _ =>
      .look (safe_callTuple t items _ ha)
  · next hid => exact h.callFuture (freeIn_of_content hid hv) _ _ a
  · next hr => exact h.callStream (freeIn_of_content hr hv) _ ha
  · next hr => exact safe_callCycler (freeIn_of_content hr hv) _ ha
  · exact h.fromKeys ha
  · exact safe_typeOrder hv a
  · exact .pure trivial
  · exact safe_callClock hv _ _ a
  · exact safe_callClock hv _ _ a
  · exact safe_callClock hv _ _ a
  · exact safe_callClock hv _ _ a
  · exact h.answerTo hv _ a

/-- **A call** of a free value agrees if the functions that it hands on do. -/
theorem callWith (h : s.Alike R t)
    (happly : ∀ {v a}, FreeIn R v → FreeIn R a → Eval.Agree R (apply v a) (apply' v a))
    (hcallee : FreeIn R callee) (ha : FreeIn R a) :
    Eval.Agree R (s.callWith apply callee a) (t.callWith apply' callee a) := by
  unfold Setting.callWith
  split
  · next r name hr =>
    exact .bind (.look (Look.safe_itemAt (freeIn_of_content hr hcallee) 0)) fun _ hv =>
      h.callMethod happly hv name ha
  · exact .except (freeIn_makeRange a)
  · exact (h.addArguments "dict" freeIn_nil ha).bind fun _ hentries =>
      .build (Building.safe_dict hentries)
  · refine (h.addArguments "dict" freeIn_nil ha).bind fun entries hentries => ?_
    refine .bind (.build (Building.safe_addAttributes ?_)) fun _ hr => .pure hr
    exact freeIn_filterMap hentries fun e he => freeIn_optionMap_of _ fun _ => ⟨trivial, he.2⟩
  · exact h.callLipsum ha
  · exact safe_makeCycler ha
  · exact safe_makeJoiner ha
  · next r hr => exact safe_callJoiner (freeIn_of_content hr hcallee) ha
  · exact .throw _
  · exact .throw _

end Applying

/-- **A call** of a free value with free arguments agrees. -/
theorem call (h : s.Alike R t) (hcallee : FreeIn R callee) (ha : FreeIn R a) :
    Eval.Agree R (s.call callee a) (t.call callee a) :=
  h.callWith (h.callWith fun _ _ => .throw _) hcallee ha

end Alike

end Setting

end Interpolation
