import Interpolation.Eval.Call
import Interpolation.Proofs.Futures.Texts

/-!
# Methods of collections on free values

What a method answers that computes is made of its receiver and of new values.  The methods of sets
look their items up among each other and walk through what they are given; so they agree as walks do,
and leave behind what came from the set or from an argument.

* `Answer.safe_build` — answers of methods that compute.
* `Setting.Alike.callSet` — methods of sets.
* `Setting.Alike.sortRow` — the items of a list in order.
* `Setting.Alike.callStream` — methods of streams.
-/

namespace Interpolation

variable {R : Scope}

/-! ## Answers -/

instance : HoldsNone Answer := .always Answer

namespace Answer

mutual

/-- What a method with a free receiver answers is free. -/
lemma safe_build {receiver : Value} (h : FreeIn R receiver) :
    ∀ a : Answer, (a.build receiver).Safe R
  | itself => .pure h
  | atom a => .pure (by cases a <;> exact trivial)
  | list items => (safe_buildAll h items).bind fun _ hvs => Building.safe_list hvs
  | tuple items => (safe_buildAll h items).bind fun _ hvs => Building.safe_tuple hvs
  | record _ items => (safe_buildAll h items).bind fun _ hvs =>
      (Building.safe_addRow hvs).map fun _ hr => hr

lemma safe_buildAll {receiver : Value} (h : FreeIn R receiver) :
    ∀ items : List Answer, (buildAll receiver items).Safe R
  | [] => .pure freeIn_nil
  | a :: rest => (safe_build h a).bind fun _ hv => (safe_buildAll h rest).map fun _ hvs =>
      freeIn_cons.2 ⟨hv, hvs⟩

end

end Answer

/-! ## Sorting -/

section Sorting

variable {α : Type} [HoldsValues α] (less : α → α → Look Bool)

lemma safe_insertAll {sorted : Array α} {xs : List α} (hsorted : FreeIn R sorted)
    (hxs : FreeIn R xs) : (insertAll less sorted xs).Safe R := by
  induction xs generalizing sorted with
  | nil => exact .pure hsorted
  | cons x xs ih =>
    obtain ⟨hx, hxs⟩ := freeIn_cons.1 hxs
    refine .bind (.of_none _) fun place _ => ih ?_ hxs
    have hsorted : FreeIn R sorted.toList := hsorted
    refine freeIn_append.2 ⟨freeIn_of_subset (List.take_subset _ _) hsorted, freeIn_cons.2 ⟨hx, ?_⟩⟩
    exact freeIn_of_subset (List.drop_subset _ _) hsorted

lemma safe_sortBy {xs : List α} (hxs : FreeIn R xs) : (sortBy less xs).Safe R := by
  unfold sortBy
  split
  · refine .bind (.of_none _) fun descending _ => .bind (.of_none _) fun n _ => ?_
    refine .bind (safe_insertAll less ?_ ?_) fun sorted hsorted => .pure hsorted
    · have hstart := freeIn_of_subset (List.take_subset (2 + n) _) hxs
      split
      · exact freeIn_reverse hstart
      · exact hstart
    · exact freeIn_of_subset (List.drop_subset _ _) hxs
  · exact .pure hxs

end Sorting

/-! ## Members -/

variable {r : Ref} {v : Value} {members others : List Value}

instance : HoldsNone Value.Collection := .always Value.Collection

lemma safe_addMember (hmembers : FreeIn R members) (hv : FreeIn R v) :
    (addMember members v).Safe R := by
  refine .bind (.of_none _) fun _ _ => .bind (.of_none _) fun isMember _ => ?_
  cases isMember
  · exact .pure (freeIn_append.2 ⟨hmembers, freeIn_cons.2 ⟨hv, freeIn_nil⟩⟩)
  · exact .pure hmembers

lemma safe_membersAmong (areAmong : Bool) (hmembers : FreeIn R members) (others : List Value) :
    (membersAmong areAmong members others).Safe R := .filterM hmembers

lemma safe_insertInto (hr : FreeIn R r) (hv : FreeIn R v) : Eval.Safe R (insertInto r v) :=
  .bind (.look (Look.safe_items hr)) fun _ hmembers =>
    .bind (.look (safe_addMember hmembers hv)) fun _ hmore =>
      .build (Building.safe_putRow r hmore)

lemma safe_takeFrom (hr : FreeIn R r) (v : Value) : Eval.Safe R (takeFrom r v) := by
  refine .bind (.look (Look.safe_items hr)) fun members hmembers => ?_
  refine .bind (.look_of_none _) fun place _ => ?_
  cases place with
  | none => exact .pure trivial
  | some i =>
    have hrest : FreeIn R (members.eraseIdx i) := freeIn_of_subset List.eraseIdx_subset hmembers
    exact .bind (.build (Building.safe_putRow r hrest)) fun _ _ => .pure trivial

namespace Setting.Alike

variable {s t : Setting} {a : Arguments}

lemma membersOf (h : s.Alike R t) (hv : FreeIn R v) :
    Eval.Agree R (s.membersOf v) (t.membersOf v) := by
  unfold Setting.membersOf
  split
  · next r hr => exact .bind (.look (Look.safe_items (freeIn_of_content hr hv))) fun _ => .pure
  · refine .bind (.look (Value.safe_source hv)) fun source hsource => ?_
    exact h.foldSource (fun _ _ hmembers hw => .look (safe_addMember hmembers hw)) hsource freeIn_nil

lemma commonMembers (h : s.Alike R t) (hmembers : FreeIn R members) (hv : FreeIn R v) :
    Eval.Agree R (s.commonMembers members v) (t.commonMembers members v) := by
  unfold Setting.commonMembers
  split
  · next r hr =>
    refine .bind (.look (Look.safe_items (freeIn_of_content hr hv))) fun others hothers => ?_
    exact .ite (.look (safe_membersAmong true hmembers others))
      (.look (safe_membersAmong true hothers members))
  · refine .bind (.look (Value.safe_source hv)) fun source hsource => ?_
    refine h.foldSource (fun found w hfound hw => ?_) hsource freeIn_nil
    refine .bind (.look_of_none _) fun _ _ => .bind (.look_of_none _) fun isMember _ => ?_
    exact .ite (.look (safe_addMember hfound hw)) (.pure hfound)

lemma withoutMembers (h : s.Alike R t) (hmembers : FreeIn R members) (hv : FreeIn R v) :
    Eval.Agree R (s.withoutMembers members v) (t.withoutMembers members v) :=
  (h.membersOf hv).bind fun others _ => .look (safe_membersAmong false hmembers others)

lemma allItems (h : s.Alike R t) {p q : Value → Eval Bool}
    (hpq : ∀ w, FreeIn R w → Eval.Agree R (p w) (q w)) (hv : FreeIn R v) :
    Eval.Agree R (s.allItems p v) (t.allItems q v) := by
  refine .bind (.look (Value.safe_source hv)) fun source hsource => ?_
  refine h.foldFrom (fun _ w _ hw => ?_) walkLimit hsource trivial
  exact (hpq w hw).bind fun _ _ => .pure ⟨trivial, trivial⟩

/-- Whether two free collections have no item in common. -/
lemma areDisjoint (h : s.Alike R t) {itself : Value} (hitself : FreeIn R itself)
    (hv : FreeIn R v) : Eval.Agree R (s.areDisjoint itself v) (t.areDisjoint itself v) := by
  have hlacks : ∀ {u w : Value}, FreeIn R u → FreeIn R w → Eval.Agree R
      (s.allItems (fun x => do return !(← s.contains u x)) w)
      (t.allItems (fun x => do return !(← t.contains u x)) w) :=
    fun hu hw => h.allItems (fun x _ => (h.contains hu x).bind fun _ _ => .pure trivial) hw
  refine .bind (.look_of_none _) fun c _ => .bind (.look_of_none _) fun d _ => ?_
  split
  · exact .ite (hlacks hv hitself) (hlacks hitself hv)
  · exact hlacks hitself hv

/-- **A method of a set** agrees, and leaves free members behind. -/
theorem callSet (h : s.Alike R t) {itself : Value} (hitself : FreeIn R itself) (hr : FreeIn R r)
    (name : String) (ha : FreeIn R a) :
    Eval.Agree R (s.callSet itself r name a) (t.callSet itself r name a) := by
  have hput : ∀ after, FreeIn R after →
      Eval.Safe R ((do (Building.putRow r after : Building _); return .none) : Eval Value) :=
    fun after hafter => .bind (.build (Building.safe_putRow r hafter)) fun _ _ => .pure trivial
  have hmake : ∀ members, FreeIn R members →
      Eval.Safe R (liftM (Building.set members) : Eval Value) :=
    fun members hmembers => .build (Building.safe_set hmembers)
  have hone : ∀ callee, FreeIn R (a.one callee) := a.freeIn_one ha
  unfold Setting.callSet
  rw [h.repr]
  refine .bind (.look (Look.safe_items hr)) fun members hmembers => ?_
  dsimp only
  split
  · exact .bind (.except (hone _)) fun _ hv => (safe_insertInto hr hv).bind fun _ _ => .pure trivial
  · exact .bind (.except_of_none _) fun _ _ => hput _ freeIn_nil
  · exact .bind (.except_of_none _) fun _ _ => hmake _ hmembers
  · exact .bind (.except (hone _)) fun v _ => .bind (.look_of_none _) fun _ _ =>
      (safe_takeFrom hr v).bind fun _ _ => .pure trivial
  · refine .bind (.except (hone _)) fun v _ => .bind (.look_of_none _) fun _ _ => ?_
    refine (safe_takeFrom hr v).bind fun isTaken _ => .ite (.pure trivial) ?_
    exact .bind (.look_of_none _) fun _ _ => .throw _
  · refine .bind (.except_of_none _) fun _ _ => ?_
    split
    · exact .throw _
    · obtain ⟨hv, hrest⟩ := freeIn_cons.1 hmembers
      exact .bind (.build (Building.safe_putRow r hrest)) fun _ _ => .pure hv
  · refine .bind (.except_of_none _) fun _ _ => ?_
    refine (Eval.Agree.foldlM ha.1 hmembers fun members v hmembers hv => ?_).bind hmake
    refine .bind (.look (Value.safe_source hv)) fun source hsource => ?_
    exact h.foldSource (fun _ _ hmembers hw => .look (safe_addMember hmembers hw)) hsource hmembers
  · refine .bind (.except_of_none _) fun _ _ => ?_
    refine (Eval.Agree.forM ha.1 fun v hv => ?_).bind fun _ _ => .pure trivial
    refine .bind (.look (Value.safe_source hv)) fun source hsource => ?_
    exact h.foldSource (fun _ _ _ hw => safe_insertInto hr hw) hsource trivial
  · exact .bind (.except_of_none _) fun _ _ =>
      (Eval.Agree.foldlM ha.1 hmembers fun _ _ => h.commonMembers).bind hmake
  · exact .bind (.except_of_none _) fun _ _ =>
      (Eval.Agree.foldlM ha.1 hmembers fun _ _ => h.commonMembers).bind hput
  · exact .bind (.except_of_none _) fun _ _ =>
      (Eval.Agree.foldlM ha.1 hmembers fun _ _ => h.withoutMembers).bind hmake
  · refine .bind (.except_of_none _) fun _ _ => ?_
    refine (Eval.Agree.forM ha.1 fun v hv => ?_).bind fun _ _ => .pure trivial
    refine .bind (.look (Value.safe_source hv)) fun source hsource => ?_
    refine h.foldSource (fun _ w _ _ => ?_) hsource trivial
    exact .bind (.look_of_none _) fun _ _ => (safe_takeFrom hr w).bind fun _ _ => .pure trivial
  · refine .bind (.except (hone _)) fun v hv => (h.membersOf hv).bind fun others hothers => ?_
    refine .bind (.look (safe_membersAmong false hothers members)) fun _ hfirst => ?_
    refine .bind (.look (safe_membersAmong false hmembers others)) fun _ hrest => ?_
    exact hmake _ (freeIn_append.2 ⟨hfirst, hrest⟩)
  · refine .bind (.except (hone _)) fun v hv => (h.membersOf hv).bind fun others hothers => ?_
    refine .bind (.look (safe_membersAmong false hmembers others)) fun _ hfirst => ?_
    refine .bind (.look (safe_membersAmong false hothers members)) fun _ hrest => ?_
    exact hput _ (freeIn_append.2 ⟨hfirst, hrest⟩)
  · exact .bind (.except (hone _)) fun _ hv =>
      (h.areDisjoint hitself hv).bind fun _ _ => .pure trivial
  · exact .bind (.except (hone _)) fun _ hv => (h.membersOf hv).bind fun others _ =>
      .bind (.look (safe_membersAmong false hmembers others)) fun _ _ => .pure trivial
  · exact .bind (.except (hone _)) fun _ hv =>
      (h.allItems (fun w _ => h.contains hitself w) hv).bind fun _ _ => .pure trivial
  · exact .throw _

/-! ## Lists -/

/-- Something that is done while a list is empty; the items that a fault leaves behind are free. -/
lemma restoring {α : Type} [HoldsValues α] {items : List Value} (hitems : FreeIn R items)
    {x y : Eval α} (hxy : Eval.Agree R x y) :
    Eval.Agree R (Setting.restoring r items x) (Setting.restoring r items y) := by
  have hput : Building.Safe R (Building.putRow r items) := Building.safe_putRow r hitems
  refine hxy.orElse (fun _ => .bind (.build hput) fun _ _ => .throw _) fun _ e he after => ?_
  exact (Eval.Ends.build (Building.putRow r items) after).overflows_bind
    (Eval.overflows_throw he _)

/-- **The items of a list in order**, by a function that agrees on free items. -/
theorem sortRow {apply apply' : Value → Arguments → Eval Value}
    (happly : ∀ {v a}, FreeIn R v → FreeIn R a → Eval.Agree R (apply v a) (apply' v a))
    (hr : FreeIn R r) (ha : FreeIn R a) :
    Eval.Agree R (Setting.sortRow apply r a) (Setting.sortRow apply' r a) := by
  unfold Setting.sortRow
  refine .ite (.throw_bind _ _ _) (.bind (.except (Parameters.freeIn_bind _ ha)) fun vs hvs => ?_)
  have hkey : FreeIn R (argumentAt vs 0 .none) := freeIn_argumentAt hvs 0 trivial
  refine .bind (.except_of_none _) fun backwards _ => ?_
  refine .bind (.look (Look.safe_items hr)) fun items hitems => ?_
  refine .bind (.build (Building.safe_putRow r freeIn_nil)) fun _ _ => ?_
  refine (restoring (α := List (Value × Value)) hitems (.mapM hitems fun v hv => ?_)).bind
    fun keyed hkeyed => ?_
  · have hargument : FreeIn R (⟨[v], []⟩ : Arguments) :=
      ⟨freeIn_cons.2 ⟨hv, freeIn_nil⟩, freeIn_nil⟩
    refine .ite (.bind (.pure hv) fun k hk => .pure ⟨hk, hv⟩) ?_
    exact (happly hkey hargument).bind fun k hk => .pure ⟨hk, hv⟩
  · have hordered : FreeIn R (if backwards ≠ 0 then keyed.reverse else keyed) := by
      split
      · exact freeIn_reverse hkeyed
      · exact hkeyed
    refine (restoring hitems (.look (safe_sortBy _ hordered))).bind fun sorted hsorted => ?_
    refine .bind (.look (Look.safe_items hr)) fun present _ => ?_
    have hafter : FreeIn R ((if backwards ≠ 0 then sorted.reverse else sorted).map Prod.snd) := by
      refine freeIn_map (α := Value × Value) ?_ fun p hp => hp.2
      split
      · exact freeIn_reverse hsorted
      · exact hsorted
    exact .bind (.build (Building.safe_putRow r hafter)) fun _ _ =>
      .ite (.throw_bind _ _ _) (.pure trivial)

/-! ## Bytes and streams -/

/-- The bytes that are put together are computed; a single part is handed on. -/
lemma joinBytes (h : s.Alike R t) (bs : List Char) (hv : FreeIn R v) :
    Eval.Agree R (s.joinBytes bs v) (t.joinBytes bs v) := by
  refine .bind .getStore fun store hstore => ?_
  have hsource := (Value.safe_source hv).result store hstore
  split
  · exact .throw _
  · exact .throw _
  · next source hrun =>
    have hsource : FreeIn R source := (hrun ▸ hsource : FreeIn R (Except.ok source))
    refine (h.drain hsource).bind fun items hitems => ?_
    refine .bind (α := List (List Char)) (.mapM (freeIn_zipIdx hitems) fun p _ => ?_)
      fun parts _ => ?_
    · obtain ⟨item, i⟩ := p
      dsimp only
      split
      · exact .pure (freeIn_of_none R _)
      · exact .throw _
    · split
      · exact .pure (freeIn_cons.1 hitems).1
      · exact .pure trivial

lemma bytesFrom (h : s.Alike R t) (hv : FreeIn R v) :
    Eval.Agree R (s.bytesFrom v) (t.bytesFrom v) := by
  refine .bind .getStore fun store hstore => ?_
  have hsource := (Value.safe_source hv).result store hstore
  split
  · exact .pure (freeIn_of_none R _)
  · exact .throw _
  · exact .throw _
  · exact .throw _
  · next source _ hrun _ =>
    refine (h.drain (hrun ▸ hsource : FreeIn R (Except.ok source))).bind fun items hitems => ?_
    exact .mapM hitems fun _ _ => .except_of_none _

lemma intFromBytes (h : s.Alike R t) (isTruth : Bool) (ha : FreeIn R a) :
    Eval.Agree R (s.intFromBytes isTruth a) (t.intFromBytes isTruth a) := by
  refine .bind (.except (Parameters.freeIn_bind _ ha)) fun vs hvs => ?_
  have hfirst : FreeIn R (argumentAt vs 0 .none) := freeIn_argumentAt hvs 0 trivial
  refine .bind (.except_of_none _) fun little _ => .bind (.look_of_none _) fun signed _ => ?_
  refine (h.bytesFrom hfirst).bind fun bs _ => .pure ?_
  cases isTruth <;> exact trivial

lemma endStream (hr : FreeIn R r) : Eval.Safe R (endStream r) := by
  refine .bind (.look (Look.safe_course hr)) fun course _ => ?_
  split
  · exact .throw _
  · exact .build (Building.safe_put r (c := .stream .ended) trivial)

/-- **A method of a stream** agrees. -/
theorem callStream (h : s.Alike R t) (hr : FreeIn R r) (name : String) (ha : FreeIn R a) :
    Eval.Agree R (callStream s r name a) (callStream t r name a) := by
  unfold Interpolation.callStream
  split
  · exact .bind (.except_of_none _) fun _ _ => (endStream hr).bind fun _ _ => .pure trivial
  · refine .bind (.except (a.freeIn_one ha _)) fun v hv => ?_
    refine .bind (.look (Look.safe_course hr)) fun course _ => ?_
    split
    · exact .throw _
    · refine (h.next hr).bind fun found hfound => ?_
      cases found with
      | some w => exact .pure hfound
      | none => exact .throw _
  · refine .bind (.except (a.freeIn_between ha _ _ _ _)) fun vs _ => ?_
    dsimp only
    split
    · refine .bind (.look (Look.safe_course hr)) fun course _ => ?_
      split
      · exact .throw _
      · exact (endStream hr).bind fun _ _ => .throw _
    · exact .throw _
  · exact .throw _

end Setting.Alike

end Interpolation
