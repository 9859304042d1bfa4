import Interpolation.Proofs.Futures.Members

/-!
# Lookups in free values

The attributes and items of a free value are free: a part of a value stands in its cell, a method
keeps the value itself, and all else is computed.  Only here do futures make a difference, because a
lookup resolves what it looks into and what it finds; with free values both are left as they are, so
lookups in settings that are alike find the same.

* `Value.safe_native?`, `Value.safe_item?` — what a free value has under a name or a key is free.
* `Value.safe_itemUnder` — so is what it must have.
* `Setting.Alike.attributeOf`, `Setting.Alike.itemOf` — the two lookups agree on free values.
-/

namespace Interpolation

variable {R : Scope}

namespace Value

variable {v : Value}

/-! ## Attributes -/

/-- A method of a free value is free. -/
lemma safe_someMethod (hv : FreeIn R v) (name : String) :
    Eval.Safe R (do return some (← (Building.method v name : Building Value))) :=
  .bind (.build (Building.safe_method hv name)) fun _ hw => .pure hw

lemma safe_fieldOf? {r : Ref} (hr : FreeIn R r) (fields : List String) (name : String) :
    (fieldOf? r fields name).Safe R := by
  rw [fieldOf?]
  split
  · exact (Look.safe_itemAt hr _).bind fun _ hw => .pure hw
  · exact .pure trivial

lemma safe_missingPart? (hv : FreeIn R v) (tolerance : Tolerance) (m : Missing) (name : String) :
    Eval.Safe R (missingPart? tolerance m v name) := by
  unfold missingPart?
  split
  · split
    · exact safe_someMethod hv name
    · split
      · exact .pure trivial
      · exact .pure hv
  · split
    · exact .pure trivial
    · exact .throw _

lemma safe_storedPart? (hv : FreeIn R v) (name : String) :
    Eval.Safe R (v.storedPart? name) := by
  unfold storedPart?
  split
  · next r fields h => exact .look (safe_fieldOf? (refersTo_of_fields? h R hv) fields name)
  · next r _ h =>
    exact .bind (.look (Look.safe_attributes (freeIn_of_content h hv))) fun _ hnamed =>
      .pure (freeIn_lookup hnamed name)
  · next r _ h =>
    exact .bind (.look (Look.safe_attributes (freeIn_of_content h hv))) fun _ hnamed =>
      .pure (freeIn_lookup hnamed name)
  · split
    · exact .bind (.build (Building.safe_tuple (freeIn_cons.2 ⟨trivial, freeIn_nil⟩))) fun _ hw =>
        .pure hw
    · exact .pure trivial
  · next r _ h =>
    refine .bind (.look (Look.safe_course (freeIn_of_content h hv))) fun course _ => .pure ?_
    cases hw : (courseParts course).lookup name with
    | none => exact trivial
    | some w => exact ((partsOf_course course).lookup hw).free R hv
  · exact .pure trivial

/-- What a free value has under a name is free. -/
lemma safe_native? (hv : FreeIn R v) (name : String) : Eval.Safe R (v.native? name) := by
  unfold native?
  split
  · exact .pure (v.isAtom_typeOf.free R)
  · split
    · exact safe_missingPart? hv _ _ name
    · split
      · next w hw => exact .pure ((v.partOf_ownParts.lookup hw).free R hv)
      · split
        · exact safe_someMethod (v.partOf_receiver.free R hv) name
        · exact safe_storedPart? hv name

lemma safe_attributeNamed (hv : FreeIn R v) (name : String) :
    Eval.Safe R (v.attributeNamed name) := by
  refine (safe_native? hv name).bind fun found hfound => ?_
  cases found with
  | some w => exact .pure hfound
  | none => exact .throw _

/-! ## Items -/

lemma freeIn_sliceItems {α : Type} [HoldsValues α] {items : List α} (h : FreeIn R items)
    (start stop : Option Int) (step : Int) : FreeIn R (sliceItems items start stop step) := by
  intro a ha
  obtain ⟨i, -, hi⟩ := List.mem_filterMap.1 ha
  rw [List.getElem?_toArray] at hi
  exact h a (List.mem_of_getElem? hi)

/-- A part of a free sequence is free. -/
lemma safe_of_cut? {c : Cut} {x : Eval Value} (hv : FreeIn R v) (hx : v.cut? c = some x) :
    Eval.Safe R x := by
  unfold cut? at hx
  dsimp only at hx
  split at hx
  · cases hx
    exact .pure (by split; exacts [hv, trivial])
  · cases hx
    exact .pure trivial
  · cases hx
    exact .pure trivial
  · cases hx
    exact .pure (by split; exacts [hv, trivial])
  · next r h =>
    cases hx
    exact .bind (.look (Look.safe_items (freeIn_of_content h hv))) fun _ hvs =>
      Eval.safe_list (freeIn_sliceItems hvs _ _ _)
  · next r h =>
    cases hx
    refine .bind (.look (Look.safe_items (freeIn_of_content h hv))) fun vs hvs => ?_
    split
    · exact .pure hv
    · exact Eval.safe_tuple (freeIn_sliceItems hvs _ _ _)
  · cases hx
    exact .pure trivial
  · cases hx

instance : HoldsNone Cut := .always Cut

lemma safe_genericOf {arguments : List Value} (h : FreeIn R arguments) :
    Eval.Safe R (genericOf arguments) :=
  .build ((Building.safe_addRow h).map fun _ hr => hr)

lemma safe_sliced (hv : FreeIn R v) {start stop step : Value} (hstart : FreeIn R start)
    (hstop : FreeIn R stop) (hstep : FreeIn R step) : Eval.Safe R (v.sliced start stop step) := by
  unfold sliced
  split
  · exact .throw _
  · exact .throw _
  · exact .bind (.build (Building.safe_slice hstart hstop hstep)) fun _ hw =>
      safe_genericOf (freeIn_cons.2 ⟨hw, freeIn_nil⟩)
  · exact .pure hv
  · exact .throw _
  · split
    · exact .throw _
    · refine .bind (.except_of_none _) fun c _ => ?_
      split
      · next part h => exact safe_of_cut? hv h
      · exact .throw _

lemma freeIn_placedItem? {α : Type} {items : Array α} {pack : α → Value} {key : Value}
    (h : ∀ a ∈ items, FreeIn R (pack a)) : FreeIn R (placedItem? items pack key) := by
  unfold placedItem?
  split
  · next n _ =>
    cases hi : place? items.size n with
    | none => exact trivial
    | some i =>
      rw [Option.bind_some]
      cases hget : items[i]? with
      | none => exact trivial
      | some a => exact h a (Array.mem_of_getElem? hget)
  · exact trivial

lemma freeIn_intAmong (key : Value) (place : Int → Option Int) (item : Int → Int) :
    FreeIn R (key.int?.bind fun n => (place n).map fun i => Value.int (item i)) := by
  cases key.int? with
  | none => exact trivial
  | some n =>
    rw [Option.bind_some]
    cases place n <;> exact trivial

/-- What a free value has under a key is free. -/
lemma safe_item? (hv : FreeIn R v) {key : Value} (hkey : FreeIn R key) :
    Eval.Safe R (v.item? key) := by
  unfold item?
  split
  · next r h =>
    refine .bind .getStore fun store _ => ?_
    split
    · exact .bind (.look (Look.safe_entries (freeIn_of_content h hv))) fun _ hentries =>
        .look (safe_lookup? key hentries)
    · exact .pure trivial
    · exact .pure trivial
    · exact .throw _
  · next r h =>
    refine .bind .getStore fun store _ => ?_
    split
    · exact .bind (.look (Look.safe_entries (freeIn_of_content h hv))) fun _ hentries =>
        .look (safe_lookup? key hentries)
    · exact .pure trivial
    · exact .pure trivial
    · exact .throw _
  · exact .pure hv
  · exact .throw _
  · next r _ h =>
    exact .bind (.look (Look.safe_items (freeIn_of_content h hkey))) fun _ hvs =>
      (safe_genericOf hvs).bind fun _ hw => .pure hw
  · exact (safe_genericOf (freeIn_cons.2 ⟨hkey, freeIn_nil⟩)).bind fun _ hw => .pure hw
  · next r h _ _ _ _ _ =>
    have hr : FreeIn R r := freeIn_of_content h hkey
    refine .bind (.look (Look.safe_itemAt hr 0)) fun _ _ =>
      .bind (.look (Look.safe_itemAt hr 1)) fun _ _ =>
        .bind (.look (Look.safe_itemAt hr 2)) fun _ _ => ?_
    split
    · split
      · next part hpart => exact (safe_of_cut? hv hpart).bind fun _ hw => .pure hw
      · exact .pure trivial
    · split
      · exact .throw _
      · exact .pure trivial
    · exact .pure trivial
  · exact .pure (freeIn_placedItem? fun _ _ => trivial)
  · exact .pure (freeIn_placedItem? fun _ _ => trivial)
  · exact .pure (freeIn_placedItem? fun _ _ => trivial)
  · exact .pure (freeIn_placedItem? fun _ _ => trivial)
  · next r h _ =>
    exact .bind (.look (Look.safe_row (freeIn_of_content h hv))) fun items hitems =>
      .pure (freeIn_placedItem? fun w hw => hitems w (Array.mem_toList_iff.2 hw))
  · next r h _ =>
    exact .bind (.look (Look.safe_row (freeIn_of_content h hv))) fun items hitems =>
      .pure (freeIn_placedItem? fun w hw => hitems w (Array.mem_toList_iff.2 hw))
  · exact .pure (freeIn_intAmong key _ _)
  · exact .pure trivial

/-- So is what it must have under a key. -/
lemma safe_itemUnder (hv : FreeIn R v) {key : Value} (hkey : FreeIn R key) :
    Eval.Safe R (v.itemUnder key) := by
  unfold itemUnder
  split
  case h_1 r h | h_2 r h =>
    refine .bind (.look_of_none _) fun _ _ => ?_
    refine .bind (.look (Look.safe_entries (freeIn_of_content h hv))) fun _ hentries => ?_
    refine .bind (.look (safe_lookup? key hentries)) fun found hfound => ?_
    cases found with
    | some w => exact .pure hfound
    | none => exact .bind (.look_of_none _) fun _ _ => .throw _
  case h_3 => exact .pure hv
  case h_4 => exact .throw _
  case h_5 =>
    refine (safe_item? hv hkey).bind fun found hfound => ?_
    cases found with
    | some w => exact .pure hfound
    | none => exact .throw _
  case h_13 => exact .throw _
  -- what has places is asked for its item
  all_goals
    split
    · refine (safe_item? hv hkey).bind fun found hfound => ?_
      cases found with
      | some w => exact .pure hfound
      | none => exact .throw _
    · exact .throw _

end Value

/-! ## The two lookups -/

namespace Setting.Alike

variable {s t : Setting} {v key : Value}

lemma freeIn_missing (s : Setting) (m : Missing) : FreeIn R (s.missing m) := trivial

lemma plainAttribute (h : s.Alike R t) (hv : FreeIn R v) (name : String) :
    Eval.Agree R (s.plainAttribute v name) (t.plainAttribute v name) := by
  refine (Value.safe_native? hv name).bind fun found hfound => ?_
  cases found with
  | some w => exact .pure hfound
  | none =>
    have hkey : FreeIn R (Value.constant (.str name)) := trivial
    refine (Value.safe_item? hv hkey).bind fun found hfound => ?_
    cases found with
    | some w => exact .pure hfound
    | none =>
      rw [Setting.missingAttribute, Setting.missingAttribute, h.missing]
      exact .pure trivial

lemma missingItem (h : s.Alike R t) (v key : Value) :
    Eval.Agree R (s.missingItem v key) (t.missingItem v key) := by
  simp only [Setting.missingItem, Setting.missingAttribute, h.missing, h.repr]
  split
  · exact .pure trivial
  · exact .bind (.look_of_none _) fun _ _ => .pure trivial

lemma plainItem (h : s.Alike R t) (hv : FreeIn R v) (hkey : FreeIn R key) :
    Eval.Agree R (s.plainItem v key) (t.plainItem v key) := by
  refine (Value.safe_item? hv hkey).bind fun found hfound => ?_
  cases found with
  | some w => exact .pure hfound
  | none =>
    dsimp only
    split
    · next name _ =>
      refine (Value.safe_native? hv name).bind fun found hfound => ?_
      cases found with
      | some w => exact .pure hfound
      | none => exact h.missingItem v key
    · exact h.missingItem v key

/-- **Attributes** of a free value are found alike. -/
theorem attributeOf (h : s.Alike R t) (hv : FreeIn R v) (name : String) :
    Eval.Agree R (s.attributeOf v name) (t.attributeOf v name) :=
  (h.settled _ hv).bind fun _ hw => (h.plainAttribute hw name).bind fun _ hfound =>
    h.settled _ hfound

/-- **Items** of a free value are found alike. -/
theorem itemOf (h : s.Alike R t) (hv : FreeIn R v) (hkey : FreeIn R key) :
    Eval.Agree R (s.itemOf v key) (t.itemOf v key) :=
  (h.settled key hv).bind fun _ hw => (h.plainItem hw hkey).bind fun _ hfound =>
    h.settled key hfound

end Setting.Alike

end Interpolation
