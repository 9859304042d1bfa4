import Interpolation.Proofs.Futures.Folding
import Interpolation.Value.Document

/-!
# Names and documents without futures

Before an expression is evaluated its names get their values from the context, and afterwards its
value is written as a text, through the document of the value if it is none.  Both walk through
values that are there, and no lookup of either resolves a future; what they find in a free context is
free.  So a compiled expression is bound, evaluated and written alike in environments that treat
missing values alike.

* `Context.safe_ofDatum` — the context of a free datum is free.
* `Setting.Alike.bind` — names get the same values.
* `Setting.Alike.coerce` — values have the same texts.
-/

namespace Interpolation

variable {R : Scope}

/-! ## Contexts -/

namespace Context

lemma freeIn_putDatum (n : String) {d : Datum} (hd : FreeIn R d) {names : List (String × Datum)}
    (h : FreeIn R names) : FreeIn R (putDatum n d names) := by
  induction names with
  | nil => exact freeIn_cons.2 ⟨⟨trivial, hd⟩, freeIn_nil⟩
  | cons p names ih =>
    obtain ⟨hp, hnames⟩ := freeIn_cons.1 h
    rw [putDatum]
    split
    · exact freeIn_cons.2 ⟨⟨trivial, hd⟩, hnames⟩
    · exact freeIn_cons.2 ⟨hp, ih hnames⟩

lemma freeIn_putAllData {found names : List (String × Datum)} (hfound : FreeIn R found)
    (h : FreeIn R names) :
    FreeIn R (found.foldl (fun names p => putDatum p.1 p.2 names) names) := by
  induction found generalizing names with
  | nil => exact h
  | cons p found ih =>
    obtain ⟨hp, hfound⟩ := freeIn_cons.1 hfound
    exact ih hfound (freeIn_putDatum p.1 hp.2 h)

/-- What the names of free entries stand for is free. -/
lemma freeIn_namesOf? {entries : List (Datum × Datum)} (h : FreeIn R entries) :
    FreeIn R (namesOf? entries) := by
  have hnamed : FreeIn R (entries.mapM fun e => e.1.text?.map fun n => (n, e.2)) :=
    freeIn_mapM_option h fun e he => freeIn_optionMap_of _ fun _ => ⟨trivial, he.2⟩
  exact freeIn_optionBind hnamed fun found hfound => freeIn_putAllData hfound freeIn_nil

/-- The context of a free datum is free. -/
lemma safe_ofDatum {d : Datum} (h : FreeIn R d) : (ofDatum d).Safe R := by
  have hloaded : (loaded d).Safe R := (Datum.safe_load (d := d) h).map fun _ hv => hv
  unfold ofDatum
  split
  · next entries =>
    have hnames := freeIn_namesOf? (Datum.entriesFree_iff.1 h)
    split
    · next names hfound => exact .pure (hfound ▸ hnames : FreeIn R (some names))
    · exact hloaded
  · exact hloaded

lemma freeIn_requireFree {names : List (String × Datum)} (h : FreeIn R names) :
    FreeIn R (requireFree names) := by
  unfold requireFree
  split
  · exact trivial
  · exact h

/-- A name gets a free value. -/
lemma safe_bindName (n : String) {d : Datum} (h : FreeIn R d) : (bindName n d).Safe R := by
  refine .bind .get fun store _ => ?_
  split
  · refine (Datum.safe_load (d := d) h).bind fun v hv => .modify fun s hs => ?_
    exact { hs with bound := freeIn_append.2 ⟨hs.bound, freeIn_cons.2 ⟨⟨trivial, hv⟩, freeIn_nil⟩⟩ }
  · exact .pure trivial

lemma safe_forget : Building.Safe R forget :=
  .modify fun _ hs => { hs with bound := freeIn_nil }

end Context

namespace Setting.Alike

variable {s t : Setting} {v : Value} {c : Context}

lemma found (h : s.Alike R t) (hc : FreeIn R c) : Eval.Agree R (c.found s) (c.found t) := by
  cases c with
  | mapping names => exact .except (Context.freeIn_requireFree hc)
  | value v =>
    refine .bind (.look_of_none _) fun isTrue _ => ?_
    extract_lets go
    have hgo : ∀ entries, FreeIn R entries → Eval.Safe R (go entries) := by
      intro entries hentries
      refine .bind (.except (freeIn_namedEntries hentries)) fun named hnamed => .except ?_
      exact Context.freeIn_requireFree (freeIn_map hnamed fun p hp => ⟨trivial, hp.2⟩)
    exact .ite ((h.entriesOf hc).bind hgo) (.bind (.pure freeIn_nil) hgo)

/-- The names that are wanted get the same values. -/
lemma bind (h : s.Alike R t) (hc : FreeIn R c) (wanted : List String) :
    Eval.Agree R (c.bind s wanted) (c.bind t wanted) := by
  refine (h.found hc).bind fun names hnames => ?_
  extract_lets go
  have hgo : ∀ u, Eval.Safe R (go u) := by
    intro _
    refine .build (.forM (fun n => ?_) wanted)
    have hd := freeIn_lookup hnames n
    split
    · next d h => exact Context.safe_bindName n (h ▸ hd : FreeIn R (some d))
    · exact .pure trivial
  split
  · exact .bind (.build Context.safe_forget) fun _ _ => hgo ()
  · exact hgo ()

/-! ## Documents -/

lemma keyTextTo (h : s.Alike R t) (fuel : Nat) : s.keyTextTo fuel = t.keyTextTo fuel := by
  induction fuel with
  | zero => rfl
  | succ fuel ih =>
    funext v
    rw [Setting.keyTextTo, Setting.keyTextTo, ih, h.repr, h.display]

lemma plainDocument (h : s.Alike R t) : s.plainDocument = t.plainDocument := by
  funext v
  simp only [Setting.plainDocument, Setting.ownText, h.display]

lemma freeIn_zip {names : List String} {items : List Value} (h : FreeIn R items) :
    FreeIn R (names.zip items) := fun _ hp => ⟨trivial, h _ (List.of_mem_zip hp).2⟩

/-- The public attributes of a free value are free. -/
lemma safe_publicAttributes (hv : FreeIn R v) : v.publicAttributes.Safe R := by
  unfold Value.publicAttributes
  split
  · next r hr =>
    exact (Look.safe_attributes (freeIn_of_content hr hv)).bind fun _ hnamed =>
      .pure (freeIn_of_subset List.filter_sublist.subset hnamed)
  · next r hr =>
    exact (Look.safe_items (freeIn_of_content hr hv)).bind fun _ hvs => .pure (freeIn_zip hvs)
  · next r hr =>
    exact (Look.safe_items (freeIn_of_content hr hv)).bind fun _ hvs => .pure (freeIn_zip hvs)
  · exact .pure freeIn_nil

/-- The document of a free value is the same, with room for any number of levels. -/
lemma toDocument (h : s.Alike R t) (room : Nat) (path : List Content) (hv : FreeIn R v) :
    Eval.Agree R (s.toDocument room path v) (t.toDocument room path v) := by
  induction room using Nat.strong_induction_on generalizing path v with | _ room ih =>
  cases room with
  | zero => exact .throw _
  | succ room =>
    unfold Setting.toDocument
    extract_lets around inner last main inner' last' main'
    have hinner : ∀ w, FreeIn R w → Eval.Agree R (inner w) (inner' w) := fun w hw =>
      ih room (Nat.lt_succ_self room) around hw
    have hlast : last = last' := by simp only [last, last', h.plainDocument]
    have hmain : Eval.Agree R (main ()) (main' ()) := by
      dsimp -zeta only [main, main']
      have hrow : ∀ r : Ref, FreeIn R r → Eval.Agree R
          (do return Json.array (← (← (Look.items r : Look _)).mapM inner))
          (do return Json.array (← (← (Look.items r : Look _)).mapM inner')) := by
        intro r hr
        refine .bind (.look (Look.safe_items hr)) fun items hitems => ?_
        exact .bind (.mapM hitems hinner) fun _ _ => .pure trivial
      split
      -- what is known by its attributes
      case h_9 | h_10 | h_11 =>
        cases room with
        | zero => exact .throw _
        | succ room =>
          refine .bind (.look (safe_publicAttributes hv)) fun named hnamed => ?_
          refine .bind (.mapM hnamed fun a ha => ?_) fun _ _ => .pure trivial
          exact (ih room (by omega) around ha.2).bind fun _ _ => .pure ⟨trivial, trivial⟩
      · exact .except_of_none _
      · next r hr _ => exact hrow r (freeIn_of_content hr hv)
      · next r hr _ => exact hrow r (freeIn_of_content hr hv)
      · next r hr _ => exact hrow r (freeIn_of_content hr hv)
      · next r hr _ =>
        refine .bind (.look (Look.safe_entries (freeIn_of_content hr hv))) fun entries hentries => ?_
        refine .bind (.mapM hentries fun e he => ?_) fun _ _ => .pure trivial
        rw [Setting.keyText, Setting.keyText, h.keyTextTo]
        exact .bind (.look_of_none _) fun _ _ => (hinner _ he.2).bind fun _ _ => .pure ⟨trivial, trivial⟩
      · next r hr _ =>
        have hr : FreeIn R r := freeIn_of_content hr hv
        refine .bind (.look (Look.safe_itemAt hr 0)) fun x hx => (hinner x hx).bind fun _ _ => ?_
        refine .bind (.look (Look.safe_itemAt hr 1)) fun y hy => (hinner y hy).bind fun _ _ => ?_
        exact .pure trivial
      · next c r hr _ =>
        have hr : FreeIn R r := freeIn_of_content hr hv
        have hvalue : Eval.Agree R (do return Json.object [("category", .str c.name),
              ("value", ← inner (← (Look.itemAt r 0 : Look _)))])
            (do return Json.object [("category", .str c.name),
              ("value", ← inner' (← (Look.itemAt r 0 : Look _)))]) :=
          .bind (.look (Look.safe_itemAt hr 0)) fun x hx => (hinner x hx).bind fun _ _ => .pure trivial
        exact .ite (.throw_bind _ _ _) hvalue
      · next type r hr _ =>
        have hsource : FreeIn R (Source.stream r) := freeIn_of_content hr hv
        refine .orElse ?_ (fun _ => .throw _) fun _ e he =>
          Eval.overflows_throw he.met_inDocument
        exact (h.mapSource hinner hsource).bind fun _ _ => .pure trivial
      · rw [← hlast]
        exact .ite (.throw_bind _ _ _) (.look_of_none _)
    exact .ite (.throw_bind _ _ _) hmain

/-- **The text** of a free value is the same. -/
theorem coerce (h : s.Alike R t) (hv : FreeIn R v) : Eval.Agree R (s.coerce v) (t.coerce v) := by
  unfold Setting.coerce
  split
  · exact .pure trivial
  · exact .pure trivial
  · exact (h.toDocument documentDepth [] hv).bind fun _ _ => .pure trivial

end Setting.Alike

end Interpolation
