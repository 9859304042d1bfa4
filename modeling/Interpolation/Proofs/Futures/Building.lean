import Interpolation.Eval.Call
import Interpolation.Proofs.Futures.Agreement

/-!
# Free values are built from free parts

New cells are put behind the others, at a place that belongs to the region, so whatever is built from
free parts is free, and a cell that gets other free parts stays so.  This holds of everything that is
made of a datum, too: of contexts, which are loaded, and of the constants of an expression, which are
made once and remembered.

* `Building.safe_list`, `safe_tuple`, `safe_dict` and the like — collections of free values are free.
* `safe_insertEntries` — so are mappings with more entries.
* `Datum.safe_load`, `Datum.safe_literal` — a free datum becomes a free value.
-/

namespace Interpolation

variable {R : Scope}

/-! ## Mappings -/

lemma safe_findEntry? (eq : Value → Value → Look Bool) (key : Value)
    {entries : List (Value × Value)} (h : FreeIn R entries) :
    (Value.findEntry? eq key entries).Safe R := by
  induction entries with
  | nil => exact .pure trivial
  | cons e entries ih =>
    obtain ⟨⟨-, hv⟩, hentries⟩ := freeIn_cons.1 h
    refine .bind (.of_none _) fun b _ => ?_
    cases b
    · exact ih hentries
    · exact .pure hv

lemma safe_lookup? (key : Value) {entries : List (Value × Value)} (h : FreeIn R entries) :
    (lookup? key entries).Safe R := safe_findEntry? Value.equal key h

lemma safe_insertEntry {key v : Value} (hkey : FreeIn R key) (hv : FreeIn R v)
    {entries : List (Value × Value)} (h : FreeIn R entries) :
    (insertEntry key v entries).Safe R := by
  induction entries with
  | nil => exact .pure (freeIn_cons.2 ⟨⟨hkey, hv⟩, freeIn_nil⟩)
  | cons e entries ih =>
    obtain ⟨he, hentries⟩ := freeIn_cons.1 h
    refine .bind (.of_none _) fun b _ => ?_
    cases b
    · exact (ih hentries).bind fun more hmore => .pure (freeIn_cons.2 ⟨he, hmore⟩)
    · exact .pure (freeIn_cons.2 ⟨⟨he.1, hv⟩, hentries⟩)

/-- A mapping of free entries with more free entries. -/
lemma safe_insertEntries {entries more : List (Value × Value)} (h : FreeIn R entries)
    (hmore : FreeIn R more) : (insertEntries entries more).Safe R := by
  induction more generalizing entries with
  | nil => exact .pure h
  | cons e more ih =>
    obtain ⟨⟨hk, hv⟩, hmore⟩ := freeIn_cons.1 hmore
    refine .bind (.of_none _) fun _ _ => ?_
    exact (safe_insertEntry hk hv h).bind fun entries hentries => ih hentries hmore

lemma safe_removeEntry (key : Value) {entries : List (Value × Value)} (h : FreeIn R entries) :
    (removeEntry key entries).Safe R := .filterM h

namespace Building

/-! ## Cells -/

lemma safe_keep {v : Value} (hv : FreeIn R v) : (keep v).Safe R := by
  rw [keep]
  split
  · split
    · exact .pure hv
    · exact ⟨fun _ _ => hv, fun _ hs => ⟨hs.beyond, hs.first, hs.cells, hs.bound, hs.constants⟩⟩
  · exact .pure hv

/-- A new cell stands behind the others. -/
lemma safe_add {c : Cell} (hc : FreeIn R c) : (add c).Safe R :=
  ⟨fun _ hs => hs.beyond _ (Nat.le_refl _), fun _ hs => hs.push hc⟩

lemma safe_keepAll {items : List Value} (h : FreeIn R items) : (items.mapM keep).Safe R :=
  .mapM h fun _ hv => safe_keep hv

lemma safe_keepEntries {entries : List (Value × Value)} (h : FreeIn R entries) :
    Building.Safe R (entries.mapM fun (k, v) => do return (← keep k, ← keep v)) :=
  .mapM h fun _ he => (safe_keep he.1).bind fun _ hk => (safe_keep he.2).map fun _ hv => ⟨hk, hv⟩

lemma safe_addRow {items : List Value} (h : FreeIn R items) : (addRow items).Safe R :=
  (safe_keepAll h).bind fun _ hitems => safe_add (c := .row _) hitems

lemma safe_addEntries {entries : List (Value × Value)} (h : FreeIn R entries) :
    (addEntries entries).Safe R :=
  (safe_keepEntries h).bind fun _ hentries => safe_add (c := .entries _) hentries

lemma safe_addAttributes {named : List (String × Value)} (h : FreeIn R named) :
    (addAttributes named).Safe R := by
  have hkeep : Building.Safe R (named.mapM fun p => do return (p.1, ← keep p.2)) :=
    .mapM h fun _ hp => (safe_keep hp.2).map fun _ hv => ⟨trivial, hv⟩
  exact hkeep.bind fun _ hnamed => safe_add (c := .attributes _) hnamed

/-! ## Values with parts -/

lemma safe_list {items : List Value} (h : FreeIn R items) : (list items).Safe R :=
  (safe_addRow h).map fun _ hr => hr

lemma safe_tuple {items : List Value} (h : FreeIn R items) : (tuple items).Safe R := by
  rw [tuple]
  split
  · exact ⟨fun _ hs => hs.first, fun _ hs => hs⟩
  · exact (safe_addRow h).map fun _ hr => hr

lemma safe_set {items : List Value} (h : FreeIn R items) : (set items).Safe R :=
  (safe_addRow h).map fun _ hr => hr

lemma safe_dict {entries : List (Value × Value)} (h : FreeIn R entries) : (dict entries).Safe R :=
  (safe_addEntries h).map fun _ hr => hr

lemma safe_trusted (c : Trust.Category) {v : Value} (hv : FreeIn R v) : (trusted c v).Safe R :=
  (safe_addRow (freeIn_cons.2 ⟨hv, freeIn_nil⟩)).map fun _ hr => hr

lemma safe_point {x y : Value} (hx : FreeIn R x) (hy : FreeIn R y) : (point x y).Safe R :=
  (safe_addRow (freeIn_cons.2 ⟨hx, freeIn_cons.2 ⟨hy, freeIn_nil⟩⟩)).map fun _ hr => hr

lemma safe_slice {start stop step : Value} (hstart : FreeIn R start) (hstop : FreeIn R stop)
    (hstep : FreeIn R step) : (slice start stop step).Safe R := by
  refine (safe_addRow ?_).map fun _ hr => hr
  exact freeIn_cons.2 ⟨hstart, freeIn_cons.2 ⟨hstop, freeIn_cons.2 ⟨hstep, freeIn_nil⟩⟩⟩

lemma safe_stream (type : String) {course : Course} (h : FreeIn R course) :
    (stream type course).Safe R := (safe_add (c := .stream course) h).map fun _ hr => hr

lemma safe_method {receiver : Value} (h : FreeIn R receiver) (name : String) :
    (method receiver name).Safe R :=
  (safe_addRow (freeIn_cons.2 ⟨h, freeIn_nil⟩)).map fun _ hr => hr

lemma safe_object {attributes : List (String × Value)} (h : FreeIn R attributes) :
    (object attributes).Safe R := (safe_addAttributes h).map fun _ hr => hr

lemma safe_token (text : String) : (token text).Safe R := by
  have htext : FreeIn R (Value.str text) := trivial
  exact (safe_addRow (freeIn_cons.2 ⟨htext, freeIn_nil⟩)).map fun _ hr => hr

lemma safe_mapping {entries : List (Value × Value)} (h : FreeIn R entries) :
    (mapping entries).Safe R := by
  refine .bind .get fun s hs => ?_
  have hentries := (safe_insertEntries freeIn_nil h).result s hs
  split
  · next entries' h' => exact safe_dict (h' ▸ hentries : FreeIn R (Except.ok entries'))
  · exact safe_dict h

/-! ## Changes -/

lemma safe_put (r : Ref) {c : Cell} (hc : FreeIn R c) : (put r c).Safe R :=
  .modify fun _ hs => hs.set hc

lemma safe_putRow (r : Ref) {items : List Value} (h : FreeIn R items) : (putRow r items).Safe R :=
  (safe_keepAll h).bind fun _ hitems => safe_put r (c := .row _) hitems

lemma safe_putEntries (r : Ref) {entries : List (Value × Value)} (h : FreeIn R entries) :
    (putEntries r entries).Safe R :=
  (safe_keepEntries h).bind fun _ hentries => safe_put r (c := .entries _) hentries

lemma safe_append (r : Ref) {v : Value} (hv : FreeIn R v) : (append r v).Safe R := by
  refine (safe_keep hv).bind fun w hw => .modify fun s hs => hs.changeRow fun items hitems => ?_
  show FreeIn R (items.push w).toList
  rw [Array.toList_push]
  exact freeIn_append.2 ⟨hitems, freeIn_cons.2 ⟨hw, freeIn_nil⟩⟩

/-- What is drawn by chance is no part of a value. -/
lemma safe_draw (bound : Nat) : (draw bound).Safe R :=
  ⟨fun _ _ => trivial, fun _ hs => ⟨hs.beyond, hs.first, hs.cells, hs.bound, hs.constants⟩⟩

/-- Neither is what the clock shows. -/
lemma safe_readClock : readClock.Safe R :=
  ⟨fun _ _ => trivial, fun _ hs => ⟨hs.beyond, hs.first, hs.cells, hs.bound, hs.constants⟩⟩

end Building

/-! ## Evaluations that build -/

namespace Eval

lemma safe_list {items : List Value} (h : FreeIn R items) : Eval.Safe R (Eval.list items) :=
  .build (Building.safe_list h)

lemma safe_tuple {items : List Value} (h : FreeIn R items) : Eval.Safe R (Eval.tuple items) :=
  .build (Building.safe_tuple h)

lemma safe_keep {v : Value} (hv : FreeIn R v) : Eval.Safe R (Eval.keep v) :=
  .build (Building.safe_keep hv)

end Eval

/-! ## Data -/

namespace Datum

open Building

mutual

/-- A free datum becomes a free value. -/
lemma safe_load : ∀ {d : Datum}, d.IsFree R → d.load.Safe R
  | .held _, h => safe_keep h
  | .list _, h => (safe_loadAll h).bind fun _ hvs => safe_list hvs
  | .tuple _, h => (safe_loadAll h).bind fun _ hvs => safe_tuple hvs
  | .set _, h => (safe_loadAll h).bind fun _ hvs => safe_set hvs
  | .dict _, h => (safe_loadEntries h).bind fun _ hes => safe_mapping hes
  | .trusted c d, h => (safe_load (d := d) h).bind fun _ hv => safe_trusted c hv
  | .object _, h => (safe_loadAttributes h).bind fun _ hvs => safe_object hvs
  | .token text, _ => safe_token text
  | .point _ _, h => (safe_load h.1).bind fun _ hx => (safe_load h.2).bind fun _ hy =>
      safe_point hx hy
termination_by structural d => d

lemma safe_loadAll : ∀ {ds : List Datum}, AreFree R ds → (loadAll ds).Safe R
  | [], _ => .pure freeIn_nil
  | _ :: _, h => (safe_load h.1).bind fun _ hv => (safe_loadAll h.2).map fun _ hvs =>
      freeIn_cons.2 ⟨hv, hvs⟩
termination_by structural ds => ds

lemma safe_loadEntries : ∀ {es : List (Datum × Datum)}, EntriesFree R es → (loadEntries es).Safe R
  | [], _ => .pure freeIn_nil
  | (_, _) :: _, h => (safe_load h.1.1).bind fun _ hk => (safe_load h.1.2).bind fun _ hv =>
      (safe_loadEntries h.2).map fun _ hes => freeIn_cons.2 ⟨⟨hk, hv⟩, hes⟩
termination_by structural es => es

lemma safe_loadAttributes : ∀ {es : List (String × Datum)}, AttributesFree R es →
    (loadAttributes es).Safe R
  | [], _ => .pure freeIn_nil
  | (_, _) :: _, h => (safe_load h.1).bind fun _ hv => (safe_loadAttributes h.2).map fun _ hes =>
      freeIn_cons.2 ⟨⟨trivial, hv⟩, hes⟩
termination_by structural es => es

end

/-- A constant tuple is made once, and found again. -/
lemma safe_once (d : Datum) {make : Building Value} (h : make.Safe R) : (once d make).Safe R := by
  refine .bind .get fun s hs => ?_
  split
  · next e v hfind =>
    refine .pure (hs.constants v (List.mem_map.2 ⟨(e, v), List.mem_of_find?_eq_some hfind, rfl⟩))
  · refine h.bind fun v hv => .bind (.modify fun s hs => ?_) fun _ _ => .pure hv
    exact ⟨hs.beyond, hs.first, hs.cells, hs.bound, freeIn_cons.2 ⟨hv, hs.constants⟩⟩

mutual

/-- A free constant becomes a free value. -/
lemma safe_literal : ∀ {d : Datum}, d.IsFree R → d.literal.Safe R
  | .held v, h => by
    rw [literal]
    split
    · exact .pure h
    · exact .pure h
  | .list _, h => (safe_literals h).bind fun _ hvs => safe_list hvs
  | .tuple items, h => by
    have htuple : Building.Safe R (do Building.tuple (← literals items)) :=
      (safe_literals h).bind fun _ hvs => safe_tuple hvs
    rw [literal]
    split
    · exact safe_once _ htuple
    · exact htuple
  | .set _, h => (safe_literals h).bind fun _ hvs => safe_set hvs
  | .dict _, h => (safe_literalEntries h).bind fun _ hes => safe_mapping hes
  | .trusted _ _, h | .object _, h | .token _, h | .point _ _, h => safe_load h
termination_by structural d => d

lemma safe_literals : ∀ {ds : List Datum}, AreFree R ds → (literals ds).Safe R
  | [], _ => .pure freeIn_nil
  | _ :: _, h => (safe_literal h.1).bind fun _ hv => (safe_literals h.2).map fun _ hvs =>
      freeIn_cons.2 ⟨hv, hvs⟩
termination_by structural ds => ds

lemma safe_literalEntries : ∀ {es : List (Datum × Datum)}, EntriesFree R es →
    (literalEntries es).Safe R
  | [], _ => .pure freeIn_nil
  | (_, _) :: _, h => (safe_literal h.1.1).bind fun _ hk => (safe_literal h.1.2).bind fun _ hv =>
      (safe_literalEntries h.2).map fun _ hes => freeIn_cons.2 ⟨⟨hk, hv⟩, hes⟩
termination_by structural es => es

end

end Datum

end Interpolation
