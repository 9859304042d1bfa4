import Interpolation.Eval.Walk
import Interpolation.Proofs.Futures.Building

/-!
# Walks in settings that are alike without futures

Settings are alike in a region if they differ at most in what lookups find in the place of a future:
what is shown and what is missing are the same, lookups of free values agree, and so do streams.
Then everything that is walked through gives the same items, which are free, one after the other.

* `Setting.Alike` — two settings that treat everything but futures alike.
* `Value.safe_source` — a walk through a free value begins at a free source.
* `Setting.Alike.pull` — the next item of a free source is free.
* `Setting.Alike.foldSource`, `Setting.Alike.items` — walks to the end.
-/

namespace Interpolation

variable {R : Scope}

/-- Two settings that differ at most in how they treat futures. -/
structure Setting.Alike (R : Scope) (s t : Setting) : Prop where
  /-- Missing values are taken alike. -/
  strict : s.strict = t.strict
  /-- The futures stand alike. -/
  futures : s.futures = t.futures
  /-- Lookups of free values find the same. -/
  settled : ∀ key {v : Value}, FreeIn R v → Eval.Agree R (s.settled key v) (t.settled key v)
  /-- Streams give the same items. -/
  next : ∀ {r : Ref}, FreeIn R r → Eval.Agree R (s.next r) (t.next r)

namespace Setting.Alike

variable {s t : Setting}

/-! ## What is shown and what is missing -/

lemma missing (h : s.Alike R t) : s.missing = t.missing := by
  funext m
  rw [Setting.missing, Setting.missing, h.strict]

lemma repr (h : s.Alike R t) : s.repr = t.repr := by
  funext v
  rw [Setting.repr, Setting.repr, h.futures]

lemma display (h : s.Alike R t) : s.display = t.display := by
  funext v
  rw [Setting.display, Setting.display, h.futures]

end Setting.Alike

/-! ## Where items come from -/

lemma freeIn_characters (t : String) : FreeIn R (Value.characters t) := by
  intro v hv
  obtain ⟨c, -, rfl⟩ := List.mem_map.1 hv
  exact trivial

lemma freeIn_byteItems (bs : List UInt8) : FreeIn R (Value.byteItems bs) := by
  intro v hv
  obtain ⟨b, -, rfl⟩ := List.mem_map.1 hv
  exact trivial

namespace Value

variable {v : Value}

/-- A walk through a free value begins at a free source. -/
lemma safe_source (hv : FreeIn R v) : v.source.Safe R := by
  unfold source
  split
  · exact .pure (freeIn_characters _)
  · exact .pure (freeIn_characters _)
  · exact .pure (freeIn_characters _)
  · exact .pure (freeIn_byteItems _)
  · next r h => exact .pure (freeIn_of_content h hv)
  · next r h =>
    exact (Look.safe_items (freeIn_of_content h hv)).bind fun _ hvs => .pure hvs
  · next r h =>
    exact (Look.safe_items (freeIn_of_content h hv)).bind fun _ hvs => .pure hvs
  · next r h =>
    exact (Look.safe_entries (freeIn_of_content h hv)).bind fun _ _ =>
      .pure (freeIn_of_content h hv)
  · next r h =>
    exact (Look.safe_entries (freeIn_of_content h hv)).bind fun _ _ =>
      .pure (freeIn_of_content h hv)
  · next kind r h =>
    exact (Look.safe_entries (freeIn_of_content h hv)).bind fun _ _ =>
      .pure (freeIn_of_content h hv)
  · exact .pure trivial
  · exact .throw _
  · exact .pure freeIn_nil
  · next r h => exact .pure (freeIn_of_content h hv)
  · next h => exact .pure (freeIn_of_content h hv)
  · exact .pure trivial
  · exact .throw _

/-- The way back through a free value is free. -/
lemma safe_backwards? (hv : FreeIn R v) : v.backwards?.Safe R := by
  unfold backwards?
  split
  · exact .pure ⟨trivial, freeIn_reverse (freeIn_characters _)⟩
  · exact .pure ⟨trivial, freeIn_reverse (freeIn_characters _)⟩
  · exact .pure ⟨trivial, freeIn_reverse (freeIn_characters _)⟩
  · exact .pure ⟨trivial, freeIn_reverse (freeIn_byteItems _)⟩
  · next r h =>
    exact (Look.safe_row (freeIn_of_content h hv)).bind fun _ _ =>
      .pure ⟨trivial, freeIn_of_content h hv⟩
  · next r h =>
    exact (Look.safe_items (freeIn_of_content h hv)).bind fun _ hvs =>
      .pure ⟨trivial, freeIn_reverse hvs⟩
  · next r h =>
    exact (Look.safe_entries (freeIn_of_content h hv)).bind fun _ _ =>
      .pure ⟨trivial, freeIn_of_content h hv⟩
  · next r h =>
    exact (Look.safe_entries (freeIn_of_content h hv)).bind fun _ _ =>
      .pure ⟨trivial, freeIn_of_content h hv⟩
  · next kind r h =>
    exact (Look.safe_entries (freeIn_of_content h hv)).bind fun _ _ =>
      .pure ⟨trivial, freeIn_of_content h hv⟩
  · exact .pure ⟨trivial, trivial⟩
  · exact .throw _
  · exact .pure ⟨trivial, freeIn_nil⟩
  · exact .throw _
  · exact .pure trivial

end Value

lemma safe_viewItem (kind : ViewKind) {e : Value × Value} (he : FreeIn R e) :
    Eval.Safe R (viewItem kind e) := by
  cases kind with
  | keys => exact .pure he.1
  | values => exact .pure he.2
  | items => exact Eval.safe_tuple (freeIn_cons.2 ⟨he.1, freeIn_cons.2 ⟨he.2, freeIn_nil⟩⟩)

/-- Where futures can be met, so can be what they have for items. -/
lemma freeIn_pullFuture {id : FutureId} (h : FreeIn R (Content.future id)) (futures : Futures)
    (asked : Bool) : FreeIn R (pullFuture futures id asked) := by
  unfold pullFuture
  split
  · split
    · exact trivial
    · exact ⟨h, h⟩
  · split
    · exact trivial
    · exact ⟨h, h⟩
  all_goals exact trivial

lemma safe_entryAt {r : Ref} (hr : FreeIn R r) (size place : Nat) :
    (entryAt r size place).Safe R := by
  refine (Look.safe_entries hr).bind fun entries hentries => ?_
  split
  · exact .throw _
  · exact .pure (freeIn_getElem? hentries place)

namespace Setting.Alike

variable {s t : Setting} {v w : Value} {source : Source}

/-- A source that is no future gives the same items, and they are free. -/
lemma pull (h : s.Alike R t) (hsource : FreeIn R source) :
    Eval.Agree R (s.pull source) (t.pull source) := by
  cases source with
  | items vs =>
    cases vs with
    | nil => exact .pure trivial
    | cons v rest => exact .pure (freeIn_cons.1 hsource)
  | row r i =>
    refine .bind (.look (Look.safe_row hsource)) fun items hitems => .pure ?_
    exact freeIn_optionMap (freeIn_array_getElem? hitems i) fun v hv => ⟨hv, hsource⟩
  | rowBack r left =>
    cases left with
    | zero => exact .pure trivial
    | succ i =>
      refine .bind (.look (Look.safe_row hsource)) fun items hitems => .pure ?_
      exact freeIn_optionMap (freeIn_array_getElem? hitems i) fun v hv => ⟨hv, hsource⟩
  | entries kind r size i =>
    refine .bind (.look (safe_entryAt hsource size i)) fun found hfound => ?_
    cases found with
    | none => exact .pure trivial
    | some e => exact (safe_viewItem kind hfound).bind fun v hv => .pure ⟨hv, hsource⟩
  | entriesBack kind r size left =>
    refine .bind (.look (safe_entryAt hsource size (left - 1))) fun found hfound => ?_
    split
    · exact (safe_viewItem kind hfound).bind fun v hv => .pure ⟨hv, hsource⟩
    · exact .pure trivial
  | numbers n step left =>
    cases left with
    | zero => exact .pure trivial
    | succ left => exact .pure ⟨trivial, trivial⟩
  | stream r =>
    exact (h.next hsource).bind fun found hfound =>
      .pure (freeIn_optionMap hfound fun v hv => ⟨hv, hsource⟩)
  | future id asked =>
    refine .bind .getStore fun store hstore => ?_
    rw [h.futures]
    exact .except (freeIn_pullFuture hsource _ asked)
  | blocks => exact .throw _

section Fold

variable {α σ : Type} [HoldsValues α] [HoldsValues σ]

/-- What a walk preserves at every item, it preserves to its end. -/
lemma foldFrom (h : s.Alike R t) {f g : σ → Value → Eval (Bool × σ)}
    (hf : ∀ a v, FreeIn R a → FreeIn R v → Eval.Agree R (f a v) (g a v)) (fuel : Nat) {a : σ}
    (hsource : FreeIn R source) (ha : FreeIn R a) :
    Eval.Agree R (s.foldFrom f fuel source a) (t.foldFrom g fuel source a) := by
  induction fuel generalizing source a with
  | zero => exact .pure ha
  | succ fuel ih =>
    rw [Setting.foldFrom, Setting.foldFrom]
    refine (h.pull hsource).bind fun found hfound => ?_
    cases found with
    | none => exact .pure ha
    | some next =>
      obtain ⟨hv, hrest⟩ := hfound
      refine (hf a next.1 ha hv).bind fun p hp => ?_
      dsimp only
      split
      · exact ih hrest hp.2
      · exact .pure hp.2

lemma foldSource (h : s.Alike R t) {f g : σ → Value → Eval σ}
    (hf : ∀ a v, FreeIn R a → FreeIn R v → Eval.Agree R (f a v) (g a v)) {a : σ}
    (hsource : FreeIn R source) (ha : FreeIn R a) :
    Eval.Agree R (s.foldSource f source a) (t.foldSource g source a) :=
  h.foldFrom (fun a v ha hv => (hf a v ha hv).bind fun _ hb => .pure ⟨trivial, hb⟩) walkLimit
    hsource ha

lemma mapSource (h : s.Alike R t) {f g : Value → Eval α}
    (hf : ∀ v, FreeIn R v → Eval.Agree R (f v) (g v)) (hsource : FreeIn R source) :
    Eval.Agree R (s.mapSource f source) (t.mapSource g source) := by
  refine (h.foldSource (fun found v hfound hv => ?_) hsource freeIn_nil).bind
    fun found hfound => .pure (freeIn_reverse hfound)
  exact (hf v hv).bind fun a ha => .pure (freeIn_cons.2 ⟨ha, hfound⟩)

end Fold

lemma drain (h : s.Alike R t) (hsource : FreeIn R source) :
    Eval.Agree R (s.drain source) (t.drain source) := h.mapSource (fun _ hv => .pure hv) hsource

lemma items (h : s.Alike R t) (hv : FreeIn R v) : Eval.Agree R (s.items v) (t.items v) :=
  .bind (.look (Value.safe_source hv)) fun _ hsource => h.drain hsource

lemma firstItem? (h : s.Alike R t) (hv : FreeIn R v) :
    Eval.Agree R (s.firstItem? v) (t.firstItem? v) :=
  .bind (.look (Value.safe_source hv)) fun _ hsource => (h.pull hsource).bind fun _ hfound =>
    .pure (freeIn_optionMap hfound fun _ hp => hp.1)

lemma findsAmong (h : s.Alike R t) (v : Value) (hsource : FreeIn R source) :
    Eval.Agree R (s.findsAmong v source) (t.findsAmong v source) :=
  h.foldFrom (fun _ _ _ _ => .bind (.look_of_none _) fun _ _ => .pure ⟨trivial, trivial⟩) walkLimit
    hsource trivial

/-- Whether a free container holds a value. -/
lemma contains (h : s.Alike R t) (hv : FreeIn R v) (w : Value) :
    Eval.Agree R (s.contains v w) (t.contains v w) := by
  unfold Setting.contains
  split
  · split
    · exact .throw _
    · exact .pure trivial
    · exact .throw _
  · split
    · exact .throw _
    · exact .pure trivial
    · exact .throw _
  · split
    · exact .pure trivial
    · exact .throw _
  · next r hr =>
    exact .bind (.look_of_none _) fun _ _ => .bind
      (.look (Look.safe_entries (freeIn_of_content hr hv))) fun _ hentries =>
        .bind (.look (safe_lookup? w hentries)) fun _ _ => .pure trivial
  · next r hr =>
    exact .bind (.look_of_none _) fun _ _ => .bind
      (.look (Look.safe_entries (freeIn_of_content hr hv))) fun _ hentries =>
        .bind (.look (safe_lookup? w hentries)) fun _ _ => .pure trivial
  · next r hr =>
    exact .bind (.look_of_none _) fun _ _ => .bind
      (.look (Look.safe_entries (freeIn_of_content hr hv))) fun _ hentries =>
        .bind (.look (safe_lookup? w hentries)) fun _ _ => .pure trivial
  · next r hr =>
    exact .bind (.look (Look.safe_entries (freeIn_of_content hr hv))) fun _ _ => .look_of_none _
  · next r hr =>
    split
    · exact .bind (.look (Look.safe_items (freeIn_of_content hr hv))) fun _ _ => .look_of_none _
    · exact .bind (.look_of_none _) fun _ _ =>
        .bind (.look (Look.safe_items (freeIn_of_content hr hv))) fun _ _ => .look_of_none _
  · split
    · exact .pure trivial
    · split
      · exact .pure trivial
      · exact .throw _
    · exact .throw _
  · split
    · exact .pure trivial
    · exact h.findsAmong w trivial
  · refine .bind .getStore fun store hstore => ?_
    have hsource := (Value.safe_source hv).result store hstore
    split
    · next source hrun => exact h.findsAmong w (hrun ▸ hsource : FreeIn R (Except.ok source))
    · exact .throw _
    · exact .throw _

end Setting.Alike

end Interpolation
