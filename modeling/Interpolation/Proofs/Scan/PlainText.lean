import Interpolation.Proofs.Render.FirstFailure
import Interpolation.Proofs.Scan.Segments

/-!
# Plain text

The scanner looks for the first start marker only, and gives up on a level when no end marker stands
behind it.  It misses nothing by that, because no start marker leaves more room for an end marker
than the first one does (`cutPair?_eq_none_iff`).  A text is therefore plain exactly when it has no
pair of markers anywhere.

The two levels do not disturb this.  A primary pair may swallow one half of a secondary pair, or
both, but then there is an expression already; and where there is no primary pair, the secondary
markers are looked for in the whole text.

* `Delimiters.exists_expression_iff` — a text has an expression exactly when it has a pair.
* `Delimiters.pieces_of_unpaired` — a text without a pair is one literal.
* **`Interpolator.compile_plain_text`** — the same for templates, with what a plain text renders to.
-/

namespace Interpolation

open Trust

/-! ## Texts without pairs -/

section Divide

variable {start stop : Marker} {text : List Char}

lemma divide_of_not_hasPair (h : ¬ HasPair start stop text) : divide start stop text = ⟨[], text⟩ :=
  divide_of_none (cutPair?_eq_none_iff.2 h)

/-- A text with a pair is divided at least once. -/
lemma exists_mem_marked_of_hasPair (h : HasPair start stop text) :
    ∃ m, m ∈ (divide start stop text).marked := by
  cases hcut : cutPair? start stop text with
  | none => exact absurd h (cutPair?_eq_none_iff.1 hcut)
  | some cut => exact ⟨cut.1, by rw [divide_of_some hcut]; exact List.mem_cons_self⟩

end Divide

/-- The pieces of a division hold its sources. -/
lemma Division.expression_mem_pieces {q : Division} {m : Marked} (hm : m ∈ q.marked)
    (chunk : List Char → List Piece) (deferred : Bool) :
    .expression m.source deferred ∈ q.pieces chunk deferred := by
  refine List.mem_append_left _ (List.mem_flatMap.2 ⟨m, hm, ?_⟩)
  exact List.mem_append_right _ List.mem_cons_self

namespace Delimiters

variable (d : Delimiters) (text : List Char)

/-- The text has a pair of primary markers or one of secondary markers, somewhere. -/
def Paired : Prop :=
  HasPair d.primaryStart d.primaryEnd text ∨ HasPair d.secondaryStart d.secondaryEnd text

variable {d text}

/-- Without a primary pair the secondary markers divide the whole text. -/
lemma scan_of_not_primary (h : ¬ HasPair d.primaryStart d.primaryEnd text) :
    d.scan text = d.chunkPieces text := by
  simp [scan, divide_of_not_hasPair h, Division.pieces]

/-- **A text without a pair is one literal**, however many single markers it has. -/
theorem pieces_of_unpaired (h : ¬ d.Paired text) : d.pieces text = [.literal text] := by
  obtain ⟨hprimary, hsecondary⟩ := not_or.1 h
  have hscan : d.scan text = Piece.literals text := by
    rw [scan_of_not_primary hprimary, chunkPieces, divide_of_not_hasPair hsecondary]
    simp [Division.pieces]
  cases text <;> simp [pieces, hscan, Piece.literals]

lemma mem_pieces_of_mem_scan {p : Piece} (h : p ∈ d.scan text) : p ∈ d.pieces text := by
  rw [pieces]
  split
  · next hnil => rw [hnil] at h; cases h
  · exact h

/-- **A text has an expression exactly when it has a pair.** -/
theorem exists_expression_iff :
    (∃ p ∈ d.pieces text, p.isExpression = true) ↔ d.Paired text := by
  constructor
  · rintro ⟨p, hp, hexpression⟩
    by_contra h
    rw [pieces_of_unpaired h, List.mem_singleton] at hp
    subst hp
    cases hexpression
  · intro h
    by_cases hprimary : HasPair d.primaryStart d.primaryEnd text
    · obtain ⟨m, hm⟩ := exists_mem_marked_of_hasPair hprimary
      exact ⟨_, mem_pieces_of_mem_scan (Division.expression_mem_pieces hm ..), rfl⟩
    · obtain ⟨m, hm⟩ := exists_mem_marked_of_hasPair (h.resolve_left hprimary)
      refine ⟨.expression m.source true, mem_pieces_of_mem_scan ?_, rfl⟩
      rw [scan_of_not_primary hprimary]
      exact Division.expression_mem_pieces hm ..

end Delimiters

/-! ## Templates without expressions -/

namespace Template

/-- A single literal is rendered as it is, and nothing is reported or told. -/
lemma renderTo_literal {t : Template} {text : String} (h : t.segments = [.literal text])
    (sink : Sink) (s : Surroundings) (context : Datum) (store : Store) :
    ∃ after, t.renderTo sink s context store = (.text text, sink, after) ∧ after.records = [] := by
  have hall : AllGive s t.trusted (opening context store).1 t.segments (opening context store).2
      [text] (opening context store).2 := by
    rw [h]
    exact .cons (.literal text _) (.nil _)
  refine ⟨closing store (opening context store).2, ?_, rfl⟩
  rw [renderTo, render_of_allGive hall]
  simp

end Template

namespace Interpolator

variable {i : Interpolator} {text : String} {place : Option String} {trusted : Option Category}

/-- A plain text becomes its literal, unless a text without expressions is of no use. -/
lemma compile_of_unpaired (h : ¬ i.delimiters.Paired text.toList)
    (hplace : Template.categoryNamed place = .ok trusted) (needed : Bool) :
    (i.compile ⟨text, needed, place⟩).1 =
      .ok (if needed then none else some ⟨text, [.literal text], trusted⟩) := by
  have hsegments : (i.delimiters.pieces text.toList).mapM i.engine.segment =
      .ok [.literal text] := by
    rw [mapM_eq_ok_iff, Delimiters.pieces_of_unpaired h]
    exact .cons (by simp [Engine.segment]) .nil
  rw [compile_fst, hplace, hsegments]
  cases needed <;>
    simp [bind, Except.bind, Except.mapError, Template.assemble, Template.hasExpression,
      Segment.expression?]

/-- **Plain text is recognised exactly.**  A text whose sources compile becomes a template, and
whatever else is asked of a compile, the template has an expression exactly when a primary or a
secondary pair of markers stands somewhere in the text.  Where no pair stands, for any known place,
a compile that needs an expression gives no template, and one that needs none gives the single
literal of the text; that is rendered as the text itself in every context, and nothing is reported
or told. -/
theorem compile_plain_text (i : Interpolator) (text : String) :
    ((∀ p ∈ i.delimiters.pieces text.toList, ∃ s, i.engine.segment p = .ok s) →
      ∃ t, (i.compile ⟨text, false, none⟩).1 = .ok (some t)) ∧
    (∀ needed place t, (i.compile ⟨text, needed, place⟩).1 = .ok (some t) →
      (t.hasExpression = true ↔
        HasPair i.delimiters.primaryStart i.delimiters.primaryEnd text.toList ∨
          HasPair i.delimiters.secondaryStart i.delimiters.secondaryEnd text.toList)) ∧
    (¬ HasPair i.delimiters.primaryStart i.delimiters.primaryEnd text.toList →
      ¬ HasPair i.delimiters.secondaryStart i.delimiters.secondaryEnd text.toList →
      ∀ place trusted, Template.categoryNamed place = .ok trusted →
        (i.compile ⟨text, true, place⟩).1 = .ok none ∧
        ∃ t, (i.compile ⟨text, false, place⟩).1 = .ok (some t) ∧
          t.segments = [.literal text] ∧
          ∀ sink s context store, ∃ after,
            t.renderTo sink s context store = (.text text, sink, after) ∧ after.records = []) := by
  refine ⟨fun hall => ?_, fun needed place t ht => ?_, fun hprimary hsecondary place trusted hp => ?_⟩
  · obtain ⟨segments, hsegments⟩ := Engine.exists_segments hall
    exact ⟨⟨text, segments, none⟩, compile_eq_some_iff.2 ⟨rfl, rfl, hsegments, by simp, by simp⟩⟩
  · obtain ⟨-, -, hsegments, -⟩ := compile_eq_some_iff.1 ht
    exact (Engine.any_expression_iff hsegments).trans Delimiters.exists_expression_iff
  · have hunpaired : ¬ i.delimiters.Paired text.toList := not_or.2 ⟨hprimary, hsecondary⟩
    refine ⟨compile_of_unpaired hunpaired hp true, _, compile_of_unpaired hunpaired hp false, rfl,
      fun sink s context store => ?_⟩
    exact Template.renderTo_literal rfl sink s context store

end Interpolator

/-- A start marker that is left open ends the search for primary pairs, but not the one for
secondary ones. -/
example : Delimiters.standard.pieces "\x7b||a||\x7d \x7b\x7bb".toList =
    [.expression ['a'] true, .literal " \x7b\x7bb".toList] := by
  decide +kernel

end Interpolation
