import Interpolation.Config.Basic
import Interpolation.Proofs.Scan.Compiling

/-!
# The segments of a template

Two statements about compiled templates, for any four markers, overlapping or equal ones included.

* **`Interpolator.compile_decomposition`** — the segments of a text are those of its only leftmost
  decomposition: the primary markers divide the text whatever the secondary ones are, and the
  secondary ones divide nothing but the chunks that are left.
* **`Interpolator.compile_keeps_text`** — nothing is lost and nothing is told twice: the segments,
  written one after the other, are the text.

The first one is uniqueness (`Decomposition.of_iff`) carried through the engine; the second one is
`Delimiters.write_pieces` and its companions, read off the segments instead of the pieces.
-/

namespace Interpolation

open Text

/-! ## Segments and pieces -/

/-- The source of an expression. -/
def Piece.source? : Piece → Option (List Char)
  | .literal _ => none
  | .expression source _ => some source

namespace Segment

/-- The piece that a segment was compiled from. -/
def piece : Segment → Piece
  | literal text => .literal text.toList
  | expression e deferred => .expression e.source.toList deferred

/-- The text that a segment stands for: a literal as it is, an expression between its markers. -/
def written (d : Delimiters) : Segment → String
  | literal text => text
  | expression e false => d.primaryStart.text ++ e.source ++ d.primaryEnd.text
  | expression e true => d.secondaryStart.text ++ e.source ++ d.secondaryEnd.text

lemma toList_written (d : Delimiters) (s : Segment) :
    (s.written d).toList = d.writePiece s.piece := by
  cases s with
  | literal text => rfl
  | expression e deferred =>
    cases deferred <;> simp [written, piece, Delimiters.writePiece, Marker.text]

lemma isSome_expression? (s : Segment) : s.expression?.isSome = s.piece.isExpression := by
  cases s <;> rfl

end Segment

/-- A compiled expression remembers its source. -/
lemma Expression.source_of_compile {environment : Environment} {resolving logging : Bool}
    {source : String} {e : Expression}
    (h : Expression.compile environment resolving logging source = .ok e) : e.source = source := by
  rw [compile] at h
  cases hp : parse environment source.toList with
  | error f => rw [hp] at h; cases h
  | ok body => rw [hp] at h; cases h; rfl

lemma Engine.piece_of_segment {g : Engine} {p : Piece} {s : Segment} (h : g.segment p = .ok s) :
    s.piece = p := by
  cases p with
  | literal text => cases h; simp [Segment.piece]
  | expression source deferred =>
    rw [Engine.segment] at h
    cases hc : g.expression (g.optionsFor deferred).1 (g.optionsFor deferred).2
        (String.ofList source) with
    | error f => rw [hc] at h; cases h
    | ok e =>
      rw [hc] at h
      cases h
      simp [Segment.piece, Expression.source_of_compile hc]

/-- Pieces that have a segment each have a list of segments. -/
lemma Engine.exists_segments {g : Engine} {ps : List Piece}
    (h : ∀ p ∈ ps, ∃ s, g.segment p = .ok s) :
    ∃ segments, List.Forall₂ (fun p s => g.segment p = .ok s) ps segments := by
  induction ps with
  | nil => exact ⟨[], .nil⟩
  | cons p ps ih =>
    obtain ⟨⟨s, hs⟩, hps⟩ := List.forall_mem_cons.1 h
    obtain ⟨segments, hrest⟩ := ih hps
    exact ⟨s :: segments, .cons hs hrest⟩

/-- Where there are segments, each piece has one. -/
lemma Engine.exists_segment {g : Engine} {ps : List Piece} {segments : List Segment}
    (h : List.Forall₂ (fun p s => g.segment p = .ok s) ps segments) :
    ∀ p ∈ ps, ∃ s, g.segment p = .ok s := by
  induction h with
  | nil => simp
  | cons hs _ ih => exact List.forall_mem_cons.2 ⟨⟨_, hs⟩, ih⟩

/-- Segments stand for their pieces, one for one. -/
lemma Engine.map_piece_segments {g : Engine} {ps : List Piece} {segments : List Segment}
    (h : List.Forall₂ (fun p s => g.segment p = .ok s) ps segments) :
    segments.map Segment.piece = ps := by
  induction h with
  | nil => rfl
  | cons hp _ ih => rw [List.map_cons, Engine.piece_of_segment hp, ih]

/-- There is an expression among segments when there is one among their pieces. -/
lemma Engine.any_expression_iff {g : Engine} {ps : List Piece} {segments : List Segment}
    (h : List.Forall₂ (fun p s => g.segment p = .ok s) ps segments) :
    segments.any (·.expression?.isSome) = true ↔ ∃ p ∈ ps, p.isExpression = true := by
  simp [← map_piece_segments h, Segment.isSome_expression?]

/-- The segments of a template stand for the pieces of its text, one for one. -/
lemma Interpolator.map_piece_segments {i : Interpolator} {request : CompileRequest} {t : Template}
    (h : (i.compile request).1 = .ok (some t)) :
    t.segments.map Segment.piece = i.delimiters.pieces request.text.toList :=
  Engine.map_piece_segments (compile_eq_some_iff.1 h).2.2.1

/-- Each segment of a template is the one of the piece that it stands for. -/
lemma Interpolator.segment_piece {i : Interpolator} {request : CompileRequest} {t : Template}
    (h : (i.compile request).1 = .ok (some t)) {s : Segment} (hs : s ∈ t.segments) :
    i.engine.segment s.piece = .ok s := by
  obtain ⟨-, -, hall, -⟩ := compile_eq_some_iff.1 h
  generalize i.delimiters.pieces request.text.toList = ps at hall
  generalize t.segments = segments at hs hall
  induction hall with
  | nil => cases hs
  | cons hp _ ih =>
    obtain rfl | hs := List.mem_cons.1 hs
    · rwa [Engine.piece_of_segment hp]
    · exact ih hs

/-- Each expression of a template is the one that its source is compiled to. -/
lemma Interpolator.expression_of_mem {i : Interpolator} {request : CompileRequest} {t : Template}
    (h : (i.compile request).1 = .ok (some t)) {e : Expression} {deferred : Bool}
    (he : .expression e deferred ∈ t.segments) :
    i.engine.expression (i.engine.optionsFor deferred).1 (i.engine.optionsFor deferred).2 e.source =
      .ok e := by
  have hsegment := segment_piece h he
  rw [Segment.piece, Engine.segment, String.ofList_toList] at hsegment
  cases hcompile : i.engine.expression (i.engine.optionsFor deferred).1
      (i.engine.optionsFor deferred).2 e.source with
  | error f => rw [hcompile] at hsegment; cases hsegment
  | ok e' => rw [hcompile] at hsegment; cases hsegment; rfl

namespace Template

/-- The segments of a template written one after the other. -/
def written (d : Delimiters) (t : Template) : String := String.join (t.segments.map (·.written d))

lemma toList_written (d : Delimiters) (t : Template) :
    (t.written d).toList = d.write (t.segments.map Segment.piece) := by
  simp [written, Delimiters.write, String.toList_join, Segment.toList_written, List.flatMap_def,
    Function.comp_def]

/-- The segments of a template, written one after the other, are its text. -/
lemma written_of_compile {i : Interpolator} {request : CompileRequest} {t : Template}
    (h : (i.compile request).1 = .ok (some t)) : t.written i.delimiters = request.text := by
  rw [← String.toList_inj, toList_written, Interpolator.map_piece_segments h,
    Delimiters.write_pieces]

lemma segments_ne_nil {i : Interpolator} {request : CompileRequest} {t : Template}
    (h : (i.compile request).1 = .ok (some t)) : t.segments ≠ [] := by
  intro hnil
  have hp := Interpolator.map_piece_segments h
  rw [hnil] at hp
  exact Delimiters.pieces_ne_nil i.delimiters _ hp.symm

lemma expressions_eq (t : Template) :
    t.expressions =
      ((t.segments.map Segment.piece).filterMap Piece.source?).map String.ofList := by
  rw [expressions, List.filterMap_map, List.map_filterMap]
  refine List.filterMap_congr fun s _ => ?_
  cases s <;> simp [Segment.expression?, Segment.piece, Piece.source?]

end Template

/-! ## The grammar of templates -/

/-- **The segments are those of the only leftmost decomposition.**  Every text has exactly one
decomposition.  Its outer level is the same for all secondary markers; the primary expressions are
the sources of that level, and a deferred expression stands with its markers in a single chunk of
it.  Once all sources compile, the text becomes the template of the pieces, and whatever else is
asked of a compile, a template never has other segments. -/
theorem Interpolator.compile_decomposition (i : Interpolator) (text : String) :
    ∃ D : Decomposition, D.Of i.delimiters text.toList ∧
      (∀ E : Decomposition, E.Of i.delimiters text.toList → E = D) ∧
      (∀ (d : Delimiters) (E : Decomposition),
        d.primaryStart = i.delimiters.primaryStart → d.primaryEnd = i.delimiters.primaryEnd →
          E.Of d text.toList → E.outer d = D.outer i.delimiters) ∧
      D.pieces.filterMap Piece.primary? = (D.outer i.delimiters).marked.map (·.source) ∧
      (∀ source, .expression source true ∈ D.pieces → ∃ c ∈ (D.outer i.delimiters).texts,
        i.delimiters.secondaryStart.chars ++ source ++ i.delimiters.secondaryEnd.chars <:+: c) ∧
      ((∀ p ∈ D.pieces, ∃ s, i.engine.segment p = .ok s) →
        ∃ segments, List.Forall₂ (fun p s => i.engine.segment p = .ok s) D.pieces segments ∧
          (i.compile ⟨text, false, none⟩).1 = .ok (some ⟨text, segments, none⟩)) ∧
      (∀ needed place t, (i.compile ⟨text, needed, place⟩).1 = .ok (some t) →
        List.Forall₂ (fun p s => i.engine.segment p = .ok s) D.pieces t.segments) := by
  have hof := decompose_of i.delimiters text.toList
  refine ⟨decompose i.delimiters text.toList, hof, fun E hE => Decomposition.of_iff.1 hE, ?_,
    Decomposition.primary_pieces, fun source => Decomposition.deferred_pieces, ?_, ?_⟩
  · intro d E hs he hE
    rw [hE.outer_eq, hof.outer_eq, hs, he]
  · intro hall
    rw [pieces_decompose] at hall ⊢
    obtain ⟨segments, hsegments⟩ := Engine.exists_segments hall
    exact ⟨segments, hsegments, compile_eq_some_iff.2 ⟨rfl, rfl, hsegments, by simp, by simp⟩⟩
  · intro needed place t ht
    rw [pieces_decompose]
    exact (compile_eq_some_iff.1 ht).2.2.1

/-! ## Nothing is lost -/

/-- The source stands at a place of the text, between markers of one kind. -/
def StandsAt (d : Delimiters) (text source : List Char) (place : Nat) : Prop :=
  ∃ deferred, d.writePiece (.expression source deferred) <+: text.drop place

/-- In a text that ends with written pieces the sources of these pieces stand in order: every
expression begins behind the one before it, since no expression is written without characters. -/
lemma Delimiters.exists_places (d : Delimiters) (ps : List Piece) (before : List Char) :
    ∃ places : List Nat, (∀ n ∈ places, before.length ≤ n) ∧ places.Pairwise (· < ·) ∧
      List.Forall₂ (StandsAt d (before ++ d.write ps)) (ps.filterMap Piece.source?) places := by
  induction ps generalizing before with
  | nil => exact ⟨[], by simp, .nil, .nil⟩
  | cons p ps ih =>
    obtain ⟨places, hle, hlt, hstand⟩ := ih (before ++ d.writePiece p)
    have htext : before ++ d.writePiece p ++ d.write ps = before ++ d.write (p :: ps) := by
      simp [write]
    rw [htext] at hstand
    simp only [List.length_append] at hle
    cases p with
    | literal text => exact ⟨places, fun n hn => by have := hle n hn; omega, hlt, hstand⟩
    | expression source deferred =>
      have hpos := d.length_writePiece_pos source deferred
      refine ⟨before.length :: places, ?_, ?_, .cons ⟨deferred, ?_⟩ hstand⟩
      · intro n hn
        obtain rfl | hn := List.mem_cons.1 hn
        · exact Nat.le_refl _
        · have := hle n hn
          omega
      · refine List.pairwise_cons.2 ⟨fun n hn => ?_, hlt⟩
        have := hle n hn
        omega
      · rw [← htext, List.append_assoc, List.drop_left]
        exact List.prefix_append _ _

/-- **Nothing is lost and nothing is told twice.**  The segments of a template, written one after
the other, are the text.  There is at least one segment, two literals are never neighbours, and an
empty literal is the whole template of the empty text.  The expressions are listed in the order of
the places at which they stand in the text. -/
theorem Interpolator.compile_keeps_text {i : Interpolator} {request : CompileRequest} {t : Template}
    (h : (i.compile request).1 = .ok (some t)) :
    t.written i.delimiters = request.text ∧
      t.segments ≠ [] ∧
      t.segments.IsChain (fun a b => a.expression?.isSome ∨ b.expression?.isSome) ∧
      (.literal "" ∈ t.segments → request.text = "" ∧ t.segments = [.literal ""]) ∧
      ∃ places : List Nat, places.Pairwise (· < ·) ∧
        List.Forall₂ (fun source n => StandsAt i.delimiters request.text.toList source.toList n)
          t.expressions places := by
  have hp := map_piece_segments h
  refine ⟨Template.written_of_compile h, Template.segments_ne_nil h, ?_, ?_, ?_⟩
  · have hsep := Delimiters.pieces_separated i.delimiters request.text.toList
    rw [← hp, Separated, List.isChain_map] at hsep
    simpa only [Segment.isSome_expression?] using hsep
  · intro hmem
    have hnil : Piece.literal [] ∈ i.delimiters.pieces request.text.toList := by
      rw [← hp]
      exact List.mem_map_of_mem hmem
    obtain ⟨htext, hone⟩ := (Delimiters.literal_nil_mem_pieces_iff i.delimiters _).1 hnil
    rw [← hp, List.map_eq_singleton_iff] at hone
    obtain ⟨s, hs, -⟩ := hone
    rw [hs, List.mem_singleton] at hmem
    exact ⟨String.toList_eq_nil_iff.1 htext, by rw [hs, hmem]⟩
  · obtain ⟨places, -, hlt, hstand⟩ :=
      i.delimiters.exists_places (i.delimiters.pieces request.text.toList) []
    refine ⟨places, hlt, ?_⟩
    rw [List.nil_append, Delimiters.write_pieces] at hstand
    rw [Template.expressions_eq, hp, List.forall₂_map_left_iff]
    simpa using hstand

/-- Markers that overlap: each secondary one begins a primary one. -/
def Delimiters.angled : Delimiters :=
  ⟨⟨['<', '<'], by decide⟩, ⟨['>', '>'], by decide⟩, ⟨['<'], by decide⟩, ⟨['>'], by decide⟩⟩

/-- A text in which the markers meet: the last `>` belongs to no expression. -/
theorem Interpolator.compile_keeps_text_angled :
    ∃ t, ((⟨.angled, .new false false true, .standard⟩ : Interpolator).compile
        ⟨"a<y>b<<x>>>c", false, none⟩).1 = .ok (some t) ∧
      t.written .angled = "a<y>b<<x>>>c" ∧ t.expressions = ["y", "x"] := by
  have hrun : (((⟨.angled, .new false false true, .standard⟩ : Interpolator).template?
      ⟨"a<y>b<<x>>>c", false, none⟩).map Template.expressions) = some ["y", "x"] := by
    decide +kernel
  obtain ⟨t, ht, hexpressions⟩ := Option.map_eq_some_iff.1 hrun
  have h := template?_eq_some_iff.1 ht
  exact ⟨t, h, (compile_keeps_text h).1, hexpressions⟩

end Interpolation
