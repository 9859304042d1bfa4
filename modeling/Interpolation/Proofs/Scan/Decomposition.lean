import Mathlib.Data.List.Chain
import Interpolation.Proofs.Scan.Leftmost

/-!
# The decomposition of a text

A text is divided twice: by the primary markers as a whole, and then every chunk between primary
expressions by the secondary markers.  A `Decomposition` holds both levels at once, with the
sources of primary expressions as plain characters, which no second division reaches.

* `Decomposition.Of` — a decomposition writes the text and is leftmost on both levels.
* **`Decomposition.of_iff`** — every text has exactly one, `decompose`.
* `Decomposition.pieces` — the pieces in order, without the empty literals; they are the pieces
  that the scanner finds (`pieces_decompose`).
* `Decomposition.primary_pieces`, `Decomposition.deferred_pieces` — primary expressions are those of
  the outer division, and a deferred one stands with its markers in one of its chunks.
* `Delimiters.write_pieces`, `Delimiters.pieces_separated` — pieces written one after the other are
  the text again, and no two literals are neighbours.
-/

namespace Interpolation

open Text

/-- A text divided by the primary markers, with each of its chunks divided by the secondary ones. -/
structure Decomposition where
  /-- The chunks that have a primary expression behind them, with its source. -/
  marked : List (Division × List Char)
  /-- The chunk at the end. -/
  last : Division

/-! ## The pieces of a decomposition -/

/-- The pieces of a chunk, empty literals among them. -/
def Division.allPieces (q : Division) : List Piece :=
  q.marked.flatMap (fun m => [.literal m.chunk, .expression m.source true]) ++ [.literal q.last]

namespace Decomposition

/-- The pieces of a text, empty literals among them. -/
def allPieces (D : Decomposition) : List Piece :=
  D.marked.flatMap (fun (q, source) => q.allPieces ++ [.expression source false])
    ++ D.last.allPieces

/-- The pieces of a text: empty literals are dropped, and where nothing is left there is a single
empty literal. -/
def pieces (D : Decomposition) : List Piece :=
  match D.allPieces.filter (· ≠ .literal []) with
  | [] => [.literal []]
  | found => found

/-! ## Existence and uniqueness -/

/-- All chunks. -/
def chunks (D : Decomposition) : List Division := D.marked.map Prod.fst ++ [D.last]

/-- The division by the primary markers alone, with the chunks as they stand in the text. -/
def outer (D : Decomposition) (d : Delimiters) : Division :=
  ⟨D.marked.map fun (q, source) => ⟨q.write d.secondaryStart d.secondaryEnd, source⟩,
    D.last.write d.secondaryStart d.secondaryEnd⟩

/-- A decomposition of a text writes the text and is leftmost on both levels. -/
structure Of (d : Delimiters) (text : List Char) (D : Decomposition) : Prop where
  written : (D.outer d).write d.primaryStart d.primaryEnd = text
  primary : (D.outer d).Leftmost d.primaryStart d.primaryEnd
  secondary : ∀ q ∈ D.chunks, q.Leftmost d.secondaryStart d.secondaryEnd

end Decomposition

variable (d : Delimiters) (text : List Char)

/-- The decomposition that the scanner finds. -/
def decompose : Decomposition :=
  let divided := divide d.primaryStart d.primaryEnd text
  let chunk := divide d.secondaryStart d.secondaryEnd
  ⟨divided.marked.map fun m => (chunk m.chunk, m.source), chunk divided.last⟩

lemma outer_decompose :
    (decompose d text).outer d = divide d.primaryStart d.primaryEnd text := by
  simp [decompose, Decomposition.outer, Function.comp_def, (divide_leftmost ..).2]

lemma decompose_of : (decompose d text).Of d text := by
  obtain ⟨hl, hw⟩ := divide_leftmost d.primaryStart d.primaryEnd text
  refine ⟨by rw [outer_decompose, hw], by rw [outer_decompose]; exact hl, ?_⟩
  intro q hq
  obtain ⟨c, rfl⟩ : ∃ c, q = divide d.secondaryStart d.secondaryEnd c := by
    simp only [decompose, Decomposition.chunks, List.map_map, List.mem_append, List.mem_map,
      Function.comp_apply, List.mem_singleton] at hq
    obtain ⟨m, -, rfl⟩ | rfl := hq
    · exact ⟨m.chunk, rfl⟩
    · exact ⟨_, rfl⟩
  exact (divide_leftmost ..).1

variable {d text}

namespace Decomposition

variable {D : Decomposition}

/-- The outer level is the division of the text by the primary markers, whatever the secondary ones
are. -/
lemma Of.outer_eq (h : D.Of d text) : D.outer d = divide d.primaryStart d.primaryEnd text :=
  (divide_eq_iff.2 ⟨h.primary, h.written⟩).symm

/-- A chunk is the division of its own text. -/
lemma Of.chunk_eq (h : D.Of d text) {q : Division} (hq : q ∈ D.chunks) :
    divide d.secondaryStart d.secondaryEnd (q.write d.secondaryStart d.secondaryEnd) = q :=
  divide_eq_iff.2 ⟨h.secondary q hq, rfl⟩

/-- **Decompositions are unique.**  A text has exactly one decomposition. -/
theorem of_iff : D.Of d text ↔ D = decompose d text := by
  constructor
  · intro h
    have hmarked : D.marked = (decompose d text).marked := by
      rw [decompose, ← h.outer_eq, outer, List.map_map]
      refine (List.map_id _).symm.trans (List.map_congr_left fun p hp => ?_)
      have hq : p.1 ∈ D.chunks := List.mem_append_left _ (List.mem_map_of_mem hp)
      exact Prod.ext (h.chunk_eq hq).symm rfl
    have hlast : D.last = (decompose d text).last := by
      rw [decompose, ← h.outer_eq, outer]
      exact (h.chunk_eq (List.mem_append_right _ List.mem_cons_self)).symm
    obtain ⟨marked, last⟩ := D
    obtain ⟨rfl, rfl⟩ := And.intro hmarked hlast
    rfl
  · rintro rfl
    exact decompose_of d text

end Decomposition

/-! ## The scanner finds the pieces of the decomposition -/

/-- Dropping the empty literals leaves the literal of a text, if it has one. -/
lemma filter_literal (text : List Char) :
    [Piece.literal text].filter (· ≠ .literal []) = Piece.literals text := by
  cases text <;> simp [Piece.literals]

/-- A chunk gives the pieces of its division. -/
lemma filter_allPieces (q : Division) :
    q.allPieces.filter (· ≠ .literal []) = q.pieces Piece.literals true := by
  obtain ⟨marked, last⟩ := q
  simp only [Division.allPieces, Division.pieces, List.filter_append, List.filter_flatMap,
    filter_literal]
  refine congrArg (· ++ _) (congrArg (fun f => List.flatMap f marked) (funext fun m => ?_))
  rw [← filter_literal, ← List.singleton_append, List.filter_append]
  simp

lemma pieces_decompose : (decompose d text).pieces = d.pieces text := by
  have h : (decompose d text).allPieces.filter (· ≠ .literal []) = d.scan text := by
    simp only [Decomposition.allPieces, decompose, Delimiters.scan, Division.pieces,
      Delimiters.chunkPieces, List.filter_append, List.filter_flatMap, List.flatMap_map,
      filter_allPieces]
    simp
  cases hscan : d.scan text <;> simp only [Decomposition.pieces, Delimiters.pieces, h, hscan]

/-! ## Where expressions stand in a decomposition -/

namespace Piece

/-- The source of a primary expression. -/
def primary? : Piece → Option (List Char)
  | expression source false => some source
  | _ => none

/-- The source of a deferred expression. -/
def deferred? : Piece → Option (List Char)
  | expression source true => some source
  | _ => none

end Piece

namespace Division

/-- The chunks of a division as texts. -/
def texts (q : Division) : List (List Char) := q.marked.map (·.chunk) ++ [q.last]

lemma filterMap_primary_allPieces (q : Division) : q.allPieces.filterMap Piece.primary? = [] := by
  simp [allPieces, Piece.primary?, List.filterMap_flatMap]

lemma filterMap_deferred_allPieces (q : Division) :
    q.allPieces.filterMap Piece.deferred? = q.marked.map (·.source) := by
  simp [allPieces, Piece.deferred?, List.filterMap_flatMap, List.filterMap_cons,
    List.map_eq_flatMap]

/-- A source stands between its markers in the text of the division. -/
lemma source_infix_write {start stop : Marker} {q : Division} {m : Marked} (hm : m ∈ q.marked) :
    start.chars ++ m.source ++ stop.chars <:+: q.write start stop := by
  obtain ⟨before, after, h⟩ := List.append_of_mem hm
  rw [write, h]
  refine ⟨before.flatMap (fun m => m.chunk ++ start.chars ++ (m.source ++ stop.chars)) ++ m.chunk,
    after.flatMap (fun m => m.chunk ++ start.chars ++ (m.source ++ stop.chars)) ++ q.last, ?_⟩
  simp

end Division

namespace Decomposition

variable {d : Delimiters} {D : Decomposition}

/-- Where empty literals count for nothing it makes no difference that they are dropped. -/
lemma filterMap_pieces {α : Type} {f : Piece → Option α} (hf : f (.literal []) = none) :
    D.pieces.filterMap f = D.allPieces.filterMap f := by
  have h : (D.allPieces.filter (· ≠ .literal [])).filterMap f = D.allPieces.filterMap f := by
    rw [List.filterMap_filter]
    refine List.filterMap_congr fun p _ => ?_
    by_cases hp : p = .literal []
    · simp [hp, hf]
    · simp [hp]
  rw [← h, pieces]
  split
  · next hnil => rw [hnil]; exact List.filterMap_cons_none hf
  · rfl

/-- The primary expressions are the sources of the outer division, in order. -/
lemma primary_pieces :
    D.pieces.filterMap Piece.primary? = (D.outer d).marked.map (·.source) := by
  rw [filterMap_pieces rfl]
  have hsources : D.allPieces.filterMap Piece.primary? = D.marked.flatMap fun p => [p.2] := by
    simp [allPieces, Division.filterMap_primary_allPieces, List.filterMap_flatMap,
      Piece.primary?]
  rw [hsources, outer, List.map_map]
  exact List.map_eq_flatMap.symm

/-- A deferred expression stands with its markers in one chunk of the outer division. -/
lemma deferred_pieces {source : List Char} (h : .expression source true ∈ D.pieces) :
    ∃ c ∈ (D.outer d).texts,
      d.secondaryStart.chars ++ source ++ d.secondaryEnd.chars <:+: c := by
  have hmem : source ∈ D.allPieces.filterMap Piece.deferred? := by
    rw [← filterMap_pieces rfl]
    exact List.mem_filterMap.2 ⟨_, h, rfl⟩
  obtain ⟨q, hq, m, hm, rfl⟩ : ∃ q ∈ D.chunks, ∃ m ∈ q.marked, m.source = source := by
    simpa [allPieces, chunks, Division.filterMap_deferred_allPieces, List.filterMap_flatMap,
      Piece.deferred?, or_and_right, exists_or] using hmem
  refine ⟨_, ?_, Division.source_infix_write hm⟩
  simp only [Division.texts, outer, chunks, List.map_map, List.mem_append, List.mem_map,
    List.mem_singleton] at hq ⊢
  obtain ⟨p, hp, rfl⟩ | rfl := hq
  · exact Or.inl ⟨p, hp, rfl⟩
  · exact Or.inr rfl

end Decomposition

/-! ## Pieces written one after the other -/

namespace Delimiters

variable (d)

@[simp] lemma write_append (ps qs : List Piece) : d.write (ps ++ qs) = d.write ps ++ d.write qs :=
  List.flatMap_append

lemma write_literals (text : List Char) : d.write (Piece.literals text) = text := by
  cases text <;> simp [Piece.literals, write, writePiece]

/-- The pieces of a division write its text, if the pieces of its chunks write theirs. -/
lemma write_divisionPieces {start stop : Marker} {chunk : List Char → List Piece} {deferred : Bool}
    (hchunk : ∀ c, d.write (chunk c) = c)
    (hexpr : ∀ x, d.writePiece (.expression x deferred) = start.chars ++ x ++ stop.chars)
    (q : Division) : d.write (q.pieces chunk deferred) = q.write start stop := by
  obtain ⟨marked, last⟩ := q
  simp only [Division.pieces, Division.write, write_append, hchunk]
  refine congrArg (· ++ _) ?_
  rw [write, List.flatMap_assoc]
  refine congrArg (fun f => List.flatMap f marked) (funext fun m => ?_)
  have hone : d.write [.expression m.source deferred] = start.chars ++ m.source ++ stop.chars := by
    simp [write, hexpr]
  calc (chunk m.chunk ++ [Piece.expression m.source deferred]).flatMap d.writePiece
      = d.write (chunk m.chunk) ++ d.write [.expression m.source deferred] :=
        d.write_append ..
    _ = m.chunk ++ start.chars ++ (m.source ++ stop.chars) := by rw [hchunk, hone]; simp

lemma write_chunkPieces (chunk : List Char) : d.write (d.chunkPieces chunk) = chunk := by
  rw [chunkPieces, d.write_divisionPieces d.write_literals fun _ => rfl]
  exact (divide_leftmost ..).2

lemma write_scan (text : List Char) : d.write (d.scan text) = text := by
  rw [scan, d.write_divisionPieces d.write_chunkPieces fun _ => rfl]
  exact (divide_leftmost ..).2

/-- **Nothing is lost.**  The pieces of a text, written one after the other, are the text. -/
theorem write_pieces (text : List Char) : d.write (d.pieces text) = text := by
  have h := d.write_scan text
  rw [pieces]
  split
  · next hnil => rw [hnil] at h; simpa [write, writePiece] using h
  · exact h

lemma pieces_ne_nil (text : List Char) : d.pieces text ≠ [] := by
  rw [pieces]
  split
  · simp
  · next h => exact h

/-- An expression is written with at least one character. -/
lemma length_writePiece_pos (source : List Char) (deferred : Bool) :
    0 < (d.writePiece (.expression source deferred)).length := by
  have h₁ := List.length_pos_iff.2 d.primaryStart.nonempty
  have h₂ := List.length_pos_iff.2 d.secondaryStart.nonempty
  cases deferred <;> simp only [writePiece, List.length_append] <;> omega

end Delimiters

/-! ## Literals are never neighbours -/

/-- Of two neighbours at least one is an expression. -/
def Separated (ps : List Piece) : Prop :=
  ps.IsChain fun p q => p.isExpression ∨ q.isExpression

/-- An expression separates whatever stands on its two sides. -/
lemma Separated.append_expression {ps qs : List Piece} {source : List Char} {deferred : Bool}
    (hp : Separated ps) (hq : Separated qs) :
    Separated (ps ++ [.expression source deferred] ++ qs) := by
  refine List.IsChain.append (hp.append (.singleton _) ?_) hq ?_
  · intro p _ q hq
    simp only [List.head?_cons, Option.mem_def, Option.some.injEq] at hq
    exact Or.inr (hq ▸ rfl)
  · intro p hp q _
    simp only [List.getLast?_append, List.getLast?_singleton, Option.mem_def, Option.some_or,
      Option.some.injEq] at hp
    exact Or.inl (hp ▸ rfl)

lemma separated_divisionPieces {chunk : List Char → List Piece} {deferred : Bool}
    (hchunk : ∀ c, Separated (chunk c)) (q : Division) :
    Separated (q.pieces chunk deferred) := by
  obtain ⟨marked, last⟩ := q
  induction marked with
  | nil => simpa [Division.pieces] using hchunk last
  | cons m ms ih =>
    simp only [Division.pieces, List.flatMap_cons, List.append_assoc] at ih ⊢
    rw [← List.append_assoc]
    exact (hchunk m.chunk).append_expression ih

namespace Delimiters

variable (d)

lemma separated_scan (text : List Char) : Separated (d.scan text) := by
  refine separated_divisionPieces (fun c => separated_divisionPieces (fun c => ?_) _) _
  cases c
  · exact .nil
  · exact .singleton _

/-- **No two literals are neighbours.** -/
theorem pieces_separated (text : List Char) : Separated (d.pieces text) := by
  rw [pieces]
  split
  · exact .singleton _
  · exact d.separated_scan text

lemma literal_nil_not_mem_scan (text : List Char) : Piece.literal [] ∉ d.scan text := by
  have hlit : ∀ c, Piece.literal [] ∉ Piece.literals c := by
    intro c
    cases c <;> simp [Piece.literals]
  simp [scan, chunkPieces, Division.pieces, hlit]

/-- An empty literal stands alone, and only for the empty text. -/
theorem literal_nil_mem_pieces_iff (text : List Char) :
    Piece.literal [] ∈ d.pieces text ↔ text = [] ∧ d.pieces text = [.literal []] := by
  refine ⟨fun h => ?_, fun h => by simp [h.2]⟩
  have hw := d.write_scan text
  rw [pieces] at h ⊢
  split at h
  · next hnil => rw [hnil] at hw; exact ⟨hw.symm, rfl⟩
  · exact absurd h (d.literal_nil_not_mem_scan text)

end Delimiters

end Interpolation
