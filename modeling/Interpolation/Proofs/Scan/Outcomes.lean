import Interpolation.Proofs.Scan.Segments
import Interpolation.Proofs.Session.Steps

/-!
# The outcomes of a compile

A compile has five outcomes, and more than one may be due at once: the category may be unknown, a
source malformed, the text put together from several parts, an expression missing, and otherwise
there is a template.  `Interpolator.Ends` lists them in the order in which they count, each with
what must not be the case for it.

A source is the first that is malformed when every piece before it has its segment.  Pieces stand in
the order of the text, whichever markers they stand between, so this is the first one of the text.

* `mapM_eq_error_iff` — a traversal fails with its first failure.
* `Delimiters.exists_expression_of_length` — several pieces are never all literals.
* `Interpolator.ends_iff` — a compile ends as listed.
* **`Interpolator.compile_outcome`** — the outcomes, with what they leave unchanged.
-/

namespace Interpolation

open Trust

/-- A traversal fails with the fault of the first element that has one. -/
lemma mapM_eq_error_iff {α β ε : Type} {f : α → Except ε β} {xs : List α} {e : ε} :
    xs.mapM f = .error e ↔
      ∃ before x after, xs = before ++ x :: after ∧ (∀ b ∈ before, ∃ y, f b = .ok y) ∧
        f x = .error e := by
  induction xs with
  | nil =>
    constructor
    · rintro ⟨⟩
    · rintro ⟨before, x, after, h, -⟩
      simp at h
  | cons x xs ih =>
    rw [List.mapM_cons]
    cases hx : f x with
    | error e' =>
      constructor
      · rintro ⟨⟩
        exact ⟨[], x, xs, rfl, by simp, hx⟩
      · rintro ⟨before, y, after, h, hbefore, hy⟩
        cases before with
        | nil =>
          cases h
          cases hx.symm.trans hy
          rfl
        | cons b before =>
          cases h
          obtain ⟨y, hy⟩ := hbefore x List.mem_cons_self
          cases hx.symm.trans hy
    | ok y =>
      -- the element has a value, so the failure lies behind it
      have htail : (do let y ← Except.ok y; let ys ← xs.mapM f; pure (y :: ys)) = .error e ↔
          xs.mapM f = .error e := by
        cases xs.mapM f <;> simp [bind, Except.bind, pure, Except.pure]
      rw [htail, ih]
      constructor
      · rintro ⟨before, z, after, rfl, hbefore, hz⟩
        exact ⟨x :: before, z, after, rfl, List.forall_mem_cons.2 ⟨⟨y, hx⟩, hbefore⟩, hz⟩
      · rintro ⟨before, z, after, h, hbefore, hz⟩
        cases before with
        | nil =>
          cases h
          cases hx.symm.trans hz
        | cons b before =>
          cases h
          exact ⟨before, z, after, rfl, (List.forall_mem_cons.1 hbefore).2, hz⟩

/-! ## Several pieces -/

namespace Delimiters

variable {d : Delimiters} {text : List Char}

/-- **Several pieces are never all literals**: of the first two at least one is an expression. -/
theorem exists_expression_of_length (h : 1 < (d.pieces text).length) :
    ∃ p ∈ d.pieces text, p.isExpression = true := by
  have hsep := d.pieces_separated text
  match hp : d.pieces text with
  | [] | [_] =>
    rw [hp] at h
    simp at h
  | p :: q :: rest =>
    rw [hp, Separated, List.isChain_cons_cons] at hsep
    obtain hexpression | hexpression := hsep.1
    · exact ⟨p, by simp, hexpression⟩
    · exact ⟨q, by simp, hexpression⟩

/-- A piece stands in the text behind what the pieces before it write. -/
lemma text_of_pieces {before after : List Piece} {p : Piece}
    (h : d.pieces text = before ++ p :: after) :
    text = d.write before ++ (d.writePiece p ++ d.write after) := by
  rw [← d.write_pieces text, h, write_append]
  rfl

end Delimiters

/-! ## How a compile ends -/

namespace Template

/-- The category of a place is unknown when the place has a name, and no category has it. -/
lemma categoryNamed_eq_error_iff {place : Option String} {f : CompileFault} :
    categoryNamed place = .error f ↔
      ∃ name, place = some name ∧ name ≠ "" ∧ Category.ofName? name = none ∧
        f = .unknownCategory name := by
  unfold categoryNamed
  split
  · simp
  · simp
  · next name hname =>
    cases hc : Category.ofName? name with
    | some c => simp [hc]
    | none => simpa [hc, eq_comm] using fun _ => hname

end Template

namespace Interpolator

section Ends

variable (i : Interpolator) (request : CompileRequest)

/-- The pieces of the text that is compiled. -/
def piecesOf : List Piece := i.delimiters.pieces request.text.toList

/-- The ends of a compile. -/
inductive Ends : Except CompileFault (Option Template) → Prop
  /-- The place has a name, and there is no category of that name. -/
  | unknownCategory {name : String} (hplace : request.place = some name) (hname : name ≠ "")
    (h : Category.ofName? name = none) : Ends (.error (.unknownCategory name))
  /-- A source is malformed, and every one before it is not. -/
  | malformed {trusted before source deferred after f}
    (hplace : Template.categoryNamed request.place = .ok trusted)
    (hpieces : i.piecesOf request = before ++ .expression source deferred :: after)
    (hbefore : ∀ p ∈ before, ∃ s, i.engine.segment p = .ok s)
    (h : i.engine.segment (.expression source deferred) = .error f) : Ends (.error (.malformed f))
  /-- The output is for a sensitive place and there are several pieces. -/
  | concatenation {c : Category} (hplace : Template.categoryNamed request.place = .ok (some c))
    (hpieces : ∀ p ∈ i.piecesOf request, ∃ s, i.engine.segment p = .ok s)
    (h : 2 ≤ (i.piecesOf request).length) : Ends (.error (.concatenation request.text))
  /-- An expression is needed and there is none. -/
  | useless {trusted} (hplace : Template.categoryNamed request.place = .ok trusted)
    (hpieces : ∀ p ∈ i.piecesOf request, ∃ s, i.engine.segment p = .ok s)
    (hsingle : trusted.isSome → (i.piecesOf request).length < 2)
    (hneeded : request.needsExpression = true)
    (h : ¬ ∃ p ∈ i.piecesOf request, p.isExpression = true) : Ends (.ok none)
  /-- Nothing stands against a template. -/
  | template {t : Template} (hsource : t.source = request.text)
    (hplace : Template.categoryNamed request.place = .ok t.trusted)
    (hsegments : List.Forall₂ (fun p s => i.engine.segment p = .ok s) (i.piecesOf request)
      t.segments)
    (hsingle : t.trusted.isSome → (i.piecesOf request).length < 2)
    (h : request.needsExpression = true → ∃ p ∈ i.piecesOf request, p.isExpression = true) :
    Ends (.ok (some t))

end Ends

variable {i : Interpolator} {request : CompileRequest}

/-- Only expressions are malformed. -/
lemma exists_source_of_segment {g : Engine} {p : Piece} {f : SyntaxFault}
    (h : g.segment p = .error f) : ∃ source deferred, p = .expression source deferred := by
  cases p with
  | literal text => cases h
  | expression source deferred => exact ⟨source, deferred, rfl⟩

/-- Segments that are put together end a compile in one of the last three ways. -/
lemma ends_assemble {trusted : Option Category} {segments : List Segment}
    (hplace : Template.categoryNamed request.place = .ok trusted)
    (hsegments : List.Forall₂ (fun p s => i.engine.segment p = .ok s) (i.piecesOf request)
      segments) :
    i.Ends request (Template.assemble request trusted segments) := by
  have hany := Engine.any_expression_iff hsegments
  have hlength := hsegments.length_eq
  rw [Template.assemble]
  split_ifs with hseveral hneeded
  · obtain ⟨c, rfl⟩ := Option.isSome_iff_exists.1 hseveral.1
    exact .concatenation hplace (Engine.exists_segment hsegments) (by omega)
  · refine .useless hplace (Engine.exists_segment hsegments) (fun hc => ?_) hneeded.1 fun hp => ?_
    · exact Nat.lt_of_not_le fun hle => hseveral ⟨hc, by omega⟩
    · simp [Template.hasExpression, hany.2 hp] at hneeded
  · refine .template rfl hplace hsegments (fun hc => ?_) fun hn => ?_
    · exact Nat.lt_of_not_le fun hle => hseveral ⟨hc, by omega⟩
    · refine hany.1 (Bool.of_not_eq_false fun hnone => hneeded ⟨hn, ?_⟩)
      simp only [Template.hasExpression, hnone, Bool.not_false]

/-- Once all pieces have their segments, a compile puts them together. -/
lemma compile_of_segments {trusted : Option Category} {segments : List Segment}
    (hplace : Template.categoryNamed request.place = .ok trusted)
    (hsegments : List.Forall₂ (fun p s => i.engine.segment p = .ok s) (i.piecesOf request)
      segments) :
    (i.compile request).1 = Template.assemble request trusted segments := by
  rw [piecesOf, ← mapM_eq_ok_iff] at hsegments
  rw [compile_fst, hplace, hsegments]
  rfl

/-- The outcome of a compile is one of those that are listed. -/
lemma ends_compile (i : Interpolator) (request : CompileRequest) :
    i.Ends request (i.compile request).1 := by
  rw [compile_fst]
  cases hplace : Template.categoryNamed request.place with
  | error f =>
    obtain ⟨name, hsome, hname, hc, rfl⟩ := Template.categoryNamed_eq_error_iff.1 hplace
    exact .unknownCategory hsome hname hc
  | ok trusted =>
    cases hsegments : (i.delimiters.pieces request.text.toList).mapM i.engine.segment with
    | error f =>
      obtain ⟨before, p, after, hpieces, hbefore, hp⟩ := mapM_eq_error_iff.1 hsegments
      obtain ⟨source, deferred, rfl⟩ := exists_source_of_segment hp
      exact .malformed hplace hpieces hbefore hp
    | ok segments => exact ends_assemble hplace (mapM_eq_ok_iff.1 hsegments)

/-- An outcome that is listed is the one of the compile. -/
lemma compile_of_ends {r : Except CompileFault (Option Template)} (h : i.Ends request r) :
    (i.compile request).1 = r := by
  cases h with
  | unknownCategory hplace hname h =>
    rw [compile_fst, Template.categoryNamed_eq_error_iff.2 ⟨_, hplace, hname, h, rfl⟩]
    rfl
  | malformed hplace hpieces hbefore h =>
    have hfails := mapM_eq_error_iff.2 ⟨_, _, _, hpieces, hbefore, h⟩
    rw [piecesOf] at hfails
    rw [compile_fst, hplace, hfails]
    rfl
  | concatenation hplace hpieces h =>
    obtain ⟨segments, hsegments⟩ := Engine.exists_segments hpieces
    rw [compile_of_segments hplace hsegments, Template.assemble, if_pos]
    exact ⟨rfl, hsegments.length_eq ▸ h⟩
  | useless hplace hpieces hsingle hneeded h =>
    obtain ⟨segments, hsegments⟩ := Engine.exists_segments hpieces
    have hnone := mt (Engine.any_expression_iff hsegments).1 h
    rw [compile_of_segments hplace hsegments, Template.assemble, if_neg, if_pos]
    · simpa [Template.hasExpression, hneeded] using hnone
    · rintro ⟨hc, hlength⟩
      exact absurd (hsegments.length_eq ▸ hsingle hc) (by omega)
  | template hsource hplace hsegments hsingle h =>
    refine compile_eq_some_iff.2 ⟨hsource, hplace, hsegments, fun hc => ?_, fun hn => ?_⟩
    · have hlength := hsingle hc
      rw [hsegments.length_eq] at hlength
      omega
    · exact (Engine.any_expression_iff hsegments).2 (h hn)

/-- **A compile ends as listed**, and as nothing else. -/
theorem ends_iff {r : Except CompileFault (Option Template)} :
    i.Ends request r ↔ (i.compile request).1 = r :=
  ⟨compile_of_ends, fun h => h ▸ ends_compile i request⟩

/-- A place without a category is refused before the text is looked at. -/
lemma compile_unknownCategory {name : String} (hplace : request.place = some name)
    (hname : name ≠ "") (h : Category.ofName? name = none) :
    i.compile request = (.error (.unknownCategory name), i, []) := by
  have hc := Template.categoryNamed_eq_error_iff.2 ⟨name, hplace, hname, h, rfl⟩
  simp only [compile, Template.compile, hc]

/-- Only a template is told about. -/
lemma records_compile (h : ∀ t, (i.compile request).1 ≠ .ok (some t)) :
    (i.compile request).2.2 = [] := by
  rw [compile] at h ⊢
  dsimp only at h ⊢
  split
  · next t ht => exact absurd ht (h t)
  · rfl

/-- **Which outcome a compile has.**  It ends as listed in `Ends`, where the ends come in the order
in which they count: an unknown category, whatever the text is, before anything is scanned; the
first malformed source, which is the first one of the text since pieces stand in its order; several
pieces for a sensitive place, of which one is always an expression; no expression where one is
needed; and a template, which has an expression exactly when a piece is one.  The markers, the
defaults of the engine and the allowed resources are left as they were, so is the sink of a session,
and where there is no template, nothing is told either. -/
theorem compile_outcome (i : Interpolator) (request : CompileRequest) :
    (∀ r, i.Ends request r ↔ (i.compile request).1 = r) ∧
    (∀ name, request.place = some name → name ≠ "" → Category.ofName? name = none → ∀ text,
      i.compile { request with text := text } = (.error (.unknownCategory name), i, [])) ∧
    (∀ before p after, i.piecesOf request = before ++ p :: after →
      request.text.toList =
        i.delimiters.write before ++ (i.delimiters.writePiece p ++ i.delimiters.write after)) ∧
    (2 ≤ (i.piecesOf request).length → ∃ p ∈ i.piecesOf request, p.isExpression = true) ∧
    (∀ t, (i.compile request).1 = .ok (some t) →
      (t.hasExpression = true ↔ ∃ p ∈ i.piecesOf request, p.isExpression = true)) ∧
    ((i.compile request).2.1.delimiters = i.delimiters ∧
      i.engine.Alike (i.compile request).2.1.engine ∧
      (i.compile request).2.1.policy = i.policy ∧
      ((∀ t, (i.compile request).1 ≠ .ok (some t)) → (i.compile request).2.2 = [])) ∧
    ∀ (s : Session) (id : String), s.made = some i →
      (s.step (.compile id request)).2.1.sink = s.sink ∧
        (s.step (.compile id request)).2.1.delimiters = s.delimiters := by
  refine ⟨fun r => ends_iff, fun name hplace hname h text => ?_, fun before p after h => ?_,
    fun h => ?_, fun t ht => ?_, ⟨rfl, (alike_compile request).2, rfl, records_compile⟩,
    fun s id hs => ?_⟩
  · exact compile_unknownCategory hplace hname h
  · exact Delimiters.text_of_pieces h
  · exact Delimiters.exists_expression_of_length h
  · obtain ⟨-, -, hsegments, -⟩ := compile_eq_some_iff.1 ht
    exact Engine.any_expression_iff hsegments
  · obtain ⟨templates, count, hsession, -⟩ := Session.step_compile hs id request
    rw [hsession]
    exact ⟨rfl, rfl⟩

end Interpolator

end Interpolation
