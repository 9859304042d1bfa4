import Mathlib.Data.List.Forall2
import Interpolation.Interpolator
import Interpolation.Proofs.Scan.Decomposition

/-!
# What a text is compiled to

`Template.segmentsOf` hands an engine from piece to piece, because the engine remembers the
environments it made.  No compiled expression depends on what was made before: each piece becomes
the segment that `Engine.segment` names, and the whole is a `mapM`.

* `Template.segmentsOf_fst`, `Interpolator.compile_fst` — a compile without the engine handed on.
* **`Interpolator.compile_after_compiles`** — what was compiled before makes no difference.
* **`Interpolator.compile_eq_some_iff`** — when a text becomes a template, and which one.  Everything
  about compiled templates rests on this.
-/

namespace Interpolation

open Text

/-! ## Engines compile piece by piece -/

namespace Engine

variable {g h : Engine}

/-- Engines that differ only in the environments they have made. -/
structure Alike (g h : Engine) : Prop where
  strict : g.strict = h.strict
  resolving : g.resolving = h.resolving
  logging : g.logging = h.logging

lemma Alike.refl (g : Engine) : g.Alike g := ⟨rfl, rfl, rfl⟩

lemma Alike.symm (a : g.Alike h) : h.Alike g :=
  ⟨a.strict.symm, a.resolving.symm, a.logging.symm⟩

lemma Alike.trans {k : Engine} (h₁ : g.Alike h) (h₂ : h.Alike k) : g.Alike k :=
  ⟨h₁.strict.trans h₂.strict, h₁.resolving.trans h₂.resolving, h₁.logging.trans h₂.logging⟩

/-- The options that a piece of a text is compiled with: whether futures are resolved, and whether
that is told.  A deferred expression resolves futures and does not tell, whatever the defaults
are. -/
def optionsFor (g : Engine) (deferred : Bool) : Bool × Bool :=
  if deferred then (true, false) else (g.resolving, g.logging)

/-- The segment of a piece. -/
def segment (g : Engine) : Piece → Except SyntaxFault Segment
  | .literal text => .ok (.literal (String.ofList text))
  | .expression source deferred =>
    (g.expression (g.optionsFor deferred).1 (g.optionsFor deferred).2 (String.ofList source)).map
      (.expression · deferred)

lemma Alike.segment_eq (a : g.Alike h) : g.segment = h.segment := by
  obtain ⟨h₁, h₂, h₃⟩ := a
  funext p
  cases p <;> simp only [segment, optionsFor, expression_eq, h₁, h₂, h₃]

lemma alike_environment (resolving logging : Bool) :
    g.Alike (g.environment resolving logging).2 := by
  rw [environment]
  split <;> exact ⟨rfl, rfl, rfl⟩

lemma alike_compile (source : String) (resolving logging : Option Bool) :
    g.Alike (g.compile source resolving logging).2 := by
  rw [compile]
  split
  · exact .refl g
  · exact alike_environment ..

end Engine

namespace Template

variable {g : Engine}

lemma segmentsOf_literal (text : List Char) (ps : List Piece) :
    segmentsOf g (.literal text :: ps) =
      ((segmentsOf g ps).1.map (.literal (String.ofList text) :: ·), (segmentsOf g ps).2) := rfl

/-- An expression is compiled for its environment, and the rest by the engine as it then is. -/
lemma segmentsOf_expression (source : List Char) (deferred : Bool) (ps : List Piece) :
    ∃ g', g.Alike g' ∧ segmentsOf g (.expression source deferred :: ps) =
      match g.segment (.expression source deferred) with
      | .error f => (.error f, g')
      | .ok s => ((segmentsOf g' ps).1.map (s :: ·), (segmentsOf g' ps).2) := by
  cases deferred
  · refine ⟨_, Engine.alike_compile (String.ofList source) none none, ?_⟩
    simp only [segmentsOf, Engine.compile, Engine.segment, Engine.optionsFor, Bool.false_eq_true,
      if_false, Option.getD_none]
    cases g.expression g.resolving g.logging (String.ofList source) <;> rfl
  · refine ⟨_, Engine.alike_compile (String.ofList source) (some true) (some false), ?_⟩
    simp only [segmentsOf, Engine.compile, Engine.segment, Engine.optionsFor, if_true,
      Option.getD_some]
    cases g.expression true false (String.ofList source) <;> rfl

/-- The segments of pieces are found piece by piece, whatever environments were made before. -/
lemma segmentsOf_fst (ps : List Piece) : (segmentsOf g ps).1 = ps.mapM g.segment := by
  induction ps generalizing g with
  | nil => rfl
  | cons p ps ih =>
    rw [List.mapM_cons]
    cases p with
    | literal text =>
      rw [segmentsOf_literal, ih]
      cases ps.mapM g.segment <;> rfl
    | expression source deferred =>
      obtain ⟨g', ha, h⟩ := segmentsOf_expression (g := g) source deferred ps
      rw [h]
      cases g.segment (.expression source deferred) with
      | error f => rfl
      | ok e =>
        dsimp only
        rw [ih, ← ha.segment_eq]
        cases ps.mapM g.segment <;> rfl

/-- Compiling pieces leaves the defaults of the engine alone. -/
lemma alike_segmentsOf (ps : List Piece) : g.Alike (segmentsOf g ps).2 := by
  induction ps generalizing g with
  | nil => exact .refl g
  | cons p ps ih =>
    cases p with
    | literal text => exact ih
    | expression source deferred =>
      obtain ⟨g', ha, h⟩ := segmentsOf_expression (g := g) source deferred ps
      rw [h]
      split
      · exact ha
      · exact ha.trans ih

end Template

/-! ## When a text becomes a template -/

namespace Interpolator

variable {i j : Interpolator} {request : CompileRequest} {t : Template}

/-- The outcome of a compile: the category first, then the expressions from left to right, then what
is asked of the segments. -/
lemma compile_fst :
    (i.compile request).1 = (do
      let trusted ← Template.categoryNamed request.place
      let segments ← ((i.delimiters.pieces request.text.toList).mapM i.engine.segment).mapError
        CompileFault.malformed
      Template.assemble request trusted segments) := by
  rw [← Template.segmentsOf_fst]
  simp only [compile, Template.compile]
  cases Template.categoryNamed request.place with
  | error f => rfl
  | ok trusted =>
    dsimp only
    cases h : Template.segmentsOf i.engine (i.delimiters.pieces request.text.toList) with
    | mk result engine => cases result <;> rfl

/-- Interpolators with the same markers and defaults compile every text alike. -/
lemma compile_congr (hd : i.delimiters = j.delimiters) (he : i.engine.Alike j.engine) :
    (i.compile request).1 = (j.compile request).1 := by
  rw [compile_fst, compile_fst, hd, he.segment_eq]

/-- A compile leaves the markers and the defaults alone. -/
lemma alike_compile (request : CompileRequest) :
    (i.compile request).2.1.delimiters = i.delimiters ∧
      i.engine.Alike (i.compile request).2.1.engine := by
  refine ⟨rfl, ?_⟩
  simp only [compile, Template.compile]
  cases Template.categoryNamed request.place with
  | error f => exact .refl _
  | ok trusted =>
    have h := Template.alike_segmentsOf (g := i.engine) (i.delimiters.pieces request.text.toList)
    dsimp only
    split
    · next hs => rw [hs] at h; exact h
    · next hs => rw [hs] at h; exact h

/-- **Compiles do not disturb each other.**  After any compiles a text becomes what it would have
become before them. -/
theorem compile_after_compiles (requests : List CompileRequest) :
    ((requests.foldl (fun i r => (i.compile r).2.1) i).compile request).1 =
      (i.compile request).1 := by
  induction requests generalizing i with
  | nil => rfl
  | cons first requests ih =>
    obtain ⟨hd, he⟩ := i.alike_compile first
    rw [List.foldl_cons, ih]
    exact (compile_congr hd.symm he).symm

end Interpolator

lemma mapM_eq_ok_iff {α β ε : Type} {f : α → Except ε β} {xs : List α} {ys : List β} :
    xs.mapM f = .ok ys ↔ List.Forall₂ (fun x y => f x = .ok y) xs ys := by
  induction xs generalizing ys with
  | nil =>
    rw [List.forall₂_nil_left_iff]
    exact ⟨fun h => (Except.ok.inj h).symm, fun h => h ▸ rfl⟩
  | cons x xs ih =>
    rw [List.mapM_cons, List.forall₂_cons_left_iff]
    constructor
    · intro h
      cases hx : f x with
      | error e => rw [hx] at h; cases h
      | ok y =>
        cases hxs : xs.mapM f with
        | error e => rw [hx, hxs] at h; cases h
        | ok ys' =>
          rw [hx, hxs] at h
          cases h
          exact ⟨y, ys', rfl, ih.1 hxs, rfl⟩
    · rintro ⟨y, ys', hx, hxs, rfl⟩
      rw [hx, ih.2 hxs]
      rfl

/-- The segments that are asked for: only one with a category, and an expression if that is
wanted. -/
lemma Template.assemble_eq_some_iff {request : CompileRequest} {trusted : Option Trust.Category}
    {segments : List Segment} {t : Template} :
    assemble request trusted segments = .ok (some t) ↔
      t = ⟨request.text, segments, trusted⟩ ∧ (trusted.isSome → segments.length ≤ 1) ∧
        (request.needsExpression → t.hasExpression) := by
  rw [assemble]
  split_ifs with h₁ h₂
  · simp only [false_iff]
    rintro ⟨-, h, -⟩
    exact absurd (h h₁.1) (by omega)
  · simp only [Except.ok.injEq, reduceCtorEq, false_iff]
    rintro ⟨rfl, -, h⟩
    simp [h h₂.1] at h₂
  · simp only [Except.ok.injEq, Option.some.injEq]
    constructor
    · rintro rfl
      refine ⟨rfl, fun h => Nat.le_of_not_lt fun hlt => h₁ ⟨h, hlt⟩, fun h => ?_⟩
      simpa [h] using h₂
    · rintro ⟨rfl, -⟩
      rfl

namespace Interpolator

variable {i j : Interpolator} {request : CompileRequest} {t : Template}

/-- **When a text becomes a template, and which one.**  The category is known, every piece has its
segment, a text for a sensitive place has a single one, and there is an expression if that is
asked for. -/
theorem compile_eq_some_iff :
    (i.compile request).1 = .ok (some t) ↔
      t.source = request.text ∧ Template.categoryNamed request.place = .ok t.trusted ∧
        List.Forall₂ (fun p s => i.engine.segment p = .ok s)
          (i.delimiters.pieces request.text.toList) t.segments ∧
        (t.trusted.isSome → t.segments.length ≤ 1) ∧
        (request.needsExpression → t.hasExpression) := by
  rw [compile_fst, ← mapM_eq_ok_iff]
  cases hc : Template.categoryNamed request.place with
  | error f =>
    simp only [bind, Except.bind, reduceCtorEq, false_and, and_false]
  | ok trusted =>
    cases hs : (i.delimiters.pieces request.text.toList).mapM i.engine.segment with
    | error f =>
      simp only [bind, Except.bind, Except.mapError, reduceCtorEq, false_and, and_false]
    | ok segments =>
      simp only [bind, Except.bind, Except.mapError, Template.assemble_eq_some_iff,
        Except.ok.injEq]
      constructor
      · rintro ⟨rfl, h₁, h₂⟩
        exact ⟨rfl, rfl, rfl, h₁, h₂⟩
      · rintro ⟨hsource, rfl, rfl, h₁, h₂⟩
        exact ⟨by rw [← hsource], h₁, h₂⟩

/-- The template of a request, if there is one. -/
def template? (i : Interpolator) (request : CompileRequest) : Option Template :=
  (i.compile request).1.toOption.bind id

lemma template?_eq_some_iff :
    i.template? request = some t ↔ (i.compile request).1 = .ok (some t) := by
  rw [template?]
  rcases (i.compile request).1 with _ | _ | _ <;> simp [Except.toOption]

end Interpolator

end Interpolation
