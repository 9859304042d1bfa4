import Mathlib.Data.List.Induction
import Interpolation.Engine
import Interpolation.Proofs.Evaluation.Outcome

/-!
# Paths

A path is a name with attributes and items behind it.  Its keys are constants, whichever way they
are written: a key of which the constant is computed when the source is compiled is as good as one
that is written out.  Nothing else of a path can be computed ahead, because a name has no value yet,
so what a compile makes of it is the same path with its keys written out.

All of this holds as well if slices stand among the steps, whose bounds are constants.  A path with
slices is called a selection, and what is shown for selections holds for paths.

* `Key`, `Lookup`, `Path` — paths, apart from how their keys are written.
* `Bound`, `Part`, `Selection` — the same with slices.
* `Expr.IsPath`, `Expr.IsSelection` — an expression is a path, or a selection.
* `Expr.IsSelection.prepared` — a selection is prepared to itself, for every environment.
* **`Expression.compile_selection`** — a source that is a selection has a compiled expression, which
  asks for one name.
-/

namespace Interpolation

open Text

/-! ## Paths -/

/-- A constant key: a text, or an integer of as many digits as are written. -/
inductive Key where
  | text (s : String)
  | whole (n : Int) (written : exceedsDigits n = false)

namespace Key

/-- What the key is as a value. -/
def content : Key → Content
  | text s => .str s
  | whole n _ => .int n

/-- The value of the key. -/
def value (k : Key) : Value := .constant k.content

/-- The key as an expression. -/
def expr (k : Key) : Expr := .literal (.atom k.content)

/-- The expression amounts to the key, which is found out when the expression is compiled. -/
def Of (k : Key) (e : Expr) : Prop := ∀ environment, e.folded environment = .ok k.expr

end Key

/-- A step from a value to a part of it. -/
inductive Lookup where
  | attr (name : String)
  | item (key : Key)

namespace Lookup

/-- The step behind an expression. -/
def onto (e : Expr) : Lookup → Expr
  | .attr n => .attribute e n
  | .item k => .item e k.expr

end Lookup

/-- A name with steps behind it. -/
structure Path where
  /-- The name. -/
  name : String
  /-- The steps from left to right. -/
  lookups : List Lookup

namespace Path

/-- The path with one more step. -/
def extend (p : Path) (k : Lookup) : Path := ⟨p.name, p.lookups ++ [k]⟩

/-- The path as an expression, with its keys written out. -/
def expr (p : Path) : Expr := p.lookups.foldl Lookup.onto (.name p.name)

end Path

/-- The expression is the path. -/
inductive Expr.IsPath : Expr → Path → Prop
  | name (n : String) : IsPath (.name n) ⟨n, []⟩
  | attr {e : Expr} {p : Path} (h : IsPath e p) (n : String) :
    IsPath (.attribute e n) (p.extend (.attr n))
  | item {e key : Expr} {p : Path} {k : Key} (h : IsPath e p) (hkey : k.Of key) :
    IsPath (.item e key) (p.extend (.item k))

/-! ## Selections -/

/-- A bound of a slice: nothing, or an integer of as many digits as are written. -/
inductive Bound where
  | nothing
  | whole (n : Int) (written : exceedsDigits n = false)

namespace Bound

/-- What the bound is as a value. -/
def content : Bound → Content
  | nothing => .none
  | whole n _ => .int n

/-- The value of the bound. -/
def value (b : Bound) : Value := .constant b.content

/-- The bound as an expression. -/
def expr (b : Bound) : Expr := .literal (.atom b.content)

/-- The expression amounts to the bound, which is found out when the expression is compiled. -/
def Of (b : Bound) (e : Expr) : Prop := ∀ environment, e.folded environment = .ok b.expr

end Bound

/-- The bounds of a slice and the distance between its items. -/
structure Bounds where
  /-- Where the slice begins. -/
  start : Bound
  /-- Where it ends. -/
  stop : Bound
  /-- The distance between its items. -/
  step : Bound

/-- A step from a value to a part of it, or to a slice of it. -/
inductive Part where
  | lookup (k : Lookup)
  | slice (b : Bounds)

/-- The step behind an expression. -/
def Part.onto (e : Expr) : Part → Expr
  | lookup k => k.onto e
  | slice b => .slice e b.start.expr b.stop.expr b.step.expr

/-- A name with steps and slices behind it. -/
structure Selection where
  /-- The name. -/
  name : String
  /-- The steps and slices from left to right. -/
  parts : List Part

namespace Selection

/-- The selection with one more step. -/
def extend (p : Selection) (k : Part) : Selection := ⟨p.name, p.parts ++ [k]⟩

/-- The selection as an expression, with its keys and bounds written out. -/
def expr (p : Selection) : Expr := p.parts.foldl Part.onto (.name p.name)

lemma expr_extend (p : Selection) (k : Part) : (p.extend k).expr = k.onto p.expr := by
  simp [expr, extend, List.foldl_append]

end Selection

/-- The expression is the selection. -/
inductive Expr.IsSelection : Expr → Selection → Prop
  | name (n : String) : IsSelection (.name n) ⟨n, []⟩
  | attr {e : Expr} {p : Selection} (h : IsSelection e p) (n : String) :
    IsSelection (.attribute e n) (p.extend (.lookup (.attr n)))
  | item {e key : Expr} {p : Selection} {k : Key} (h : IsSelection e p) (hkey : k.Of key) :
    IsSelection (.item e key) (p.extend (.lookup (.item k)))
  | slice {e start stop step : Expr} {p : Selection} {b : Bounds} (h : IsSelection e p)
    (hstart : b.start.Of start) (hstop : b.stop.Of stop) (hstep : b.step.Of step) :
    IsSelection (.slice e start stop step) (p.extend (.slice b))

/-- A path as a selection without slices. -/
def Path.selection (p : Path) : Selection := ⟨p.name, p.lookups.map .lookup⟩

lemma Path.expr_selection (p : Path) : p.selection.expr = p.expr := by
  rw [Selection.expr, selection, List.foldl_map]
  rfl

lemma Path.selection_extend (p : Path) (k : Lookup) :
    (p.extend k).selection = p.selection.extend (.lookup k) := by
  simp [selection, extend, Selection.extend]

lemma Expr.IsPath.isSelection {e : Expr} {p : Path} (h : e.IsPath p) :
    e.IsSelection p.selection := by
  induction h with
  | name n => exact .name n
  | attr h n ih => exact Path.selection_extend .. ▸ .attr ih n
  | item h hkey ih => exact Path.selection_extend .. ▸ .item ih hkey

/-! ## What is computed ahead -/

/-- A value that is kept is what it was. -/
lemma Building.content_keep (v : Value) (s : Store) :
    ((keep v).run s).1.content = v.content := by
  rw [keep]
  split
  · split <;> rfl
  · rfl

/-- A constant that can be written is not refused. -/
lemma Expr.settled_literal {d : Datum} (h : d.hasLongInteger = false) (names : List String) :
    settled names false (literal d) = .ok (literal d) := by
  rw [settled, requireWritten, h]
  rfl

namespace Key

/-- A key that is written out. -/
lemma of_expr (k : Key) : k.Of k.expr := fun _ => rfl

lemma settled_expr (k : Key) (names : List String) :
    Expr.settled names false k.expr = .ok k.expr := by
  refine Expr.settled_literal ?_ names
  cases k with
  | text s => rfl
  | whole n written => exact written

end Key

namespace Bound

/-- A bound that is written out. -/
lemma of_expr (b : Bound) : b.Of b.expr := fun _ => rfl

lemma settled_expr (b : Bound) (names : List String) :
    Expr.settled names false b.expr = .ok b.expr := by
  refine Expr.settled_literal ?_ names
  cases b with
  | nothing => rfl
  | whole n written => exact written

end Bound

namespace Selection

variable (p : Selection)

/-- What holds of a name without steps, and is carried over to one more step, holds of a
selection. -/
lemma parts_induction {P : Selection → Prop} (hname : P ⟨p.name, []⟩)
    (hstep : ∀ (q : Selection) (k : Part), P q → P (q.extend k)) : P p := by
  obtain ⟨n, parts⟩ := p
  change P ⟨n, []⟩ at hname
  induction parts using List.reverseRecOn with
  | nil => exact hname
  | append_singleton parts k ih => exact hstep ⟨n, parts⟩ k ih

lemma expr_induction {P : Expr → Prop} (hname : P (.name p.name))
    (hstep : ∀ (e : Expr) (k : Part), P e → P (k.onto e)) : P p.expr := by
  refine p.parts_induction (P := fun q => P q.expr) hname fun q k ih => ?_
  rw [expr_extend]
  exact hstep _ k ih

/-- A selection has no value without a context. -/
lemma constantly_expr (s : Setting) : ∀ store, ∃ after,
    (s.constantly p.expr).Ends store (.ok none) after [] := by
  refine p.expr_induction (P := fun e => ∀ store, ∃ after,
    (s.constantly e).Ends store (.ok none) after []) (fun store => ⟨store, .pure none store⟩) ?_
  have hconstant : ∀ (c : Content) (store : Store), ∃ v after,
      (s.constantly (.literal (.atom c))).Ends store (.ok (some v)) after [] := fun c store =>
    ⟨_, _, (Eval.Ends.build (Datum.atom c).load store).andThen (.pure _ _)⟩
  intro e k ih store
  obtain ⟨after, he⟩ := ih store
  cases k with
  | lookup k =>
    cases k with
    | attr n => exact ⟨after, .orElse (he.andThen (.pure none after))⟩
    | item k =>
      obtain ⟨v, σ, hkey⟩ := hconstant k.content after
      exact ⟨σ, .orElse (he.andThen (hkey.andThen (.pure none σ)))⟩
  | slice b =>
    obtain ⟨u, σ, hstart⟩ := hconstant b.start.content after
    obtain ⟨v, τ, hstop⟩ := hconstant b.stop.content σ
    obtain ⟨w, υ, hstep⟩ := hconstant b.step.content τ
    exact ⟨υ, .orElse (he.andThen (hstart.andThen (hstop.andThen
      (hstep.andThen (.pure none υ)))))⟩

lemma reduced_expr (environment : Environment) : p.expr.reduced environment = .ok p.expr := by
  obtain ⟨after, h⟩ := p.constantly_expr (environment.setting .empty) .empty
  have hnone : p.expr.constant? environment = .ok none := by
    rw [Expr.constant?, Eval.runOn_fst, Eval.outcome_bind_ok (h [])]
    rfl
  rw [Expr.reduced, hnone]
  rfl

/-- A selection that is walked through for something that steps, slices and constants are not gives
what its name gives. -/
lemma fold_expr {α : Type} {f : α → Expr → α} (hstep : ∀ a e k, f a (Part.onto e k) = a)
    (hconstant : ∀ a d, f a (.literal d) = a) (a : α) :
    p.expr.fold f a = f a (.name p.name) := by
  refine p.expr_induction (P := fun e => e.fold f a = f a (.name p.name)) rfl fun e k ih => ?_
  have hself := hstep a e k
  cases k with
  | lookup k =>
    cases k with
    | attr n =>
      rw [Part.onto, Lookup.onto, Expr.fold]
      exact (congrArg (fun a => e.fold f a) hself).trans ih
    | item k =>
      rw [Part.onto, Lookup.onto, Expr.fold, Key.expr, Expr.fold, hconstant]
      exact (congrArg (fun a => e.fold f a) hself).trans ih
  | slice b =>
    rw [Part.onto, Expr.fold, Bound.expr, Bound.expr, Bound.expr, Expr.fold, Expr.fold, Expr.fold,
      hconstant, hconstant, hconstant]
    exact (congrArg (fun a => e.fold f a) hself).trans ih

/-- The name is the only one that occurs in the selection. -/
lemma names_expr : p.expr.names = [p.name] :=
  p.fold_expr (fun _ _ k => by rcases k with (_ | _) | _ <;> rfl) (fun _ _ => rfl) []

lemma requireForm_expr (line : Nat) : p.expr.requireForm line = .ok () := by
  have hslice : p.expr.hasSliceKey = false :=
    p.fold_expr (fun _ _ k => by rcases k with (_ | _) | _ <;> rfl) (fun _ _ => rfl) false
  have hfault : p.expr.argumentFault? = none :=
    p.fold_expr (fun found _ k => by rcases k with (_ | _) | _ <;> cases found <;> rfl)
      (fun found _ => by cases found <;> rfl) none
  rw [Expr.requireForm, hslice, hfault]
  rfl

/-- A selection with its keys and bounds written out is evaluated as it stands, if its name stands in
its own place. -/
lemma settled_expr {names : List String} (hplace : Expr.holder? names p.name = some p.name) :
    Expr.settled names false p.expr = .ok p.expr := by
  have hname : Expr.settled names false (.name p.name) = .ok (.name p.name) := by
    rw [Expr.settled, Expr.inPlace, if_pos hplace]
    rfl
  refine p.expr_induction (P := fun e => Expr.settled names false e = .ok e) hname fun e k ih => ?_
  cases k with
  | lookup k =>
    cases k with
    | attr n =>
      rw [Part.onto, Lookup.onto, Expr.settled, ih]
      rfl
    | item k =>
      rw [Part.onto, Lookup.onto, Expr.settled, ih, k.settled_expr]
      rfl
  | slice b =>
    rw [Part.onto, Expr.settled, ih, b.start.settled_expr, b.stop.settled_expr,
      b.step.settled_expr]
    rfl

end Selection

namespace Expr.IsSelection

variable {e : Expr} {p : Selection}

/-- The keys and bounds of a selection are computed, and nothing else is. -/
lemma folded (h : e.IsSelection p) (environment : Environment) :
    e.folded environment = .ok p.expr := by
  have hreduced := fun (q : Selection) k => (q.extend k).reduced_expr environment
  simp only [Selection.expr_extend] at hreduced
  induction h with
  | name n => rfl
  | @attr e p h n ih =>
    rw [Selection.expr_extend, Expr.folded, ih]
    exact hreduced p (.lookup (.attr n))
  | @item e key p k h hkey ih =>
    rw [Selection.expr_extend, Expr.folded, ih, hkey]
    exact hreduced p (.lookup (.item k))
  | @slice e start stop step p b h hstart hstop hstep ih =>
    rw [Selection.expr_extend, Expr.folded, ih, hstart, hstop, hstep]
    exact hreduced p (.slice b)

/-- **A selection is prepared to itself**, with its keys and bounds written out, if its name stands in
its own place. -/
theorem prepared (h : e.IsSelection p) (hplace : Expr.holder? e.names p.name = some p.name)
    (environment : Environment) : e.prepared environment = .ok p.expr := by
  have hassembled : Expr.assembled e.names environment e = .ok p.expr := by
    have hfolded : (do Expr.settled e.names false (← Expr.ofConstant (e.folded environment))) =
        .ok p.expr := by
      rw [h.folded]
      exact p.settled_expr hplace
    generalize e.names = names at hfolded ⊢
    cases h <;> exact hfolded
  rw [Expr.prepared, hassembled]
  show (do Expr.requireForm e.preparedLine p.expr; pure p.expr) = _
  rw [p.requireForm_expr]
  rfl

end Expr.IsSelection

/-! ## Compiled paths -/

/-- The source is the path, with blanks at its ends or without, and its name stands in its own place
(`Expr.holder?`). So the name is not the word `result` in letters of other shapes, whose place the
answer of the expression takes; and if a key that is computed ahead has a name of the same normal
form, that name does not take the place. -/
def Path.WrittenAs (p : Path) (source : String) : Prop :=
  ∃ e, Expr.ofSource (strip source.toList) = .ok e ∧ e.IsPath p ∧
    Expr.holder? e.names p.name = some p.name

/-- A name with one attribute. -/
lemma Path.writtenAs_attribute : WrittenAs ⟨"x", [.attr "y"]⟩ "x.y" := by
  have hread : Expr.ofSource (strip "x.y".toList) = .ok (.attribute (.name "x") "y") := by
    set_option maxRecDepth 2000 in rfl
  exact ⟨_, hread, .attr (.name "x") "y", by decide⟩

/-- The source is the selection, with blanks at its ends or without; as for paths, its name stands in
its own place. -/
def Selection.WrittenAs (p : Selection) (source : String) : Prop :=
  ∃ e, Expr.ofSource (strip source.toList) = .ok e ∧ e.IsSelection p ∧
    Expr.holder? e.names p.name = some p.name

lemma Path.WrittenAs.selection {p : Path} {source : String} (h : p.WrittenAs source) :
    p.selection.WrittenAs source :=
  h.imp fun _ h => ⟨h.1, h.2.1.isSelection, h.2.2⟩

/-- **A source that is a selection has a compiled expression**, for every environment, and it is the
selection with its keys and bounds written out. -/
theorem Expression.compile_selection {p : Selection} {source : String} (h : p.WrittenAs source)
    (environment : Environment) (resolving logging : Bool) :
    compile environment resolving logging source =
      .ok ⟨source, some p.expr, environment, resolving, logging⟩ := by
  obtain ⟨e, hsource, hselection, hplace⟩ := h
  have hparse : parse environment source.toList = .ok (some p.expr) := by
    cases hstrip : strip source.toList with
    | nil =>
      rw [hstrip] at hsource
      cases hsource
    | cons c cs =>
      rw [hstrip] at hsource
      simp only [parse, hstrip, hsource]
      exact congrArg (Except.map some) (hselection.prepared hplace environment)
  rw [compile, hparse]
  rfl

end Interpolation
