import Interpolation.Proofs.Paths.Finding
import Interpolation.Proofs.Paths.Loading

/-!
# The answer of a path

The only name of a path gets its value from the context, unless every context has it, and the steps
go on from there.  A compiled path amounts to what is found in this way, with or without futures on
the way.

* `Store.naming` — the store in which a name has its value.
* `Path.Finds` — what a path finds there, and `Path.exists_finds`, that it finds something.
* `Setting.eval_finds` — what an evaluation comes to.
* **`Expression.OfPath.outcome_finds`** — what a compiled path amounts to, and
  `Expression.OfPath.answer`, its answer in a context.
-/

namespace Interpolation

/-! ## Names -/

namespace Store

/-- What a name stands for: the value it was given, or else what every context has. -/
def valueOf? (σ : Store) (n : String) : Option Value :=
  (σ.bound.lookup n).or ((globalNames.lookup n).map fun g => .ofContent (.global g))

/-- The store in which a name was given the value that entries have for it, unless it had one. -/
def naming (σ : Store) (entries : List (Datum × Datum)) (n : String) : Store :=
  match σ.bound.lookup n, Datum.valueOf? entries n with
  | none, some d =>
    { (d.load.run σ).2 with bound := (d.load.run σ).2.bound ++ [(n, (d.load.run σ).1)] }
  | _, _ => σ

end Store

lemma Store.commons_naming (σ : Store) (entries : List (Datum × Datum)) (n : String) :
    (σ.naming entries n).commons = σ.commons := by
  rw [naming]
  split
  · next d _ _ => exact (Datum.addsOnly_load d).commons σ
  · rfl

/-- Entries whose keys are texts, but not `self`. -/
structure Datum.NamesOnly (entries : List (Datum × Datum)) : Prop where
  texts : ∀ entry ∈ entries, entry.1.text?.isSome
  free : valueOf? entries "self" = none

/-- The names of the entries. -/
structure Context.NamesOf (entries : List (Datum × Datum)) (names : List (String × Datum)) :
    Prop where
  free : names.lookup "self" = none
  lookup : ∀ n, names.lookup n = Datum.valueOf? entries n

lemma Datum.NamesOnly.ofDatum {entries : List (Datum × Datum)} (h : NamesOnly entries) :
    ∃ names, Context.NamesOf entries names ∧
      Context.ofDatum (.dict entries) = pure (.mapping names) := by
  obtain ⟨names, hnames, hlookup⟩ := Context.lookup_namesOf? h.texts
  refine ⟨names, ⟨(hlookup "self").trans h.free, hlookup⟩, ?_⟩
  rw [Context.ofDatum, hnames]

lemma Building.run_forM_singleton {α : Type} (f : α → Building Unit) {a : α} {s s' : Store}
    (h : (f a).run s = ((), s')) : ([a].forM f).run s = ((), s') := by
  show (f a >>= fun _ => pure ()).run s = _
  rw [StateT.run_bind, h]
  rfl

/-- One name is given its value. -/
lemma Context.bind_ends {entries : List (Datum × Datum)} {names : List (String × Datum)}
    (h : NamesOf entries names) (s : Setting) (n : String) (σ : Store) :
    ((mapping names).bind s [n]).Ends σ (.ok ()) (σ.naming entries n) [] := by
  have hfound : (mapping names).found s = (pure names : Eval _) := by
    rw [found, requireFree, h.free]
    rfl
  rw [bind, hfound, pure_bind]
  refine Eval.Ends.of_run (Building.run_forM_singleton _ ?_)
  simp only [h.lookup, Store.naming]
  cases Datum.valueOf? entries n with
  | none => cases σ.bound.lookup n <;> rfl
  | some d =>
    simp only [bindName, StateT.run_bind, StateT.run_get, pure_bind]
    cases σ.bound.lookup n <;> rfl

/-- What a name is evaluated to. -/
lemma Setting.name_ends (s : Setting) {n : String} (hn : n ≠ "self") (σ : Store) :
    Eval.Ends (liftM (s.name n)) σ (.ok ((σ.valueOf? n).getD (s.missing (.name n)))) σ [] := by
  refine Eval.Ends.of_run ?_
  simp only [name, nameAs, unbound, if_neg hn, Store.valueOf?, StateT.run_bind, StateT.run_get, pure_bind]
  cases σ.bound.lookup n <;> cases globalNames.lookup n <;> rfl

variable {f : Value → Value} {R : Region} {σ τ : Store}

/-- What a name stands for is the datum of an entry. -/
lemma Datum.exists_mem_of_valueOf? {entries : List (Datum × Datum)} {n : String} {d : Datum}
    (h : valueOf? entries n = some d) : ∃ k, (k, d) ∈ entries := by
  obtain ⟨e, he, rfl⟩ := Option.map_eq_some_iff.1 h
  exact ⟨e.1, List.mem_reverse.1 (List.mem_of_find?_eq_some he)⟩

/-- The value that a name is given is ordinary if the data of the entries are, and so is the
store. -/
lemma Store.Ordinary.naming (hσ : (σ.mapValues f).Ordinary R) (hf : Replaces f)
    {entries : List (Datum × Datum)} (h : ∀ e ∈ entries, e.2.Ordinary f R) (n : String) :
    ((σ.naming entries n).mapValues f).Ordinary R := by
  rw [Store.naming]
  split
  · next d _ hd =>
    obtain ⟨k, hmem⟩ := Datum.exists_mem_of_valueOf? hd
    obtain ⟨hv, hload, -⟩ := Datum.lays_load hf (h _ hmem) σ hσ
    refine ⟨hload.beyond, hload.first, hload.cells, fun b hb => ?_⟩
    rw [Store.mapValues, List.map_append, List.mem_append] at hb
    obtain hb | hb := hb
    · exact hload.bound b hb
    · cases List.mem_singleton.1 hb
      exact hv.ordinary
  · exact hσ

lemma Store.Ordinary.valueOf? (hσ : (σ.mapValues f).Ordinary R) (hf : Replaces f) {n : String}
    {v : Value} (h : σ.valueOf? n = some v) : (f v).Ordinary R := by
  rw [Store.valueOf?, Option.or_eq_some_iff] at h
  obtain h | ⟨-, h⟩ := h
  · obtain ⟨before, after, hbound, -⟩ := List.lookup_eq_some_iff.1 h
    refine hσ.bound (n, f v) (List.mem_map.2 ⟨(n, v), ?_, rfl⟩)
    simp [hbound]
  · obtain ⟨g, -, rfl⟩ := Option.map_eq_some_iff.1 h
    exact hf.ordinary ⟨trivial, rfl⟩

/-- That nothing was changed yet makes no difference. -/
lemma Store.Ordinary.fresh (h : (σ.mapValues f).Ordinary R) :
    (σ.fresh.mapValues f).Ordinary R := ⟨h.beyond, h.first, h.cells, h.bound⟩

namespace Path

/-- No step of the path has a name that starts with an underscore. -/
def Plain (p : Path) : Prop := ∀ k ∈ p.lookups, k.Plain

/-- What a path finds, if a value that is met counts as what `see` says; with the store afterwards
and the values that were met. -/
inductive Finds (see : Value → Except Fault Value) (p : Path) (σ : Store) :
    Find → Store → List Value → Prop
  | unnamed (h : σ.valueOf? p.name = none) : Finds see p σ (.lack (.name p.name)) σ []
  | named {v r τ met} (h : σ.valueOf? p.name = some v)
    (hsteps : Lookup.Finds see v p.lookups σ r τ met) : Finds see p σ r τ met

variable {see see' : Value → Except Fault Value} {p : Path} {r r' : Find} {met met' : List Value}
  {τ' : Store}

lemma Finds.unique (h : p.Finds see σ r τ met) (h' : p.Finds see σ r' τ' met') :
    r = r' ∧ τ = τ' ∧ met = met' := by
  cases h with
  | unnamed h =>
    cases h' with
    | unnamed => exact ⟨rfl, rfl, rfl⟩
    | named h₁ => rw [h] at h₁; cases h₁
  | named h hsteps =>
    cases h' with
    | unnamed h₁ => rw [h] at h₁; cases h₁
    | named h₁ hsteps₁ =>
      rw [h] at h₁
      cases h₁
      exact hsteps.unique hsteps₁

lemma Finds.congr (h : p.Finds see σ r τ met) (hsee : ∀ w ∈ met, see' w = see w) :
    p.Finds see' σ r τ met := by
  cases h with
  | unnamed h => exact .unnamed h
  | named h hsteps => exact .named h (hsteps.congr hsee)

/-- **A path finds something** in a store of ordinary values. -/
lemma exists_finds (hf : Replaces f) (hsee : Lookup.Sees f R see) (p : Path)
    (hσ : (σ.mapValues f).Ordinary R) :
    ∃ r τ met, p.Finds see σ r τ met ∧ ∀ w ∈ met, (f w).Ordinary R := by
  cases h : σ.valueOf? p.name with
  | none => exact ⟨_, _, _, .unnamed h, List.forall_mem_nil _⟩
  | some v =>
    obtain ⟨r, τ, met, hsteps, hmet⟩ :=
      Lookup.exists_finds hf hsee p.lookups (hσ.valueOf? hf h) hσ
    exact ⟨r, τ, met, .named h hsteps, hmet⟩

/-- What a path finds is a fault only if a value that is met is refused. -/
lemma Finds.exists_refused (h : p.Finds see σ r τ met) {e : Fault} (hr : r = .fault e) :
    ∃ w ∈ met, see w = .error e := by
  cases h with
  | unnamed => cases hr
  | named _ h => exact h.exists_refused hr

/-- What a path finds to be missing can be put into words. -/
lemma Finds.fault_of_lack {m : Missing} (h : p.Finds see σ (.lack m) τ met) :
    m.fault = .missing m := by
  generalize hr : Find.lack m = r at h
  cases h with
  | unnamed h =>
    cases hr
    rfl
  | named h hsteps => exact hsteps.fault_of_lack hr.symm

/-- Once it has found something, futures stand as before. -/
lemma Finds.commons_eq {t : Setting.Settlement} (h : p.Finds t.result σ r τ met)
    (hmet : ∀ w ∈ met, t.Steady w) : τ.commons = σ.commons := by
  cases h with
  | unnamed => rfl
  | named _ h => exact h.commons_eq hmet

/-- If values count as themselves, nothing fails. -/
lemma Finds.not_fault (h : p.Finds .ok σ r τ met) (e : Fault) : r ≠ .fault e := by
  intro hr
  obtain ⟨w, -, hw⟩ := h.exists_refused hr
  cases hw

end Path

/-- What is raised for a fault that is met on the way along a path. -/
def Path.raised (p : Path) (f : Fault) : Fault := Lookup.raised p.lookups f

/-- **An evaluation comes to what its path finds.** -/
theorem Setting.eval_finds {s : Setting} {t : Settlement} {p : Path} {r : Find} {met : List Value}
    (hs : s.SettlesBy σ.commons t) (ht : t.Still) (hself : p.name ≠ "self") (hplain : p.Plain)
    (h : p.Finds t.result σ r τ met) (hmet : ∀ w ∈ met, t.Steady w) :
    ∃ told, ((s.eval p.expr).inStream >>= s.conclude t).Ends σ
      ((r.answer s.strict).mapError p.raised) τ told := by
  have hname := s.name_ends hself σ
  have hlack : ∀ m, r = .lack m → m.fault = .missing m := by
    rintro m rfl
    exact h.fault_of_lack
  rw [eval_path]
  cases h with
  | unnamed h =>
    rw [h] at hname
    exact (walk_missing hs ht hplain (.name p.name) rfl).after hname |>.ends hlack
  | @named v _ _ _ h hsteps =>
    rw [h] at hname
    exact (walk_finds hs ht hsteps rfl hmet hplain rfl (hmet v hsteps.mem).there).after hname
      |>.ends hlack

/-! ## Compiled paths -/

/-- The expression is a compiled selection, which resolves futures behind its steps just if it does
so in between. -/
structure Expression.OfSelection (p : Selection) (x : Expression) : Prop where
  body : x.body = some p.expr
  resolving : x.environment.resolving = x.resolving

/-- The expression is a compiled path. -/
abbrev Expression.OfPath (p : Path) (x : Expression) : Prop := x.OfSelection p.selection

/-- A source that is a selection is compiled to it by every engine. -/
lemma Engine.compile_selection (g : Engine) {p : Selection} {source : String}
    (h : p.WrittenAs source) (resolving logging : Option Bool) :
    ∃ x, (g.compile source resolving logging).1 = .ok x ∧ x.OfSelection p ∧
      x.environment.strict = g.strict ∧ x.resolving = resolving.getD g.resolving := by
  rw [compile_fst, Expression.compile_selection h]
  exact ⟨_, rfl, ⟨rfl, rfl⟩, rfl, rfl⟩

/-- So is a source that is a path. -/
lemma Engine.compile_path (g : Engine) {p : Path} {source : String} (h : p.WrittenAs source)
    (resolving logging : Option Bool) :
    ∃ x, (g.compile source resolving logging).1 = .ok x ∧ x.OfPath p ∧
      x.environment.strict = g.strict ∧ x.resolving = resolving.getD g.resolving :=
  g.compile_selection h.selection resolving logging

namespace Expression

variable {x : Expression} {fs : Futures} {records : List Record} {a : Except Fault Value}
  {told : Trace} {q : Selection} {p : Path} {r : Find} {met : List Value}
  {entries : List (Datum × Datum)} {names : List (String × Datum)}

/-- What an expression amounts to, whose value is settled once more if futures are resolved. -/
lemma OfSelection.outcome_value (hx : x.OfSelection q)
    (h : (((x.setting fs).eval q.expr).inStream >>=
      (x.setting fs).conclude (x.environment.settlement (fs.now τ))).Ends σ a τ told) :
    ∃ more, (x.value fs).outcome ⟨σ, records⟩ = (a.mapError .fault, ⟨τ, records ++ more⟩) := by
  have hevaluate : x.evaluate fs = (((x.setting fs).eval q.expr).inStream >>= fun w =>
      (liftM (settle x.environment.strict w) : Eval Value)) := by
    rw [evaluate, hx.body]
  have hends := h []
  rw [value, Gate.outcome_bind, Gate.outcome_ofEval, hevaluate]
  rcases heval : ((x.setting fs).eval q.expr).inStream.outcome ⟨σ, []⟩ with ⟨f | w, m⟩
  · rw [Eval.outcome_bind_error heval] at hends ⊢
    cases hends
    exact ⟨_, rfl⟩
  rw [Eval.outcome_bind_ok heval, Setting.conclude, Eval.outcome_except] at hends
  rw [Eval.outcome_bind_ok heval, Eval.outcome_except]
  obtain ⟨ha, rfl⟩ := Prod.mk.inj hends
  have hstrict : (x.setting fs).strict = x.environment.strict := rfl
  rw [hstrict] at ha
  cases hsettle : settle x.environment.strict w with
  | error f =>
    rw [hsettle] at ha
    cases ha
    exact ⟨_, rfl⟩
  | ok u =>
    rw [hsettle] at ha
    have hresult : (x.environment.settlement (fs.now τ)).result u = a := ha
    rw [Environment.settlement, hx.resolving] at hresult
    subst hresult
    cases x.resolving with
    | false => exact ⟨_, rfl⟩
    | true =>
      simp only [if_true, resolvePending, Except.mapError]
      have hword : ((Value.str x.source).display fs.shown).run τ = .ok x.source := rfl
      rw [Gate.outcome_ofEval, fs.settling_ends x.logging hword u [], List.append_assoc]
      exact ⟨_, rfl⟩

/-- A compiled selection asks a context for its name only. -/
lemma OfSelection.outcome_bind_of_ends (hx : x.OfSelection q) {c : Context}
    (h : (c.bind (x.setting fs) [q.name]).Ends σ (.ok ()) τ []) :
    (x.bind fs c).outcome ⟨σ, records⟩ = (.ok (), ⟨τ, records⟩) := by
  have hwanted : x.names = [q.name] := by
    rw [Expression.names, hx.body]
    exact q.names_expr
  rw [bind, hx.body, hwanted]
  show (Gate.ofEval x.environment.logging (c.bind (x.setting fs) [q.name])).outcome _ = _
  rw [Gate.outcome_ofEval, h []]
  simp [Except.mapError, Gate.warnings]

lemma OfPath.outcome_bind (hx : x.OfPath p) (hnames : Context.NamesOf entries names) :
    (x.bind fs (.mapping names)).outcome ⟨σ, records⟩ =
      (.ok (), ⟨σ.naming entries p.name, records⟩) :=
  hx.outcome_bind_of_ends (Context.bind_ends hnames (x.setting fs) p.name σ)

/-- **What a compiled path amounts to** is what its path finds. -/
theorem OfPath.outcome_finds (hx : x.OfPath p) (hself : p.name ≠ "self") (hplain : p.Plain)
    (h : p.Finds (x.environment.settlement (fs.now σ)).result σ r τ met)
    (hmet : ∀ w ∈ met, (x.environment.settlement (fs.now σ)).Steady w) (records : List Record) :
    ∃ more, (x.value fs).outcome ⟨σ, records⟩ =
      ((r.answer x.environment.strict).mapError fun f => .fault (p.raised f),
        ⟨τ, records ++ more⟩) := by
  obtain ⟨told, heval⟩ := Setting.eval_finds (x.environment.settlesBy fs σ)
    (x.environment.still _) hself hplain h hmet
  rw [← p.expr_selection, ← fs.now_congr (h.commons_eq hmet)] at heval
  obtain ⟨more, hvalue⟩ : ∃ more, (x.value fs).outcome ⟨σ, records⟩ =
      (((r.answer x.environment.strict).mapError p.raised).mapError .fault,
        ⟨τ, records ++ more⟩) := hx.outcome_value heval
  refine ⟨more, hvalue.trans ?_⟩
  show (((r.answer x.environment.strict).mapError p.raised).mapError _, _) = _
  cases r.answer x.environment.strict <;> rfl

/-- So its answer in a context is what the path finds with the name of the context. -/
theorem OfPath.answer (hx : x.OfPath p) (hself : p.name ≠ "self") (hplain : p.Plain)
    (hnames : Datum.NamesOnly entries) {store : Store}
    (h : p.Finds (x.environment.settlement (fs.now store)).result
      (store.unbound.fresh.naming entries p.name) r τ met)
    (hmet : ∀ w ∈ met, (x.environment.settlement (fs.now store)).Steady w) :
    ∃ records, x.answer fs (.dict entries) store =
      ((r.answer x.environment.strict).mapError fun f => .fault (p.raised f), ⟨τ, records⟩) := by
  obtain ⟨names, hnamesOf, hcontext⟩ := hnames.ofDatum
  have hopening : Template.opening (.dict entries) store =
      (.mapping names, ⟨store.unbound.fresh, []⟩) := by
    rw [Template.opening, hcontext]
    rfl
  have hnow : fs.now store = fs.now (store.unbound.fresh.naming entries p.name) :=
    fs.now_congr (store.unbound.fresh.commons_naming entries p.name).symm
  rw [hnow] at h hmet
  obtain ⟨more, hvalue⟩ := hx.outcome_finds hself hplain h hmet []
  refine ⟨_, Eq.trans ?_ hvalue⟩
  rw [Expression.answer, hopening]
  exact Gate.outcome_bind_ok (hx.outcome_bind hnamesOf)

end Expression

end Interpolation
