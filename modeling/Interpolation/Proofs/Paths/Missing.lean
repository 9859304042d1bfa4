import Interpolation.Proofs.Paths.Answers
import Interpolation.Proofs.Trust.Approval

/-!
# What is missing, strictly and leniently

A path finds a value or finds that something is missing, and which of the two is the case has
nothing to do with how missing values are taken.  That matters only for what becomes of it: a lenient
engine answers with nothing, however many steps follow, and a strict one refuses.  In a template nothing is
written as the empty text, and a refusal is the one fault that a rendering reports.

* `Surroundings.outcome_write_nothing` — nothing is written as the empty text in every place.
* `Segment.gives_lack` — a segment of which the path finds that something is missing.
* **`Engine.missing_agree`** — strict and lenient engines agree on what is missing.
-/

namespace Interpolation

open Trust

variable {R : Region} {entries : List (Datum × Datum)} {p : Path}

/-! ## Ordinary contexts -/

/-- Without futures, a value counts as itself. -/
lemma Lookup.sees_id : Lookup.Sees id R .ok := fun _ _ _ h => (Except.ok.inj h).symm

/-- An environment that meets no future meets only what counts as itself. -/
lemma Environment.settlement_of_ordinary (e : Environment) (fs : Futures) {v : Value}
    (h : v.Ordinary R) : (e.settlement fs).result v = .ok v :=
  e.still fs v fun _ hid => freeIn_of_content hid h.free

namespace Path

variable {σ τ : Store} {r : Find} {met : List Value}

/-- What is found without futures is found in every environment. -/
lemma Finds.settled (h : p.Finds .ok σ r τ met) (hσ : (σ.mapValues id).Ordinary R)
    (e : Environment) (fs : Futures) :
    p.Finds (e.settlement fs).result σ r τ met ∧ ∀ w ∈ met, (e.settlement fs).Steady w := by
  obtain ⟨r', τ', met', h', hmet⟩ := p.exists_finds .of_id Lookup.sees_id hσ
  obtain ⟨rfl, rfl, rfl⟩ := h.unique h'
  refine ⟨h.congr fun w hw => e.settlement_of_ordinary fs (hmet w hw), fun w hw => ?_⟩
  refine (e.still fs).steady .of_id (hmet w hw) fun u hu => ?_
  exact (Except.ok.inj ((e.settlement_of_ordinary fs (hmet w hw)).symm.trans hu)).symm

end Path

/-! ## Templates -/

/-- Nothing may be used in every place, and is written as the empty text. -/
lemma Surroundings.outcome_write_nothing (s : Surroundings) (trusted : Option Category)
    (e : Environment) (w : Work) :
    ∃ u, (s.gated trusted e .none).outcome w = (.ok u, w) ∧
      (Gate.write e s.futures u).outcome w = (.ok "", w) := by
  refine ⟨.none, ?_, Gate.outcome_write_none rfl⟩
  cases trusted with
  | none => exact Gate.outcome_look_ok rfl
  | some c => rfl

/-- A segment whose path finds that something is missing has the empty text, or fails. -/
lemma Segment.gives_lack {x : Expression} (hx : x.OfPath p) (hself : p.name ≠ "self")
    (hplain : p.Plain) {names : List (String × Datum)} (hnames : Context.NamesOf entries names)
    {s : Surroundings} {w : Work} {m : Missing} {τ : Store} {met : List Value}
    (h : p.Finds (x.environment.settlement (s.futures.now w.store)).result
      (w.store.fresh.naming entries p.name) (.lack m) τ met)
    (hmet : ∀ v ∈ met, (x.environment.settlement (s.futures.now w.store)).Steady v)
    (trusted : Option Category) (deferred : Bool) :
    ∃ w', (expression x deferred).Gives s trusted (.mapping names) w
      (if x.environment.strict then .error (.fault (.missing m)) else .ok "") w' := by
  have hfault := h.fault_of_lack
  have hbind : (x.bind s.futures (.mapping names)).outcome w.fresh =
      (.ok (), ⟨w.store.fresh.naming entries p.name, w.records⟩) := hx.outcome_bind hnames
  have hnow : s.futures.now w.store = s.futures.now (w.store.fresh.naming entries p.name) :=
    s.futures.now_congr (w.store.fresh.commons_naming entries p.name).symm
  rw [hnow] at h hmet
  obtain ⟨more, hvalue⟩ := hx.outcome_finds hself hplain h hmet w.records
  rw [Find.answer, hfault] at hvalue
  have hraised : p.raised (.missing m) = .missing m := Lookup.raised_missing _ m
  cases hstrict : x.environment.strict with
  | true =>
    simp only [hstrict, if_true, Except.mapError, hraised] at hvalue
    exact ⟨_, .evaluation hbind hvalue⟩
  | false =>
    rw [hstrict] at hvalue
    obtain ⟨u, hgate, hwrite⟩ := s.outcome_write_nothing trusted x.environment _
    exact ⟨_, .coercion hbind hvalue hgate hwrite⟩

/-! ## Strict and lenient engines -/

/-- Whatever is missing is reported, if it can be put into words. -/
lemma Missing.raised?_eq_none {m : Missing} (h : m.fault = .missing m) :
    (RenderFault.fault (.missing m)).raised? = none := by
  show m.wording.fault? = none
  rw [Missing.fault] at h
  cases hm : m.wording with
  | text s => rfl
  | unwritten why =>
    rw [hm] at h
    cases why <;> cases h

/-- **Strict and lenient engines agree on what is missing.**  A source that is a path of plain steps
is evaluated in a context of names, of which the values are ordinary: they can be of any kind, but
none is a future or missing itself.  Then the path finds a value, or it finds that something is
missing: its name, or what one of its steps looks for.

Engines of both kinds, with any options, compile the source.  If a value is found, its expression
has this value.  If something is missing, it has nothing for its value, or the fault of a missing
value if the engine is strict.

In any template, a segment of the expression that is reached when something is missing has the empty
text, or it ends the rendering, which answers nothing and makes one report, of the missing value. -/
theorem Engine.missing_agree {source : String} (hsource : p.WrittenAs source)
    (hself : p.name ≠ "self") (hplain : p.Plain) (hnames : Datum.NamesOnly entries)
    (hentries : ∀ e ∈ entries, e.2.Ordinary id R) {store : Store}
    (hstore : store.unbound.Ordinary R) :
    let begun := store.unbound.fresh.naming entries p.name
    ((∃ v τ met, p.Finds .ok begun (.value v) τ met) ∨
      ∃ m τ met, p.Finds .ok begun (.lack m) τ met) ∧
    ∀ (g : Engine) (resolving logging : Option Bool) (fs : Futures), ∃ x,
      (g.compile source resolving logging).1 = .ok x ∧
      (∀ v τ met, p.Finds .ok begun (.value v) τ met →
        ∃ records, x.answer fs (.dict entries) store = (.ok v, ⟨τ, records⟩)) ∧
      (∀ m τ met, p.Finds .ok begun (.lack m) τ met →
        ∃ records, x.answer fs (.dict entries) store =
          (if g.strict then .error (.fault (.missing m)) else .ok .none, ⟨τ, records⟩)) ∧
      ∀ (t : Template) (policy : Policy) before deferred after texts w,
        t.segments = before ++ .expression x deferred :: after →
        AllGive ⟨policy, fs⟩ t.trusted (Template.opening (.dict entries) store).1 before
          (Template.opening (.dict entries) store).2 texts w →
        w.store.Ordinary R →
        ∀ m τ met, p.Finds .ok (w.store.fresh.naming entries p.name) (.lack m) τ met →
          (g.strict = false → ∃ w', Segment.Gives ⟨policy, fs⟩ t.trusted
            (Template.opening (.dict entries) store).1 (.expression x deferred) w (.ok "") w') ∧
          (g.strict = true → ∀ sink, ∃ fault : InterpolationFault, fault.text = t.source ∧
            fault.cause = .fault (.missing m) ∧ fault.cause.label = "UndefinedError" ∧
            ∃ after, t.renderTo sink ⟨policy, fs⟩ (.dict entries) store =
              (.nothing, (sink.report fault).1, after)) := by
  intro begun
  rw [← store.unbound.mapValues_id] at hstore
  have hbegun : (begun.mapValues id).Ordinary R := hstore.fresh.naming .of_id hentries p.name
  refine ⟨?_, fun g resolving logging fs => ?_⟩
  · obtain ⟨r, τ, met, h, -⟩ := p.exists_finds .of_id Lookup.sees_id hbegun
    cases r with
    | value v => exact .inl ⟨v, τ, met, h⟩
    | lack m => exact .inr ⟨m, τ, met, h⟩
    | fault e => exact absurd rfl (h.not_fault e)
  obtain ⟨x, hcompile, hx, hstrict, -⟩ := g.compile_path hsource resolving logging
  refine ⟨x, hcompile, fun v τ met h => ?_, fun m τ met h => ?_, ?_⟩
  · obtain ⟨h, hmet⟩ := h.settled hbegun x.environment (fs.now store)
    exact hx.answer hself hplain hnames h hmet
  · obtain ⟨h, hmet⟩ := h.settled hbegun x.environment (fs.now store)
    obtain ⟨records, hanswer⟩ := hx.answer hself hplain hnames h hmet
    refine ⟨records, hanswer.trans ?_⟩
    have hraised : p.raised (.missing m) = .missing m := Lookup.raised_missing _ m
    rw [Find.answer, h.fault_of_lack, hstrict]
    cases g.strict with
    | true => exact congrArg (fun f => (Except.error (RenderFault.fault f), _)) hraised
    | false => rfl
  · intro t policy before deferred after texts w hsegments hbefore hw m τ met h
    obtain ⟨names, hnamesOf, hcontext⟩ := hnames.ofDatum
    have hopening : (Template.opening (.dict entries) store).1 = .mapping names := by
      rw [Template.opening, hcontext]
      rfl
    rw [← w.store.mapValues_id] at hw
    obtain ⟨h, hmet⟩ := h.settled (hw.fresh.naming .of_id hentries p.name) x.environment
      (fs.now w.store)
    obtain ⟨w', hgives⟩ := Segment.gives_lack hx hself hplain hnamesOf (s := ⟨policy, fs⟩) h hmet
      t.trusted deferred
    rw [← hopening, hstrict] at hgives
    refine ⟨fun hg => ?_, fun hg sink => ?_⟩
    · rw [hg] at hgives
      exact ⟨w', hgives⟩
    · rw [hg] at hgives
      have hfails : FailsWith ⟨policy, fs⟩ t.trusted (Template.opening (.dict entries) store).1
          t.segments (Template.opening (.dict entries) store).2 (.fault (.missing m)) w' :=
        ⟨before, _, after, texts, w, hsegments, hbefore, hgives⟩
      have hreportable := Missing.raised?_eq_none h.fault_of_lack
      refine ⟨⟨t.source, .fault (.missing m), hreportable, store.cells.size⟩, rfl, rfl, rfl, ?_⟩
      rw [Template.renderTo, Template.render_of_reportable hfails hreportable]
      exact ⟨_, rfl⟩

/-- A step into a mapping of one entry, which is not the one that is looked for. -/
theorem Engine.missing_agree_attribute :
    let p : Path := ⟨"x", [.attr "y"]⟩
    let entries : List (Datum × Datum) :=
      [(.atom (.str "x"), .dict [(.atom (.str "z"), .atom (.int 1))])]
    let begun := Store.empty.unbound.fresh.naming entries p.name
    p.WrittenAs "x.y" ∧ p.name ≠ "self" ∧ p.Plain ∧ Datum.NamesOnly entries ∧
      (∀ e ∈ entries, e.2.Ordinary id Set.univ) ∧ Store.empty.unbound.Ordinary Set.univ ∧
      ∃ m τ met, p.Finds .ok begun (.lack m) τ met ∧ ∀ strict, ∃ x records,
        ((Engine.new strict true true).compile "x.y" none none).1 = .ok x ∧
        x.answer .empty (.dict entries) .empty =
          (if strict then .error (.fault (.missing m)) else .ok .none, ⟨τ, records⟩) := by
  intro p entries begun
  have hsource : p.WrittenAs "x.y" := Path.writtenAs_attribute
  have hplain : p.Plain := by simp [Path.Plain, p, Lookup.Plain]
  have hnames : Datum.NamesOnly entries := ⟨by decide, rfl⟩
  have hentries : ∀ e ∈ entries, e.2.Ordinary id Set.univ := List.forall_mem_singleton.2
    (.dict (List.forall_mem_singleton.2 (Datum.isKey_text "z"))
      (List.forall_mem_singleton.2 (.held ⟨trivial, rfl⟩))
      (List.forall_mem_singleton.2 (.held ⟨trivial, rfl⟩)))
  have hstore : Store.empty.unbound.Ordinary Set.univ := Store.ordinary_empty
  have hlost : ((Lookup.attr "y").find? (.ofContent (.dict ⟨1⟩))).Ends begun (.ok none) begun [] :=
    .of_outcome fun _ => rfl
  have hfinds : p.Finds .ok begun (.lack ((Lookup.attr "y").lack (.ofContent (.dict ⟨1⟩)))) begun
      [.ofContent (.dict ⟨1⟩)] := .named rfl (.lost rfl hlost)
  refine ⟨hsource, by decide, hplain, hnames, hentries, hstore, _, _, _, hfinds, fun strict => ?_⟩
  obtain ⟨-, hall⟩ := Engine.missing_agree hsource (by decide) hplain hnames hentries hstore
  obtain ⟨x, hcompile, -, hlack, -⟩ := hall (Engine.new strict true true) none none .empty
  obtain ⟨records, hanswer⟩ := hlack _ _ _ hfinds
  exact ⟨x, records, hcompile, hanswer⟩

end Interpolation
