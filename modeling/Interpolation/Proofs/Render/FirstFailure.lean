import Interpolation.Proofs.Render.Stages

/-!
# Rendering ends with the first failure

A template is rendered from left to right.  `AllGive` says that every one of a list of segments has
a text, `FailsWith` that one of them fails and all before it have a text; exactly one of the two is
the case, and each determines what the rendering answers, what it reports and what it leaves behind.

Sinks collect what is reported.  `Sink.after` runs a sink through renderings of any templates and
through clearings, and what it has collected in the end is what failed since it was last cleared.

* `allGive_or_failsWith` — one of the two is the case.
* `Template.outcome_renderAll_of_allGive`, `Template.outcome_renderAll_of_failsWith` — the fold over
  the segments in either case.
* **`Template.render_first_failure`** — one rendering, and any sequence of them.
-/

namespace Interpolation

open Trust

/-! ## Segments from left to right -/

section Segments

variable (s : Surroundings) (trusted : Option Category) (context : Context)

/-- Every segment has a text; each begins with the work that the one before it left behind. -/
inductive AllGive : List Segment → Work → List String → Work → Prop
  | nil (w : Work) : AllGive [] w [] w
  | cons {segment segments w w₁ w' text texts} (h : segment.Gives s trusted context w (.ok text) w₁)
    (hrest : AllGive segments w₁ texts w') : AllGive (segment :: segments) w (text :: texts) w'

/-- A segment fails, and all before it have a text.  The work that is left behind is the one of the
failing segment: nothing behind it is looked at. -/
def FailsWith (segments : List Segment) (w : Work) (f : RenderFault) (w' : Work) : Prop :=
  ∃ before segment after texts w₁, segments = before ++ segment :: after ∧
    AllGive s trusted context before w texts w₁ ∧ segment.Gives s trusted context w₁ (.error f) w'

end Segments

variable {s : Surroundings} {trusted : Option Category} {context : Context}

lemma FailsWith.of_head {segment : Segment} {segments : List Segment} {w w' : Work}
    {f : RenderFault} (h : segment.Gives s trusted context w (.error f) w') :
    FailsWith s trusted context (segment :: segments) w f w' :=
  ⟨[], segment, segments, [], w, rfl, .nil w, h⟩

lemma FailsWith.cons {segment : Segment} {segments : List Segment} {w w₁ w' : Work}
    {f : RenderFault} {text : String} (h : segment.Gives s trusted context w (.ok text) w₁)
    (hrest : FailsWith s trusted context segments w₁ f w') :
    FailsWith s trusted context (segment :: segments) w f w' := by
  obtain ⟨before, failing, after, texts, w₂, rfl, hbefore, hfails⟩ := hrest
  exact ⟨segment :: before, failing, after, text :: texts, w₂, rfl, .cons h hbefore, hfails⟩

/-- Segments either all have their texts, or there is a first one that fails. -/
lemma allGive_or_failsWith (s : Surroundings) (trusted : Option Category) (context : Context)
    (segments : List Segment) (w : Work) :
    (∃ texts w', AllGive s trusted context segments w texts w') ∨
      ∃ f w', FailsWith s trusted context segments w f w' := by
  induction segments generalizing w with
  | nil => exact Or.inl ⟨[], w, .nil w⟩
  | cons segment segments ih =>
    rcases h : (segment.render s trusted context).outcome w with ⟨f | text, w₁⟩
    · exact Or.inr ⟨f, w₁, .of_head (Segment.gives_iff.2 h)⟩
    · obtain ⟨texts, w', hall⟩ | ⟨f, w', hfails⟩ := ih w₁
      · exact Or.inl ⟨text :: texts, w', .cons (Segment.gives_iff.2 h) hall⟩
      · exact Or.inr ⟨f, w', .cons (Segment.gives_iff.2 h) hfails⟩

lemma Rendered.text?_eq_some_iff {answer : Rendered} {text : String} :
    answer.text? = some text ↔ answer = .text text := by
  cases answer <;> simp [text?]

namespace Rendering

variable {text : String} {before : Nat} {cause : RenderFault} {f : Fault}

lemma ofFault_of_none (h : cause.raised? = none) :
    ofFault text before cause = .reported ⟨text, cause, h, before⟩ := by
  unfold ofFault
  split
  · next hf => rw [h] at hf; cases hf
  · rfl

lemma ofFault_of_some (h : cause.raised? = some f) : ofFault text before cause = .raised f := by
  unfold ofFault
  split
  · next hf => rw [h] at hf; cases hf; rfl
  · next hf => rw [h] at hf; cases hf

end Rendering

namespace Template

/-- One step of the fold, in which the segment has a text. -/
lemma outcome_renderAll_cons {segment : Segment} {segments : List Segment} {w w₁ : Work}
    {text : String} (h : segment.Gives s trusted context w (.ok text) w₁) :
    (renderAll s trusted context (segment :: segments)).outcome w =
      match (renderAll s trusted context segments).outcome w₁ with
      | (.ok rest, w') => (.ok (text ++ rest), w')
      | (.error f, w') => (.error f, w') := by
  rw [renderAll, Gate.outcome_bind_ok (Segment.gives_iff.1 h), Gate.outcome_bind]
  rcases (renderAll s trusted context segments).outcome w₁ with ⟨_ | _, _⟩ <;> rfl

/-- The fold puts the texts together. -/
lemma outcome_renderAll_of_allGive {segments : List Segment} {w w' : Work} {texts : List String}
    (h : AllGive s trusted context segments w texts w') :
    (renderAll s trusted context segments).outcome w = (.ok (String.join texts), w') := by
  induction h with
  | nil w => rfl
  | cons hgives _ ih => rw [outcome_renderAll_cons hgives, ih, String.join_cons]

/-- The fold ends with the first failure, and what came before it is dropped. -/
lemma outcome_renderAll_of_failsWith {segments : List Segment} {w w' : Work} {f : RenderFault}
    (h : FailsWith s trusted context segments w f w') :
    (renderAll s trusted context segments).outcome w = (.error f, w') := by
  obtain ⟨before, segment, after, texts, w₁, rfl, hbefore, hfails⟩ := h
  induction hbefore with
  | nil w => rw [List.nil_append, renderAll, Gate.outcome_bind_error (Segment.gives_iff.1 hfails)]
  | cons hgives _ ih => rw [List.cons_append, outcome_renderAll_cons hgives, ih hfails]

/-! ## Whole templates -/

/-- The context and the work with which the first segment begins. -/
def opening (context : Datum) (store : Store) : Context × Work :=
  let (c, store) := Context.ofDatum context store.unbound.fresh
  (c, ⟨store, []⟩)

/-- The work that a rendering leaves behind, which its last segment left as `done`. -/
def closing (store : Store) (done : Work) : Work :=
  { done with store := (store.unbound.settled store.cells.size done.store).unbound }

/-- A rendering is the fold over the segments between its opening and its closing. -/
lemma render_eq (t : Template) (s : Surroundings) (context : Datum) (store : Store) :
    t.render s context store =
      let r := (renderAll s t.trusted (opening context store).1 t.segments).outcome
        (opening context store).2
      (.ofResult t.source store.cells.size r.1, closing store r.2) := by
  have hbuild : (Gate.build (Context.ofDatum context)).outcome (Work.fresh ⟨store.unbound, []⟩) =
      (.ok (opening context store).1, (opening context store).2) := rfl
  have hrun : (t.rendering s context).outcome ⟨store.unbound, []⟩ = _ :=
    Gate.outcome_settled_ok (Gate.outcome_pure () _)
  rw [Gate.outcome_bind_ok hbuild] at hrun
  show (let r := (t.rendering s context).outcome ⟨store.unbound, []⟩; _) = _
  rw [hrun]
  rfl

variable {t : Template} {context : Datum} {store : Store} {w : Work}

lemma render_of_allGive {texts : List String}
    (h : AllGive s t.trusted (opening context store).1 t.segments (opening context store).2
      texts w) :
    t.render s context store = (.text (String.join texts), closing store w) := by
  rw [render_eq, outcome_renderAll_of_allGive h]
  rfl

lemma render_of_failsWith {f : RenderFault}
    (h : FailsWith s t.trusted (opening context store).1 t.segments (opening context store).2 f w) :
    t.render s context store = (.ofFault t.source store.cells.size f, closing store w) := by
  rw [render_eq, outcome_renderAll_of_failsWith h]
  rfl

/-- A failure is reported unless something is raised in its place. -/
lemma render_of_reportable {f : RenderFault}
    (h : FailsWith s t.trusted (opening context store).1 t.segments (opening context store).2 f w)
    (hf : f.raised? = none) :
    t.render s context store =
      (.reported ⟨t.source, f, hf, store.cells.size⟩, closing store w) := by
  rw [render_of_failsWith h, Rendering.ofFault_of_none hf]

lemma render_of_raised {f : RenderFault} {e : Fault}
    (h : FailsWith s t.trusted (opening context store).1 t.segments (opening context store).2 f w)
    (hf : f.raised? = some e) : t.render s context store = (.raised e, closing store w) := by
  rw [render_of_failsWith h, Rendering.ofFault_of_some hf]

/-- A rendering has a text exactly when all segments have theirs. -/
lemma renderTo_eq_text_iff {sink : Sink} {text : String} :
    (t.renderTo sink s context store).1 = .text text ↔
      ∃ texts w, AllGive s t.trusted (opening context store).1 t.segments
        (opening context store).2 texts w ∧ text = String.join texts := by
  constructor
  · intro h
    obtain hall | ⟨f, w, hfails⟩ := allGive_or_failsWith s t.trusted (opening context store).1
      t.segments (opening context store).2
    · obtain ⟨texts, w, hall⟩ := hall
      rw [renderTo, render_of_allGive hall, Rendered.text.injEq] at h
      exact ⟨texts, w, hall, h.symm⟩
    · cases hf : f.raised? with
      | none =>
        rw [renderTo, render_of_reportable hfails hf] at h
        cases h
      | some e =>
        rw [renderTo, render_of_raised hfails hf] at h
        cases h
  · rintro ⟨texts, w, hall, rfl⟩
    rw [renderTo, render_of_allGive hall]

end Template

/-! ## Sequences of renderings -/

/-- What can happen to a sink: a template is rendered into it, or it is cleared. -/
inductive SinkUse where
  | render (t : Template) (s : Surroundings) (context : Datum) (store : Store)
  | clear

/-- The fault to be reported that a rendering ends with. -/
def Rendering.fault? : Rendering → Option InterpolationFault
  | reported f => some f
  | text _ | raised _ => none

/-- The fault that is reported for a template that was rendered. -/
def SinkUse.fault? : SinkUse → Option InterpolationFault
  | .render t s context store => (t.render s context store).1.fault?
  | .clear => none

namespace Sink

/-- The sink after a use. -/
def use (sink : Sink) : SinkUse → Sink
  | .render t s context store => (t.renderTo sink s context store).2.1
  | .clear => sink.clear

/-- The sink after uses one after the other. -/
def after (sink : Sink) (uses : List SinkUse) : Sink := uses.foldl use sink

/-- One rendering adds the fault that it ends with, if there is one. -/
lemma use_collecting {use : SinkUse} (h : use ≠ .clear) (faults : List InterpolationFault) :
    (collecting faults).use use = collecting (faults ++ use.fault?.toList) := by
  cases use with
  | clear => exact absurd rfl h
  | render t s context store =>
    rw [Sink.use, Template.renderTo, SinkUse.fault?]
    rcases t.render s context store with ⟨_ | _ | _, _⟩
    · simp [Rendering.fault?]
    · rfl
    · simp [Rendering.fault?]

lemma after_collecting {uses : List SinkUse} (h : .clear ∉ uses)
    (faults : List InterpolationFault) :
    (collecting faults).after uses = collecting (faults ++ uses.filterMap SinkUse.fault?) := by
  induction uses generalizing faults with
  | nil => simp [after]
  | cons use uses ih =>
    rw [List.mem_cons, not_or] at h
    obtain ⟨hne, hrest⟩ := h
    have hstep : (collecting faults).after (use :: uses) =
        ((collecting faults).use use).after uses := rfl
    rw [hstep, use_collecting (Ne.symm hne), ih hrest]
    cases hf : use.fault? <;> simp [hf]

/-- A collecting sink stays one. -/
lemma exists_after_collecting (uses : List SinkUse) (faults : List InterpolationFault) :
    ∃ collected, (collecting faults).after uses = collecting collected := by
  induction uses generalizing faults with
  | nil => exact ⟨faults, rfl⟩
  | cons use uses ih =>
    cases use with
    | clear => exact ih []
    | render t s context store =>
      have hne : SinkUse.render t s context store ≠ .clear := nofun
      have hstep := use_collecting hne faults
      show ∃ _, ((collecting faults).use (.render t s context store)).after uses = _
      rw [hstep]
      exact ih _

end Sink

/-- **Rendering ends with the first failure.**  If all segments have texts, a rendering answers with
the texts put together and the sink stays as it is.  Otherwise there is a first segment that failed,
and its fault decides.  If nothing is raised in the place of a report on it, the rendering answers
that there is nothing, and the sink gets one report, which names the text of the template and the
fault.  If something is raised, because the fault passes those who handle faults or because its
wording cannot be put together, the rendering raises it and the sink stays as it is.  In both cases
the work left behind is that of the failing segment.

A collecting sink holds, after any uses, the faults that were reported since it was last cleared, in
order. -/
theorem Template.render_first_failure (t : Template) (sink : Sink) (s : Surroundings)
    (context : Datum) (store : Store) :
    (∀ texts w, AllGive s t.trusted (opening context store).1 t.segments
        (opening context store).2 texts w →
      t.renderTo sink s context store = (.text (String.join texts), sink, closing store w) ∧
        (SinkUse.render t s context store).fault? = none) ∧
    (∀ f w, FailsWith s t.trusted (opening context store).1 t.segments
        (opening context store).2 f w →
      (f.raised? = none → ∃ fault : InterpolationFault,
        fault.text = t.source ∧ fault.cause = f ∧
        (SinkUse.render t s context store).fault? = some fault ∧
        t.renderTo sink s context store = (.nothing, (sink.report fault).1,
          { closing store w with records := w.records ++ (sink.report fault).2 })) ∧
      (∀ e, f.raised? = some e →
        t.renderTo sink s context store = (.raised e, sink, closing store w) ∧
        (SinkUse.render t s context store).fault? = none)) ∧
    ((∃ texts w, AllGive s t.trusted (opening context store).1 t.segments
        (opening context store).2 texts w) ∨
      ∃ f w, FailsWith s t.trusted (opening context store).1 t.segments
        (opening context store).2 f w) ∧
    (∀ (uses : List SinkUse) (faults : List InterpolationFault), .clear ∉ uses →
      (Sink.collecting faults).after uses =
        .collecting (faults ++ uses.filterMap SinkUse.fault?)) ∧
    ∀ (before uses : List SinkUse) (faults : List InterpolationFault), .clear ∉ uses →
      (Sink.collecting faults).after (before ++ .clear :: uses) =
        .collecting (uses.filterMap SinkUse.fault?) := by
  refine ⟨?_, ?_, ?_, ?_, ?_⟩
  · intro texts w h
    rw [renderTo, SinkUse.fault?, render_of_allGive h]
    exact ⟨rfl, rfl⟩
  · refine fun f w h => ⟨fun hf => ?_, fun e hf => ?_⟩
    · refine ⟨⟨t.source, f, hf, store.cells.size⟩, rfl, rfl, ?_, ?_⟩
      · rw [SinkUse.fault?, render_of_reportable h hf]
        rfl
      · rw [renderTo, render_of_reportable h hf]
        rfl
    · rw [renderTo, SinkUse.fault?, render_of_raised h hf]
      exact ⟨rfl, rfl⟩
  · exact allGive_or_failsWith ..
  · intro uses faults h
    exact Sink.after_collecting h faults
  · intro before uses faults h
    obtain ⟨collected, hbefore⟩ := Sink.exists_after_collecting before faults
    have hclear : (Sink.collecting faults).after (before ++ .clear :: uses) =
        (((Sink.collecting faults).after before).use .clear).after uses := by
      simp [Sink.after, List.foldl_append]
    rw [hclear, hbefore]
    exact Sink.after_collecting h []

/-- The words of a key that has too many digits cannot be written, so no report can be made. -/
example : ((Engine.new false false false).compile "\x7b\x7d.pop(a**5000)" none none).1.toOption.map
    (fun e => (Template.renderTo ⟨"", [.expression e false], none⟩ (.collecting [])
      ⟨⟨[]⟩, .empty⟩ (.dict [(.atom (.str "a"), .atom (.int 10))]) .empty).1) =
    some (.raised .digitLimit) := by
  decide +kernel

end Interpolation
