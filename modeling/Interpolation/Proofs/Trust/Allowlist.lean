import Interpolation.Proofs.Session.Isolation
import Interpolation.Proofs.Trust.Approval
import Interpolation.Proofs.Trust.Pattern

/-!
# Lists of allowed resources

A list is searched from its beginning, and the first entry that does not answer no decides: it
accepts the URL, or it cannot tell because the authority of the URL is refused.  So an entry that
cannot tell hides those behind it, and the order of the entries matters.  What is appended comes too
late for a URL on which the list has decided already, and can only change an answer that was no.

From this follows what appending does to renderings.  All templates of a session share its list.  A
rendering that has a text passed the gate with what the list said then, and passes it again; one
that was refused because of a URL may pass later, also with a template from before.

* `Policy.Accepts` — an entry accepts a URL.
* `Policy.someAccepts_eq_iff`, `Policy.someAccepts_append` — the first entry that does not answer no
  decides, and stays the first one.
* `Surroundings.gated_allowing`, `AllGive.allowing` — what had a text has it again.
* `Session.AllowsMore.answer` — a rendering that had a text answers the same.
* **`Session.allowlist_decides`** — the decisions of a list, and what appending changes.
-/

namespace Interpolation

open Trust

namespace Policy

variable {url entry : String} {entries : List String} {f : AuthorityFault}

/-- An entry accepts a URL: the word for the page itself accepts those with neither a scheme nor an
authority, and a pattern those that it matches. -/
inductive Accepts (url : String) : String → Prop
  | relative {u : Url} (h : Url.ofText url.toList = .ok u) (hscheme : u.scheme = [])
    (hauthority : u.authority = []) : Accepts url self
  | pattern {entry : String} (hself : entry ≠ self) (h : globMatches entry url = true) :
    Accepts url entry

/-! ## Single entries -/

lemma entryAccepts_eq_true_iff : entryAccepts entry url = .ok true ↔ Accepts url entry := by
  rw [entryAccepts]
  split_ifs with hself
  · subst hself
    constructor
    · intro h
      cases hu : Url.ofText url.toList with
      | error f => rw [hu] at h; cases h
      | ok u =>
        rw [hu] at h
        have hrelative : u.isRelative = true := Except.ok.inj h
        rw [Url.isRelative, Bool.and_eq_true, List.isEmpty_iff, List.isEmpty_iff] at hrelative
        exact .relative hu hrelative.1 hrelative.2
    · rintro (⟨hu, hscheme, hauthority⟩ | ⟨hself, -⟩)
      · rw [hu]
        show (Except.ok (Url.isRelative _) : Except AuthorityFault Bool) = _
        rw [Url.isRelative, hscheme, hauthority]
        rfl
      · exact absurd rfl hself
  · rw [Except.ok.injEq]
    constructor
    · exact .pattern hself
    · rintro (_ | ⟨-, h⟩)
      · exact absurd rfl hself
      · exact h

/-- Only the word for the page itself can be unable to tell, and it is so for every URL whose
authority is refused. -/
lemma entryAccepts_eq_error_iff :
    entryAccepts entry url = .error f ↔ entry = self ∧ Url.ofText url.toList = .error f := by
  rw [entryAccepts]
  split_ifs with hself
  · rw [and_iff_right hself]
    cases Url.ofText url.toList with
    | error g =>
      constructor
      · rintro ⟨⟩
        rfl
      · rintro ⟨⟩
        rfl
    | ok u => constructor <;> rintro ⟨⟩
  · simp only [hself, false_and]

lemma entryAccepts_eq_false_iff :
    entryAccepts entry url = .ok false ↔
      ¬ Accepts url entry ∧ ∀ f, Url.ofText url.toList = .error f → entry ≠ self := by
  rw [← entryAccepts_eq_true_iff]
  have herror := fun f => @entryAccepts_eq_error_iff url entry f
  rcases h : entryAccepts entry url with f | _ | _
  · rw [h] at herror
    obtain ⟨hself, hf⟩ := (herror f).1 rfl
    exact iff_of_false (by simp) fun h => h.2 f hf hself
  · refine iff_of_true rfl ⟨by simp, fun f hf hself => ?_⟩
    cases h.symm.trans ((herror f).2 ⟨hself, hf⟩)
  · exact iff_of_false (by simp) fun h => h.1 rfl

/-! ## The search -/

/-- The search ends with the first entry that does not answer no. -/
lemma someAccepts_append_cons {before after : List String}
    (hbefore : ∀ e ∈ before, entryAccepts e url = .ok false)
    (h : entryAccepts entry url ≠ .ok false) :
    someAccepts url (before ++ entry :: after) = entryAccepts entry url := by
  induction before with
  | nil =>
    rw [List.nil_append, someAccepts]
    rcases hentry : entryAccepts entry url with f | _ | _
    · rfl
    · exact absurd hentry h
    · rfl
  | cons e before ih =>
    obtain ⟨he, hbefore⟩ := List.forall_mem_cons.1 hbefore
    rw [List.cons_append, someAccepts, he]
    exact ih hbefore

lemma someAccepts_of_forall (h : ∀ e ∈ entries, entryAccepts e url = .ok false) :
    someAccepts url entries = .ok false := by
  induction entries with
  | nil => rfl
  | cons e entries ih =>
    obtain ⟨he, h⟩ := List.forall_mem_cons.1 h
    rw [someAccepts, he]
    exact ih h

/-- Either all entries answer no, or there is a first one that does not. -/
lemma forall_or_exists_first (url : String) (entries : List String) :
    (∀ e ∈ entries, entryAccepts e url = .ok false) ∨
      ∃ before entry after, entries = before ++ entry :: after ∧
        (∀ e ∈ before, entryAccepts e url = .ok false) ∧ entryAccepts entry url ≠ .ok false := by
  induction entries with
  | nil => exact Or.inl (by simp)
  | cons e entries ih =>
    by_cases he : entryAccepts e url = .ok false
    · obtain h | ⟨before, entry, after, rfl, hbefore, hentry⟩ := ih
      · exact Or.inl (List.forall_mem_cons.2 ⟨he, h⟩)
      · exact Or.inr ⟨e :: before, entry, after, rfl, List.forall_mem_cons.2 ⟨he, hbefore⟩, hentry⟩
    · exact Or.inr ⟨[], e, entries, rfl, by simp, he⟩

/-- **The first entry that does not answer no decides.** -/
lemma someAccepts_eq_iff {r : Except AuthorityFault Bool} (hr : r ≠ .ok false) :
    someAccepts url entries = r ↔ ∃ before entry after, entries = before ++ entry :: after ∧
      (∀ e ∈ before, entryAccepts e url = .ok false) ∧ entryAccepts entry url = r := by
  constructor
  · intro h
    obtain hall | ⟨before, entry, after, rfl, hbefore, hentry⟩ := forall_or_exists_first url entries
    · exact absurd (h.symm.trans (someAccepts_of_forall hall)) hr
    · rw [someAccepts_append_cons hbefore hentry] at h
      exact ⟨before, entry, after, rfl, hbefore, h⟩
  · rintro ⟨before, entry, after, rfl, hbefore, rfl⟩
    exact someAccepts_append_cons hbefore hr

/-- Without a decision the list answers no, and only then. -/
lemma someAccepts_eq_false_iff :
    someAccepts url entries = .ok false ↔ ∀ e ∈ entries, entryAccepts e url = .ok false := by
  refine ⟨fun h => ?_, someAccepts_of_forall⟩
  obtain hall | ⟨before, entry, after, rfl, hbefore, hentry⟩ := forall_or_exists_first url entries
  · exact hall
  · rw [someAccepts_append_cons hbefore hentry] at h
    exact absurd h hentry

/-- What is decided stays decided when entries are appended. -/
lemma someAccepts_append {r : Except AuthorityFault Bool} (hr : r ≠ .ok false)
    (h : someAccepts url entries = r) (more : List String) :
    someAccepts url (entries ++ more) = r := by
  obtain ⟨before, entry, after, rfl, hbefore, hentry⟩ := (someAccepts_eq_iff hr).1 h
  exact (someAccepts_eq_iff hr).2 ⟨before, entry, after ++ more, by simp, hbefore, hentry⟩

/-- While nothing is decided, an entry that is appended decides. -/
lemma someAccepts_append_singleton (h : someAccepts url entries = .ok false)
    (hentry : Accepts url entry) : someAccepts url (entries ++ [entry]) = .ok true := by
  have htrue := entryAccepts_eq_true_iff.2 hentry
  rw [someAccepts_append_cons (someAccepts_eq_false_iff.1 h) (by simp [htrue]), htrue]

/-! ## What a list decides -/

variable {p : Policy}

lemma allows_eq_true_iff :
    p.allows url = .ok true ↔
      ∃ before entry after, p.allowlist = before ++ entry :: after ∧
        (∀ e ∈ before, ¬ Accepts url e) ∧ Accepts url entry ∧
        ∀ f, Url.ofText url.toList = .error f → self ∉ before := by
  refine (someAccepts_eq_iff (by simp)).trans ?_
  refine exists_congr fun before => exists_congr fun entry => exists_congr fun after =>
    and_congr_right fun _ => ?_
  simp only [entryAccepts_eq_true_iff, entryAccepts_eq_false_iff]
  constructor
  · rintro ⟨hbefore, hentry⟩
    exact ⟨fun e he => (hbefore e he).1, hentry, fun f hf hself => (hbefore self hself).2 f hf rfl⟩
  · rintro ⟨hbefore, hentry, hself⟩
    exact ⟨fun e he => ⟨hbefore e he, fun f hf => ne_of_mem_of_not_mem he (hself f hf)⟩, hentry⟩

lemma allows_eq_error_iff :
    p.allows url = .error f ↔ Url.ofText url.toList = .error f ∧
      ∃ before after, p.allowlist = before ++ self :: after ∧ ∀ e ∈ before, ¬ Accepts url e := by
  refine (someAccepts_eq_iff (by simp)).trans ?_
  simp only [entryAccepts_eq_error_iff, entryAccepts_eq_false_iff]
  constructor
  · rintro ⟨before, _, after, hlist, hbefore, rfl, hf⟩
    exact ⟨hf, before, after, hlist, fun e he => (hbefore e he).1⟩
  · rintro ⟨hf, before, after, hlist, hbefore⟩
    -- the word for the page itself may stand several times, and its first place decides
    obtain ⟨first, rest, hfirst, hself⟩ :=
      List.eq_append_cons_of_mem (List.mem_append_right before (List.mem_singleton_self self))
    have hbegins : first <+: before := by
      refine List.prefix_of_prefix_length_le (hfirst ▸ List.prefix_append first _)
        (List.prefix_append before [self]) ?_
      have hlength := congrArg List.length hfirst
      simp only [List.length_append, List.length_cons, List.length_nil] at hlength
      omega
    refine ⟨first, self, rest ++ after, ?_, fun e he => ⟨?_, fun _ _ => ?_⟩, rfl, hf⟩
    · rw [hlist, List.append_cons, hfirst, List.append_assoc, List.cons_append]
    · exact hbefore e (hbegins.subset he)
    · exact ne_of_mem_of_not_mem he hself

lemma allows_eq_false_iff :
    p.allows url = .ok false ↔ (∀ e ∈ p.allowlist, ¬ Accepts url e) ∧
      ∀ f, Url.ofText url.toList = .error f → self ∉ p.allowlist := by
  rw [allows, someAccepts_eq_false_iff]
  simp only [entryAccepts_eq_false_iff]
  constructor
  · intro h
    exact ⟨fun e he => (h e he).1, fun f hf hself => (h self hself).2 f hf rfl⟩
  · rintro ⟨hentries, hself⟩ e he
    exact ⟨hentries e he, fun f hf => ne_of_mem_of_not_mem he (hself f hf)⟩

/-- The policy with more entries. -/
lemma allows_append {r : Except AuthorityFault Bool} (hr : r ≠ .ok false) (h : p.allows url = r)
    (more : List String) : (⟨p.allowlist ++ more⟩ : Policy).allows url = r :=
  someAccepts_append hr h more

/-- Every URL is accepted by some entry. -/
lemma accepts_star (url : String) : Accepts url "*" := by
  refine .pattern (by decide) ((globMatches_iff (by decide)).2 ?_)
  exact ⟨[url.toList], .cons (.star _) .nil, by simp⟩

/-- What may be used stays so. -/
lemma Passes.append {c : Category} {v : Value} (h : p.Passes c v) (more : List String) :
    (⟨p.allowlist ++ more⟩ : Policy).Passes c v := by
  cases h with
  | nothing h => exact .nothing h
  | empty h => exact .empty h
  | approved h hd => exact .approved h hd
  | allowed hc h ha => exact .allowed hc h (allows_append (by simp) ha more)

end Policy

/-! ## Renderings -/

section Rendering

variable {s : Surroundings} {place : Option Category} {context : Context} {w w' : Work}

/-- The surroundings with more resources allowed. -/
def Surroundings.allowing (s : Surroundings) (more : List String) : Surroundings :=
  { s with policy := ⟨s.policy.allowlist ++ more⟩ }

/-- Only a place for resources asks the list. -/
lemma Policy.getTrusted_congr (p q : Policy) {c : Category} (hc : c ≠ .resourceUrl)
    (e : Environment) (futures : Futures) (v : Value) :
    p.getTrusted e futures c v = q.getTrusted e futures c v := by
  unfold getTrusted
  split
  · rfl
  · rfl
  · rfl
  · split
    · rfl
    · rfl
    · rfl
    · rfl
    · exact absurd rfl hc
    · rfl

/-- What passes its gate still does so when more resources are allowed. -/
lemma Surroundings.gated_allowing {e : Environment} {v u : Value}
    (h : (s.gated place e v).outcome w = (.ok u, w')) (more : List String) :
    ((s.allowing more).gated place e v).outcome w = (.ok u, w') := by
  cases place with
  | none => exact h
  | some c =>
    by_cases hc : c = .resourceUrl
    · subst hc
      have hhtml : Category.resourceUrl ≠ .html := by decide
      obtain ⟨hpasses, hrest⟩ := (Policy.outcome_getTrusted_eq_ok_iff hhtml).1 h
      exact (Policy.outcome_getTrusted_eq_ok_iff hhtml).2 ⟨hpasses.append more, hrest⟩
    · rw [gated] at h ⊢
      rw [← h]
      exact congrArg (·.outcome w) (Policy.getTrusted_congr _ _ hc ..)

lemma Segment.Gives.allowing {segment : Segment} {text : String}
    (h : segment.Gives s place context w (.ok text) w') (more : List String) :
    segment.Gives (s.allowing more) place context w (.ok text) w' := by
  cases h with
  | literal text => exact .literal text _
  | coercion hbind hvalue hgate h =>
    exact .coercion hbind hvalue (Surroundings.gated_allowing hgate more) h

lemma AllGive.allowing {segments : List Segment} {texts : List String}
    (h : AllGive s place context segments w texts w') (more : List String) :
    AllGive (s.allowing more) place context segments w texts w' := by
  induction h with
  | nil w => exact .nil w
  | cons hgives _ ih => exact .cons (hgives.allowing more) ih

/-- **A rendering with a text stays the same** when more resources are allowed. -/
lemma Template.renderTo_allowing {t : Template} {sink : Sink} {context : Datum} {store : Store}
    {text : String} (h : (t.renderTo sink s context store).1 = .text text) (more : List String) :
    ∃ w, ∀ sink, t.renderTo sink s context store = (.text text, sink, w) ∧
      t.renderTo sink (s.allowing more) context store = (.text text, sink, w) := by
  obtain ⟨texts, w, hall, rfl⟩ := renderTo_eq_text_iff.1 h
  refine ⟨closing store w, fun sink => ⟨?_, ?_⟩⟩
  · rw [renderTo, render_of_allGive hall]
  · rw [renderTo, render_of_allGive (hall.allowing more)]

/-- An expression answers if its two stages have a result. -/
lemma Expression.exists_answers {e : Expression} {futures : Futures} {url : String}
    (h : ((e.bind futures context >>= fun _ => e.value futures).outcome w.fresh).1.toOption.bind
      Value.text? = some url) :
    ∃ v valued, e.Answers futures context w v valued ∧ v.text? = some url := by
  rcases hbind : (e.bind futures context).outcome w.fresh with ⟨f | _, begun⟩
  · rw [Gate.outcome_bind_error hbind] at h
    cases h
  rw [Gate.outcome_bind_ok hbind] at h
  rcases hvalue : (e.value futures).outcome begun with ⟨f | v, valued⟩
  · rw [hvalue] at h
    cases h
  · rw [hvalue] at h
    exact ⟨v, valued, ⟨begun, hbind, hvalue⟩, h⟩

/-! ### Templates for resources -/

section Resources

variable {t : Template} {sink : Sink} {datum : Datum} {store : Store} {e : Expression}
  {deferred : Bool} {v : Value} {valued : Work} {url : String}

/-- A template for a resource whose expression has a text as its value renders it if the list
accepts it. -/
lemma Template.renderTo_resource_allowed (hplace : t.trusted = some .resourceUrl)
    (hsegments : t.segments = [.expression e deferred])
    (hvalue : e.Answers s.futures (opening datum store).1 (opening datum store).2 v valued)
    (hurl : v.text? = some url) (ha : s.policy.allows url = .ok true) :
    (t.renderTo sink s datum store).1 = .text url := by
  rw [renderTo_eq_text_iff, hplace, hsegments]
  obtain ⟨w, hgives⟩ := (Segment.exists_gives_expression_iff (by decide)).2
    ⟨v, valued, hvalue, .allowed rfl hurl ha⟩
  exact ⟨[url], w, allGive_singleton_iff.2 ⟨url, hgives, rfl⟩, by simp⟩

/-- It reports the refusal if the list does not accept the text. -/
lemma Template.renderTo_resource_blocked (hplace : t.trusted = some .resourceUrl)
    (hsegments : t.segments = [.expression e deferred])
    (hvalue : e.Answers s.futures (opening datum store).1 (opening datum store).2 v valued)
    (hurl : v.text? = some url) (hne : url ≠ "") (ha : s.policy.allows url = .ok false) :
    (t.renderTo sink s datum store).1 = .nothing := by
  obtain ⟨after, hrender⟩ := exists_render_expression hsegments hvalue
  obtain ⟨r, w', hrefused⟩ : ∃ r w', (s.policy.getTrusted e.environment s.futures .resourceUrl
      v).outcome valued = (.error (.untrusted r), w') :=
    Policy.outcome_getTrusted_blocked hurl hne ha
  rw [hplace, Surroundings.write_eq, Surroundings.gated, Gate.outcome_bind_error hrefused] at hrender
  rw [renderTo, hrender, Rendering.ofResult, Rendering.ofFault_of_none rfl]

end Resources

end Rendering

/-! ## Sessions -/

namespace Session

variable {s s' : Session} {i : Interpolator} {id out : String} {context : Datum}
  {reported : List InterpolationFault} {c c' : Compiled} {steps : List Step}
  {entries more : List String}

/-- Appending entries changes nothing but the list of allowed resources. -/
lemma after_allow (h : s.made = some i) (entries : List String) :
    s.after (entries.map .allow) =
      { s with made := some { i with policy := ⟨i.policy.allowlist ++ entries⟩ } } := by
  induction entries generalizing s i with
  | nil =>
    rw [List.append_nil, ← h]
    rfl
  | cons entry entries ih =>
    have hstep : (s.step (.allow entry)).2.1 =
        { s with made := some { i with policy := i.policy.allow entry } } := by
      simp only [step, quiet, interpolator_of_made h]
      rfl
    rw [List.map_cons, after, hstep, ih rfl, Policy.allow, List.append_assoc, List.singleton_append]

/-- Two sessions agree on what a rendering depends on, but the second one allows more resources. -/
structure AllowsMore (s s' : Session) (more : List String) : Prop where
  policy : s'.interpolator.1.policy = ⟨s.interpolator.1.policy.allowlist ++ more⟩
  futures : s'.futures = s.futures
  store : s'.store = s.store

lemma allowsMore_after_allow (h : s.made = some i) (entries : List String) :
    s.AllowsMore (s.after (entries.map .allow)) entries := by
  rw [after_allow h]
  exact ⟨by rw [interpolator_of_made h]; rfl, rfl, rfl⟩

lemma AllowsMore.congr {s₁ s₁' : Session} (h : s.AllowsMore s' more) (hs : s₁.Tied s)
    (hs' : s₁'.Tied s') : s₁.AllowsMore s₁' more :=
  ⟨by rw [hs'.policy, h.policy, hs.policy], by rw [hs'.futures, h.futures, hs.futures],
    by rw [hs'.store, h.store, hs.store]⟩

lemma exists_of_answer (h : (s.answer id context).1 = .ok (.rendered (some out) reported)) :
    ∃ c, s.find id = .ok c ∧ (c.template.renderTo s.sink ⟨s.interpolator.1.policy, s.futures⟩
      context s.store).1 = .text out := by
  rcases hc : s.find id with f | c
  · simp only [answer, step, render, hc] at h
    cases h
  · rw [answer_eq hc] at h
    exact ⟨c, rfl, (Rendered.outcome_eq_text_iff.1 h).1⟩

/-- **What was rendered is not revoked**: a rendering with a text answers the same in a session that
allows more resources. -/
theorem AllowsMore.answer (h : s.AllowsMore s' more) (hc : s.find id = .ok c)
    (hc' : s'.find id = .ok c') (ht : c'.template = c.template)
    (hout : (s.answer id context).1 = .ok (.rendered (some out) reported)) :
    s'.answer id context = s.answer id context := by
  obtain ⟨d, hd, htext⟩ := exists_of_answer hout
  cases hc.symm.trans hd
  obtain ⟨w, hw⟩ := Template.renderTo_allowing htext more
  have hmore : (⟨s'.interpolator.1.policy, s'.futures⟩ : Surroundings) =
      Surroundings.allowing ⟨s.interpolator.1.policy, s.futures⟩ more := by
    rw [h.policy, h.futures]
    rfl
  rw [answer_eq hc, answer_eq hc', ht, hmore, h.store, (hw s.sink).1, (hw s'.sink).2]
  simp

/-- A template for a resource whose value is a text renders it if the list accepts it, and has no
text if the list does not. -/
lemma answer_resource {e : Expression} {deferred : Bool} {v : Value} {valued : Work} {url : String}
    (hc : s.find id = .ok c) (hplace : c.template.trusted = some .resourceUrl)
    (hsegments : c.template.segments = [.expression e deferred])
    (hvalue : e.Answers s.futures (Template.opening context s.store).1
      (Template.opening context s.store).2 v valued)
    (hurl : v.text? = some url) (hne : url ≠ "") :
    (s.interpolator.1.policy.allows url = .ok true →
      ∃ reported, (s.answer id context).1 = .ok (.rendered (some url) reported)) ∧
    (s.interpolator.1.policy.allows url = .ok false →
      ∃ reported, (s.answer id context).1 = .ok (.rendered none reported)) := by
  let surroundings : Surroundings := ⟨s.interpolator.1.policy, s.futures⟩
  rw [answer_eq hc]
  constructor
  · intro ha
    have h : (c.template.renderTo s.sink surroundings context s.store).1 = .text url :=
      Template.renderTo_resource_allowed hplace hsegments hvalue hurl ha
    exact ⟨_, congrArg (Rendered.outcome · _) h⟩
  · intro ha
    have h : (c.template.renderTo s.sink surroundings context s.store).1 = .nothing :=
      Template.renderTo_resource_blocked hplace hsegments hvalue hurl hne ha
    exact ⟨_, congrArg (Rendered.outcome · _) h⟩

/-- What was rendered is rendered again after a run whose only steps that bear on renderings append
entries. -/
lemma answer_after_allowing (hmade : s.made = some i) (hbound : s.store.bound = [])
    (hout : (s.answer id context).1 = .ok (.rendered (some out) reported))
    (hsteps : steps.filter Step.bearsOnRendering = entries.map .allow)
    (hspared : s.Throughout Spares steps) (hname : s.Throughout (LeavesName id) steps) :
    (s.after steps).answer id context = s.answer id context := by
  have hself := Tied.refl hmade hbound
  have htied := hself.after hspared
  rw [hsteps] at htied
  obtain ⟨c, hc, -⟩ := exists_of_answer hout
  exact ((allowsMore_after_allow hmade entries).congr hself htied).answer hc
    ((find_after hmade hname).trans hc) rfl hout

/-- A text that is compiled only after the run becomes the same template, and what it rendered
before the run it renders again. -/
lemma answer_compile_after_allowing {request : CompileRequest} {t : Template}
    (hmade : s.made = some i) (hbound : s.store.bound = [])
    (hcompile : (s.step (.compile id request)).1 = .ok (.template (some t)))
    (hsteps : steps.filter Step.bearsOnCompile = entries.map .allow)
    (hspared : s.Throughout Spares steps) :
    ((s.after steps).step (.compile id request)).1 = .ok (.template (some t)) ∧
      ∀ out reported,
        ((s.after [.compile id request]).answer id context).1 =
          .ok (.rendered (some out) reported) →
        (s.after (steps ++ [.compile id request])).answer id context =
          (s.after [.compile id request]).answer id context := by
  have hself := Tied.refl hmade hbound
  obtain ⟨htied, hlike⟩ := hself.after_compilesLike (.refl s) hspared
  rw [hsteps] at htied hlike
  obtain ⟨j, hj, -, -⟩ := exists_made_after hmade steps
  -- appending leaves the markers and the engine alone
  have hallowing : s.CompilesLike (s.after (entries.map .allow)) := by
    rw [after_allow hmade, compilesLike_iff hmade rfl]
    exact ⟨rfl, .refl _⟩
  have hcompile' := (hallowing.trans hlike.symm).step_compile hmade hj hcompile
  refine ⟨hcompile', fun out reported hout => ?_⟩
  obtain ⟨c, hc, ht⟩ := find_of_compile hmade hcompile
  obtain ⟨c', hc', ht'⟩ := find_of_compile hj hcompile'
  have hmore := (allowsMore_after_allow hmade entries).congr
    (hself.skip (.compile id request) rfl trivial) (htied.skip (.compile id request) rfl trivial)
  rw [after_append]
  exact hmore.answer hc hc' (ht'.trans ht.symm) hout

/-- **A list of allowed resources decides by its first entry that does not answer no, and appending
to it revokes nothing.**

A list accepts a URL when one of its entries does and, if the authority of the URL is refused, the
word for the page itself does not stand before the first such entry.  It fails when the authority is
refused and the word stands before every entry that accepts.  Otherwise it answers no.

Now take a session with an interpolator, whose store gives no name a value, as is the case between
any two steps.  A rendering that has a text answers the same after every run whose only steps that
bear on renderings append entries, as long as the name stands for the template and other renderings
spare the results of futures.  A text that is compiled only after such a run becomes the template
that it would have become before, and what this one rendered it renders again.  And a template for a
resource whose value is a URL that is not allowed has no text, but has it once any entry that
accepts the URL is appended; there always is one. -/
theorem allowlist_decides :
    (∀ (p : Policy) (url : String),
      (p.allows url = .ok true ↔ ∃ before entry after, p.allowlist = before ++ entry :: after ∧
        (∀ e ∈ before, ¬ Policy.Accepts url e) ∧ Policy.Accepts url entry ∧
        ∀ f, Url.ofText url.toList = .error f → Policy.self ∉ before) ∧
      (∀ f, p.allows url = .error f ↔ Url.ofText url.toList = .error f ∧
        ∃ before after, p.allowlist = before ++ Policy.self :: after ∧
          ∀ e ∈ before, ¬ Policy.Accepts url e) ∧
      (p.allows url = .ok false ↔ (∀ e ∈ p.allowlist, ¬ Policy.Accepts url e) ∧
        ∀ f, Url.ofText url.toList = .error f → Policy.self ∉ p.allowlist)) ∧
    ∀ (s : Session) (i : Interpolator) (id : String) (context : Datum), s.made = some i →
      s.store.bound = [] →
      (∀ (steps : List Step) (entries : List String) (out : String)
          (reported : List InterpolationFault),
        (s.answer id context).1 = .ok (.rendered (some out) reported) →
        steps.filter Step.bearsOnRendering = entries.map .allow →
        s.Throughout Spares steps → s.Throughout (LeavesName id) steps →
        (s.after steps).answer id context = s.answer id context) ∧
      (∀ (request : CompileRequest) (t : Template) (steps : List Step) (entries : List String),
        (s.step (.compile id request)).1 = .ok (.template (some t)) →
        steps.filter Step.bearsOnCompile = entries.map .allow → s.Throughout Spares steps →
        ((s.after steps).step (.compile id request)).1 = .ok (.template (some t)) ∧
        ∀ out reported,
          ((s.after [.compile id request]).answer id context).1 =
            .ok (.rendered (some out) reported) →
          (s.after (steps ++ [.compile id request])).answer id context =
            (s.after [.compile id request]).answer id context) ∧
      ∀ (c : Compiled) (e : Expression) (deferred : Bool) (v : Value) (valued : Work)
          (url : String),
        s.find id = .ok c → c.template.trusted = some .resourceUrl →
        c.template.segments = [.expression e deferred] →
        e.Answers s.futures (Template.opening context s.store).1
          (Template.opening context s.store).2 v valued →
        v.text? = some url → url ≠ "" → i.policy.allows url = .ok false →
        (∃ reported, (s.answer id context).1 = .ok (.rendered none reported)) ∧
        (∀ entry, Policy.Accepts url entry → ∃ reported,
          ((s.after [.allow entry]).answer id context).1 = .ok (.rendered (some url) reported)) ∧
        ∃ entry, Policy.Accepts url entry := by
  refine ⟨fun p url => ⟨Policy.allows_eq_true_iff, fun f => Policy.allows_eq_error_iff,
    Policy.allows_eq_false_iff⟩, fun s i id context hmade hbound => ⟨?_, ?_, ?_⟩⟩
  · intro steps entries out reported
    exact answer_after_allowing hmade hbound
  · intro request t steps entries
    exact answer_compile_after_allowing hmade hbound
  · intro c e deferred v valued url hc hplace hsegments hvalue hurl hne hblocked
    refine ⟨?_, fun entry hentry => ?_, "*", Policy.accepts_star url⟩
    · exact (answer_resource hc hplace hsegments hvalue hurl hne).2
        (by rw [interpolator_of_made hmade]; exact hblocked)
    · have hafter : s.after [.allow entry] =
          { s with made := some { i with policy := ⟨i.policy.allowlist ++ [entry]⟩ } } :=
        after_allow hmade [entry]
      have haccepted : (⟨i.policy.allowlist ++ [entry]⟩ : Policy).allows url = .ok true :=
        Policy.someAccepts_append_singleton hblocked hentry
      have hc' : (s.after [.allow entry]).find id = .ok c := by rw [hafter]; exact hc
      rw [hafter] at hc' ⊢
      exact (answer_resource hc' hplace hsegments hvalue hurl hne).1
        (by rw [interpolator_of_made rfl]; exact haccepted)

/-- An address on the page's own host is rendered as before once another host is allowed, and an
address on that host only then. -/
theorem allowlist_decides_other_host :
    let s := { start .standard (.collecting []) .empty [] .empty with
      made := some Config.standard.interpolator }
    let compiles := Step.compile "a" ⟨"\x7b\x7bx\x7d\x7d", false, some Category.resourceUrl.name⟩
    let context (url : String) := Datum.dict [(.atom (.str "x"), .atom (.str url))]
    let allows := Step.allow "https:*"
    ((s.after [compiles]).after [allows]).answer "a" (context "/a") =
        (s.after [compiles]).answer "a" (context "/a") ∧
      (s.after [allows, compiles]).answer "a" (context "/a") =
        (s.after [compiles]).answer "a" (context "/a") ∧
      (∃ reported, ((s.after [compiles]).answer "a" (context "https://b")).1 =
        .ok (.rendered none reported)) ∧
      ∃ reported, (((s.after [compiles]).after [allows]).answer "a" (context "https://b")).1 =
        .ok (.rendered (some "https://b") reported) := by
  intro s compiles context allows
  let i := Config.standard.interpolator
  let request : CompileRequest :=
    ⟨"\x7b\x7bx\x7d\x7d", false, some Category.resourceUrl.name⟩
  have hrun : ((i.template? request).bind fun t =>
      if (t.renderTo (.collecting []) ⟨.standard, .empty⟩ (context "/a") .empty).1 = .text "/a" then
        (t.segments.head?.bind Segment.expression?).bind fun e =>
          ((e.bind .empty (Template.opening (context "https://b") .empty).1 >>= fun _ =>
            e.value .empty).outcome
              (Template.opening (context "https://b") .empty).2.fresh).1.toOption.bind Value.text?
      else none) = some "https://b" := by
    decide +kernel
  obtain ⟨t, ht, hrun⟩ := Option.bind_eq_some_iff.1 hrun
  obtain ⟨hlocal, hvalue⟩ := Option.ite_none_right_eq_some.1 hrun
  have hcompile := Interpolator.template?_eq_some_iff.1 ht
  have hstep : (s.step compiles).1 = .ok (.template (some t)) :=
    (step_compile_eq_some_iff rfl).2 hcompile
  obtain ⟨hplace, hshape⟩ := Interpolator.segments_of_place hcompile
  obtain ⟨e, deferred, hsegments⟩ : ∃ e deferred, t.segments = [.expression e deferred] := by
    refine hshape.resolve_left fun hliteral => ?_
    rw [hliteral] at hvalue
    cases hvalue
  rw [hsegments] at hvalue
  obtain ⟨v, valued, hvalue, hurl⟩ := Expression.exists_answers hvalue
  -- the compile leaves all as it was that renderings depend on
  obtain ⟨templates, count, hsession, -, -, -⟩ := step_compile (s := s) (i := i) rfl "a" request
  have hafter : s.after [compiles] =
      { s with made := some (i.compile request).2.1, templates := templates, count := count } :=
    hsession
  have hmade : (s.after [compiles]).made = some (i.compile request).2.1 := by rw [hafter]
  have hstore : (s.after [compiles]).store = .empty := by rw [hafter]; rfl
  have hfutures : (s.after [compiles]).futures = .empty := by rw [hafter]; rfl
  obtain ⟨c, hc, rfl⟩ : ∃ c, (s.after [compiles]).find "a" = .ok c ∧ c.template = t :=
    find_of_compile rfl hstep
  have hout : ∃ reported, ((s.after [compiles]).answer "a" (context "/a")).1 =
      .ok (.rendered (some "/a") reported) := by
    rw [answer_eq hc, hstore, hfutures, interpolator_of_made hmade, hafter]
    exact ⟨_, congrArg (Rendered.outcome · _) hlocal⟩
  obtain ⟨reported, hout⟩ := hout
  have hbound : (s.after [compiles]).store.bound = [] := by rw [hstore]; rfl
  have hlater := (allowlist_decides.2 _ _ "a" (context "/a") hmade hbound).1
  have hbefore := (allowlist_decides.2 s i "a" (context "/a") rfl rfl).2.1
  have hblocked := (allowlist_decides.2 _ _ "a" (context "https://b") hmade hbound).2.2
  refine ⟨hlater [allows] ["https:*"] "/a" reported hout rfl ⟨trivial, trivial⟩ ⟨trivial, trivial⟩,
    (hbefore request c.template [allows] ["https:*"] hstep rfl ⟨trivial, trivial⟩).2 "/a" reported
      hout, ?_⟩
  rw [hstore, hfutures] at hblocked
  obtain ⟨hnone, hsome, -⟩ := hblocked c e deferred v valued "https://b" hc hplace hsegments hvalue
    hurl (by decide) (by decide +kernel)
  exact ⟨hnone, hsome "https:*" (.pattern (by decide) (by decide +kernel))⟩

end Session

end Interpolation
