import Interpolation.Session
import Interpolation.Proofs.Config.Leaves

/-!
# Loading a configuration is complete, and all or nothing

A document is loaded if each of its leaves is valid.  What the configuration then says is settled
for every field, by the document where the document says something and by the standard configuration
elsewhere; so there is one such configuration, and names that mean nothing have no part in it.  If
some leaf is invalid, there is no configuration, and the report has one entry for each such leaf.

Most of this is `Config.reads_config`.  What is left is the step from a document to its value: a
mapping without entries counts as false, and then a new mapping is read in its place.

* `Config.Holds.unique` — a document leaves no choice.
* `Config.reads_load` — a document without entries is read as any other.
* **`Config.load_iff_leaves_valid`** — all together, for texts.
-/

namespace Interpolation

namespace Marker

lemma text_injective {m m' : Marker} (h : m.text = m'.text) : m = m' := by
  cases m
  cases m'
  simpa [text, String.ofList_inj] using h

end Marker

namespace Given

variable {α : Type} {P : Value → α → Prop} {otherwise : α} {found : Option Value} {a b : α}

lemma unique (ha : Given P otherwise found a) (hb : Given P otherwise found b)
    (h : ∀ v, P v a → P v b → a = b) : a = b := by
  cases found with
  | none => exact Eq.trans ha (Eq.symm hb)
  | some v => exact h v ha hb

end Given

/-- A report names the places of the leaves that it tells of. -/
lemma Leaf.map_place_of_reported {s : Store} {leaves : List Leaf} {is : List Invalid}
    (h : List.Forall₂ (Leaf.Reported s) leaves is) :
    is.map Invalid.place = leaves.map Leaf.place := by
  induction h with
  | nil => rfl
  | cons hfirst _ ih => rw [List.map_cons, List.map_cons, hfirst.place, ih]

namespace Config

variable {s : Store} {v : Value} {entries : List (Value × Value)} {text : List Char}

/-! ## What a configuration says -/

lemma HoldsMarkers.unique {d d' : Delimiters} (h : HoldsMarkers entries d)
    (h' : HoldsMarkers entries d') : d = d' := by
  have hget : ∀ n, d.get n = d'.get n := fun n =>
    (h n).unique (h' n) fun v hd hd' =>
      Marker.text_injective (Option.some.inj (hd.symm.trans hd'))
  cases d
  cases d'
  exact Delimiters.mk.injEq .. ▸
    ⟨hget .primaryStart, hget .primaryEnd, hget .secondaryStart, hget .secondaryEnd⟩

lemma HoldsFlags.unique {e e' : ExpressionDefaults} (h : HoldsFlags entries e)
    (h' : HoldsFlags entries e') : e = e' := by
  have hflag : ∀ f ∈ flags, f.2 e = f.2 e' := fun f hf =>
    (h f hf).unique (h' f hf) fun v he he' => Option.some.inj (he.symm.trans he')
  simp only [flags, List.forall_mem_cons] at hflag
  obtain ⟨hstrict, hresolving, hlogging, -⟩ := hflag
  cases e
  cases e'
  exact ExpressionDefaults.mk.injEq .. ▸ ⟨hstrict, hresolving, hlogging⟩

lemma HoldsTrust.unique {p p' : Policy} (h : HoldsTrust s entries p)
    (h' : HoldsTrust s entries p') : p = p' := by
  have hallowlist : p.allowlist = p'.allowlist := by
    refine Given.unique h h' fun v hp hp' => ?_
    have hright : Relator.RightUnique fun (w : Value) t => w.text? = some t :=
      fun w t t' ht ht' => Option.some.inj (ht.symm.trans ht')
    exact hright.forall₂ hp hp'
  cases p
  cases p'
  exact congrArg Policy.mk hallowlist

/-- What a document says and the standard configuration leave no choice. -/
lemma Holds.unique {c c' : Config} (h : Holds s entries c) (h' : Holds s entries c') : c = c' := by
  have hdescription := h.description.unique h'.description fun v hc hc' => hc.trans hc'.symm
  have hdelimiters := h.delimiters.unique h'.delimiters fun v hc hc' => hc.unique hc'
  have hexpressions := h.expressions.unique h'.expressions fun v hc hc' => hc.unique hc'
  have htrust := h.trust.unique h'.trust fun v hc hc' => hc.unique hc'
  cases c
  cases c'
  exact Config.mk.injEq .. ▸ ⟨hdescription, hdelimiters, hexpressions, htrust⟩

/-! ## From a document to its value -/

@[simp]
lemma leaves_nil : leaves s [] = [] := rfl

lemma wellFormed_nil : WellFormed s [] where
  sections _ _ _ hv := absurd hv (Option.not_mem_none _)
  allowlist _ hv := absurd hv (Option.not_mem_none _)
  noBytes := List.forall_mem_nil _

/-- Where nothing is said, it does not matter in which store. -/
lemma Holds.of_nil {t : Store} {c : Config} (h : Holds t [] c) : Holds s [] c :=
  ⟨h.description, h.delimiters, h.expressions, h.trust⟩

/-- The new mapping that is read where a value counts as false. -/
lemma isMapping_dict_nil (s : Store) :
    IsMapping (Building.dict [] s).1 ∧ entriesOf (Building.dict [] s).2 (Building.dict [] s).1 = [] :=
  -- it is the last cell
  ⟨⟨_, rfl⟩, show (s.push (.entries [])).entries ⟨s.cells.size⟩ = [] by
    simp [Store.entries, Store.cell?, Store.push]⟩

/-- A mapping with entries is the value of its document; one without them stands for a new one that
has none either. -/
lemma documentValue_of_mapping (hload : Yaml.load text = .ok (v, s)) (hv : IsMapping v) :
    documentValue text = .ok (v, s) ∨ entriesOf s v = [] ∧
      ∃ w t, documentValue text = .ok (w, t) ∧ IsMapping w ∧ entriesOf t w = [] := by
  obtain ⟨r, hr⟩ := hv
  have hentries : entriesOf s v = s.entries r := by rw [entriesOf, hr]
  have htruth : v.truth.run s = .ok !(s.entries r).isEmpty := by
    rw [Value.truth, hr]
    rfl
  have hrun : documentValue text = if (s.entries r).isEmpty then .ok ((Building.dict []) s)
      else .ok (v, s) := by
    rw [documentValue, hload]
    dsimp only [bind, Except.bind]
    rw [htruth]
    cases (s.entries r).isEmpty <;> rfl
  cases hempty : (s.entries r).isEmpty with
  | false => exact .inl (by rw [hrun, hempty]; rfl)
  | true =>
    exact .inr ⟨hentries.trans (List.isEmpty_iff.1 hempty), _, _, by rw [hrun, hempty]; rfl,
      isMapping_dict_nil s⟩

/-- A document without entries is read as any other. -/
lemma reads_load (hload : Yaml.load text = .ok (v, s)) (hv : IsMapping v)
    (h : WellFormed s (entriesOf s v)) :
    ∃ x : Checked Config, load text = (x.mapError ConfigFault.mk).mapError .invalid ∧
      Checked.Reads s (leaves s (entriesOf s v)) (Holds s (entriesOf s v)) x := by
  have hrun : ∀ {w t}, documentValue text = .ok (w, t) →
      load text = ((readConfig w t).mapError ConfigFault.mk).mapError .invalid := fun hw => by
    rw [load, hw]
    rfl
  obtain hvalue | ⟨hnil, w, t, hvalue, hw, hwnil⟩ := documentValue_of_mapping hload hv
  · exact ⟨_, hrun hvalue, reads_config hv h⟩
  · refine ⟨_, hrun hvalue, ?_⟩
    have hread := reads_config hw (by rw [hwnil]; exact wellFormed_nil)
    rw [hwnil, leaves_nil] at hread
    rw [hnil, leaves_nil]
    generalize readConfig w t = x at hread ⊢
    cases hread with
    | valid hvalid hc => exact .valid hvalid hc.of_nil
    | invalid hinvalid _ =>
      obtain ⟨l, hl, -⟩ := hinvalid
      exact absurd hl List.not_mem_nil

/-- **A configuration is loaded if and only if all leaves of its document are valid.**  Let the value
of a document be a mapping whose sections are mappings, with a sequence as the list of resources,
and let no leaf be written as bytes.

A configuration is loaded if and only if each leaf is valid; it is the one that has the value of
each leaf that is given and the standard value of each that is not.  None of its markers is empty,
and whatever session starts with it, its markers are not frozen and can be changed.

If some leaf is invalid, no configuration is loaded, and the report has exactly one entry for each
invalid leaf, with its place and the value found there, in the order in which a configuration
declares the leaves. -/
theorem load_iff_leaves_valid (text : List Char) (v : Value) (s : Store)
    (hload : Yaml.load text = .ok (v, s)) (hv : IsMapping v) (h : WellFormed s (entriesOf s v)) :
    let leaves := leaves s (entriesOf s v)
    ((∃ c, load text = .ok c) ↔ ∀ l ∈ leaves, l.isValid = true) ∧
    (∀ c, load text = .ok c ↔ (∀ l ∈ leaves, l.isValid = true) ∧ Holds s (entriesOf s v) c) ∧
    (∀ c, load text = .ok c → (∀ n, (c.delimiters.get n).text ≠ "") ∧
      ∀ sink futures names store, let session := Session.start c sink futures names store
        (session.step .isFrozen).1 = .ok (.flag false) ∧
        ∀ n text, text ≠ "" → (session.step (.setMarker n (some text))).1 = .ok (.text text)) ∧
    ((∃ l ∈ leaves, l.isValid = false) →
      ∃ f : ConfigFault, load text = .error (.invalid f) ∧
        (LoadFault.invalid f).label = "ValueError" ∧
        List.Forall₂ (Leaf.Reported s) (leaves.filter fun l => !l.isValid) f.invalid) := by
  intro leaves
  obtain ⟨x, hx, hread⟩ := reads_load hload hv h
  have hsession : ∀ (c : Config) sink futures names store,
      let session := Session.start c sink futures names store
      (session.step .isFrozen).1 = .ok (.flag false) ∧
      ∀ n text, text ≠ "" → (session.step (.setMarker n (some text))).1 = .ok (.text text) := by
    intro c sink futures names store session
    refine ⟨rfl, fun n text htext => ?_⟩
    have hset : (session.delimiters.set n (some text)).1 = .ok text :=
      (DelimiterState.set_open htext rfl).1
    show ((session.delimiters.set n (some text)).1.mapError StepFault.frozen).map Outcome.text = _
    rw [hset]
    rfl
  cases hread with
  | valid hvalid hc =>
    rename_i c
    have hload : load text = .ok c := hx
    refine ⟨⟨fun _ => hvalid, fun _ => ⟨c, hload⟩⟩, fun c' => ⟨fun h' => ?_, fun h' => ?_⟩,
      fun c' _ => ⟨fun n => Marker.text_ne_empty _, hsession c'⟩, fun ⟨l, hl, hfalse⟩ => ?_⟩
    · obtain rfl := Except.ok.inj (hload.symm.trans h')
      exact ⟨hvalid, hc⟩
    · rw [hload, hc.unique h'.2]
    · exact absurd (hvalid l hl) (by simp [hfalse])
  | invalid hinvalid his =>
    rename_i is
    have hload : load text = .error (.invalid ⟨is⟩) := hx
    have hnot : ¬ ∀ l ∈ leaves, l.isValid = true := fun hall => by
      obtain ⟨l, hl, hfalse⟩ := hinvalid
      exact absurd (hall l hl) (by simp [hfalse])
    have hno : ∀ c, load text ≠ .ok c := fun c hc => by rw [hload] at hc; cases hc
    exact ⟨⟨fun ⟨c, hc⟩ => absurd hc (hno c), fun hall => absurd hall hnot⟩,
      fun c => ⟨fun hc => absurd hc (hno c), fun hall => absurd hall.1 hnot⟩,
      fun c hc => absurd hc (hno c), fun _ => ⟨⟨is⟩, hload, rfl, his⟩⟩

/-- A document with an empty marker, a flag by its text, a number among the resources, and a name
that means nothing. -/
theorem load_iff_leaves_valid_two_invalid :
    let text := ("delimiters: \x7bprimary_start: ''\x7d\nexpressions: \x7bresolve_async: On\x7d\n" ++
      "trust: \x7bresource_url_allowlist: [self, 1]\x7d\nextra: 1").toList
    ∃ v s f, Yaml.load text = .ok (v, s) ∧ IsMapping v ∧ WellFormed s (entriesOf s v) ∧
      load text = .error (.invalid f) ∧
      f.invalid.map Invalid.place =
        [["delimiters", "primary_start"], ["trust", "resource_url_allowlist", "1"]] := by
  intro text
  have hcheck : (match Yaml.load text with
      | .ok (v, s) => decide (IsMapping v ∧ WellFormed s (entriesOf s v) ∧
          ((leaves s (entriesOf s v)).filter fun l => !l.isValid).map Leaf.place =
            [["delimiters", "primary_start"], ["trust", "resource_url_allowlist", "1"]])
      | .error _ => false) = true := by decide +kernel
  cases hload : Yaml.load text with
  | error f => rw [hload] at hcheck; cases hcheck
  | ok p =>
    obtain ⟨v, s⟩ := p
    rw [hload] at hcheck
    obtain ⟨hv, hform, hplaces⟩ := of_decide_eq_true hcheck
    have hsome : ∃ l ∈ leaves s (entriesOf s v), l.isValid = false := by
      by_contra hall
      have hvalid : ∀ l ∈ leaves s (entriesOf s v), l.isValid = true := fun l hl =>
        Bool.of_not_eq_false fun hfalse => hall ⟨l, hl, hfalse⟩
      rw [Checked.Reads.filter_eq_nil hvalid] at hplaces
      cases hplaces
    obtain ⟨-, -, -, hinvalid⟩ := load_iff_leaves_valid text v s hload hv hform
    obtain ⟨f, hf, -, hreported⟩ := hinvalid hsome
    exact ⟨v, s, f, rfl, hv, hform, hf, (Leaf.map_place_of_reported hreported).trans hplaces⟩

end Config

end Interpolation
