import Interpolation.Proofs.Paths.Finding

/-!
# Steps ask for no names

The values of names stand in the store, beside its cells.  Only a name asks for them: a step or a
slice works with the value that it is given, and it comes to the same, with the same cells added,
whatever the names stand for.  So evaluations that begin with different values for a name go on alike
as soon as both have met the same value.

* `Store.withNames` — the same cells, and other values for names.
* `Eval.Nameless` — an evaluation that ends in one way whatever names stand for.
* `Value.Reads.nameless`, `Value.nameless_sliced` — parts and slices of values.
* **`Setting.Settles.nameless_walkParts`** — steps and slices one after the other.
-/

namespace Interpolation

variable {α β : Type}

/-- The store with other values for names. -/
def Store.withNames (s : Store) (names : List (String × Value)) : Store := { s with bound := names }

/-! ## Building -/

namespace Building

/-- A computation that neither asks for the values of names nor changes them. -/
def Nameless (x : Building α) : Prop :=
  ∀ s names, x.run (s.withNames names) = ((x.run s).1, (x.run s).2.withNames names)

lemma nameless_pure (a : α) : (pure a : Building α).Nameless := fun _ _ => rfl

lemma Nameless.bind {x : Building α} {f : α → Building β} (hx : x.Nameless)
    (hf : ∀ a, (f a).Nameless) : (x >>= f).Nameless := by
  intro s names
  rw [StateT.run_bind, hx]
  exact hf _ _ names

lemma Nameless.map {x : Building α} (f : α → β) (hx : x.Nameless) :
    (x >>= fun a => pure (f a)).Nameless := hx.bind fun a => nameless_pure (f a)

lemma nameless_keep (v : Value) : (keep v).Nameless := by
  intro s names
  rw [keep]
  split
  · split <;> rfl
  · rfl

lemma nameless_addRow (items : List Value) : (addRow items).Nameless := by
  have hkeep : (items.mapM keep).Nameless := by
    induction items with
    | nil => exact nameless_pure []
    | cons v items ih =>
      rw [List.mapM_cons]
      exact (nameless_keep v).bind fun w => ih.map (w :: ·)
  exact hkeep.bind fun _ _ _ => rfl

lemma nameless_tuple (items : List Value) : (tuple items).Nameless := by
  rw [tuple]
  split
  · exact nameless_pure _
  · exact (nameless_addRow items).map _

end Building

/-! ## Evaluations -/

namespace Eval

/-- An evaluation that ends in one way whatever names stand for, and leaves their values as they
are. -/
def Nameless (x : Eval α) : Prop := ∀ s : Store, ∃ (r : Except Fault α) (s' : Store) (told : Trace),
  ∀ names, x.Ends (s.withNames names) r (s'.withNames names) told

namespace Nameless

protected lemma pure (a : α) : (pure a : Eval α).Nameless :=
  fun s => ⟨_, s, _, fun _ => .pure a _⟩

protected lemma throw (f : Fault) : (throw f : Eval α).Nameless :=
  fun s => ⟨_, s, _, fun _ => .throw f _⟩

protected lemma except (x : Except Fault α) : Nameless (liftM x : Eval α) :=
  fun s => ⟨x, s, _, fun _ => .except x _⟩

/-- A look at the cells. -/
protected lemma look {x : Look α} (hx : ∀ s names, x.run (s.withNames names) = x.run s) :
    Nameless (liftM x : Eval α) :=
  fun s => ⟨_, s, _, fun names => hx s names ▸ Ends.look x (s.withNames names)⟩

protected lemma build {x : Building α} (hx : x.Nameless) : Nameless (liftM x : Eval α) :=
  fun s => ⟨_, _, _, fun names => .of_run (hx s names)⟩

protected lemma bind {x : Eval α} {f : α → Eval β} (hx : x.Nameless)
    (hf : ∀ a, (f a).Nameless) : (x >>= f).Nameless := by
  intro s
  obtain ⟨r, s', told, h⟩ := hx s
  cases r with
  | error e => exact ⟨_, s', told, fun names => (h names).bind_error⟩
  | ok a =>
    obtain ⟨r', s'', told', h'⟩ := hf a s'
    exact ⟨r', s'', _, fun names => (h names).bind (h' names)⟩

end Nameless

end Eval

/-! ## Parts of values -/

namespace Value

variable {v : Value}

/-- **What is read from a value does not depend on names.** -/
theorem Reads.nameless {x : Eval (Option Value)} (h : v.Reads x) : x.Nameless := by
  cases h with
  | nothing | part _ => exact .pure _
  | made _ _ _ _ => exact .bind (.build ((Building.nameless_addRow _).map _)) fun _ => .pure _
  | field _ i => exact .bind (.look fun _ _ => rfl) fun _ => .pure _
  | placed _ key => exact .bind (.look fun _ _ => rfl) fun _ => .pure _
  | named _ name => exact .bind (.look fun _ _ => rfl) fun _ => .pure _
  | course _ name => exact .bind (.look fun _ _ => rfl) fun _ => .pure _
  | @entry r _ k =>
    refine .look (x := do lookup? k.value (← Look.entries r)) fun s names => ?_
    exact k.run_lookup?_eq (s.entries r) (s.withNames names) s

lemma content_of_isMissing (h : v.isMissing = true) :
    ∃ tolerance m, v.content = .missing tolerance m := by
  rw [isMissing] at h
  split at h
  · next tolerance m hv => exact ⟨tolerance, m, hv⟩
  · cases h

/-- An item of a value, which may be missing. -/
lemma nameless_item? (v : Value) (k : Key) : (v.item? k.value).Nameless := by
  cases hmissing : v.isMissing with
  | false => exact (reads_item? hmissing k).nameless
  | true =>
    obtain ⟨tolerance, m, hv⟩ := content_of_isMissing hmissing
    cases tolerance with
    | chaining =>
      simp only [item?, hv]
      exact .pure _
    | strict | plain =>
      simp only [item?, hv]
      exact .throw _

/-- An attribute of a value, which may be missing. -/
lemma nameless_native? (v : Value) (name : String) : (v.native? name).Nameless := by
  cases hmissing : v.isMissing with
  | false => exact (reads_native? hmissing name).nameless
  | true =>
    obtain ⟨tolerance, m, hv⟩ := content_of_isMissing hmissing
    unfold native?
    split
    · exact .pure _
    · simp only [hv]
      cases tolerance with
      | chaining =>
        rw [missingPart?]
        split
        · exact (reads_method (.refl v) name).nameless
        · split <;> exact .pure _
      | strict | plain =>
        rw [missingPart?]
        · split
          · exact .pure _
          · exact .throw _
        · exact nofun

/-- A part of a sequence. -/
lemma nameless_of_cut? {c : Cut} {x : Eval Value} (hx : v.cut? c = some x) : x.Nameless := by
  unfold cut? at hx
  dsimp only at hx
  split at hx <;> cases hx
  · exact .pure _
  · exact .pure _
  · exact .pure _
  · exact .pure _
  · exact .bind (.look fun _ _ => rfl) fun _ =>
      .build ((Building.nameless_addRow _).map _)
  · refine .bind (.look fun _ _ => rfl) fun vs => ?_
    split
    · exact .pure _
    · exact .build (Building.nameless_tuple _)
  · exact .pure _

/-- **A slice does not depend on names.** -/
theorem nameless_sliced (v start stop step : Value) : (v.sliced start stop step).Nameless := by
  unfold sliced
  split
  · exact .throw _
  · exact .throw _
  · refine .bind (.build ((Building.nameless_addRow _).map _)) fun cut => ?_
    exact .build ((Building.nameless_addRow _).map _)
  · exact .pure _
  · exact .throw _
  · split
    · exact .throw _
    · refine .bind (.except _) fun c => ?_
      split
      · next part h => exact nameless_of_cut? h
      · exact .throw _

end Value

/-! ## Steps -/

namespace Lookup

/-- What a step finds does not depend on names. -/
lemma nameless_find? (k : Lookup) (v : Value) : (k.find? v).Nameless := by
  cases k with
  | attr n =>
    refine (v.nameless_native? n).bind fun found => ?_
    cases found with
    | some w => exact .pure _
    | none => exact v.nameless_item? (.text n)
  | item key =>
    cases key with
    | whole n written => exact v.nameless_item? (.whole n written)
    | text n =>
      refine (v.nameless_item? (.text n)).bind fun found => ?_
      cases found with
      | some w => exact .pure _
      | none => exact v.nameless_native? n

end Lookup

namespace Setting

variable {s : Setting}

lemma nameless_plainLookup (s : Setting) (v : Value) (k : Lookup) :
    (s.plainLookup v k).Nameless := by
  rw [plainLookup_eq]
  refine (k.nameless_find? v).bind fun found => ?_
  cases found with
  | some w => exact .pure _
  | none =>
    cases k with
    | attr n => exact .pure _
    | item key =>
      cases key with
      | text n => exact .pure _
      | whole n written =>
        refine .bind (.look fun σ names => ?_) fun _ => .pure _
        rw [s.run_wording_whole written, s.run_wording_whole written]

/-- A value is settled whatever names stand for. -/
lemma Settles.nameless_settled (hs : s.Settles) (k : Lookup) (v : Value) :
    (s.settled k.key v).Nameless := by
  intro σ
  obtain ⟨t, ht⟩ := hs σ.commons
  exact ⟨_, σ, _, fun _ => ht.ends_key k v rfl⟩

/-- A step or a slice. -/
lemma Settles.nameless_part (hs : s.Settles) (v : Value) (k : Part) : (s.part v k).Nameless := by
  cases k with
  | slice b => exact v.nameless_sliced _ _ _
  | lookup k =>
    rw [part, lookup_eq]
    exact (hs.nameless_settled k v).bind fun u =>
      (s.nameless_plainLookup u k).bind fun w => hs.nameless_settled k w

/-- **Steps and slices do not depend on names.** -/
theorem Settles.nameless_walkParts (hs : s.Settles) (ks : List Part) :
    ∀ v, (s.walkParts v ks).Nameless := by
  induction ks with
  | nil => exact fun v => .pure v
  | cons k ks ih => exact fun v => (hs.nameless_part v k).bind ih

end Setting

end Interpolation
