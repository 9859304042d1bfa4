import Interpolation.Proofs.Paths.Replacing

/-!
# Data of ordinary values

A datum is loaded into new cells, which hold the values that are written in it.  So if these are
ordinary once futures are replaced, the store is one of ordinary values afterwards, and the loaded
value is one of them.  Mappings compare their keys when they are loaded, but whatever comes of that,
they hold no other keys and no other values than those of their entries.

* `Datum.Ordinary` — the values that are written in a datum are ordinary.
* `Building.Lays` — what is built is ordinary, and it is put behind the cells that are there.
* **`Datum.lays_load`** — loading a datum of ordinary values.
-/

namespace Interpolation

/-- The key of an entry is one that a mapping can have. -/
def Datum.IsKey (d : Datum) : Prop := ∀ v, d = .held v → v.IsKey

lemma Datum.isKey_text (t : String) : (Datum.atom (.str t)).IsKey := by
  rintro v ⟨⟩
  exact ⟨fun m => nofun, rfl⟩

/-- The values that are written in the datum are ordinary, once they are replaced. -/
inductive Datum.Ordinary (f : Value → Value) (R : Region) : Datum → Prop
  | held {v} (h : (f v).Ordinary R) : Ordinary f R (.held v)
  | list {items} (h : ∀ d ∈ items, Ordinary f R d) : Ordinary f R (.list items)
  | tuple {items} (h : ∀ d ∈ items, Ordinary f R d) : Ordinary f R (.tuple items)
  | set {items} (h : ∀ d ∈ items, Ordinary f R d) : Ordinary f R (.set items)
  | dict {entries : List (Datum × Datum)} (hkeys : ∀ e ∈ entries, e.1.IsKey)
    (h : ∀ e ∈ entries, Ordinary f R e.1) (h' : ∀ e ∈ entries, Ordinary f R e.2) :
    Ordinary f R (.dict entries)
  | trusted {c d} (h : Ordinary f R d) : Ordinary f R (.trusted c d)
  | object {attributes : List (String × Datum)} (h : ∀ a ∈ attributes, Ordinary f R a.2) :
    Ordinary f R (.object attributes)
  | token (text : String) : Ordinary f R (.token text)
  | point {x y} (h : Ordinary f R x) (h' : Ordinary f R y) : Ordinary f R (.point x y)

variable {f : Value → Value} {R : Region} {α β : Type}

/-- A value that is ordinary once it is replaced, and a key if the datum is one of which it was
made. -/
structure Value.MadeOf (f : Value → Value) (R : Region) (d : Datum) (v : Value) : Prop where
  ordinary : (f v).Ordinary R
  isKey : d.IsKey → v.IsKey

/-! ## Building -/

/-- A computation that leaves a store of ordinary values behind one, gives no cell other content,
and answers in this way. -/
def Building.Lays (f : Value → Value) (R : Region) (P : α → Prop) (x : Building α) : Prop :=
  ∀ s : Store, (s.mapValues f).Ordinary R →
    P (x.run s).1 ∧ ((x.run s).2.mapValues f).Ordinary R ∧ (x.run s).2.changed = s.changed

/-- What a mapping can hold: a key and a value that are ordinary once they are replaced. -/
structure IsEntry (f : Value → Value) (R : Region) (e : Value × Value) : Prop where
  isKey : e.1.IsKey
  key : (f e.1).Ordinary R
  value : (f e.2).Ordinary R

/-- A value of which the parts stand at a place of the region. -/
lemma Replaces.madeOf (hf : Replaces f) {c : Content} (hc : FreeIn R c) (hcell : c.isCell = true)
    (d : Datum) : (Value.ofContent c).MadeOf f R d := by
  have hthere : (Value.ofContent c).isMissing = false := by cases c <;> first | rfl | cases hcell
  refine ⟨hf.ordinary ⟨hc, hthere⟩, fun _ => ⟨?_, ?_⟩⟩
  · rintro m rfl
    cases hcell
  · cases c <;> first | rfl | cases hcell

namespace Building.Lays

variable {P : α → Prop} {Q : β → Prop}

protected lemma pure {a : α} (h : P a) : Lays f R P (pure a) := fun _ hs => ⟨h, hs, rfl⟩

protected lemma bind {x : Building α} {g : α → Building β} (hx : Lays f R P x)
    (hg : ∀ a, P a → Lays f R Q (g a)) : Lays f R Q (x >>= g) := by
  intro s hs
  obtain ⟨ha, hs', hchanged⟩ := hx s hs
  obtain ⟨hb, hs'', hchanged'⟩ := hg _ ha _ hs'
  exact ⟨hb, hs'', hchanged'.trans hchanged⟩

protected lemma map {x : Building α} {g : α → β} (hx : Lays f R P x) (hg : ∀ a, P a → Q (g a)) :
    Lays f R Q (x >>= fun a => pure (g a)) := hx.bind fun a ha => .pure (hg a ha)

lemma imp {x : Building α} {P' : α → Prop} (hx : Lays f R P x) (h : ∀ a, P a → P' a) :
    Lays f R P' x := fun s hs => ⟨h _ (hx s hs).1, (hx s hs).2⟩

protected lemma mapM {g : α → Building β} {xs : List α} (hg : ∀ a ∈ xs, Lays f R Q (g a)) :
    Lays f R (fun bs => ∀ b ∈ bs, Q b) (xs.mapM g) := by
  induction xs with
  | nil => exact .pure (List.forall_mem_nil _)
  | cons a xs ih =>
    obtain ⟨ha, hxs⟩ := List.forall_mem_cons.1 hg
    rw [List.mapM_cons]
    exact ha.bind fun b hb => (ih hxs).map fun bs hbs => List.forall_mem_cons.2 ⟨hb, hbs⟩

end Building.Lays

namespace Building

variable (hf : Replaces f)
include hf

/-- A value that is kept is replaced as before. -/
lemma lays_keep {v : Value} (hv : (f v).Ordinary R) :
    (keep v).Lays f R fun w => (f w).Ordinary R ∧ (v.IsKey → w.IsKey) := by
  intro s hs
  refine ⟨?_, hs.keep v, ?_⟩
  · have hcontent : ((keep v).run s).1.content = v.content := content_keep v s
    refine ⟨?_, fun hkey => ⟨hcontent ▸ hkey.comparable, hcontent ▸ hkey.quiet⟩⟩
    by_cases hfuture : ∃ id, v.content = .future id
    · obtain ⟨id, hid⟩ := hfuture
      have hkept : (keep v).run s = (v, s) := by
        rw [keep]
        split
        · rw [hid]; rfl
        · rfl
      rwa [hkept]
    · have hstays : f v = v := hf v fun id hid => hfuture ⟨id, hid⟩
      rw [hf _ fun id hid => hfuture ⟨id, hcontent ▸ hid⟩]
      rw [hstays] at hv
      refine ⟨?_, ?_⟩
      · show FreeIn R ((keep v).run s).1.content
        rw [hcontent]
        exact hv.free
      · rw [Value.isMissing, hcontent]
        exact hv.there
  · rw [keep]
    split
    · split <;> rfl
    · rfl

omit hf in
/-- A new cell stands at a place of the region. -/
lemma lays_add {c : Cell} (hc : (c.mapValues f).Ordinary R) : (add c).Lays f R (FreeIn R) := by
  intro s hs
  refine ⟨hs.beyond _ (Nat.le_of_eq Array.size_map), ?_, rfl⟩
  show ((s.push c).mapValues f).Ordinary R
  rw [← Store.push_mapValues]
  exact hs.push hc

lemma lays_addRow {items : List Value} (h : ∀ v ∈ items, (f v).Ordinary R) :
    (addRow items).Lays f R (FreeIn R) := by
  have hkeep : ∀ v ∈ items, (keep v).Lays f R fun w => (f w).Ordinary R ∧ (v.IsKey → w.IsKey) :=
    fun v hv => lays_keep hf (h v hv)
  have hitems : Lays f R (fun ws => ∀ w ∈ ws, (f w).Ordinary R) (items.mapM keep) :=
    .mapM fun v hv => (hkeep v hv).imp fun w hw => hw.1
  refine hitems.bind fun items hitems => lays_add fun v hv => ?_
  obtain ⟨w, hw, rfl⟩ := Array.mem_map.1 hv
  exact hitems w (List.mem_toArray.1 hw)

lemma lays_addEntries {entries : List (Value × Value)} (h : ∀ e ∈ entries, IsEntry f R e) :
    (addEntries entries).Lays f R (FreeIn R) := by
  have hentries : Lays f R (fun es => ∀ e ∈ es, IsEntry f R e)
      (entries.mapM fun e => do return (← keep e.1, ← keep e.2)) := .mapM fun e he =>
    (lays_keep hf (h e he).key).bind fun k hk => (lays_keep hf (h e he).value).map fun v hv =>
      ⟨hk.2 (h e he).isKey, hk.1, hv.1⟩
  refine hentries.bind fun entries hentries => lays_add fun e he => ?_
  obtain ⟨e, hmem, rfl⟩ := List.mem_map.1 he
  exact ⟨(hentries e hmem).isKey, (hentries e hmem).value⟩

lemma lays_addAttributes {named : List (String × Value)} (h : ∀ a ∈ named, (f a.2).Ordinary R) :
    (addAttributes named).Lays f R (FreeIn R) := by
  have hnamed : Lays f R (fun as => ∀ a ∈ as, (f a.2).Ordinary R)
      (named.mapM fun a => do return (a.1, ← keep a.2)) := .mapM fun a ha =>
    (lays_keep hf (h a ha)).map fun v hv => hv.1
  refine hnamed.bind fun named hnamed => lays_add fun a ha => ?_
  obtain ⟨a, hmem, rfl⟩ := List.mem_map.1 ha
  exact hnamed a hmem

end Building

/-! ## Mappings -/

lemma Look.run_bind_eq_ok {x : Look α} {g : α → Look β} {s : Store} {b : β}
    (h : (x >>= g).run s = .ok b) : ∃ a, x.run s = .ok a ∧ (g a).run s = .ok b := by
  rw [ReaderT.run_bind] at h
  cases hx : x.run s with
  | error e =>
    rw [hx] at h
    cases h
  | ok a =>
    rw [hx] at h
    exact ⟨a, rfl, h⟩

lemma insertEntry_isEntry {key v : Value} {entries more : List (Value × Value)} {s : Store}
    (he : IsEntry f R (key, v)) (h : ∀ e ∈ entries, IsEntry f R e)
    (hmore : (insertEntry key v entries).run s = .ok more) : ∀ e ∈ more, IsEntry f R e := by
  induction entries generalizing more with
  | nil =>
    cases hmore
    exact List.forall_mem_singleton.2 he
  | cons e entries ih =>
    obtain ⟨hfirst, hentries⟩ := List.forall_mem_cons.1 h
    obtain ⟨b, -, hrest⟩ := Look.run_bind_eq_ok hmore
    cases b with
    | true =>
      cases hrest
      exact List.forall_mem_cons.2 ⟨⟨hfirst.isKey, hfirst.key, he.value⟩, hentries⟩
    | false =>
      obtain ⟨others, hothers, hrest⟩ := Look.run_bind_eq_ok hrest
      cases hrest
      exact List.forall_mem_cons.2 ⟨hfirst, ih hentries hothers⟩

/-- Entries that take each other's places are made of their keys and values. -/
lemma insertEntries_isEntry {entries more result : List (Value × Value)} {s : Store}
    (h : ∀ e ∈ entries, IsEntry f R e) (hmore : ∀ e ∈ more, IsEntry f R e)
    (hresult : (insertEntries entries more).run s = .ok result) :
    ∀ e ∈ result, IsEntry f R e := by
  induction more generalizing entries with
  | nil =>
    cases hresult
    exact h
  | cons e more ih =>
    obtain ⟨he, hmore⟩ := List.forall_mem_cons.1 hmore
    obtain ⟨-, -, hrest⟩ := Look.run_bind_eq_ok hresult
    obtain ⟨others, hothers, hrest⟩ := Look.run_bind_eq_ok hrest
    exact ih (insertEntry_isEntry he h hothers) hmore hrest

namespace Building

variable (hf : Replaces f)
include hf

lemma lays_mapping {entries : List (Value × Value)} (h : ∀ e ∈ entries, IsEntry f R e)
    (d : Datum) : (mapping entries).Lays f R (Value.MadeOf f R d) := by
  have hdict : ∀ entries : List (Value × Value), (∀ e ∈ entries, IsEntry f R e) →
      (dict entries).Lays f R (Value.MadeOf f R d) := fun entries h =>
    (lays_addEntries hf h).map fun r hr => hf.madeOf hr rfl d
  have hget : (get : Building Store).Lays f R fun _ => True := fun s hs => ⟨trivial, hs, rfl⟩
  refine hget.bind fun s _ => ?_
  split
  · next result hresult =>
    exact hdict result (insertEntries_isEntry (List.forall_mem_nil _) h hresult)
  · exact hdict entries h

end Building

/-! ## Loading -/

namespace Datum

open Building

lemma lays_loadAll {ds : List Datum}
    (h : ∀ d ∈ ds, d.load.Lays f R (Value.MadeOf f R d)) :
    (loadAll ds).Lays f R fun vs => ∀ v ∈ vs, (f v).Ordinary R := by
  induction ds with
  | nil => exact .pure (List.forall_mem_nil _)
  | cons d ds ih =>
    obtain ⟨hd, hds⟩ := List.forall_mem_cons.1 h
    exact hd.bind fun v hv => (ih hds).map fun vs hvs =>
      List.forall_mem_cons.2 ⟨hv.ordinary, hvs⟩

lemma lays_loadAttributes {named : List (String × Datum)}
    (h : ∀ a ∈ named, a.2.load.Lays f R (Value.MadeOf f R a.2)) :
    (loadAttributes named).Lays f R fun vs => ∀ a ∈ vs, (f a.2).Ordinary R := by
  induction named with
  | nil => exact .pure (List.forall_mem_nil _)
  | cons a named ih =>
    obtain ⟨ha, hnamed⟩ := List.forall_mem_cons.1 h
    exact ha.bind fun v hv => (ih hnamed).map fun vs hvs =>
      List.forall_mem_cons.2 ⟨hv.ordinary, hvs⟩

lemma lays_loadEntries {entries : List (Datum × Datum)} (hkeys : ∀ e ∈ entries, e.1.IsKey)
    (h : ∀ e ∈ entries, e.1.load.Lays f R (Value.MadeOf f R e.1))
    (h' : ∀ e ∈ entries, e.2.load.Lays f R (Value.MadeOf f R e.2)) :
    (loadEntries entries).Lays f R fun es => ∀ e ∈ es, IsEntry f R e := by
  induction entries with
  | nil => exact .pure (List.forall_mem_nil _)
  | cons e entries ih =>
    obtain ⟨hkey, hkeys⟩ := List.forall_mem_cons.1 hkeys
    obtain ⟨he, h⟩ := List.forall_mem_cons.1 h
    obtain ⟨he', h'⟩ := List.forall_mem_cons.1 h'
    exact he.bind fun k hk => he'.bind fun v hv => (ih hkeys h h').map fun es hes =>
      List.forall_mem_cons.2 ⟨⟨hk.isKey hkey, hk.ordinary, hv.ordinary⟩, hes⟩

/-- **Loading a datum of ordinary values**: what it becomes is ordinary, and so is the store. -/
theorem lays_load (hf : Replaces f) {d : Datum} (h : d.Ordinary f R) :
    d.load.Lays f R (Value.MadeOf f R d) := by
  induction h with
  | held h => exact (lays_keep hf h).imp fun w hw => ⟨hw.1, fun hkey => hw.2 (hkey _ rfl)⟩
  | list _ ih | set _ ih =>
    exact (lays_loadAll ih).bind fun vs hvs => (lays_addRow hf hvs).map fun r hr =>
      hf.madeOf hr rfl _
  | tuple _ ih =>
    refine (lays_loadAll ih).bind fun vs hvs => ?_
    rw [Building.tuple]
    split
    · exact fun s hs => ⟨hf.madeOf hs.first rfl _, hs, rfl⟩
    · exact (lays_addRow hf hvs).map fun r hr => hf.madeOf hr rfl _
  | dict hkeys _ _ ih ih' =>
    exact (lays_loadEntries hkeys ih ih').bind fun es hes => lays_mapping hf hes _
  | trusted _ ih =>
    exact ih.bind fun v hv =>
      (lays_addRow hf (List.forall_mem_singleton.2 hv.ordinary)).map fun r hr =>
        hf.madeOf hr rfl _
  | object _ ih =>
    exact (lays_loadAttributes ih).bind fun vs hvs => (lays_addAttributes hf hvs).map fun r hr =>
      hf.madeOf hr rfl _
  | token text =>
    have htext : (f (.str text)).Ordinary R := hf.ordinary ⟨trivial, rfl⟩
    exact (lays_addRow hf (List.forall_mem_singleton.2 htext)).map fun r hr =>
      hf.madeOf hr rfl _
  | point _ _ ih ih' =>
    exact ih.bind fun v hv => ih'.bind fun w hw =>
      (lays_addRow hf (List.forall_mem_cons.2
        ⟨hv.ordinary, List.forall_mem_singleton.2 hw.ordinary⟩)).map fun r hr =>
          hf.madeOf hr rfl _

end Datum

end Interpolation
