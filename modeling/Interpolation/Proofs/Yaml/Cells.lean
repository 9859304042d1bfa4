import Interpolation.Proofs.Paths.Replacing

/-!
# Cells that are filled

A cell is filled with values that were made before, and the entries of a mapping are put into it one
by one.  Both look harmless and are not quite: a value is given a number when it is kept, so the store
is not the same afterwards; and keys are compared with all that came before them, by their numbers as
well as by what they are, so a key could replace another one.  Texts that are told apart do not.

* `Value.Differs` — two values are told apart.
* `run_insertEntries_texts` — entries under different texts stay as they are.
* `Building.OnlyKeeps`, `Building.Puts` — what keeping and filling do to a store.
* `Building.run_putRow`, `Building.run_putEntries` — a cell is filled.
-/

namespace Interpolation

/-! ## Mappings with texts for keys -/

section Texts

variable {store : Store} {k key v : Value} {a b : String}

/-- Two values are told apart, by what they are and by the numbers under which they are kept. -/
structure Value.Differs (v w : Value) : Prop where
  content : v.content ≠ w.content
  identity : ∀ n, v.identity = .kept n → w.identity ≠ .kept n

/-- Different texts do not fit. -/
lemma Value.run_fits_text (hk : k.content = .str a) (hkey : key.content = .str b)
    (h : k.Differs key) : (fits equal k key).run store = .ok false := by
  have hne : (a == b) = false := by
    refine beq_false_of_ne ?_
    rintro rfl
    exact h.content (hk.trans hkey.symm)
  have hcontents : k.content.identical key.content = false := by
    rw [hk, hkey]
    exact hne
  have hsame : k.same key = false := by
    rw [same]
    split
    · exact hcontents
    · split
      · next m n hm hn =>
        rw [beq_eq_false_iff_ne]
        rintro rfl
        exact h.identity m hm hn
      · exact hcontents
      · rfl
  have hequal : (equal k key).run store = .ok (a == b) := by
    obtain ⟨c, i⟩ := k
    obtain ⟨d, j⟩ := key
    cases hk
    cases hkey
    rfl
  rw [fits, hsame]
  exact hequal.trans (congrArg Except.ok hne)

/-- An entry under a new text is put at the end. -/
lemma run_insertEntry_text {entries : List (Value × Value)} (hkey : key.content = .str b)
    (h : ∀ e ∈ entries, (∃ a, e.1.content = .str a) ∧ e.1.Differs key) :
    (insertEntry key v entries).run store = .ok (entries ++ [(key, v)]) := by
  induction entries with
  | nil => rfl
  | cons e entries ih =>
    obtain ⟨⟨⟨a, ha⟩, hdiffers⟩, hentries⟩ := List.forall_mem_cons.1 h
    obtain ⟨k, w⟩ := e
    rw [insertEntry, ReaderT.run_bind, Value.run_fits_text ha hkey hdiffers]
    show ((insertEntry key v entries).run store >>= _) = _
    rw [ih hentries]
    rfl

/-- Entries under different texts are kept as they are. -/
lemma run_insertEntries_texts {entries pairs : List (Value × Value)}
    (htexts : ∀ e ∈ entries ++ pairs, ∃ a, e.1.content = .str a)
    (hdiffer : (entries ++ pairs).Pairwise fun e e' => e.1.Differs e'.1) :
    (insertEntries entries pairs).run store = .ok (entries ++ pairs) := by
  induction pairs generalizing entries with
  | nil => rw [List.append_nil]; rfl
  | cons e pairs ih =>
    obtain ⟨key, v⟩ := e
    obtain ⟨b, hb⟩ := htexts (key, v) (List.mem_append_right _ List.mem_cons_self)
    have hrequire : key.requireKey.run store = .ok () := by
      rw [Value.requireKey, Value.comparedLevels, Value.requireKeyTo, hb]
      rfl
    have hinsert : (insertEntry key v entries).run store = .ok (entries ++ [(key, v)]) :=
      run_insertEntry_text hb fun e he => ⟨htexts e (List.mem_append_left _ he),
        (List.pairwise_append.1 hdiffer).2.2 e he _ List.mem_cons_self⟩
    rw [insertEntries, ReaderT.run_bind, hrequire]
    show ((insertEntry key v entries).run store >>= _) = _
    rw [hinsert]
    show (insertEntries (entries ++ [(key, v)]) pairs).run store = _
    rw [ih (by rwa [List.append_assoc]) (by rwa [List.append_assoc]), List.append_assoc]
    rfl

end Texts

/-- What an entry is, apart from how its key and its value are kept. -/
def Value.entryContent (e : Value × Value) : Content × Content := (e.1.content, e.2.content)

namespace Building

/-- No cell is changed, and no number is given a second time. -/
structure OnlyKeeps (s s' : Store) : Prop where
  cells : s'.cells = s.cells
  kept : s.kept ≤ s'.kept

lemma OnlyKeeps.trans {s s' s'' : Store} (h : OnlyKeeps s s') (h' : OnlyKeeps s' s'') :
    OnlyKeeps s s'' := ⟨h'.cells.trans h.cells, Nat.le_trans h.kept h'.kept⟩

lemma onlyKeeps_keep (v : Value) (s : Store) : OnlyKeeps s ((keep v).run s).2 := by
  refine ⟨cells_keep v s, ?_⟩
  rw [keep]
  split
  · split
    · exact Nat.le_refl _
    · exact Nat.le_succ _
  · exact Nat.le_refl _

/-- The number of a new value is a new one. -/
lemma number_keep {c : Content} {s : Store} {m : Nat}
    (h : ((keep (.ofContent c)).run s).1.identity = .kept m) :
    s.kept ≤ m ∧ m < ((keep (.ofContent c)).run s).2.kept := by
  rw [keep, Value.ofContent] at h ⊢
  dsimp only at h ⊢
  split at h
  · cases h
  · next hkept =>
    rw [if_neg hkept]
    cases h
    exact ⟨Nat.le_refl _, Nat.lt_succ_self _⟩

/-- Values that are kept have the contents that they had. -/
lemma run_keepAll (items : List Value) (s : Store) :
    ((items.mapM keep).run s).1.map Value.content = items.map Value.content ∧
      OnlyKeeps s ((items.mapM keep).run s).2 := by
  induction items generalizing s with
  | nil => exact ⟨rfl, rfl, Nat.le_refl _⟩
  | cons v items ih =>
    obtain ⟨hitems, hkeeps⟩ := ih ((keep v).run s).2
    rw [List.mapM_cons]
    exact ⟨congrArg₂ List.cons (content_keep v s) hitems, (onlyKeeps_keep v s).trans hkeeps⟩

/-- A key and a value that are kept. -/
def keepEntry (e : Value × Value) : Building (Value × Value) := do
  return (← keep e.1, ← keep e.2)

lemma run_keepEntries (entries : List (Value × Value)) (s : Store) :
    ((entries.mapM keepEntry).run s).1.map Value.entryContent = entries.map Value.entryContent ∧
      OnlyKeeps s ((entries.mapM keepEntry).run s).2 := by
  induction entries generalizing s with
  | nil => exact ⟨rfl, rfl, Nat.le_refl _⟩
  | cons e entries ih =>
    obtain ⟨hentries, hkeeps⟩ := ih ((keepEntry e).run s).2
    have hentry : Value.entryContent ((keepEntry e).run s).1 = Value.entryContent e :=
      congrArg₂ Prod.mk (content_keep e.1 s) (content_keep e.2 _)
    rw [List.mapM_cons]
    exact ⟨congrArg₂ List.cons hentry hentries,
      ((onlyKeeps_keep e.1 s).trans (onlyKeeps_keep e.2 _)).trans hkeeps⟩

/-- One cell is given other content. -/
structure Puts (r : Ref) (c : Cell) (s s' : Store) : Prop where
  here : s'.cell? r = some c
  elsewhere : ∀ r', r' ≠ r → s'.cell? r' = s.cell? r'
  size : s'.cells.size = s.cells.size
  kept : s.kept ≤ s'.kept

lemma OnlyKeeps.puts {s s' : Store} {r : Ref} (h : OnlyKeeps s s') (hr : r.place < s.cells.size)
    (c : Cell) : Puts r c s (s'.set r c) := by
  rw [← h.cells] at hr
  refine ⟨?_, fun r' hne => ?_, ?_, h.kept⟩
  · rw [Store.cell?, Store.set, Array.getElem?_setIfInBounds_self_of_lt hr]
  · have hplace : r.place ≠ r'.place := fun hplace => hne (by
      obtain ⟨p⟩ := r
      obtain ⟨q⟩ := r'
      exact congrArg Ref.mk hplace.symm)
    rw [Store.cell?, Store.set, Array.getElem?_setIfInBounds_ne hplace, h.cells]
    rfl
  · rw [Store.set, Array.size_setIfInBounds, h.cells]

/-- A row is filled. -/
lemma run_putRow {r : Ref} {s : Store} (hr : r.place < s.cells.size) (items : List Value) :
    ∃ ws : List Value, ws.map Value.content = items.map Value.content ∧
      Puts r (.row ws.toArray) s ((putRow r items).run s).2 := by
  obtain ⟨hitems, hkeeps⟩ := run_keepAll items s
  exact ⟨_, hitems, hkeeps.puts hr _⟩

/-- A mapping is filled. -/
lemma run_putEntries {r : Ref} {s : Store} (hr : r.place < s.cells.size)
    (entries : List (Value × Value)) :
    ∃ es : List (Value × Value),
      es.map Value.entryContent = entries.map Value.entryContent ∧
      Puts r (.entries es) s ((putEntries r entries).run s).2 := by
  obtain ⟨hentries, hkeeps⟩ := run_keepEntries entries s
  exact ⟨_, hentries, hkeeps.puts hr _⟩

end Building

end Interpolation
