import Interpolation.Proofs.Yaml.Making

/-!
# Filling the collections of a graph

Filling a collection makes the values of its parts, so it may open further collections; but each of
them is the value of a node that had none.  The number of nodes without a value and that of the
collections that wait for their content are thus no more afterwards than before, and a round in which
all that wait are filled makes the two of them less: there are enough rounds for all.  A mapping with
texts for keys takes no entries over, and as its keys differ, none replaces another one.

* `Making.run_flatten` — nothing is taken over.
* `Making.run_fill` — one collection is filled.
* **`Making.run_fillAll`** — at the end every collection has its content.
-/

namespace Interpolation

namespace Yaml

open State

variable {graph : Array Node} {s s' : State} {i k : Nat} {v w : Value} {c : Content} {n : Node}
  {r : Ref} {pending : List Nat} {es : List (String × Json)} {entries : List (Nat × Nat)}
  {pairs : List (Value × Value)}

/-! ## What is known of values -/

/-- The content of a text is that text. -/
lemma State.Sound.content_of_text {name : String} (hs : s.Sound graph pending)
    (hk : s.Has k c) (hname : graph[k]? = some (.scalar .text name)) :
    c = .str name := by
  cases hs.made k _ _ hk hname with
  | scalar _ h => exact (Except.ok.inj h).symm

/-! ## What is still to be filled -/

/-- A collection that gets its content is not pending any more. -/
lemma State.Sound.put {cell : Cell} {store : Store} (hs : s.Sound graph (i :: pending)) (hi : s.Has i c)
    (hc : c.cell? = some r) (hputs : Building.Puts r cell s.store store)
    (hfilled : ∀ n, graph[i]? = some n → { s with store := store }.Filled n r) :
    { s with store := store }.Sound graph pending where
  nodes := hs.nodes
  size := hs.size
  shown := hs.shown
  made k d n hk hn := (hs.made k d n hk hn).mono (Nat.le_of_eq hputs.size.symm)
  alone := hs.alone
  numbered k v m hv hm := Nat.lt_of_lt_of_le (hs.numbered k v m hv hm) hputs.kept
  apart := hs.apart
  filled k d n r' hk hn hd := by
    by_cases hne : k = i
    · subst hne
      cases hi.unique hk
      cases hc.symm.trans hd
      exact .inr (.inr (hfilled n hn))
    · obtain hp | hw | hf := hs.filled k d n r' hk hn hd
      · exact .inl ((List.mem_cons.1 hp).resolve_left hne)
      · exact .inr (.inl hw)
      · refine .inr (.inr (hf.mono (fun _ _ => id) (hputs.elsewhere r' ?_)))
        rintro rfl
        exact hne (hs.alone k i d c _ hk hi hd hc)
  opened := hs.opened

/-- The collections that wait are taken up. -/
lemma State.Sound.takeUp (hs : s.Sound graph []) :
    { s with waiting := [] }.Sound graph s.waiting.reverse where
  nodes := hs.nodes
  size := hs.size
  shown := hs.shown
  made k c n hk hn := (hs.made k c n hk hn).mono (Nat.le_refl _)
  alone := hs.alone
  numbered := hs.numbered
  apart := hs.apart
  filled k c n r hk hn hc := by
    obtain hp | hw | hf := hs.filled k c n r hk hn hc
    · cases hp
    · exact .inl (List.mem_reverse.2 hw)
    · exact .inr (.inr (hf.mono (fun _ _ => id) rfl))
  opened k hk := nomatch hk

namespace Making

/-! ## Nothing is taken over -/

lemma run_entries {tag : Tag} (h : s.nodes[i]? = some (.mapping tag entries)) :
    (Making.entries i).run s = .ok (entries, s) := by
  rw [Making.entries, run_bind_of_run (run_node h)]
  rfl

/-- A mapping with texts for keys takes nothing over, however long one looks. -/
lemma run_takenFrom {tag : Tag} (h : s.nodes[i]? = some (.mapping tag entries))
    (hkeys : ∀ e ∈ entries, ∃ name, s.nodes[e.1]? = some (.scalar .text name)) (fuel place : Nat)
    (taken : List (Nat × Nat)) : (takenFrom fuel i place taken).run s = .ok (taken, s) := by
  induction fuel generalizing place with
  | zero => rw [takenFrom]; rfl
  | succ fuel ih =>
    rw [takenFrom, run_bind_of_run (run_entries h)]
    cases hplace : entries[place]? with
    | none => rfl
    | some e =>
      obtain ⟨k, v⟩ := e
      obtain ⟨name, hname⟩ := hkeys _ (List.mem_of_getElem? hplace)
      dsimp only
      rw [run_bind_of_run (run_node hname)]
      exact ih (place + 1)

lemma run_flatten {tag : Tag} (h : s.nodes[i]? = some (.mapping tag entries))
    (hkeys : ∀ e ∈ entries, ∃ name, s.nodes[e.1]? = some (.scalar .text name)) (fuel : Nat) :
    (flatten fuel i).run s = .ok ((), s) := by
  cases fuel with
  | zero => rw [flatten]; rfl
  | succ fuel =>
    rw [flatten, run_bind_of_run (run_takenFrom h hkeys fuel 0 [])]
    rfl

/-! ## The values of the parts -/

/-- The nodes of items get values. -/
lemma run_values {js : List Json} {items : List Nat} (hs : s.Sound graph pending)
    (hshow : ShowItems graph js items) :
    ∃ vs s', (items.mapM value).run s = .ok (vs, s') ∧ s'.Sound graph pending ∧ s.Grows s' ∧
      List.Forall₂ (fun k v => s'.valueOf k = some v) items vs := by
  induction items generalizing s js with
  | nil => exact ⟨[], s, rfl, hs, .refl s, .nil⟩
  | cons k items ih =>
    cases hshow with
    | cons hshown hshow =>
      obtain ⟨v, s₁, hrun, hs₁, hgrows, hv⟩ := run_value hs hshown
      obtain ⟨vs, s₂, hruns, hs₂, hgrows', hvs⟩ := ih hs₁ hshow
      refine ⟨v :: vs, s₂, ?_, hs₂, hgrows.trans hgrows', .cons (hgrows'.valueOf k v hv) hvs⟩
      rw [List.mapM_cons, run_bind_of_run hrun, run_bind_of_run hruns]
      rfl

/-- The key and the value of an entry. -/
def entryValues (e : Nat × Nat) : Making (Value × Value) := do
  let key ← value e.1
  if key.content.isCell then throw .unconstructible
  return (key, ← value e.2)

lemma run_entryValues {name : String} {j : Json} {e : Nat × Nat} (hs : s.Sound graph pending)
    (hname : graph[e.1]? = some (.scalar .text name)) (hshown : Shows graph j e.2) :
    ∃ p s', (entryValues e).run s = .ok (p, s') ∧ s'.Sound graph pending ∧ s.Grows s' ∧
      s'.valueOf e.1 = some p.1 ∧ s'.valueOf e.2 = some p.2 := by
  obtain ⟨key, s₁, hrun, hs₁, hgrows, hkey⟩ := run_value hs (.scalar hname (Json.isScalar_text name))
  obtain ⟨v, s₂, hrun', hs₂, hgrows', hv⟩ := run_value hs₁ hshown
  refine ⟨(key, v), s₂, ?_, hs₂, hgrows.trans hgrows', hgrows'.valueOf _ _ hkey, hv⟩
  rw [entryValues, run_bind_of_run hrun, hs₁.content_of_text ⟨key, hkey, rfl⟩ hname]
  show (value e.2 >>= _).run s₁ = _
  rw [run_bind_of_run hrun']
  rfl

/-- The nodes of entries get values. -/
lemma run_entriesValues (hs : s.Sound graph pending) (hshow : ShowEntries graph es entries) :
    ∃ pairs s', (entries.mapM entryValues).run s = .ok (pairs, s') ∧ s'.Sound graph pending ∧
      s.Grows s' ∧ List.Forall₂
        (fun e p => s'.valueOf e.1 = some p.1 ∧ s'.valueOf e.2 = some p.2) entries pairs := by
  induction entries generalizing s es with
  | nil => exact ⟨[], s, rfl, hs, .refl s, .nil⟩
  | cons e entries ih =>
    cases hshow with
    | cons hname hshown hshow =>
      obtain ⟨p, s₁, hrun, hs₁, hgrows, hkey, hv⟩ :=
        run_entryValues (e := (_, _)) hs hname hshown
      obtain ⟨pairs, s₂, hruns, hs₂, hgrows', hpairs⟩ := ih hs₁ hshow
      refine ⟨p :: pairs, s₂, ?_, hs₂, hgrows.trans hgrows',
        .cons ⟨hgrows'.valueOf _ _ hkey, hgrows'.valueOf _ _ hv⟩ hpairs⟩
      rw [List.mapM_cons, run_bind_of_run hrun, run_bind_of_run hruns]
      rfl

/-- The keys of a mapping come from its names. -/
lemma exists_name (hs : s.Sound graph pending) (hshow : ShowEntries graph es entries)
    (hpairs : List.Forall₂ (fun e p => s.valueOf e.1 = some p.1 ∧ s.valueOf e.2 = some p.2)
      entries pairs) {p : Value × Value} (hp : p ∈ pairs) :
    ∃ name ∈ es.map Prod.fst, p.1.content = .str name ∧
      ∃ k, graph[k]? = some (.scalar .text name) ∧ s.valueOf k = some p.1 := by
  induction hpairs generalizing es with
  | nil => cases hp
  | @cons e q entries pairs hq hpairs ih =>
    cases hshow with
    | cons hname _ hshow =>
      obtain rfl | hp := List.mem_cons.1 hp
      · exact ⟨_, List.mem_cons_self, hs.content_of_text ⟨_, hq.1, rfl⟩ hname, _, hname, hq.1⟩
      · obtain ⟨name, hmem, hname⟩ := ih hshow hp
        exact ⟨name, List.mem_cons_of_mem _ hmem, hname⟩

/-- Keys with different names are told apart, because no two nodes share a number. -/
lemma pairwise_differs (hs : s.Sound graph pending) (hshow : ShowEntries graph es entries)
    (hpairs : List.Forall₂ (fun e p => s.valueOf e.1 = some p.1 ∧ s.valueOf e.2 = some p.2)
      entries pairs) (hkeys : (es.map Prod.fst).Nodup) :
    pairs.Pairwise fun p q => p.1.Differs q.1 := by
  induction hpairs generalizing es with
  | nil => exact .nil
  | @cons e p entries pairs hp hpairs ih =>
    cases hshow with
    | @cons name _ es _ _ _ hname _ hshow =>
      obtain ⟨hnew, hkeys⟩ := List.nodup_cons.1 hkeys
      refine .cons (fun q hq => ?_) (ih hshow hkeys)
      obtain ⟨name', hmem, hcontent, k, hk, hq⟩ := exists_name hs hshow hpairs hq
      have hne : name ≠ name' := by
        rintro rfl
        exact hnew hmem
      refine ⟨?_, fun m hm hm' => ?_⟩
      · rw [hs.content_of_text ⟨_, hp.1, rfl⟩ hname, hcontent]
        exact fun h => hne (Content.str.inj h)
      · cases hs.apart _ _ _ _ m hp.1 hq hm hm'
        cases hname.symm.trans hk
        exact hne rfl

/-- **The entries of a mapping are those of its nodes.** -/
lemma run_mappingEntries {tag : Tag} (hs : s.Sound graph pending)
    (hnode : graph[i]? = some (.mapping tag entries)) (hshow : ShowEntries graph es entries)
    (hkeys : (es.map Prod.fst).Nodup) :
    ∃ pairs s', (mappingEntries i).run s = .ok (pairs, s') ∧ s'.Sound graph pending ∧ s.Grows s' ∧
      List.Forall₂ (fun e p => s'.valueOf e.1 = some p.1 ∧ s'.valueOf e.2 = some p.2)
        entries pairs := by
  obtain ⟨pairs, s', hrun, hs', hgrows, hpairs⟩ := run_entriesValues hs hshow
  refine ⟨pairs, s', ?_, hs', hgrows, hpairs⟩
  have hinsert : (insertEntries [] pairs).run s'.store = .ok pairs :=
    run_insertEntries_texts
      (fun p hp => have ⟨name, _, hname, _⟩ := exists_name hs' hshow hpairs hp; ⟨name, hname⟩)
      (pairwise_differs hs' hshow hpairs hkeys)
  rw [← hs.nodes] at hnode hshow
  have hflat := run_flatten hnode (fun e => hshow.exists_name) stepLimit
  rw [mappingEntries, run_bind_of_run (run_node hnode)]
  dsimp only
  rw [run_bind_of_run hflat, run_bind_of_run (run_entries hnode)]
  show (entries.mapM entryValues >>= _).run s = _
  rw [run_bind_of_run hrun, run_bind_get, hinsert]
  rfl

/-! ## One collection -/

lemma run_items {tag : Tag} {items : List Nat} (h : s.nodes[i]? = some (.sequence tag items)) :
    (Making.items i).run s = .ok (items, s) := by
  rw [Making.items, run_bind_of_run (run_node h)]
  rfl

lemma run_build {α : Type} {x : Building α} :
    (build x).run s = .ok ((x.run s.store).1, { s with store := (x.run s.store).2 }) := rfl

/-- A list gets its content. -/
lemma run_fill_list {js : List Json} {items : List Nat} (hs : s.Sound graph (i :: pending))
    (hnode : graph[i]? = some (.sequence .sequence items)) (hshow : ShowItems graph js items)
    (hv : s.valueOf i = some v) (hr : v.content = .list r) :
    ∃ s', (fill i).run s = .ok ((), s') ∧ s'.Sound graph pending ∧ s.Grows s' := by
  obtain ⟨vs, s₁, hrun, hs₁, hgrows, hvs⟩ := run_values hs hshow
  have hi : s₁.Has i (.list r) := ⟨v, hgrows.valueOf i v hv, hr⟩
  have hplace : r.place < s₁.store.cells.size := (hs₁.made i _ _ hi hnode).lt rfl
  obtain ⟨ws, hws, hputs⟩ := Building.run_putRow hplace vs
  refine ⟨{ s₁ with store := ((Building.putRow r vs).run s₁.store).2 }, ?_,
    hs₁.put hi rfl hputs fun n hn => ?_, hgrows.trans ⟨fun _ _ => id, Nat.le_refl _⟩⟩
  · have hnode' := hs.nodes ▸ hnode
    rw [fill, run_bind_of_run (run_value_of_valueOf hv), run_bind_of_run (run_node hnode'), hr]
    show (Making.items i >>= _).run s = _
    rw [run_bind_of_run (run_items hnode'), run_bind_of_run hrun]
    exact run_build
  · cases hnode.symm.trans hn
    refine .sequence ?_
    rw [Store.row, hputs.here]
    show List.Forall₂ s₁.Has items (ws.map Value.content)
    rw [hws]
    exact List.forall₂_map_right_iff.2 (hvs.imp fun _ w hw => ⟨w, hw, rfl⟩)

/-- A mapping gets its content. -/
lemma run_fill_dict (hs : s.Sound graph (i :: pending))
    (hnode : graph[i]? = some (.mapping .mapping entries)) (hshow : ShowEntries graph es entries)
    (hkeys : (es.map Prod.fst).Nodup) (hv : s.valueOf i = some v) (hr : v.content = .dict r) :
    ∃ s', (fill i).run s = .ok ((), s') ∧ s'.Sound graph pending ∧ s.Grows s' := by
  obtain ⟨pairs, s₁, hrun, hs₁, hgrows, hpairs⟩ := run_mappingEntries hs hnode hshow hkeys
  have hi : s₁.Has i (.dict r) := ⟨v, hgrows.valueOf i v hv, hr⟩
  have hplace : r.place < s₁.store.cells.size := (hs₁.made i _ _ hi hnode).lt rfl
  obtain ⟨ps, hps, hputs⟩ := Building.run_putEntries hplace pairs
  refine ⟨{ s₁ with store := ((Building.putEntries r pairs).run s₁.store).2 }, ?_,
    hs₁.put hi rfl hputs fun n hn => ?_, hgrows.trans ⟨fun _ _ => id, Nat.le_refl _⟩⟩
  · have hnode' := hs.nodes ▸ hnode
    rw [fill, run_bind_of_run (run_value_of_valueOf hv), run_bind_of_run (run_node hnode'), hr]
    show (mappingEntries i >>= _).run s = _
    rw [run_bind_of_run hrun]
    exact run_build
  · cases hnode.symm.trans hn
    refine .mapping ?_
    rw [Store.entries, hputs.here]
    show List.Forall₂ s₁.HasEntry entries (ps.map Value.entryContent)
    rw [hps]
    exact List.forall₂_map_right_iff.2
      (hpairs.imp fun _ p hp => ⟨⟨p.1, hp.1, rfl⟩, ⟨p.2, hp.2, rfl⟩⟩)

/-- **A collection that waits gets its content.** -/
lemma run_fill (hs : s.Sound graph (i :: pending)) (hi : s.Has i c) (hc : c.cell?.isSome = true) :
    ∃ s', (fill i).run s = .ok ((), s') ∧ s'.Sound graph pending ∧ s.Grows s' := by
  obtain ⟨j, hshown⟩ := hs.shown i c hi
  obtain ⟨v, hv, rfl⟩ := hi
  cases hshown with
  | scalar hnode h =>
    cases hs.made i _ _ ⟨v, hv, rfl⟩ hnode with
    | scalar hj _ =>
      rw [(Content.cell?_of_content? hj).1] at hc
      cases hc
  | array hnode h =>
    generalize hr : v.content = d at hc
    cases hr ▸ hs.made i _ _ ⟨v, hv, rfl⟩ hnode with
    | sequence _ => exact run_fill_list hs hnode h hv hr
  | object hnode h hkeys =>
    generalize hr : v.content = d at hc
    cases hr ▸ hs.made i _ _ ⟨v, hv, rfl⟩ hnode with
    | mapping _ => exact run_fill_dict hs hnode h hkeys hv hr

/-! ## All collections -/

/-- Collections get their content one after the other. -/
lemma run_forM_fill (hs : s.Sound graph pending)
    (hopened : ∀ i ∈ pending, ∃ c, s.Has i c ∧ c.cell?.isSome = true) :
    ∃ s', (pending.forM fill).run s = .ok ((), s') ∧ s'.Sound graph [] ∧ s.Grows s' := by
  induction pending generalizing s with
  | nil => exact ⟨s, rfl, hs, .refl s⟩
  | cons i pending ih =>
    obtain ⟨⟨c, hi, hc⟩, hopened⟩ := List.forall_mem_cons.1 hopened
    obtain ⟨s₁, hrun, hs₁, hgrows⟩ := run_fill hs hi hc
    obtain ⟨s₂, hruns, hs₂, hgrows'⟩ := ih hs₁ fun k hk =>
      have ⟨d, hd, hcell⟩ := hopened k hk
      ⟨d, hgrows.has hd, hcell⟩
    refine ⟨s₂, ?_, hs₂, hgrows.trans hgrows'⟩
    show (fill i >>= fun _ => pending.forM fill).run s = _
    rw [run_bind_of_run hrun]
    exact hruns

/-- **In the end every collection has its content.** -/
theorem run_fillAll {fuel : Nat} (hs : s.Sound graph []) (hfuel : s.cost ≤ fuel) :
    ∃ s', (fillAll fuel).run s = .ok ((), s') ∧ s'.Sound graph [] ∧ s'.waiting = [] ∧
      s.Grows s' := by
  induction fuel generalizing s with
  | zero =>
    have hwaiting : s.waiting = [] := List.length_eq_zero_iff.1 (by rw [cost] at hfuel; omega)
    exact ⟨s, rfl, hs, hwaiting, .refl s⟩
  | succ fuel ih =>
    rw [fillAll, run_bind_get]
    cases hwaiting : s.waiting.reverse with
    | nil => exact ⟨s, rfl, hs, List.reverse_eq_nil_iff.1 hwaiting, .refl s⟩
    | cons i waiting =>
      have htaken := hs.takeUp
      rw [hwaiting] at htaken
      obtain ⟨s₁, hrun, hs₁, hgrows⟩ := run_forM_fill htaken fun k hk =>
        hs.opened k (List.mem_reverse.1 (hwaiting ▸ hk))
      -- what was taken up does not count any more
      have hcost : { s with waiting := [] }.cost < s.cost := by
        have hlength : 0 < s.waiting.length := by
          rw [← List.length_reverse, hwaiting]
          exact Nat.zero_lt_succ _
        exact Nat.add_lt_add_left hlength _
      obtain ⟨s₂, hruns, hs₂, hdone, hgrows'⟩ := ih hs₁ (by have := hgrows.cost; omega)
      have htook : s.Grows { s with waiting := [] } := ⟨fun _ _ => id, Nat.le_of_lt hcost⟩
      refine ⟨s₂, ?_, hs₂, hdone, (htook.trans hgrows).trans hgrows'⟩
      show ((i :: waiting).forM fill >>= fun _ => fillAll fuel).run { s with waiting := [] } = _
      rw [run_bind_of_run hrun]
      exact hruns

end Making

end Yaml

end Interpolation
