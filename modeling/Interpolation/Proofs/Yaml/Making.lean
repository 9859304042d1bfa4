import Interpolation.Proofs.Yaml.Cells
import Interpolation.Proofs.Yaml.Graphs

/-!
# Making the values of a graph

Values are made node by node, and a collection gets its content later than its value.  Between two
steps some collections thus wait for their content, and one may be in the middle of being filled.  The
invariant says what is known all the same: every value is that of its node, no two nodes share a cell
or a number, and what is in the cell of a collection that is neither waiting nor pending are the
values of the nodes in it.  Making one more value keeps it, because a new value has a cell and a number
that nothing else has.

Nothing is said here of the documents that values are compared with in the end; of a document it only
matters which nodes show it.

* `State.Sound` — the invariant.
* `State.Adds` — one more value; **`State.Adds.sound`** — the invariant is kept.
* `State.Grows` — values stay, and there is not more to be done.
* **`Making.run_value`** — a node that shows a document gets a value.
-/

namespace Interpolation

/-- The cell of a collection. -/
def Content.cell? : Content → Option Ref
  | .list r | .dict r => some r
  | _ => Option.none

lemma Content.cell?_of_content? {j : Json} {c : Content} (h : j.content? = some c) :
    c.cell? = Option.none ∧ c.isCell = false := by
  cases j <;> cases h <;> exact ⟨rfl, rfl⟩

namespace Yaml

variable {graph : Array Node} {s s' s'' : State} {i k : Nat} {v w : Value} {c d : Content} {n : Node}
  {r : Ref} {pending : List Nat}

namespace State

/-! ## What is known while values are made -/

/-- The value of a node, if it has one. -/
def valueOf (s : State) (i : Nat) : Option Value := (s.values[i]?).join

/-- A node has a value with some content. -/
def Has (s : State) (i : Nat) (c : Content) : Prop := ∃ v, s.valueOf i = some v ∧ v.content = c

/-- The nodes of an entry have values with some contents. -/
def HasEntry (s : State) (e : Nat × Nat) (c : Content × Content) : Prop :=
  s.Has e.1 c.1 ∧ s.Has e.2 c.2

/-- The number of nodes without a value. -/
def unvalued (s : State) : Nat := s.values.toList.countP (·.isNone)

/-- What is left to be done: nodes without a value, and collections without content. -/
def cost (s : State) : Nat := s.unvalued + s.waiting.length

/-- What the nodes of a collection stand for is in a cell. -/
inductive Filled (s : State) : Node → Ref → Prop
  | sequence {tag : Tag} {items : List Nat} {r : Ref}
    (h : List.Forall₂ s.Has items ((s.store.row r).toList.map Value.content)) :
    Filled s (.sequence tag items) r
  | mapping {tag : Tag} {entries : List (Nat × Nat)} {r : Ref}
    (h : List.Forall₂ s.HasEntry entries ((s.store.entries r).map Value.entryContent)) :
    Filled s (.mapping tag entries) r

/-- What the value of a node is, apart from what is in its cell. -/
inductive Made (s : State) : Node → Content → Prop
  | scalar {tag : Tag} {text : String} {j : Json} {c : Content} (hj : j.content? = some c)
    (h : Scalar.value tag text = .ok c) : Made s (.scalar tag text) c
  | sequence {items : List Nat} {r : Ref} (hr : r.place < s.store.cells.size) :
    Made s (.sequence .sequence items) (.list r)
  | mapping {entries : List (Nat × Nat)} {r : Ref} (hr : r.place < s.store.cells.size) :
    Made s (.mapping .mapping entries) (.dict r)

/-- What holds while values are made.  Every value is that of its node; a collection is in its cell
unless it is waiting for that, or among those that are pending. -/
structure Sound (graph : Array Node) (pending : List Nat) (s : State) : Prop where
  nodes : s.nodes = graph
  size : s.values.size = graph.size
  shown : ∀ i c, s.Has i c → ∃ j, Shows graph j i
  made : ∀ i c n, s.Has i c → graph[i]? = some n → s.Made n c
  /-- No two nodes share a cell. -/
  alone : ∀ i k c d r, s.Has i c → s.Has k d → c.cell? = some r → d.cell? = some r → i = k
  numbered : ∀ i v m, s.valueOf i = some v → v.identity = .kept m → m < s.store.kept
  /-- No two nodes share a number. -/
  apart : ∀ i k v w m, s.valueOf i = some v → s.valueOf k = some w → v.identity = .kept m →
    w.identity = .kept m → i = k
  filled : ∀ i c n r, s.Has i c → graph[i]? = some n → c.cell? = some r →
    i ∈ pending ∨ i ∈ s.waiting ∨ s.Filled n r
  opened : ∀ i ∈ s.waiting, ∃ c, s.Has i c ∧ c.cell?.isSome = true

lemma Has.unique (h : s.Has i c) (h' : s.Has i d) : c = d := by
  obtain ⟨v, hv, rfl⟩ := h
  obtain ⟨w, hw, rfl⟩ := h'
  rw [hv] at hw
  rw [Option.some.inj hw]

/-- Values are not changed, and there is not more to be done. -/
structure Grows (s s' : State) : Prop where
  valueOf : ∀ i v, s.valueOf i = some v → s'.valueOf i = some v
  cost : s'.cost ≤ s.cost

namespace Grows

lemma refl (s : State) : s.Grows s := ⟨fun _ _ h => h, Nat.le_refl _⟩

lemma trans (h : s.Grows s') (h' : s'.Grows s'') : s.Grows s'' :=
  ⟨fun i v hv => h'.valueOf i v (h.valueOf i v hv), Nat.le_trans h'.cost h.cost⟩

lemma has (h : s.Grows s') (hi : s.Has i c) : s'.Has i c := by
  obtain ⟨v, hv, hc⟩ := hi
  exact ⟨v, h.valueOf i v hv, hc⟩

end Grows

/-- What is in a cell stays there. -/
lemma Filled.mono (h : s.Filled n r) (hhas : ∀ k c, s.Has k c → s'.Has k c)
    (hcell : s'.store.cell? r = s.store.cell? r) : s'.Filled n r := by
  cases h with
  | sequence h =>
    refine .sequence ?_
    rw [Store.row, hcell, ← Store.row]
    exact h.imp hhas
  | mapping h =>
    refine .mapping ?_
    rw [Store.entries, hcell, ← Store.entries]
    exact h.imp fun e c he => ⟨hhas _ _ he.1, hhas _ _ he.2⟩

lemma Made.mono (h : s.Made n c) (hsize : s.store.cells.size ≤ s'.store.cells.size) :
    s'.Made n c := by
  cases h with
  | scalar hj h => exact .scalar hj h
  | sequence hr => exact .sequence (Nat.lt_of_lt_of_le hr hsize)
  | mapping hr => exact .mapping (Nat.lt_of_lt_of_le hr hsize)

lemma Made.lt (h : s.Made n c) (hc : c.cell? = some r) : r.place < s.store.cells.size := by
  cases h with
  | scalar hj _ =>
    rw [(Content.cell?_of_content? hj).1] at hc
    cases hc
  | sequence hr => cases hc; exact hr
  | mapping hr => cases hc; exact hr

/-! ## One more value -/

/-- A node gets a value, which is not known to anything that was there before. -/
structure Adds (s : State) (i : Nat) (v : Value) (s' : State) : Prop where
  nodes : s'.nodes = s.nodes
  values : s'.values = s.values.setIfInBounds i (some v)
  waiting : s'.waiting = if v.content.cell?.isSome then i :: s.waiting else s.waiting
  cells : ∀ r : Ref, r.place < s.store.cells.size → s'.store.cell? r = s.store.cell? r
  size : s.store.cells.size ≤ s'.store.cells.size
  kept : s.store.kept ≤ s'.store.kept
  number : ∀ m, v.identity = .kept m → s.store.kept ≤ m ∧ m < s'.store.kept
  cell : ∀ r, v.content.cell? = some r → s.store.cells.size ≤ r.place

namespace Adds

variable (h : s.Adds i v s') (hi : i < s.values.size)

include h hi

lemma valueOf_eq (k : Nat) : s'.valueOf k = if i = k then some v else s.valueOf k := by
  rw [State.valueOf, h.values, Array.getElem?_setIfInBounds, if_pos hi]
  split <;> rfl

lemma has_iff : s'.Has k c ↔ (k = i ∧ v.content = c) ∨ k ≠ i ∧ s.Has k c := by
  rw [State.Has, h.valueOf_eq hi]
  by_cases hk : i = k
  · subst hk
    simp
  · simp [hk, Ne.symm hk, State.Has]

lemma cost_eq (hnew : s.valueOf i = none) :
    s'.cost + (if v.content.cell?.isSome then 0 else 1) = s.cost := by
  have hlt : i < s.values.toList.length := hi
  have hnone : s.values.toList[i] = none := by
    rw [State.valueOf, Array.getElem?_eq_getElem hi] at hnew
    rwa [Array.getElem_toList]
  have hpos : 0 < s.unvalued :=
    List.countP_pos_iff.2 ⟨_, List.getElem_mem hlt, by rw [hnone]; rfl⟩
  have hunvalued : s'.unvalued = s.unvalued - 1 := by
    rw [State.unvalued, h.values, Array.toList_setIfInBounds, List.countP_set hlt, hnone]
    rfl
  rw [State.cost, State.cost, hunvalued, h.waiting]
  split
  · rw [List.length_cons]
    omega
  · omega

lemma grows (hnew : s.valueOf i = none) : s.Grows s' := by
  refine ⟨fun k w hw => ?_, by have := h.cost_eq hi hnew; omega⟩
  rw [h.valueOf_eq hi, if_neg, hw]
  rintro rfl
  rw [hnew] at hw
  cases hw

omit hi in
/-- The cell of the new value is that of no other node. -/
lemma cell_ne (hs : s.Sound graph pending) (hk : s.Has k c) (hc : c.cell? = some r) :
    v.content.cell? ≠ some r := by
  intro hv
  obtain ⟨j, hj⟩ := hs.shown k c hk
  obtain ⟨n, hn⟩ := hj.exists_node
  exact absurd ((hs.made k c n hk hn).lt hc) (Nat.not_lt_of_le (h.cell r hv))

omit hi in
/-- The number of the new value is that of no other one. -/
lemma number_ne (hs : s.Sound graph pending) {m : Nat} (hk : s.valueOf k = some w)
    (hw : w.identity = .kept m) : v.identity ≠ .kept m := fun hv =>
  absurd (hs.numbered k w m hk hw) (Nat.not_lt_of_le (h.number m hv).1)

/-- **One more value is right if it is that of its node.** -/
lemma sound (hs : s.Sound graph pending) (hnew : s.valueOf i = none) {j : Json}
    (hshown : Shows graph j i) (hmade : ∀ n, graph[i]? = some n → s'.Made n v.content) :
    s'.Sound graph pending where
  nodes := h.nodes.trans hs.nodes
  size := by rw [h.values, Array.size_setIfInBounds, hs.size]
  shown k c hk := by
    obtain ⟨rfl, -⟩ | ⟨-, hk⟩ := (h.has_iff hi).1 hk
    · exact ⟨j, hshown⟩
    · exact hs.shown k c hk
  made k c n hk hn := by
    obtain ⟨rfl, rfl⟩ | ⟨-, hk⟩ := (h.has_iff hi).1 hk
    · exact hmade n hn
    · exact (hs.made k c n hk hn).mono h.size
  alone k l c d r hk hl hc hd := by
    obtain ⟨rfl, rfl⟩ | ⟨-, hk⟩ := (h.has_iff hi).1 hk <;>
      obtain ⟨rfl, rfl⟩ | ⟨-, hl⟩ := (h.has_iff hi).1 hl
    · rfl
    · exact absurd hc (h.cell_ne hs hl hd)
    · exact absurd hd (h.cell_ne hs hk hc)
    · exact hs.alone k l c d r hk hl hc hd
  numbered k w m hk hw := by
    rw [h.valueOf_eq hi] at hk
    split at hk
    · cases hk
      exact (h.number m hw).2
    · exact Nat.lt_of_lt_of_le (hs.numbered k w m hk hw) h.kept
  apart k l w x m hk hl hw hx := by
    rw [h.valueOf_eq hi] at hk hl
    split at hk <;> split at hl
    · next hk' hl' => exact hk'.symm.trans hl'
    · cases hk
      exact absurd hw (h.number_ne hs hl hx)
    · cases hl
      exact absurd hx (h.number_ne hs hk hw)
    · exact hs.apart k l w x m hk hl hw hx
  filled k c n r hk hn hc := by
    obtain ⟨rfl, rfl⟩ | ⟨-, hk⟩ := (h.has_iff hi).1 hk
    · refine .inr (.inl ?_)
      rw [h.waiting, hc]
      exact List.mem_cons_self
    · obtain hp | hw | hf := hs.filled k c n r hk hn hc
      · exact .inl hp
      · refine .inr (.inl ?_)
        rw [h.waiting]
        split
        · exact List.mem_cons_of_mem _ hw
        · exact hw
      · exact .inr (.inr (hf.mono (fun _ _ => (h.grows hi hnew).has)
          (h.cells r ((hs.made k c n hk hn).lt hc))))
  opened k hk := by
    have hold : k ∈ s.waiting → ∃ c, s'.Has k c ∧ c.cell?.isSome = true := fun hk =>
      have ⟨c, hc, hcell⟩ := hs.opened k hk
      ⟨c, (h.grows hi hnew).has hc, hcell⟩
    rw [h.waiting] at hk
    split at hk
    · next hopened =>
      obtain rfl | hk := List.mem_cons.1 hk
      · exact ⟨v.content, (h.has_iff hi).2 (.inl ⟨rfl, rfl⟩), hopened⟩
      · exact hold hk
    · exact hold hk

end Adds

end State

/-! ## Making values -/

namespace Making

open State

lemma run_bind_get {α : Type} {f : State → Making α} : (get >>= f).run s = (f s).run s := rfl

lemma run_node (h : s.nodes[i]? = some n) : (node i).run s = .ok (n, s) := by
  show Except.ok (s.nodes[i]?.getD .empty, s) = _
  rw [h]
  rfl

/-- The value of a node that has one. -/
lemma run_value_of_valueOf (h : s.valueOf i = some v) : (value i).run s = .ok (v, s) := by
  rw [State.valueOf] at h
  rw [value, run_bind_get, h]
  rfl

/-- A scalar gets its value. -/
lemma run_value_scalar {tag : Tag} {text : String} (hnew : s.valueOf i = none)
    (hnode : s.nodes[i]? = some (.scalar tag text)) (htag : Scalar.isTextual tag = true)
    (hc : Scalar.value tag text = .ok c) (hcell : c.cell? = none) :
    ∃ v s', (value i).run s = .ok (v, s') ∧ v.content = c ∧ s.Adds i v s' := by
  have hempty : emptyCollection? tag = none := by cases tag <;> first | rfl | cases htag
  have htext : (scalarText s.nodes.size i).run s = .ok (text, s) := by
    have hsize : 0 < s.nodes.size :=
      Nat.zero_lt_of_lt (Array.getElem?_eq_some_iff.1 hnode).1
    obtain ⟨m, hm⟩ := Nat.exists_eq_add_of_le' hsize
    rw [hm, scalarText, run_bind_of_run (run_node hnode)]
    rfl
  rw [State.valueOf] at hnew
  have hkeeps := Building.onlyKeeps_keep (.ofContent c) s.store
  have hcontent := Building.content_keep (.ofContent c) s.store
  refine ⟨((Building.keep (.ofContent c)).run s.store).1, { s with
    values := s.values.setIfInBounds i (some ((Building.keep (.ofContent c)).run s.store).1)
    store := ((Building.keep (.ofContent c)).run s.store).2 }, ?_, hcontent, ?_⟩
  · rw [value, run_bind_get, hnew]
    dsimp only
    rw [run_bind_of_run (run_node hnode), show (Node.scalar tag text).tag = tag from rfl, hempty]
    dsimp only
    rw [if_pos htag, StateT.run_bind, htext]
    dsimp only [bind, Except.bind]
    rw [hc]
    rfl
  · refine ⟨rfl, rfl, ?_, fun r _ => ?_, ?_, hkeeps.kept, fun m => Building.number_keep,
      fun r hr => ?_⟩
    · rw [hcontent, Value.ofContent, hcell]
      rfl
    · rw [Store.cell?, Store.cell?, hkeeps.cells]
    · rw [hkeeps.cells]
    · rw [hcontent, Value.ofContent, hcell] at hr
      cases hr

/-- A collection gets its value, and waits for its content. -/
lemma run_value_collection {make : Building Value} (hnew : s.valueOf i = none)
    (hnode : s.nodes[i]? = some n) (hmake : emptyCollection? n.tag = some make) :
    (value i).run s = .ok ((make s.store).1, { s with
      waiting := i :: s.waiting
      values := s.values.setIfInBounds i (some (make s.store).1)
      store := (make s.store).2 }) := by
  rw [State.valueOf] at hnew
  rw [value, run_bind_get, hnew]
  dsimp only
  rw [run_bind_of_run (run_node hnode), hmake]
  rfl

/-- A collection in a new cell is not known to anything that was there before. -/
lemma adds_cell {cell : Cell} (hc : c.cell? = some ⟨s.store.cells.size⟩) :
    s.Adds i (.ofContent c) { s with
      waiting := i :: s.waiting
      values := s.values.setIfInBounds i (some (.ofContent c))
      store := s.store.push cell } := by
  refine ⟨rfl, rfl, ?_, fun r hr => ?_, ?_, Nat.le_refl _, fun m hm => (nomatch hm),
    fun r hr => ?_⟩
  · rw [Value.ofContent, hc]
    rfl
  · rw [Store.cell?, Store.push, Array.getElem?_push_lt hr, Store.cell?, Array.getElem?_eq_getElem hr]
  · rw [Store.push, Array.size_push]
    exact Nat.le_succ _
  · cases hr.symm.trans hc
    exact Nat.le_refl _

/-- **A node that shows a document gets a value.** -/
lemma run_value (hs : s.Sound graph pending) {j : Json} (hshown : Shows graph j i) :
    ∃ v s', (value i).run s = .ok (v, s') ∧ s'.Sound graph pending ∧ s.Grows s' ∧
      s'.valueOf i = some v := by
  cases hvalue : s.valueOf i with
  | some v => exact ⟨v, s, run_value_of_valueOf hvalue, hs, .refl s, hvalue⟩
  | none =>
    have hlt : i < s.values.size := by
      obtain ⟨n, hn⟩ := hshown.exists_node
      rw [hs.size]
      exact (Array.getElem?_eq_some_iff.1 hn).1
    suffices ∃ v s', (value i).run s = .ok (v, s') ∧ s.Adds i v s' ∧
        ∀ n, graph[i]? = some n → s'.Made n v.content by
      obtain ⟨v, s', hrun, hadds, hmade⟩ := this
      refine ⟨v, s', hrun, hadds.sound hlt hs hvalue hshown hmade, hadds.grows hlt hvalue, ?_⟩
      rw [hadds.valueOf_eq hlt, if_pos rfl]
    rw [← hs.nodes] at hshown ⊢
    cases hshown with
    | scalar hnode h =>
      obtain ⟨c, hj, hc⟩ := h.value
      obtain ⟨v, s', hrun, rfl, hadds⟩ :=
        run_value_scalar hvalue hnode h.textual hc (Content.cell?_of_content? hj).1
      refine ⟨v, s', hrun, hadds, fun n hn => ?_⟩
      cases hnode.symm.trans hn
      exact .scalar hj hc
    | array hnode _ =>
      refine ⟨_, _, run_value_collection hvalue hnode rfl, adds_cell rfl, fun n hn => ?_⟩
      cases hnode.symm.trans hn
      exact .sequence (Array.size_push _ ▸ Nat.lt_succ_self _)
    | object hnode _ _ =>
      refine ⟨_, _, run_value_collection hvalue hnode rfl, adds_cell rfl, fun n hn => ?_⟩
      cases hnode.symm.trans hn
      exact .mapping (Array.size_push _ ▸ Nat.lt_succ_self _)

end Making

end Yaml

end Interpolation
