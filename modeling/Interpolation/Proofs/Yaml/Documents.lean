import Interpolation.Proofs.Yaml.Filling

/-!
# JSON documents as values

When every collection of a graph has its content, the value of a node can be compared with the
document that the node shows: values without parts are those of the document, and the parts of a
collection are compared one by one in its cell.  Everything that a document tells is compared, the
order of the entries of its objects as well, so a value that a document describes has it for its only
description.

* `Json.Describes` — a document tells what a value is.
* `Json.Describes.unique` — there is only one document that does.
* **`Yaml.load_chars`** — the text of a document is read as a value that the document describes.
-/

namespace Interpolation

namespace Json

variable {store : Store} {c : Content}

/-! ## Documents and values -/

mutual

/-- A document tells what a value is, with all that is in it. -/
inductive Describes (store : Store) : Json → Content → Prop
  | leaf {j : Json} {c : Content} (h : j.content? = some c) : Describes store j c
  | array {js : List Json} {r : Ref}
    (h : DescribeItems store js ((store.row r).toList.map Value.content)) :
    Describes store (.array js) (.list r)
  | object {es : List (String × Json)} {r : Ref}
    (h : DescribeEntries store es ((store.entries r).map Value.entryContent)) :
    Describes store (.object es) (.dict r)

/-- Documents tell what values are one by one. -/
inductive DescribeItems (store : Store) : List Json → List Content → Prop
  | nil : DescribeItems store [] []
  | cons {j : Json} {js : List Json} {c : Content} {cs : List Content} (h : Describes store j c)
    (hs : DescribeItems store js cs) : DescribeItems store (j :: js) (c :: cs)

/-- Documents tell what the values of a mapping are, under the same names and in the same order. -/
inductive DescribeEntries (store : Store) : List (String × Json) → List (Content × Content) → Prop
  | nil : DescribeEntries store [] []
  | cons {name : String} {j : Json} {es : List (String × Json)} {c : Content}
    {cs : List (Content × Content)} (h : Describes store j c) (hs : DescribeEntries store es cs) :
    DescribeEntries store ((name, j) :: es) ((.str name, c) :: cs)

end

/-- Different documents without parts have different contents. -/
lemma content?_injective {j j' : Json} (h : j.content? = some c) (h' : j'.content? = some c) :
    j = j' := by
  cases j <;> cases h <;> cases j' <;> cases h' <;> rfl

mutual

/-- There is only one document that tells what a value is. -/
theorem Describes.unique : ∀ {j j' : Json} {c : Content},
    j.Describes store c → j'.Describes store c → j = j'
  | _, _, _, .leaf h, .leaf h' => content?_injective h h'
  | _, _, _, .array h, .array h' => by rw [h.unique h']
  | _, _, _, .object h, .object h' => by rw [h.unique h']
  | .array _, _, _, .leaf h, _ | .object _, _, _, .leaf h, _ => nomatch h
  | _, .array _, _, _, .leaf h | _, .object _, _, _, .leaf h => nomatch h

theorem DescribeItems.unique : ∀ {js js' : List Json} {cs : List Content},
    DescribeItems store js cs → DescribeItems store js' cs → js = js'
  | _, _, _, .nil, .nil => rfl
  | _, _, _, .cons h hs, .cons h' hs' => by rw [h.unique h', hs.unique hs']

theorem DescribeEntries.unique : ∀ {es es' : List (String × Json)} {cs : List (Content × Content)},
    DescribeEntries store es cs → DescribeEntries store es' cs → es = es'
  | _, _, _, .nil, .nil => rfl
  | _, _, _, .cons h hs, .cons h' hs' => by rw [h.unique h', hs.unique hs']

end

end Json

namespace Yaml

open State

variable {graph : Array Node} {s : State}

/-! ## The values of a graph -/

/-- What is in a cell when nothing waits any more. -/
lemma State.Sound.isFilled (hs : s.Sound graph []) (hdone : s.waiting = []) {i : Nat} {c : Content}
    {n : Node} {r : Ref} (hi : s.Has i c) (hn : graph[i]? = some n) (hc : c.cell? = some r) :
    s.Filled n r := by
  obtain hp | hw | hf := hs.filled i c n r hi hn hc
  · cases hp
  · rw [hdone] at hw
    cases hw
  · exact hf

mutual

/-- **The document that a node shows tells what its value is.** -/
theorem Shows.describes (hs : s.Sound graph []) (hdone : s.waiting = []) :
    ∀ {j : Json} {i : Nat} {c : Content}, Shows graph j i → s.Has i c → j.Describes s.store c
  | _, _, _, .scalar hnode h, hi => by
    obtain ⟨d, hj, hd⟩ := h.value
    cases hs.made _ _ _ hi hnode with
    | scalar _ h' =>
      cases hd.symm.trans h'
      exact .leaf hj
  | _, _, _, .array hnode h, hi => by
    cases hs.made _ _ _ hi hnode with
    | sequence _ =>
      cases hs.isFilled hdone hi hnode rfl with
      | sequence his => exact .array (h.describe hs hdone his)
  | _, _, _, .object hnode h _, hi => by
    cases hs.made _ _ _ hi hnode with
    | mapping _ =>
      cases hs.isFilled hdone hi hnode rfl with
      | mapping his => exact .object (h.describe hs hdone his)

theorem ShowItems.describe (hs : s.Sound graph []) (hdone : s.waiting = []) :
    ∀ {js : List Json} {items : List Nat} {cs : List Content},
    ShowItems graph js items → List.Forall₂ s.Has items cs → Json.DescribeItems s.store js cs
  | _, _, _, .nil, .nil => .nil
  | _, _, _, .cons h hitems, .cons hi his =>
    .cons (h.describes hs hdone hi) (hitems.describe hs hdone his)

theorem ShowEntries.describe (hs : s.Sound graph []) (hdone : s.waiting = []) :
    ∀ {es : List (String × Json)} {entries : List (Nat × Nat)} {cs : List (Content × Content)},
    ShowEntries graph es entries → List.Forall₂ s.HasEntry entries cs →
    Json.DescribeEntries s.store es cs
  | _, _, _, .nil, .nil => .nil
  | _, _, (_, _) :: _, .cons hname h hentries, .cons hi his => by
    cases hs.content_of_text hi.1 hname
    exact .cons (h.describes hs hdone hi.2) (hentries.describe hs hdone his)

end

/-! ## Reading a document -/

/-- What is known before the first value is made. -/
def State.start (graph : Array Node) : State :=
  ⟨graph, Array.replicate graph.size none, [], .empty⟩

lemma valueOf_start (i : Nat) : (State.start graph).valueOf i = none := by
  rw [State.valueOf, State.start, Array.getElem?_replicate]
  split <;> rfl

lemma not_has_start {i : Nat} {c : Content} : ¬ (State.start graph).Has i c := by
  rintro ⟨v, hv, -⟩
  rw [valueOf_start] at hv
  cases hv

lemma sound_start : (State.start graph).Sound graph [] where
  nodes := rfl
  size := Array.size_replicate
  shown _ _ hi := absurd hi not_has_start
  made _ _ _ hi := absurd hi not_has_start
  alone _ _ _ _ _ hi := absurd hi not_has_start
  numbered _ v _ hv := absurd ⟨v, hv, rfl⟩ not_has_start
  apart _ _ v _ _ hv := absurd ⟨v, hv, rfl⟩ not_has_start
  filled _ _ _ _ hi := absurd hi not_has_start
  opened _ hi := nomatch hi

/-- There are no more values to be made than there are nodes. -/
lemma cost_start_le : (State.start graph).cost ≤ graph.size := by
  refine Nat.le_trans List.countP_le_length (Nat.le_of_eq ?_)
  rw [Array.length_toList]
  exact Array.size_replicate

/-- The values are the same in a store in which nothing counts as changed. -/
lemma State.Sound.fresh (hs : s.Sound graph []) :
    { s with store := s.store.fresh }.Sound graph [] where
  nodes := hs.nodes
  size := hs.size
  shown := hs.shown
  made k c n hk hn := (hs.made k c n hk hn).mono (Nat.le_refl _)
  alone := hs.alone
  numbered := hs.numbered
  apart := hs.apart
  filled k c n r hk hn hc :=
    (hs.filled k c n r hk hn hc).imp_right (·.imp_right (·.mono (fun _ _ => id) rfl))
  opened := hs.opened

/-- **The text of a document is read as a value that the document describes.** -/
theorem load_chars {d : Json.Padded} {es : List (String × Json)} (hd : d.json = .object es)
    (hplain : d.isPlain = true) (hkeys : d.json.HasDistinctKeys) :
    ∃ v s, load d.chars = .ok (v, s) ∧ d.json.Describes s v.content := by
  have hshown : Shows (d.nodes 0).toArray d.json 0 := d.shows hplain hkeys fun k n hk => by
    rw [Nat.zero_add, List.getElem?_toArray, hk]
  obtain ⟨v, s₁, hrun, hs₁, hgrows, hv⟩ := Making.run_value sound_start hshown
  obtain ⟨s₂, hruns, hs₂, hdone, hgrows'⟩ :=
    Making.run_fillAll hs₁ (Nat.le_trans hgrows.cost cost_start_le)
  refine ⟨v, s₂.store.fresh, ?_,
    hshown.describes hs₂.fresh hdone ⟨v, hgrows'.valueOf 0 v hv, rfl⟩⟩
  rw [load, d.ofText_eq hd hplain]
  show ((Making.value 0 >>= fun v => Making.fillAll (d.nodes 0).toArray.size >>= fun _ =>
    pure v : Making Value).run (.start (d.nodes 0).toArray) >>= fun p =>
    Except.ok (p.1, p.2.store.fresh)) = _
  rw [run_bind_of_run hrun, run_bind_of_run hruns]
  rfl

end Yaml

end Interpolation
