import Interpolation.Yaml.Node
import Interpolation.Proofs.Yaml.Words

/-!
# The nodes of a JSON document

The words of a JSON document use little of the grammar: no anchors, no tags and no blocks, and every
key has a value.  So each part of a document forms nodes of its own, which are put behind those that
were there before, and nothing else is changed.  A collection is told by the places of its parts; it
keeps a place in front of them while they are formed.

* `Source.nodes` — the nodes of a document, numbered from a place on.
* **`Source.run_node`** — they are what its words form.
* **`Padded.ofText_eq`** — the graph of the text of a document.
-/

namespace Interpolation

namespace Yaml

/-- What comes behind a step that succeeds. -/
lemma run_bind_of_run {α β σ ε : Type} {x : StateT σ (Except ε) α} {f : α → StateT σ (Except ε) β}
    {s s' : σ} {a : α} (h : x.run s = .ok (a, s')) : (x >>= f).run s = (f a).run s' := by
  rw [StateT.run_bind, h]
  rfl

/-- The same with other words and other nodes. -/
def Formation.moved (s : Formation) (ts : List Token) (nodes : List Node) : Formation :=
  { s with tokens := ts, nodes := nodes.toArray }

namespace Form

variable {α : Type} {s s' s'' : Formation} {t x : Token} {ts ts' : List Token}
  {nodes nodes' : List Node}

/-! ## Steps -/

lemma run_peek : peek.run (s.moved (t :: ts) nodes) = .ok (t, s.moved (t :: ts) nodes) := rfl

lemma run_skipIf_self : (skipIf t).run (s.moved (t :: ts) nodes) = .ok (true, s.moved ts nodes) := by
  rw [skipIf, run_bind_of_run run_peek, if_pos rfl]
  rfl

lemma run_skipIf_of_ne (h : t ≠ x) :
    (skipIf x).run (s.moved (t :: ts) nodes) = .ok (false, s.moved (t :: ts) nodes) := by
  rw [skipIf, run_bind_of_run run_peek, if_neg h]
  rfl

lemma run_expect : (expect t).run (s.moved (t :: ts) nodes) = .ok ((), s.moved ts nodes) := by
  rw [expect, run_bind_of_run run_skipIf_self]
  rfl

/-- The words that the nodes of a JSON document begin with. -/
def Opens : Token → Prop
  | .scalar .. | .flowSequenceStart | .flowMappingStart => True
  | _ => False

lemma Opens.ne (h : Opens t) (hx : Opens x → False) : t ≠ x := by
  rintro rfl
  exact hx h

/-! ## Nodes -/

/-- A scalar. -/
lemma run_node_scalar {text : String} {plain : Bool} {tag : Tag}
    (htag : (if plain then Tag.ofPlain text.toList else .text) = tag) (fuel : Nat)
    (block indentless : Bool) :
    (node (fuel + 1) block indentless).run (s.moved (.scalar text plain :: ts) nodes) =
      .ok (nodes.length, s.moved ts (nodes ++ [.scalar tag text])) := by
  rw [node, ← htag, Formation.moved, Formation.moved, ← List.push_toArray]
  rfl

/-- A collection is formed from its parts, which stand behind it. -/
lemma run_collection {x : Form α} {node : α → Node} {parts : α} {found : List Node}
    (h : x.run (s.moved ts (nodes ++ [.empty])) =
      .ok (parts, s.moved ts' (nodes ++ [.empty] ++ found))) :
    (collection ⟨none, none⟩ x node).run (s.moved ts nodes) =
      .ok (nodes.length, s.moved ts' (nodes ++ node parts :: found)) := by
  have hset : (nodes ++ [Node.empty] ++ found).toArray.setIfInBounds nodes.length (node parts) =
      (nodes ++ node parts :: found).toArray := by
    simp
  have hadd : (add .empty).run (s.moved ts nodes) =
      .ok (nodes.length, s.moved ts (nodes ++ [.empty])) := by
    rw [Formation.moved, Formation.moved, ← List.push_toArray]
    rfl
  have hname : (name ⟨none, none⟩ nodes.length).run (s.moved ts (nodes ++ [.empty])) =
      .ok ((), s.moved ts (nodes ++ [.empty])) := rfl
  rw [collection, run_bind_of_run hadd, run_bind_of_run hname, run_bind_of_run h]
  rw [Formation.moved, Formation.moved, ← hset]
  rfl

/-- A sequence between brackets. -/
lemma run_node_sequence {fuel : Nat} {items : List Nat} {found : List Node}
    (h : (flowItems fuel true).run (s.moved ts (nodes ++ [.empty])) =
      .ok (items, s.moved ts' (nodes ++ [.empty] ++ found))) (block indentless : Bool) :
    (node (fuel + 1) block indentless).run (s.moved (.flowSequenceStart :: ts) nodes) =
      .ok (nodes.length, s.moved ts' (nodes ++ .sequence .sequence items :: found)) := by
  have hparts : (do skip; flowItems fuel true : Form (List Nat)).run
      (s.moved (.flowSequenceStart :: ts) (nodes ++ [.empty])) = _ := h
  rw [node]
  exact run_collection hparts

/-- A mapping between brackets. -/
lemma run_node_mapping {fuel : Nat} {entries : List (Nat × Nat)} {found : List Node}
    (h : (flowEntries fuel true).run (s.moved ts (nodes ++ [.empty])) =
      .ok (entries, s.moved ts' (nodes ++ [.empty] ++ found))) (block indentless : Bool) :
    (node (fuel + 1) block indentless).run (s.moved (.flowMappingStart :: ts) nodes) =
      .ok (nodes.length, s.moved ts' (nodes ++ .mapping .mapping entries :: found)) := by
  have hparts : (do skip; flowEntries fuel true : Form (List (Nat × Nat))).run
      (s.moved (.flowMappingStart :: ts) (nodes ++ [.empty])) = _ := h
  rw [node]
  exact run_collection hparts

/-! ## Items -/

/-- The sequence ends. -/
lemma run_flowItems_end (fuel : Nat) (first : Bool) :
    (flowItems (fuel + 1) first).run (s.moved (.flowSequenceEnd :: ts) nodes) =
      .ok ([], s.moved ts nodes) := by
  rw [flowItems, run_bind_of_run run_skipIf_self]
  rfl

/-- One more item. -/
lemma run_flowItems_cons {fuel i : Nat} {items : List Nat} (ht : Opens t)
    (hitem : (node fuel false false).run (s.moved (t :: ts) nodes) = .ok (i, s'))
    (hitems : (flowItems fuel false).run s' = .ok (items, s'')) :
    (flowItems (fuel + 1) true).run (s.moved (t :: ts) nodes) = .ok (i :: items, s'') := by
  rw [flowItems, run_bind_of_run (run_skipIf_of_ne (ht.ne id))]
  simp only [Bool.false_eq_true, if_false, Bool.not_true]
  show ((skipIf .key >>= _ : Form (List Nat)).run _) = _
  rw [run_bind_of_run (run_skipIf_of_ne (ht.ne id))]
  simp only [Bool.false_eq_true, if_false]
  rw [run_bind_of_run (run_skipIf_of_ne (ht.ne id))]
  simp only [Bool.false_eq_true, if_false]
  rw [run_bind_of_run hitem, run_bind_of_run hitems]
  rfl

/-- Behind a comma the items go on as at the beginning. -/
lemma run_flowItems_comma (fuel : Nat) (ht : Opens t) :
    (flowItems (fuel + 1) false).run (s.moved (.flowEntry :: t :: ts) nodes) =
      (flowItems (fuel + 1) true).run (s.moved (t :: ts) nodes) := by
  rw [flowItems, run_bind_of_run (run_skipIf_of_ne (by simp)), flowItems,
    run_bind_of_run (run_skipIf_of_ne (ht.ne id))]
  simp only [Bool.false_eq_true, if_false, Bool.not_false, if_true]
  rw [run_bind_of_run run_expect]
  rfl

/-! ## Entries -/

/-- A key with its value. -/
lemma run_flowEntry {fuel k v : Nat} (hx : Opens x) (ht : Opens t)
    (hk : (node fuel false false).run (s.moved (x :: .value :: t :: ts) nodes) =
      .ok (k, s.moved (.value :: t :: ts) nodes'))
    (hv : (node fuel false false).run (s.moved (t :: ts) nodes') = .ok (v, s')) :
    (flowEntry (fuel + 1) .flowMappingEnd).run (s.moved (x :: .value :: t :: ts) nodes) =
      .ok ((k, v), s') := by
  rw [flowEntry, run_bind_of_run run_peek]
  simp only [hx.ne (x := .value) id, hx.ne (x := .flowEntry) id, hx.ne (x := .flowMappingEnd) id,
    decide_false, Bool.or_false, Bool.false_eq_true, if_false]
  rw [run_bind_of_run hk, run_bind_of_run run_skipIf_self]
  simp only [if_true]
  rw [run_bind_of_run run_peek]
  simp only [ht.ne (x := .flowEntry) id, ht.ne (x := .flowMappingEnd) id, decide_false,
    Bool.or_false, Bool.false_eq_true, if_false]
  rw [run_bind_of_run hv]
  rfl

/-- The mapping ends. -/
lemma run_flowEntries_end (fuel : Nat) (first : Bool) :
    (flowEntries (fuel + 1) first).run (s.moved (.flowMappingEnd :: ts) nodes) =
      .ok ([], s.moved ts nodes) := by
  rw [flowEntries, run_bind_of_run run_skipIf_self]
  rfl

/-- One more entry. -/
lemma run_flowEntries_cons {fuel : Nat} {e : Nat × Nat} {entries : List (Nat × Nat)}
    (hentry : (flowEntry fuel .flowMappingEnd).run (s.moved ts nodes) = .ok (e, s'))
    (hentries : (flowEntries fuel false).run s' = .ok (entries, s'')) :
    (flowEntries (fuel + 1) true).run (s.moved (.key :: ts) nodes) = .ok (e :: entries, s'') := by
  rw [flowEntries, run_bind_of_run (run_skipIf_of_ne (by simp))]
  simp only [Bool.false_eq_true, if_false, Bool.not_true]
  show ((skipIf .key >>= _ : Form (List (Nat × Nat))).run _) = _
  rw [run_bind_of_run run_skipIf_self]
  simp only [if_true]
  rw [run_bind_of_run hentry, run_bind_of_run hentries]
  rfl

/-- Behind a comma the entries go on as at the beginning. -/
lemma run_flowEntries_comma (fuel : Nat) :
    (flowEntries (fuel + 1) false).run (s.moved (.flowEntry :: .key :: ts) nodes) =
      (flowEntries (fuel + 1) true).run (s.moved (.key :: ts) nodes) := by
  rw [flowEntries, run_bind_of_run (run_skipIf_of_ne (by simp)), flowEntries,
    run_bind_of_run (run_skipIf_of_ne (by simp))]
  simp only [Bool.false_eq_true, if_false, Bool.not_false, if_true]
  rw [run_bind_of_run run_expect]
  rfl

end Form

end Yaml

namespace Json

open Yaml Yaml.Form

/-! ## The nodes of a tree -/

mutual

/-- The nodes of a document from a place on, the outermost one first. -/
def Source.nodes : Source → (place : Nat) → List Node
  | .null, _ => [.scalar (.ofPlain "null".toList) "null"]
  | .bool b, _ =>
    let text := if b then "true" else "false"
    [.scalar (.ofPlain text.toList) text]
  | .number n, _ => [.scalar (.ofPlain n.chars) (String.ofList n.chars)]
  | .text gs, _ => [.scalar .text (textOf gs)]
  | .emptyArray _, _ => [.sequence .sequence []]
  | .array items, place =>
    .sequence .sequence (items.places (place + 1)) :: items.nodes (place + 1)
  | .emptyObject _, _ => [.mapping .mapping []]
  | .object entries, place =>
    .mapping .mapping (entries.places (place + 1)) :: entries.nodes (place + 1)

def Padded.nodes : Padded → (place : Nat) → List Node
  | .mk _ v _, place => v.nodes place

/-- The nodes of items, one after the other. -/
def Items.nodes : Items → (place : Nat) → List Node
  | .last v, place => v.nodes place
  | .more v rest, place =>
    let found := v.nodes place
    found ++ rest.nodes (place + found.length)

/-- The places of items. -/
def Items.places : Items → (place : Nat) → List Nat
  | .last _, place => [place]
  | .more v rest, place => place :: rest.places (place + (v.nodes place).length)

/-- The nodes of keys and values, one after the other. -/
def Entries.nodes : Entries → (place : Nat) → List Node
  | .last k v, place => .scalar .text (textOf k.glyphs) :: v.nodes (place + 1)
  | .more k v rest, place =>
    let found := v.nodes (place + 1)
    .scalar .text (textOf k.glyphs) :: (found ++ rest.nodes (place + 1 + found.length))

/-- The places of keys and values. -/
def Entries.places : Entries → (place : Nat) → List (Nat × Nat)
  | .last _ _, place => [(place, place + 1)]
  | .more _ v rest, place =>
    (place, place + 1) :: rest.places (place + 1 + (v.nodes (place + 1)).length)

end

/-! ## The words of a tree -/

/-- The words of a document begin with one that opens a node. -/
lemma Padded.exists_tokens (d : Padded) : ∃ t ts, d.tokens = t :: ts ∧ Opens t := by
  obtain ⟨before, v, after⟩ := d
  cases v <;> exact ⟨_, _, rfl, trivial⟩

lemma Padded.length_tokens_pos (d : Padded) : 0 < d.tokens.length := by
  obtain ⟨t, ts, h, -⟩ := d.exists_tokens
  rw [h]
  exact Nat.succ_pos _

lemma Items.exists_tokens (items : Items) : ∃ t ts, items.tokens = t :: ts ∧ Opens t := by
  cases items with
  | last v =>
    obtain ⟨t, ts, h, ht⟩ := v.exists_tokens
    exact ⟨t, _, by rw [tokens, h]; rfl, ht⟩
  | more v rest =>
    obtain ⟨t, ts, h, ht⟩ := v.exists_tokens
    exact ⟨t, _, by rw [tokens, h]; rfl, ht⟩

lemma Entries.exists_tokens (entries : Entries) : ∃ ts, entries.tokens = .key :: ts := by
  cases entries <;> exact ⟨_, rfl⟩

variable {s s' s'' : Formation} {u : List Yaml.Token} {nodes : List Node} {fuel i : Nat}

lemma run_flowItems_item {v : Padded} {items : List Nat}
    (hitem : (node fuel false false).run (s.moved (v.tokens ++ u) nodes) = .ok (i, s'))
    (hitems : (flowItems fuel false).run s' = .ok (items, s'')) :
    (flowItems (fuel + 1) true).run (s.moved (v.tokens ++ u) nodes) = .ok (i :: items, s'') := by
  obtain ⟨t, ts, h, ht⟩ := v.exists_tokens
  rw [h] at hitem ⊢
  exact run_flowItems_cons ht hitem hitems

lemma run_flowEntries_entry {k : Key} {v : Padded} {entries : List (Nat × Nat)}
    (hvalue : (node (fuel + 1) false false).run
      (s.moved (v.tokens ++ u) (nodes ++ [.scalar .text (textOf k.glyphs)])) = .ok (i, s'))
    (hentries : (flowEntries (fuel + 2) false).run s' = .ok (entries, s'')) :
    (flowEntries (fuel + 3) true).run
        (s.moved ([.key, .scalar (textOf k.glyphs) false, .value] ++ (v.tokens ++ u)) nodes) =
      .ok ((nodes.length, i) :: entries, s'') := by
  obtain ⟨t, ts, h, ht⟩ := v.exists_tokens
  rw [h] at hvalue ⊢
  exact run_flowEntries_cons
    (run_flowEntry trivial ht (run_node_scalar rfl fuel false false) hvalue) hentries

mutual

/-- **The words of a document form its nodes**, behind those that were there. -/
theorem Source.run_node : ∀ (v : Source) {fuel : Nat} (_ : v.tokens.length ≤ fuel)
    (block indentless : Bool) (ts : List Yaml.Token) (nodes : List Node),
    (node fuel block indentless).run (s.moved (v.tokens ++ ts) nodes) =
      .ok (nodes.length, s.moved ts (nodes ++ v.nodes nodes.length))
  | .null, fuel + 1, _, block, indentless, _, _ => run_node_scalar rfl fuel block indentless
  | .bool _, fuel + 1, _, block, indentless, _, _ => run_node_scalar rfl fuel block indentless
  | .number n, fuel + 1, _, block, indentless, _, _ =>
    run_node_scalar (by rw [if_pos rfl, String.toList_ofList]) fuel block indentless
  | .text _, fuel + 1, _, block, indentless, _, _ => run_node_scalar rfl fuel block indentless
  | .emptyArray _, fuel + 2, _, block, indentless, ts, nodes => by
    have hitems : (flowItems (fuel + 1) true).run
        (s.moved (.flowSequenceEnd :: ts) (nodes ++ [.empty])) =
          .ok ([], s.moved ts (nodes ++ [.empty] ++ [])) := by
      rw [List.append_nil]
      exact run_flowItems_end fuel true
    exact run_node_sequence hitems block indentless
  | .array items, fuel + 1, h, block, indentless, ts, nodes => by
    have hitems := items.run_flowItems (Nat.le_of_succ_le_succ h) ts (nodes ++ [.empty])
    rw [List.length_append, List.length_singleton] at hitems
    exact run_node_sequence hitems block indentless
  | .emptyObject _, fuel + 2, _, block, indentless, ts, nodes => by
    have hentries : (flowEntries (fuel + 1) true).run
        (s.moved (.flowMappingEnd :: ts) (nodes ++ [.empty])) =
          .ok ([], s.moved ts (nodes ++ [.empty] ++ [])) := by
      rw [List.append_nil]
      exact run_flowEntries_end fuel true
    exact run_node_mapping hentries block indentless
  | .object entries, fuel + 1, h, block, indentless, ts, nodes => by
    have hentries := entries.run_flowEntries (Nat.le_of_succ_le_succ h) ts (nodes ++ [.empty])
    rw [List.length_append, List.length_singleton] at hentries
    exact run_node_mapping hentries block indentless

theorem Padded.run_node : ∀ (d : Padded) {fuel : Nat} (_ : d.tokens.length ≤ fuel)
    (block indentless : Bool) (ts : List Yaml.Token) (nodes : List Node),
    (node fuel block indentless).run (s.moved (d.tokens ++ ts) nodes) =
      .ok (nodes.length, s.moved ts (nodes ++ d.nodes nodes.length))
  | .mk _ v _, _, h, block, indentless, ts, nodes => v.run_node h block indentless ts nodes

theorem Items.run_flowItems : ∀ (items : Items) {fuel : Nat} (_ : items.tokens.length ≤ fuel)
    (ts : List Yaml.Token) (nodes : List Node),
    (flowItems fuel true).run (s.moved (items.tokens ++ ts) nodes) =
      .ok (items.places nodes.length, s.moved ts (nodes ++ items.nodes nodes.length))
  | .last v, fuel, h, ts, nodes => by
    have hpos := v.length_tokens_pos
    rw [Items.tokens, List.length_append, List.length_singleton] at h
    obtain ⟨fuel, rfl⟩ : ∃ m, fuel = m + 2 := ⟨fuel - 2, by omega⟩
    have hitem := v.run_node (show v.tokens.length ≤ fuel + 1 by omega) false false
      (.flowSequenceEnd :: ts) nodes
    rw [Items.tokens, List.append_assoc, List.singleton_append]
    exact run_flowItems_item hitem (run_flowItems_end fuel false)
  | .more v rest, fuel, h, ts, nodes => by
    have hpos := v.length_tokens_pos
    rw [Items.tokens, List.length_append, List.length_cons] at h
    obtain ⟨fuel, rfl⟩ : ∃ m, fuel = m + 2 := ⟨fuel - 2, by omega⟩
    have hitem := v.run_node (show v.tokens.length ≤ fuel + 1 by omega) false false
      (.flowEntry :: (rest.tokens ++ ts)) nodes
    have hitems := rest.run_flowItems (show rest.tokens.length ≤ fuel + 1 by omega) ts
      (nodes ++ v.nodes nodes.length)
    rw [List.length_append, List.append_assoc] at hitems
    obtain ⟨t, ts', hrest, ht⟩ := rest.exists_tokens
    rw [Items.tokens, List.append_assoc, List.cons_append]
    refine run_flowItems_item hitem ?_
    rw [hrest] at hitems ⊢
    rw [List.cons_append, run_flowItems_comma fuel ht]
    exact hitems

theorem Entries.run_flowEntries : ∀ (entries : Entries) {fuel : Nat}
    (_ : entries.tokens.length ≤ fuel) (ts : List Yaml.Token) (nodes : List Node),
    (flowEntries fuel true).run (s.moved (entries.tokens ++ ts) nodes) =
      .ok (entries.places nodes.length, s.moved ts (nodes ++ entries.nodes nodes.length))
  | .last k v, fuel, h, ts, nodes => by
    simp only [Entries.tokens, List.length_append, List.length_cons, List.length_nil] at h
    obtain ⟨fuel, rfl⟩ : ∃ m, fuel = m + 3 := ⟨fuel - 3, by omega⟩
    have hvalue := v.run_node (show v.tokens.length ≤ fuel + 1 by omega) false false
      (.flowMappingEnd :: ts) (nodes ++ [.scalar .text (textOf k.glyphs)])
    rw [List.length_append, List.length_singleton, List.append_assoc] at hvalue
    rw [Entries.tokens, List.append_assoc, List.append_assoc, List.singleton_append]
    exact run_flowEntries_entry hvalue (run_flowEntries_end (fuel + 1) false)
  | .more k v rest, fuel, h, ts, nodes => by
    simp only [Entries.tokens, List.length_append, List.length_cons, List.length_nil] at h
    obtain ⟨fuel, rfl⟩ : ∃ m, fuel = m + 3 := ⟨fuel - 3, by omega⟩
    have hvalue := v.run_node (show v.tokens.length ≤ fuel + 1 by omega) false false
      (.flowEntry :: (rest.tokens ++ ts)) (nodes ++ [.scalar .text (textOf k.glyphs)])
    rw [List.length_append, List.length_singleton] at hvalue
    have hentries := rest.run_flowEntries (show rest.tokens.length ≤ fuel + 2 by omega) ts
      (nodes ++ [.scalar .text (textOf k.glyphs)] ++ v.nodes (nodes.length + 1))
    rw [List.length_append, List.length_append, List.length_singleton] at hentries
    have hnodes : nodes ++ (Entries.more k v rest).nodes nodes.length =
        nodes ++ [.scalar .text (textOf k.glyphs)] ++ v.nodes (nodes.length + 1) ++
          rest.nodes (nodes.length + 1 + (v.nodes (nodes.length + 1)).length) := by
      simp [Entries.nodes]
    obtain ⟨ts', hrest⟩ := rest.exists_tokens
    rw [Entries.tokens, List.append_assoc, List.append_assoc, List.cons_append, hnodes]
    refine run_flowEntries_entry hvalue ?_
    rw [hrest] at hentries ⊢
    rw [List.cons_append, run_flowEntries_comma (fuel + 1)]
    exact hentries

end

/-! ## The whole text -/

lemma run_document? {t : Yaml.Token} {ts : List Yaml.Token} (ht : Opens t)
    (h : (node fuel true false).run (s.moved (t :: ts) nodes) = .ok (i, s')) :
    (document? fuel).run (s.moved (t :: ts) nodes) = .ok (some i, s') := by
  rw [document?, run_bind_of_run run_peek]
  cases t <;> first
    | exact False.elim ht
    | exact (run_bind_of_run h).trans rfl

lemma run_skipEnds (fuel : Nat) :
    (skipEnds (fuel + 1)).run (s.moved [.streamEnd] nodes) =
      .ok ((), s.moved [.streamEnd] nodes) := by
  rw [skipEnds, run_bind_of_run (run_skipIf_of_ne (by simp))]
  rfl

/-- **The graph of the text of a document.** -/
theorem Padded.ofText_eq {d : Padded} {es : List (String × Json)} (hd : d.json = .object es)
    (hplain : d.isPlain = true) :
    Graph.ofWords? (Words.ofText d.chars) = .ok (some ⟨(d.nodes 0).toArray, 0⟩) := by
  rw [d.ofText_chars hd hplain, Graph.ofWords?]
  let s : Formation := ⟨[], none, commonHandles, #[], []⟩
  let words : List Yaml.Token := d.tokens ++ [.streamEnd]
  have hlength : d.tokens.length ≤ 2 * words.length + 4 := by
    simp only [words, List.length_append]
    omega
  have hdocument : (document? (2 * words.length + 4)).run (s.moved words []) =
      .ok (some 0, s.moved [.streamEnd] (d.nodes 0)) := by
    have hnode := d.run_node (s := s) hlength true false [.streamEnd] []
    obtain ⟨t, ts, htokens, ht⟩ := d.exists_tokens
    simp only [words, htokens] at hnode ⊢
    exact run_document? ht hnode
  have hsingle : (single? (2 * words.length + 4)).run (s.moved words []) =
      .ok (some 0, s.moved [.streamEnd] (d.nodes 0)) := by
    rw [single?, run_bind_of_run hdocument, run_bind_of_run (run_skipEnds _),
      run_bind_of_run run_peek]
    rfl
  show ((single? (2 * words.length + 4)).run (s.moved words []) >>= _) = _
  rw [hsingle]
  rfl

end Json

end Interpolation
