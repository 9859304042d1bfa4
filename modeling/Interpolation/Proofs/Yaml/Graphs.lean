import Interpolation.Proofs.Yaml.Nodes
import Interpolation.Proofs.Yaml.Numbers

/-!
# Graphs that show documents

The values of a graph are made node by node, and no longer along the tree that the nodes came from.
So what matters of a graph is what can be seen from one of its nodes: the node shows a document if it
is of the right kind and its parts show the parts of the document.  The nodes of a tree show what the
tree stands for.

* `Json.HasDistinctKeys` — no object of a document has a key twice.
* `Shows` — what can be seen from a node of a graph.
* **`Padded.shows`** — the nodes of a tree show its document.
-/

namespace Interpolation

namespace Json

mutual

/-- No object has a key twice. -/
def HasDistinctKeys : Json → Prop
  | .array js => HaveDistinctKeys js
  | .object es => (es.map Prod.fst).Nodup ∧ EntriesHaveDistinctKeys es
  | _ => True

/-- The same for several documents. -/
def HaveDistinctKeys : List Json → Prop
  | [] => True
  | j :: js => HasDistinctKeys j ∧ HaveDistinctKeys js

/-- The same for several documents with names. -/
def EntriesHaveDistinctKeys : List (String × Json) → Prop
  | [] => True
  | (_, j) :: es => HasDistinctKeys j ∧ EntriesHaveDistinctKeys es

end

end Json

namespace Yaml

/-! ## What nodes show -/

mutual

/-- A document can be seen from a node of a graph. -/
inductive Shows (nodes : Array Node) : Json → Nat → Prop
  | scalar {j : Json} {tag : Tag} {text : String} {i : Nat}
    (hnode : nodes[i]? = some (.scalar tag text)) (h : j.IsScalar tag text) : Shows nodes j i
  | array {js : List Json} {items : List Nat} {i : Nat}
    (hnode : nodes[i]? = some (.sequence .sequence items)) (h : ShowItems nodes js items) :
    Shows nodes (.array js) i
  | object {es : List (String × Json)} {entries : List (Nat × Nat)} {i : Nat}
    (hnode : nodes[i]? = some (.mapping .mapping entries)) (h : ShowEntries nodes es entries)
    (hkeys : (es.map Prod.fst).Nodup) : Shows nodes (.object es) i

/-- Documents can be seen from nodes one by one. -/
inductive ShowItems (nodes : Array Node) : List Json → List Nat → Prop
  | nil : ShowItems nodes [] []
  | cons {j : Json} {js : List Json} {i : Nat} {items : List Nat} (h : Shows nodes j i)
    (hs : ShowItems nodes js items) : ShowItems nodes (j :: js) (i :: items)

/-- Documents with names can be seen from pairs of nodes one by one. -/
inductive ShowEntries (nodes : Array Node) : List (String × Json) → List (Nat × Nat) → Prop
  | nil : ShowEntries nodes [] []
  | cons {name : String} {j : Json} {es : List (String × Json)} {k i : Nat}
    {entries : List (Nat × Nat)} (hname : nodes[k]? = some (.scalar .text name))
    (h : Shows nodes j i) (hs : ShowEntries nodes es entries) :
    ShowEntries nodes ((name, j) :: es) ((k, i) :: entries)

end

lemma Shows.exists_node {nodes : Array Node} {j : Json} {i : Nat} (h : Shows nodes j i) :
    ∃ n, nodes[i]? = some n := by
  cases h with
  | scalar hnode _ => exact ⟨_, hnode⟩
  | array hnode _ => exact ⟨_, hnode⟩
  | object hnode _ _ => exact ⟨_, hnode⟩

lemma ShowEntries.exists_name {nodes : Array Node} {es : List (String × Json)}
    {entries : List (Nat × Nat)} (h : ShowEntries nodes es entries) {e : Nat × Nat}
    (he : e ∈ entries) : ∃ name, nodes[e.1]? = some (.scalar .text name) := by
  induction entries generalizing es with
  | nil => cases he
  | cons e' entries ih =>
    cases h with
    | cons hname _ h =>
      obtain rfl | he := List.mem_cons.1 he
      · exact ⟨_, hname⟩
      · exact ih h he

/-! ## Parts of a graph -/

/-- Nodes stand in a graph from a place on. -/
def StandAt (nodes : Array Node) (place : Nat) (found : List Node) : Prop :=
  ∀ (k : Nat) (n : Node), found[k]? = some n → nodes[place + k]? = some n

namespace StandAt

variable {nodes : Array Node} {place : Nat} {n : Node} {found more : List Node}

lemma head (h : StandAt nodes place (n :: found)) : nodes[place]? = some n := h 0 n rfl

lemma tail (h : StandAt nodes place (n :: found)) : StandAt nodes (place + 1) found :=
  fun k m hk => by
    rw [Nat.add_assoc, Nat.add_comm 1]
    exact h (k + 1) m hk

lemma left (h : StandAt nodes place (found ++ more)) : StandAt nodes place found :=
  fun k m hk => h k m (by
    have hlt : k < found.length := (List.getElem?_eq_some_iff.1 hk).1
    rw [List.getElem?_append_left hlt, hk])

lemma right (h : StandAt nodes place (found ++ more)) :
    StandAt nodes (place + found.length) more :=
  fun k m hk => by
    rw [Nat.add_assoc]
    refine h (found.length + k) m ?_
    rw [List.getElem?_append_right (Nat.le_add_right _ _), Nat.add_sub_cancel_left, hk]

end StandAt

end Yaml

namespace Json

open Yaml

/-! ## The nodes of a tree -/

variable {nodes : Array Node}

mutual

theorem Source.shows : ∀ {v : Source} {place : Nat}, v.isPlain = true → v.json.HasDistinctKeys →
    StandAt nodes place (v.nodes place) → Shows nodes v.json place
  | .null, _, _, _, h => .scalar h.head isScalar_null
  | .bool b, _, _, _, h => .scalar h.head (isScalar_bool b)
  | .number _, _, hplain, _, h => .scalar h.head (Numeral.isScalar hplain)
  | .text _, _, _, _, h => .scalar h.head (isScalar_text _)
  | .emptyArray _, _, _, _, h => .array h.head .nil
  | .array _, _, hplain, hkeys, h => .array h.head (Items.showItems hplain hkeys h.tail)
  | .emptyObject _, _, _, _, h => .object h.head .nil List.nodup_nil
  | .object _, _, hplain, hkeys, h =>
    .object h.head (Entries.showEntries hplain hkeys.2 h.tail) hkeys.1

/-- **The nodes of a tree show its document.** -/
theorem Padded.shows : ∀ {d : Padded} {place : Nat}, d.isPlain = true → d.json.HasDistinctKeys →
    StandAt nodes place (d.nodes place) → Shows nodes d.json place
  | .mk _ v _, _, hplain, hkeys, h => by
    simp only [Padded.isPlain, Bool.and_eq_true] at hplain
    exact v.shows hplain.1.2 hkeys h

theorem Items.showItems : ∀ {items : Items} {place : Nat}, items.isPlain = true →
    HaveDistinctKeys items.json → StandAt nodes place (items.nodes place) →
    ShowItems nodes items.json (items.places place)
  | .last _, _, hplain, hkeys, h => .cons (Padded.shows hplain hkeys.1 h) .nil
  | .more _ _, _, hplain, hkeys, h => by
    simp only [Items.isPlain, Bool.and_eq_true] at hplain
    exact .cons (Padded.shows hplain.1 hkeys.1 h.left) (Items.showItems hplain.2 hkeys.2 h.right)

theorem Entries.showEntries : ∀ {entries : Entries} {place : Nat}, entries.isPlain = true →
    EntriesHaveDistinctKeys entries.json → StandAt nodes place (entries.nodes place) →
    ShowEntries nodes entries.json (entries.places place)
  | .last _ _, _, hplain, hkeys, h => by
    simp only [Entries.isPlain, Bool.and_eq_true] at hplain
    exact .cons h.head (Padded.shows hplain.2 hkeys.1 h.tail) .nil
  | .more _ _ _, _, hplain, hkeys, h => by
    simp only [Entries.isPlain, Bool.and_eq_true] at hplain
    exact .cons h.head (Padded.shows hplain.1.2 hkeys.1 h.tail.left)
      (Entries.showEntries hplain.2 hkeys.2 h.tail.right)

end

end Json

end Interpolation
