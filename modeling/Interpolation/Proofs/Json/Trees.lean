import Mathlib.Tactic.Lemma
import Interpolation.Proofs.Evaluation.Outcome
import Interpolation.Proofs.Json.RoundTrip
import Interpolation.Value.Document

/-!
# Values as trees and their documents

The parts of a value stand in a store, and what its document can tell of them is a tree: the public
attributes of objects belong to it, the others do not.  A tree has an image among the documents, and
a value that a tree stands for is written as this image, unless it has too many levels.  Writing
also refuses values that hold themselves; a value with a tree never does, because what it holds
stands for smaller trees.

* `Tree.StandsFor` — what a value is, as far as its document can tell.
* `Tree.StandsFor.unique` — there is only one tree of a value.
* **`Tree.StandsFor.outcome_toDocument`** — the document of a value is the image of its tree.
* **`Tree.StandsFor.coerce_faithful`** — the text of a value can be read back, depends on nothing but
  the tree, and tells different images apart.
-/

namespace Interpolation

/-! ## Trees -/

/-- The values that are built from others, as far as their documents can tell. -/
inductive Tree where
  | nothing
  | bool (b : Bool)
  | int (n : Int)
  | text (s : String)
  | list (items : List Tree)
  | tuple (items : List Tree)
  /-- A mapping whose keys are texts. -/
  | dict (entries : List (String × Tree))
  /-- A record of two fields. -/
  | point (x y : Tree)
  /-- An object with its public attributes. -/
  | object (shown : List (String × Tree))
  /-- An object without attributes of its own, with the text that it is shown as. -/
  | token (s : String)

namespace Tree

mutual

/-- The document that a tree is written as. -/
def image : Tree → Json
  | .nothing => .null
  | .bool b => .bool b
  | .int n => .int n
  | .text s | .token s => .str s
  | .list ts | .tuple ts => .array (images ts)
  | .dict es | .object es => .object (entryImages es)
  | .point x y => .object [("x", x.image), ("y", y.image)]

/-- The documents of several trees. -/
def images : List Tree → List Json
  | [] => []
  | t :: ts => t.image :: images ts

/-- The documents of several trees with names. -/
def entryImages : List (String × Tree) → List (String × Json)
  | [] => []
  | (k, t) :: es => (k, t.image) :: entryImages es

end

mutual

/-- The number of levels that the document of a tree takes; objects take two. -/
def levels : Tree → Nat
  | .nothing | .bool _ | .int _ | .text _ => 1
  | .token _ => 2
  | .list ts | .tuple ts => mostLevels ts + 1
  | .dict es => mostEntryLevels es + 1
  | .object es => mostEntryLevels es + 2
  | .point x y => max x.levels y.levels + 1

/-- The levels of the highest of several trees. -/
def mostLevels : List Tree → Nat
  | [] => 0
  | t :: ts => max t.levels (mostLevels ts)

/-- The levels of the highest of several trees with names. -/
def mostEntryLevels : List (String × Tree) → Nat
  | [] => 0
  | (_, t) :: es => max t.levels (mostEntryLevels es)

end

mutual

/-- The image of a tree holds no float. -/
lemma isExact_image : ∀ t : Tree, t.image.IsExact
  | .nothing | .bool _ | .int _ | .text _ | .token _ => trivial
  | .list ts | .tuple ts => areExact_images ts
  | .dict es | .object es => haveExact_entryImages es
  | .point x y => ⟨isExact_image x, isExact_image y, trivial⟩

lemma areExact_images : ∀ ts : List Tree, Json.AreExact (images ts)
  | [] => trivial
  | t :: ts => ⟨isExact_image t, areExact_images ts⟩

lemma haveExact_entryImages : ∀ es : List (String × Tree), Json.HaveExact (entryImages es)
  | [] => trivial
  | (_, t) :: es => ⟨isExact_image t, haveExact_entryImages es⟩

end

variable {store : Store}

/-! ## Values that trees stand for -/

mutual

/-- A tree stands for what a value is: its parts are those in the store.  Attributes that are not
public may be anything. -/
inductive StandsFor (store : Store) : Tree → Content → Prop
  | nothing : StandsFor store .nothing .none
  | bool (b : Bool) : StandsFor store (.bool b) (.bool b)
  | int (n : Int) : StandsFor store (.int n) (.int n)
  | text (s : String) : StandsFor store (.text s) (.str s)
  | list {ts : List Tree} {r : Ref} (h : StandForItems store ts (store.row r).toList) :
    StandsFor store (.list ts) (.list r)
  | tuple {ts : List Tree} {r : Ref} (h : StandForItems store ts (store.row r).toList) :
    StandsFor store (.tuple ts) (.tuple r)
  | dict {es : List (String × Tree)} {r : Ref} (h : StandForEntries store es (store.entries r)) :
    StandsFor store (.dict es) (.dict r)
  | point {x y : Tree} {r : Ref} {v w : Value} (h : store.row r = #[v, w])
    (hx : StandsFor store x v.content) (hy : StandsFor store y w.content) :
    StandsFor store (.point x y) (.point r)
  | object {es : List (String × Tree)} {r : Ref}
    (h : StandForNamed store es ((store.attributes r).filter fun a => isPublic a.1)) :
    StandsFor store (.object es) (.object r)
  | token {s : String} {r : Ref} {v : Value} (h : store.row r = #[v]) (hv : v.content = .str s) :
    StandsFor store (.token s) (.token r)

/-- Trees stand for values one by one. -/
inductive StandForItems (store : Store) : List Tree → List Value → Prop
  | nil : StandForItems store [] []
  | cons {t : Tree} {ts : List Tree} {v : Value} {vs : List Value}
    (h : StandsFor store t v.content) (hs : StandForItems store ts vs) :
    StandForItems store (t :: ts) (v :: vs)

/-- Trees stand for the values of a mapping under the same keys. -/
inductive StandForEntries (store : Store) : List (String × Tree) → List (Value × Value) → Prop
  | nil : StandForEntries store [] []
  | cons {k : String} {t : Tree} {es : List (String × Tree)} {key v : Value}
    {vs : List (Value × Value)} (hk : key.content = .str k) (h : StandsFor store t v.content)
    (hs : StandForEntries store es vs) : StandForEntries store ((k, t) :: es) ((key, v) :: vs)

/-- Trees stand for named values under the same names. -/
inductive StandForNamed (store : Store) : List (String × Tree) → List (String × Value) → Prop
  | nil : StandForNamed store [] []
  | cons {k : String} {t : Tree} {es : List (String × Tree)} {v : Value}
    {vs : List (String × Value)} (h : StandsFor store t v.content)
    (hs : StandForNamed store es vs) : StandForNamed store ((k, t) :: es) ((k, v) :: vs)

end

mutual

/-- There is only one tree that stands for a value. -/
theorem StandsFor.unique : ∀ {t u : Tree} {c : Content},
    StandsFor store t c → StandsFor store u c → t = u
  | .nothing, _, _, .nothing, .nothing => rfl
  | .bool _, _, _, .bool _, .bool _ => rfl
  | .int _, _, _, .int _, .int _ => rfl
  | .text _, _, _, .text _, .text _ => rfl
  | .list _, _, _, .list h, .list h' => by rw [h.unique h']
  | .tuple _, _, _, .tuple h, .tuple h' => by rw [h.unique h']
  | .dict _, _, _, .dict h, .dict h' => by rw [h.unique h']
  | .point _ _, _, _, .point h hx hy, .point h' hx' hy' => by
    cases h.symm.trans h'
    rw [hx.unique hx', hy.unique hy']
  | .object _, _, _, .object h, .object h' => by rw [h.unique h']
  | .token _, _, _, .token h hv, .token h' hv' => by
    cases h.symm.trans h'
    cases hv.symm.trans hv'
    rfl
termination_by structural t => t

lemma StandForItems.unique : ∀ {ts us : List Tree} {vs : List Value},
    StandForItems store ts vs → StandForItems store us vs → ts = us
  | [], _, _, .nil, .nil => rfl
  | _ :: _, _, _, .cons h hs, .cons h' hs' => by rw [h.unique h', hs.unique hs']
termination_by structural ts => ts

lemma StandForEntries.unique : ∀ {es us : List (String × Tree)} {vs : List (Value × Value)},
    StandForEntries store es vs → StandForEntries store us vs → es = us
  | [], _, _, .nil, .nil => rfl
  | (_, _) :: _, _, _, .cons hk h hs, .cons hk' h' hs' => by
    cases hk.symm.trans hk'
    rw [h.unique h', hs.unique hs']
termination_by structural es => es

lemma StandForNamed.unique : ∀ {es us : List (String × Tree)} {vs : List (String × Value)},
    StandForNamed store es vs → StandForNamed store us vs → es = us
  | [], _, _, .nil, .nil => rfl
  | (_, _) :: _, _, _, .cons h hs, .cons h' hs' => by rw [h.unique h', hs.unique hs']
termination_by structural es => es

end

/-! ## What stands around a value -/

/-- Around a value there are only containers that higher trees stand for. -/
def Above (store : Store) (levels : Nat) (path : List Content) : Prop :=
  ∀ c ∈ path, ∃ u, StandsFor store u c ∧ levels < u.levels

lemma above_nil (levels : Nat) : Above store levels [] := nofun

lemma Above.mono {n k : Nat} {path : List Content} (h : Above store n path) (hle : k ≤ n) :
    Above store k path := by
  intro c hc
  obtain ⟨u, hu, hlevels⟩ := h c hc
  exact ⟨u, hu, Nat.lt_of_le_of_lt hle hlevels⟩

/-- What is around the parts of a value. -/
lemma Above.cons {t : Tree} {c : Content} {n : Nat} {path : List Content}
    (hpath : Above store t.levels path) (h : StandsFor store t c) (hn : n < t.levels) :
    Above store n (c :: path) := by
  intro d hd
  rcases List.mem_cons.1 hd with rfl | hd
  · exact ⟨t, h, hn⟩
  · exact hpath.mono (Nat.le_of_lt hn) d hd

/-- What a tree stands for equals nothing but itself; there are no floats in it. -/
lemma StandsFor.eq_of_same {t : Tree} {c d : Content} (h : StandsFor store t c)
    (hsame : (c == d) = true) : c = d := by
  cases h <;> cases d <;> first
    | exact absurd hsame Bool.false_ne_true
    | rfl
    | (congr 1; exact LawfulBEq.eq_of_beq hsame)

/-- A value is not among those around it. -/
lemma StandsFor.not_contains {t : Tree} {c : Content} {path : List Content}
    (h : StandsFor store t c) (hpath : Above store t.levels path) : path.contains c = false := by
  rw [List.contains_eq_any_beq, List.any_eq_false]
  intro d hd hsame
  obtain ⟨u, hu, hlevels⟩ := hpath d hd
  cases h.eq_of_same hsame
  rw [h.unique hu] at hlevels
  exact Nat.lt_irrefl _ hlevels

/-! ## Documents with room -/

mutual

/-- The document of a tree that has room for a number of levels: objects take two levels, and a text
must have bytes. -/
def document : Tree → (room : Nat) → Except Fault Json
  | _, 0 => .error documentTooDeep
  | .nothing, _ + 1 => .ok .null
  | .bool b, _ + 1 => .ok (.bool b)
  | .int n, _ + 1 => .ok (.int n)
  | .text s, _ + 1 => (documentText s).map .str
  | .list ts, room + 1 | .tuple ts, room + 1 => .array <$> documents ts room
  | .dict es, room + 1 => .object <$> keyedDocuments es room
  | .point x y, room + 1 => do
    let j ← x.document room
    return .object [("x", j), ("y", ← y.document room)]
  | .object _, 1 | .token _, 1 => .error documentTooDeep
  | .object es, room + 2 => .object <$> namedDocuments es room
  | .token s, _ + 2 => (documentText s).map .str

/-- The documents of several trees. -/
def documents : List Tree → (room : Nat) → Except Fault (List Json)
  | [], _ => .ok []
  | t :: ts, room => do
    let j ← t.document room
    return j :: (← documents ts room)

/-- The documents of several trees with keys. -/
def keyedDocuments : List (String × Tree) → (room : Nat) → Except Fault (List (String × Json))
  | [], _ => .ok []
  | (k, t) :: es, room => do
    let e ← (do
      let key ← documentText k
      return (key, ← t.document room))
    return e :: (← keyedDocuments es room)

/-- The documents of several trees with names. -/
def namedDocuments : List (String × Tree) → (room : Nat) → Except Fault (List (String × Json))
  | [], _ => .ok []
  | (k, t) :: es, room => do
    let e ← (k, ·) <$> t.document room
    return e :: (← namedDocuments es room)

end

lemma document_zero (t : Tree) : t.document 0 = .error documentTooDeep := by
  cases t <;> rfl

/-- A text stands in a document as it is. -/
lemma documentText_eq_ok {k key : String} (h : documentText k = .ok key) : key = k := by
  unfold documentText at h
  split at h
  · exact (Except.ok.inj h).symm
  · cases h

lemma map_documentText_eq_ok {k : String} {j : Json} (h : (documentText k).map Json.str = .ok j) :
    j = .str k := by
  cases hk : documentText k with
  | error f => rw [hk] at h; cases h
  | ok key =>
    rw [hk, documentText_eq_ok hk] at h
    exact (Except.ok.inj h).symm

/-- What comes out of two results one after the other. -/
lemma exists_of_bind_eq_ok {α β : Type} {x : Except Fault α} {f : α → Except Fault β} {b : β}
    (h : (x >>= f) = .ok b) : ∃ a, x = .ok a ∧ f a = .ok b := by
  cases x with
  | error e => cases h
  | ok a => exact ⟨a, rfl, h⟩

lemma exists_of_map_eq_ok {α β : Type} {x : Except Fault α} {f : α → β} {b : β}
    (h : f <$> x = .ok b) : ∃ a, x = .ok a ∧ f a = b := by
  cases x with
  | error e => cases h
  | ok a => exact ⟨a, rfl, Except.ok.inj h⟩

mutual

/-- **The document of a tree, if there is one, is its image.** -/
theorem document_eq_ok : ∀ (t : Tree) {room : Nat} {j : Json}, t.document room = .ok j → j = t.image
  | t, 0, _, h => by rw [t.document_zero] at h; cases h
  | .nothing, _ + 1, _, h => (Except.ok.inj h).symm
  | .bool _, _ + 1, _, h => (Except.ok.inj h).symm
  | .int _, _ + 1, _, h => (Except.ok.inj h).symm
  | .text _, _ + 1, _, h => map_documentText_eq_ok h
  | .list ts, room + 1, _, h => by
    obtain ⟨js, hjs, rfl⟩ := exists_of_map_eq_ok h
    rw [image, documents_eq_ok ts hjs]
  | .tuple ts, room + 1, _, h => by
    obtain ⟨js, hjs, rfl⟩ := exists_of_map_eq_ok h
    rw [image, documents_eq_ok ts hjs]
  | .dict es, room + 1, _, h => by
    obtain ⟨js, hjs, rfl⟩ := exists_of_map_eq_ok h
    rw [image, keyedDocuments_eq_ok es hjs]
  | .point x y, room + 1, _, h => by
    obtain ⟨j, hj, h⟩ := exists_of_bind_eq_ok h
    obtain ⟨k, hk, h⟩ := exists_of_bind_eq_ok h
    rw [image, ← x.document_eq_ok hj, ← y.document_eq_ok hk]
    exact (Except.ok.inj h).symm
  | .object _, 1, _, h => by cases h
  | .token _, 1, _, h => by cases h
  | .object es, room + 2, _, h => by
    obtain ⟨js, hjs, rfl⟩ := exists_of_map_eq_ok h
    rw [image, namedDocuments_eq_ok es hjs]
  | .token _, _ + 2, _, h => map_documentText_eq_ok h

lemma documents_eq_ok : ∀ (ts : List Tree) {room : Nat} {js : List Json},
    documents ts room = .ok js → js = images ts
  | [], _, _, h => (Except.ok.inj h).symm
  | t :: ts, room, _, h => by
    obtain ⟨j, hj, h⟩ := exists_of_bind_eq_ok h
    obtain ⟨js, hjs, h⟩ := exists_of_bind_eq_ok h
    rw [images, ← t.document_eq_ok hj, ← documents_eq_ok ts hjs]
    exact (Except.ok.inj h).symm

lemma keyedDocuments_eq_ok : ∀ (es : List (String × Tree)) {room : Nat}
    {js : List (String × Json)}, keyedDocuments es room = .ok js → js = entryImages es
  | [], _, _, h => (Except.ok.inj h).symm
  | (k, t) :: es, room, _, h => by
    obtain ⟨e, he, h⟩ := exists_of_bind_eq_ok h
    obtain ⟨js, hjs, h⟩ := exists_of_bind_eq_ok h
    obtain ⟨key, hkey, he⟩ := exists_of_bind_eq_ok he
    obtain ⟨j, hj, rfl⟩ := exists_of_map_eq_ok he
    rw [entryImages, ← t.document_eq_ok hj, ← keyedDocuments_eq_ok es hjs,
      ← documentText_eq_ok hkey]
    exact (Except.ok.inj h).symm

lemma namedDocuments_eq_ok : ∀ (es : List (String × Tree)) {room : Nat}
    {js : List (String × Json)}, namedDocuments es room = .ok js → js = entryImages es
  | [], _, _, h => (Except.ok.inj h).symm
  | (k, t) :: es, room, _, h => by
    obtain ⟨e, he, h⟩ := exists_of_bind_eq_ok h
    obtain ⟨js, hjs, h⟩ := exists_of_bind_eq_ok h
    obtain ⟨j, hj, rfl⟩ := exists_of_map_eq_ok he
    rw [entryImages, ← t.document_eq_ok hj, ← namedDocuments_eq_ok es hjs]
    exact (Except.ok.inj h).symm

end

section Still

variable {α β : Type} {m : Memory}

/-- Two computations of which the first one leaves the memory as it is. -/
lemma outcome_bind_still {x : Eval α} {r : Except Fault α} {f : α → Eval β} {g : α → Except Fault β}
    (hx : x.outcome m = (r, m)) (hf : ∀ a, (f a).outcome m = (g a, m)) :
    (x >>= f).outcome m = (r >>= g, m) := by
  rw [Eval.outcome_bind, hx]
  cases r with
  | error e => rfl
  | ok a => exact hf a

lemma outcome_map_still {x : Eval α} {r : Except Fault α} (f : α → β)
    (hx : x.outcome m = (r, m)) : (f <$> x).outcome m = (f <$> r, m) := by
  rw [Eval.outcome_map, hx]
  rfl

end Still

/-! ## Documents of values -/

variable {s : Setting} {m : Memory} {path : List Content}

/-- A sequence is written item by item. -/
lemma outcome_toDocument_row {c : Content} {r : Ref} (hc : c = .list r ∨ c = .tuple r)
    (hpath : path.contains c = false) (room : Nat) (i : Identity) :
    (s.toDocument (room + 1) path ⟨c, i⟩).outcome m =
      (Json.array <$> (m.store.row r).toList.mapM (s.toDocument room (c :: path))).outcome m := by
  rw [Setting.toDocument]
  rcases hc with rfl | rfl
  · simp only [hpath, Bool.and_false]
    rfl
  · simp only [hpath, Bool.and_false]
    rfl

lemma outcome_toDocument_dict {r : Ref} (hpath : path.contains (.dict r) = false) (room : Nat)
    (i : Identity) :
    (s.toDocument (room + 1) path ⟨.dict r, i⟩).outcome m =
      (Json.object <$> (m.store.entries r).mapM fun e => (do
        let key ← liftM (s.keyText e.1)
        return (key, ← s.toDocument room (.dict r :: path) e.2) : Eval _)).outcome m := by
  rw [Setting.toDocument]
  simp only [hpath, Bool.and_false]
  rfl

/-- A record is written field by field. -/
lemma outcome_toDocument_point {r : Ref} {v w : Value} {room : Nat} {j k : Except Fault Json}
    (hr : m.store.row r = #[v, w]) (hpath : path.contains (.point r) = false)
    (hv : (s.toDocument room (.point r :: path) v).outcome m = (j, m))
    (hw : (s.toDocument room (.point r :: path) w).outcome m = (k, m)) (i : Identity) :
    (s.toDocument (room + 1) path ⟨.point r, i⟩).outcome m =
      (do return .object [("x", ← j), ("y", ← k)], m) := by
  have hitem : ∀ n : Nat, Eval.outcome (liftM (Look.itemAt r n)) m =
      (.ok (#[v, w][n]?.getD .none), m) := fun n => by rw [Eval.outcome_look, ← hr]; rfl
  rw [Setting.toDocument]
  simp only [hpath, Bool.and_false]
  refine (Eval.outcome_bind_ok (hitem 0)).trans (outcome_bind_still hv fun j => ?_)
  refine (Eval.outcome_bind_ok (hitem 1)).trans ?_
  exact outcome_map_still _ hw

/-- An object is written with its public attributes, two levels down. -/
lemma outcome_toDocument_object {r : Ref} (hpath : path.contains (.object r) = false)
    (room : Nat) (i : Identity) :
    (s.toDocument (room + 2) path ⟨.object r, i⟩).outcome m =
      (Json.object <$> ((m.store.attributes r).filter fun a : String × Value => isPublic a.1).mapM
        fun e : String × Value => do
          return (e.1, ← s.toDocument room (.object r :: path) e.2)).outcome m := by
  rw [Setting.toDocument]
  simp only [hpath, Bool.and_false]
  rfl

/-- An object without attributes of its own is written as the text that it is shown as. -/
lemma outcome_toDocument_token {r : Ref} {v : Value} {text : String}
    (hr : m.store.row r = #[v]) (hv : v.content = .str text)
    (hpath : path.contains (.token r) = false) (room : Nat) (i : Identity) :
    (s.toDocument (room + 2) path ⟨.token r, i⟩).outcome m =
      ((documentText text).map .str, m) := by
  have hshown : s.ownText ⟨.token r, i⟩ m.store = (documentText text).map .str := by
    have htext : ((m.store.row r)[0]?.getD Value.none).text?.getD "" = text := by
      rw [hr]
      show v.text?.getD "" = text
      rw [Value.text?, hv]
      rfl
    show ((documentText (((m.store.row r)[0]?.getD Value.none).text?.getD "")).map Json.str) = _
    rw [htext]
  rw [Setting.toDocument]
  simp only [hpath, Bool.and_false]
  show (s.ownText ⟨.token r, i⟩ m.store, m) = _
  rw [hshown]

/-- A single level is not enough for an object. -/
lemma outcome_toDocument_one {c : Content} {r : Ref} (hc : c = .object r ∨ c = .token r)
    (hpath : path.contains c = false) (i : Identity) :
    (s.toDocument 1 path ⟨c, i⟩).outcome m = (.error documentTooDeep, m) := by
  rw [Setting.toDocument]
  rcases hc with rfl | rfl
  · simp only [hpath, Bool.and_false]
    rfl
  · simp only [hpath, Bool.and_false]
    rfl

lemma levels_pos (t : Tree) : 0 < t.levels := by cases t <;> simp [levels]

/-- Without room there is no document, so it is enough to look at what has some. -/
lemma StandsFor.outcome_of_room {t : Tree} {c : Content} {room : Nat} (h : StandsFor m.store t c)
    (hpath : Above m.store t.levels path) (i : Identity)
    (hroom : ∀ n, (s.toDocument (n + 1) path ⟨c, i⟩).outcome m = (t.document (n + 1), m)) :
    (s.toDocument room path ⟨c, i⟩).outcome m = (t.document room, m) := by
  cases room with
  | zero =>
    rw [Setting.toDocument, h.not_contains hpath, t.document_zero]
    rfl
  | succ n => exact hroom n

mutual

/-- **The document of a value is that of its tree.** -/
theorem StandsFor.outcome_toDocument : ∀ (t : Tree) {c : Content} (_ : StandsFor m.store t c)
    (room : Nat) {path : List Content} (_ : Above m.store t.levels path) (i : Identity),
      (s.toDocument room path ⟨c, i⟩).outcome m = (t.document room, m)
  | .nothing, _, .nothing, _, _, hpath, i =>
    StandsFor.nothing.outcome_of_room hpath i fun room => rfl
  | .bool b, _, .bool _, _, _, hpath, i =>
    (StandsFor.bool b).outcome_of_room hpath i fun room => rfl
  | .int n, _, .int _, _, _, hpath, i => (StandsFor.int n).outcome_of_room hpath i fun room => rfl
  | .text x, _, .text _, _, _, hpath, i =>
    (StandsFor.text x).outcome_of_room hpath i fun room => by
      rw [Setting.toDocument]
      exact Eval.outcome_except ((documentText x).map Json.str) m
  | .list ts, _, .list h, _, _, hpath, i => by
    have hvalue := StandsFor.list h
    refine hvalue.outcome_of_room hpath i fun room => ?_
    rw [outcome_toDocument_row (.inl rfl) (hvalue.not_contains hpath)]
    exact outcome_map_still _ (h.outcome_mapM ts room (hpath.cons hvalue (Nat.lt_succ_self _)))
  | .tuple ts, _, .tuple h, _, _, hpath, i => by
    have hvalue := StandsFor.tuple h
    refine hvalue.outcome_of_room hpath i fun room => ?_
    rw [outcome_toDocument_row (.inr rfl) (hvalue.not_contains hpath)]
    exact outcome_map_still _ (h.outcome_mapM ts room (hpath.cons hvalue (Nat.lt_succ_self _)))
  | .dict es, _, .dict h, _, _, hpath, i => by
    have hvalue := StandsFor.dict h
    refine hvalue.outcome_of_room hpath i fun room => ?_
    rw [outcome_toDocument_dict (hvalue.not_contains hpath)]
    exact outcome_map_still _ (h.outcome_mapM es room (hpath.cons hvalue (Nat.lt_succ_self _)))
  | .point x y, _, .point (v := ⟨_, j⟩) (w := ⟨_, k⟩) h hx hy, _, _, hpath, i => by
    have hvalue := StandsFor.point h hx hy
    refine hvalue.outcome_of_room hpath i fun room => ?_
    have hinner := hpath.cons hvalue (Nat.lt_succ_self _)
    exact outcome_toDocument_point h (hvalue.not_contains hpath)
      (hx.outcome_toDocument x room (hinner.mono (Nat.le_max_left _ _)) j)
      (hy.outcome_toDocument y room (hinner.mono (Nat.le_max_right _ _)) k) i
  | .object es, _, .object h, _, _, hpath, i => by
    have hvalue := StandsFor.object h
    refine hvalue.outcome_of_room hpath i fun room => ?_
    obtain _ | room := room
    · exact outcome_toDocument_one (.inl rfl) (hvalue.not_contains hpath) i
    · rw [outcome_toDocument_object (hvalue.not_contains hpath)]
      exact outcome_map_still _ (h.outcome_mapM es room
        (hpath.cons hvalue (Nat.lt_succ_of_lt (Nat.lt_succ_self _))))
  | .token _, _, .token h hv, _, _, hpath, i => by
    have hvalue := StandsFor.token h hv
    refine hvalue.outcome_of_room hpath i fun room => ?_
    obtain _ | room := room
    · exact outcome_toDocument_one (.inr rfl) (hvalue.not_contains hpath) i
    · exact outcome_toDocument_token h hv (hvalue.not_contains hpath) room i
termination_by structural t => t

lemma StandForItems.outcome_mapM : ∀ (ts : List Tree) {vs : List Value}
    (_ : StandForItems m.store ts vs) (room : Nat) {path : List Content}
    (_ : Above m.store (mostLevels ts) path),
      (vs.mapM (s.toDocument room path)).outcome m = (documents ts room, m)
  | [], _, .nil, _, _, _ => rfl
  | t :: ts, _, .cons (v := ⟨_, i⟩) h hs, room, _, hpath => by
    have hhead := h.outcome_toDocument t room (hpath.mono (Nat.le_max_left _ _)) i
    have htail := hs.outcome_mapM ts room (hpath.mono (Nat.le_max_right _ _))
    rw [List.mapM_cons]
    exact outcome_bind_still hhead fun j => outcome_map_still (j :: ·) htail
termination_by structural ts => ts

lemma StandForEntries.outcome_mapM : ∀ (es : List (String × Tree)) {vs : List (Value × Value)}
    (_ : StandForEntries m.store es vs) (room : Nat) {path : List Content}
    (_ : Above m.store (mostEntryLevels es) path),
      (vs.mapM fun e => (do
        let key ← liftM (s.keyText e.1)
        return (key, ← s.toDocument room path e.2) : Eval _)).outcome m = (keyedDocuments es room, m)
  | [], _, .nil, _, _, _ => rfl
  | (k, t) :: es, _, @StandForEntries.cons _ _ _ _ ⟨_, _⟩ ⟨_, i⟩ _ rfl h hs, room, _, hpath => by
    have hhead := h.outcome_toDocument t room (hpath.mono (Nat.le_max_left _ _)) i
    have htail := hs.outcome_mapM es room (hpath.mono (Nat.le_max_right _ _))
    rw [List.mapM_cons]
    exact outcome_bind_still
      (outcome_bind_still (Eval.outcome_except (documentText k) m) fun key =>
        outcome_map_still (key, ·) hhead)
      fun e => outcome_map_still (e :: ·) htail
termination_by structural es => es

lemma StandForNamed.outcome_mapM : ∀ (es : List (String × Tree)) {vs : List (String × Value)}
    (_ : StandForNamed m.store es vs) (room : Nat) {path : List Content}
    (_ : Above m.store (mostEntryLevels es) path),
      (vs.mapM fun e : String × Value => do
        return (e.1, ← s.toDocument room path e.2)).outcome m = (namedDocuments es room, m)
  | [], _, .nil, _, _, _ => rfl
  | (k, t) :: es, _, .cons (v := ⟨_, i⟩) h hs, room, _, hpath => by
    have hhead := h.outcome_toDocument t room (hpath.mono (Nat.le_max_left _ _)) i
    have htail := hs.outcome_mapM es room (hpath.mono (Nat.le_max_right _ _))
    rw [List.mapM_cons]
    exact outcome_bind_still (outcome_map_still (k, ·) hhead) fun e =>
      outcome_map_still (e :: ·) htail
termination_by structural es => es

end

/-! ## Texts of values -/

/-- What is neither nothing nor a text is written as its document. -/
lemma StandsFor.outcome_coerce {t : Tree} {v : Value} (h : t.StandsFor m.store v.content)
    (hnone : t ≠ .nothing) (htext : ∀ x, t ≠ .text x) :
    (s.coerce v).outcome m = (Json.write <$> t.document documentDepth, m) := by
  have hcoerce : s.coerce v = Json.write <$> s.toDocument documentDepth [] v := by
    obtain ⟨c, i⟩ := v
    cases h with
    | nothing => exact absurd rfl hnone
    | text x => exact absurd rfl (htext x)
    | _ => rfl
  rw [hcoerce]
  exact outcome_map_still _ (h.outcome_toDocument t documentDepth (above_nil _) v.identity)

/-- A text is given to those trees only that have a document, and it is their image. -/
lemma StandsFor.coerce_eq_ok {t : Tree} {v : Value} {text : String}
    (h : t.StandsFor m.store v.content) (hnone : t ≠ .nothing) (htext : ∀ x, t ≠ .text x)
    (hok : ((s.coerce v).outcome m).1 = .ok text) : text = t.image.write := by
  rw [h.outcome_coerce hnone htext] at hok
  obtain ⟨j, hj, rfl⟩ := exists_of_map_eq_ok hok
  rw [t.document_eq_ok hj]

/-- **Documents are faithful.**  Let a tree stand for a value, and let it be neither nothing nor a
text.  Whenever the value has a text, the text is read back as the image of the tree and has no
blanks outside of its texts.

Wherever the same tree stands for a value, the same text or the same fault comes out: private
attributes, however they differ, are not told apart.  Values whose trees have different images never
share a text. -/
theorem StandsFor.coerce_faithful {t : Tree} (hnone : t ≠ .nothing) (htext : ∀ x, t ≠ .text x)
    (s : Setting) (m : Memory) (v : Value) (hv : t.StandsFor m.store v.content) :
    (∀ text, ((s.coerce v).outcome m).1 = .ok text →
      Json.read? text = some t.image ∧ Json.Compact text.toList) ∧
    (∀ s' : Setting, ∀ m' v', t.StandsFor m'.store v'.content →
      ((s'.coerce v').outcome m').1 = ((s.coerce v).outcome m).1) ∧
    (∀ u : Tree, u ≠ .nothing → (∀ x, u ≠ .text x) → u.image ≠ t.image →
      ∀ s' : Setting, ∀ m' v', u.StandsFor m'.store v'.content →
        ∀ text, ((s.coerce v).outcome m).1 = .ok text →
          ((s'.coerce v').outcome m').1 ≠ .ok text) := by
  refine ⟨?_, ?_, ?_⟩
  · intro text hok
    cases hv.coerce_eq_ok hnone htext hok
    exact ⟨Json.read?_write t.isExact_image, Json.compact_write t.isExact_image⟩
  · intro s' m' v' hv'
    rw [hv.outcome_coerce hnone htext, hv'.outcome_coerce hnone htext]
  · intro u hnone' htext' himage s' m' v' hv' text hok hok'
    have hwrite := (hv'.coerce_eq_ok hnone' htext' hok').symm.trans (hv.coerce_eq_ok hnone htext hok)
    exact himage (Json.write_injective u.isExact_image t.isExact_image hwrite)

/-- A list of an object with a private attribute and of an empty tuple, and the same list without
the private attribute. -/
theorem StandsFor.coerce_faithful_object :
    let named := ("name", Value.str "\"")
    let row := Cell.row #[.ofContent (.object ⟨1⟩), .ofContent (.tuple ⟨0⟩)]
    let full := { Store.empty with cells := #[.row #[], .attributes [("_key", .int 1), named], row] }
    let bare := { Store.empty with cells := #[.row #[], .attributes [named], row] }
    let v := Value.ofContent (.list ⟨2⟩)
    let t := Tree.list [.object [("name", .text "\"")], .tuple []]
    let s : Setting := ⟨false, .empty, Futures.leaving, fun _ => pure none⟩
    let text := "[\x7b\"name\":\"\\\"\"\x7d,[]]"
    t.StandsFor full v.content ∧ ((s.coerce v).outcome ⟨full, []⟩).1 = .ok text ∧
      ((s.coerce v).outcome ⟨bare, []⟩).1 = .ok text ∧ Json.read? text = some t.image ∧
      ((s.coerce (.int 1)).outcome ⟨bare, []⟩).1 ≠ .ok text := by
  intro named row full bare v t s text
  have htree : ∀ store : Store, store.row ⟨2⟩ = #[.ofContent (.object ⟨1⟩), .ofContent (.tuple ⟨0⟩)] →
      store.row ⟨0⟩ = #[] →
      (store.attributes ⟨1⟩).filter (fun a => isPublic a.1) = [named] →
      t.StandsFor store v.content := fun store hrow hempty hshown =>
    .list (hrow ▸ .cons (.object (hshown ▸ .cons (.text _) .nil))
      (.cons (.tuple (hempty ▸ .nil)) .nil))
  have hfull := htree full rfl rfl (by simp [full, named, Store.attributes, Store.cell?, isPublic])
  have hbare := htree bare rfl rfl (by simp [bare, named, Store.attributes, Store.cell?, isPublic])
  have hok : ((s.coerce v).outcome ⟨full, []⟩).1 = .ok text := by rfl
  obtain ⟨hread, hsame, hother⟩ :=
    coerce_faithful (t := t) nofun nofun s ⟨full, []⟩ v hfull
  exact ⟨hfull, hok, (hsame s ⟨bare, []⟩ v hbare).trans hok, (hread text hok).1,
    hother (.int 1) nofun nofun nofun s ⟨bare, []⟩ (.int 1) (.int 1) text hok⟩

end Tree

end Interpolation
