import Mathlib.Data.Set.Basic
import Mathlib.Tactic.Lemma
import Interpolation.Eval.Context
import Interpolation.Json.Basic

/-!
# Regions without futures

A context may be free of futures although the store is not: other values in the store are results of
futures, or hold futures themselves.  A region is a set of places that an evaluation in such a
context can come to.  What is free in a region is no future, and all its references lead to places of
the region; a store is free in a region if the cells there are free, and all places at which cells
may still be added belong to it.  So whatever an evaluation finds, and whatever it makes of it, stays
free in the region.

Where futures may be met nothing can be asked of values.  The scope of such an evaluation is
everything, and everything is free in it, so that what is proved of evaluations step by step can be
proved for both scopes at once.

Being free is told once for each kind of thing that may hold values, so that what a computation
answers needs no condition of its own.

* `Scope` — a region without futures, or everything.
* `FreeIn` — no future, and no reference that leaves the region.
* `HoldsNone` — what holds no values at all.
* `Store.IsFree` — the cells of the region hold no future and lead nowhere else.
-/

namespace Interpolation

open Interpolation.Trust

/-- The places of the cells that an evaluation can come to. -/
abbrev Region := Set Nat

/-- What an evaluation may meet. -/
structure Scope where
  /-- The cells that it can come to. -/
  places : Region
  /-- Whether it can meet futures. -/
  futures : Prop
  /-- Through a future it can come to any cell. -/
  unlimited : futures → places = Set.univ

namespace Scope

/-- In a region no futures are met. -/
instance : Coe Region Scope := ⟨fun places => ⟨places, False, False.elim⟩⟩

/-- All cells, and all futures. -/
def everything : Scope := ⟨Set.univ, True, fun _ => rfl⟩

/-- Where futures can be met, the scope is everything. -/
lemma eq_everything {R : Scope} (h : R.futures) : R = .everything := by
  obtain ⟨places, futures, unlimited⟩ := R
  obtain rfl := unlimited h
  obtain rfl : futures = True := eq_true h
  rfl

/-- Where they cannot, it is a region. -/
lemma eq_region {R : Scope} (h : ¬ R.futures) : R = (R.places : Region) := by
  obtain ⟨places, futures, unlimited⟩ := R
  obtain rfl : futures = False := eq_false h
  rfl

end Scope

/-- What may hold values; `FreeIn R a` says that no part of `a` is a future, unless futures can be
met, and that its references lead to places of the scope only. -/
class HoldsValues (α : Type) where
  /-- There is no future, and no reference out of the scope. -/
  FreeIn : Scope → α → Prop
  /-- Nothing lies outside of everything. -/
  freeIn_everything : ∀ a : α, FreeIn .everything a

export HoldsValues (FreeIn freeIn_everything)

/-- Where futures can be met, anything is free. -/
lemma freeIn_of_futures {α : Type} [HoldsValues α] {R : Scope} (h : R.futures) (a : α) :
    FreeIn R a := by
  rw [R.eq_everything h]
  exact freeIn_everything a

/-- What holds no values, like a number or a text. -/
class HoldsNone (α : Type) extends HoldsValues α where
  /-- There is nothing that could be a future. -/
  freeIn_of_none : ∀ (R : Scope) (a : α), FreeIn R a

export HoldsNone (freeIn_of_none)

/-! ## What holds no values -/

section HoldsNone

/-- Nothing is asked of what holds no values. -/
abbrev HoldsNone.always (α : Type) : HoldsNone α where
  FreeIn _ _ := True
  freeIn_everything _ := trivial
  freeIn_of_none _ _ := trivial

instance : HoldsNone Unit := .always Unit
instance : HoldsNone Bool := .always Bool
instance : HoldsNone Nat := .always Nat
instance : HoldsNone Int := .always Int
instance : HoldsNone Float := .always Float
instance : HoldsNone Char := .always Char
instance : HoldsNone String := .always String
instance : HoldsNone Wording := .always Wording
instance : HoldsNone UInt8 := .always UInt8
instance : HoldsNone Json := .always Json
instance : HoldsNone (Char → Bool) := .always (Char → Bool)

end HoldsNone

/-! ## Values -/

variable {α β ε : Type} {R : Scope}

instance : HoldsValues Ref := ⟨fun R r => r.place ∈ R.places, fun _ => trivial⟩

/-- A content that is no future and refers to no place outside of the scope. -/
def Content.IsFree (R : Scope) : Content → Prop
  | .future _ => R.futures
  | .list r | .tuple r | .set r | .dict r | .trusted _ r | .object r | .token r | .point r
  | .slice r | .stream _ r | .view _ r | .bag r | .method _ r _ | .proxy r | .generic r | .cycler r
  | .joiner r => FreeIn R r
  | _ => True

instance : HoldsValues Content where
  FreeIn := Content.IsFree
  freeIn_everything c := by cases c <;> exact trivial

/-- What stays in a region stays in a larger one. -/
lemma Content.IsFree.mono {R R' : Region} (h : R ⊆ R') {c : Content} (hc : c.IsFree R) :
    c.IsFree R' := by
  cases c with
  | future _ => exact hc
  | list _ | tuple _ | set _ | dict _ | trusted _ _ | object _ | token _ | point _ | slice _
  | stream _ _ | view _ _ | bag _ | method _ _ _ | proxy _ | generic _ | cycler _ | joiner _ =>
    exact h hc
  | _ => exact trivial

instance : HoldsValues Value := ⟨fun R v => FreeIn R v.content, fun v => freeIn_everything v.content⟩

/-- What a value is free of, its content is free of. -/
lemma freeIn_of_content {v : Value} {c : Content} (h : v.content = c) (hv : FreeIn R v) :
    FreeIn R c := h ▸ hv

/-! ## Collections -/

instance [HoldsValues α] [HoldsValues β] : HoldsValues (α × β) where
  FreeIn R a := FreeIn R a.1 ∧ FreeIn R a.2
  freeIn_everything a := ⟨freeIn_everything a.1, freeIn_everything a.2⟩

instance [HoldsValues α] : HoldsValues (List α) where
  FreeIn R as := ∀ a ∈ as, FreeIn R a
  freeIn_everything _ a _ := freeIn_everything a

instance [HoldsValues α] : HoldsValues (Array α) where
  FreeIn R as := FreeIn R as.toList
  freeIn_everything as := freeIn_everything as.toList

/-- What is there is free. -/
def Option.IsFree [HoldsValues α] (R : Scope) : Option α → Prop
  | some a => FreeIn R a
  | none => True

instance [HoldsValues α] : HoldsValues (Option α) where
  FreeIn := Option.IsFree
  freeIn_everything
    | some a => freeIn_everything a
    | none => trivial

/-- What is answered is free; a fault is. -/
def Except.IsFree [HoldsValues α] (R : Scope) : Except ε α → Prop
  | .ok a => FreeIn R a
  | .error _ => True

instance [HoldsValues α] : HoldsValues (Except ε α) where
  FreeIn := Except.IsFree
  freeIn_everything
    | .ok a => freeIn_everything a
    | .error _ => trivial

instance [HoldsNone α] [HoldsNone β] : HoldsNone (α × β) where
  freeIn_of_none R a := ⟨freeIn_of_none R a.1, freeIn_of_none R a.2⟩

instance [HoldsNone α] : HoldsNone (List α) where
  freeIn_of_none R _ a _ := freeIn_of_none R a

instance [HoldsNone α] : HoldsNone (Option α) where
  freeIn_of_none R o := by
    cases o
    · exact trivial
    · exact freeIn_of_none R _

section Collections

variable [HoldsValues α] [HoldsValues β]

@[simp]
lemma freeIn_nil : FreeIn R ([] : List α) := fun _ h => absurd h List.not_mem_nil

@[simp]
lemma freeIn_cons {a : α} {as : List α} : FreeIn R (a :: as) ↔ FreeIn R a ∧ FreeIn R as :=
  List.forall_mem_cons

@[simp]
lemma freeIn_append {as bs : List α} : FreeIn R (as ++ bs) ↔ FreeIn R as ∧ FreeIn R bs :=
  List.forall_mem_append

/-- A part of a free collection is free. -/
lemma freeIn_of_subset {as bs : List α} (h : as ⊆ bs) (hbs : FreeIn R bs) : FreeIn R as :=
  fun a ha => hbs a (h ha)

lemma freeIn_reverse {as : List α} (h : FreeIn R as) : FreeIn R as.reverse :=
  fun a ha => h a (List.mem_reverse.1 ha)

lemma freeIn_map {f : α → β} {as : List α} (h : FreeIn R as)
    (hf : ∀ a, FreeIn R a → FreeIn R (f a)) : FreeIn R (as.map f) := by
  intro b hb
  obtain ⟨a, ha, rfl⟩ := List.mem_map.1 hb
  exact hf a (h a ha)

lemma freeIn_filterMap {f : α → Option β} {as : List α} (h : FreeIn R as)
    (hf : ∀ a, FreeIn R a → FreeIn R (f a)) : FreeIn R (as.filterMap f) := by
  intro b hb
  obtain ⟨a, ha, hab⟩ := List.mem_filterMap.1 hb
  have hfree := hf a (h a ha)
  rw [hab] at hfree
  exact hfree

lemma freeIn_zipIdx {as : List α} (h : FreeIn R as) : FreeIn R as.zipIdx := by
  intro p hp
  exact ⟨h p.1 (List.fst_mem_of_mem_zipIdx hp), trivial⟩

lemma freeIn_getElem? {as : List α} (h : FreeIn R as) (i : Nat) : FreeIn R as[i]? := by
  cases hi : as[i]? with
  | none => exact trivial
  | some a => exact h a (List.mem_of_getElem? hi)

lemma freeIn_array_getElem? {as : Array α} (h : FreeIn R as) (i : Nat) : FreeIn R as[i]? := by
  rw [← Array.getElem?_toList]
  exact freeIn_getElem? h i

lemma freeIn_getD {o : Option α} {a : α} (ho : FreeIn R o) (ha : FreeIn R a) :
    FreeIn R (o.getD a) := by
  cases o
  · exact ha
  · exact ho

lemma freeIn_or {o p : Option α} (ho : FreeIn R o) (hp : FreeIn R p) : FreeIn R (o.or p) := by
  cases o
  · exact hp
  · exact ho

lemma freeIn_optionMap {f : α → β} {o : Option α} (ho : FreeIn R o)
    (hf : ∀ a, FreeIn R a → FreeIn R (f a)) : FreeIn R (o.map f) := by
  cases o with
  | none => exact trivial
  | some a => exact hf a ho

lemma freeIn_optionBind {f : α → Option β} {o : Option α} (ho : FreeIn R o)
    (hf : ∀ a, FreeIn R a → FreeIn R (f a)) : FreeIn R (o >>= f) := by
  cases o with
  | none => exact trivial
  | some a => exact hf a ho

lemma freeIn_exceptMap {f : α → β} {r : Except ε α} (hr : FreeIn R r)
    (hf : ∀ a, FreeIn R a → FreeIn R (f a)) : FreeIn R (r.map f) := by
  cases r with
  | error _ => exact trivial
  | ok a => exact hf a hr

lemma freeIn_exceptBind {f : α → Except ε β} {r : Except ε α} (hr : FreeIn R r)
    (hf : ∀ a, FreeIn R a → FreeIn R (f a)) : FreeIn R (r >>= f) := by
  cases r with
  | error _ => exact trivial
  | ok a => exact hf a hr

end Collections

/-! ### Results that are free whatever they are computed from -/

section Computed

variable {γ : Type} [HoldsValues β]

lemma freeIn_optionMap_of {f : γ → β} (o : Option γ)
    (hf : ∀ a, FreeIn R (f a)) : FreeIn R (o.map f) := by
  cases o with
  | none => exact trivial
  | some a => exact hf a

lemma freeIn_exceptMap_of {f : γ → β} (r : Except ε γ)
    (hf : ∀ a, FreeIn R (f a)) : FreeIn R (r.map f) := by
  cases r with
  | error _ => exact trivial
  | ok a => exact hf a

lemma freeIn_exceptBind_of {f : γ → Except ε β} (r : Except ε γ)
    (hf : ∀ a, FreeIn R (f a)) : FreeIn R (r >>= f) := by
  cases r with
  | error _ => exact trivial
  | ok a => exact hf a

end Computed

section Collections

variable [HoldsValues α] [HoldsValues β]

/-- What a name stands for is free if all that names stand for is. -/
lemma freeIn_lookup {named : List (String × α)} (h : FreeIn R named) (n : String) :
    FreeIn R (named.lookup n) := by
  induction named with
  | nil => exact trivial
  | cons p named ih =>
    obtain ⟨hp, hnamed⟩ := freeIn_cons.1 h
    rw [List.lookup_cons]
    split
    · exact hp.2
    · exact ih hnamed

lemma freeIn_mapM_except {f : α → Except ε β} {as : List α} (h : FreeIn R as)
    (hf : ∀ a, FreeIn R a → FreeIn R (f a)) : FreeIn R (as.mapM f) := by
  induction as with
  | nil => exact freeIn_nil
  | cons a as ih =>
    obtain ⟨ha, has⟩ := freeIn_cons.1 h
    rw [List.mapM_cons]
    refine freeIn_exceptBind (hf a ha) fun b hb => freeIn_exceptBind (ih has) fun bs hbs => ?_
    exact freeIn_cons.2 ⟨hb, hbs⟩

end Collections

/-! ## Streams -/

instance : HoldsValues Arguments where
  FreeIn R a := FreeIn R a.positional ∧ FreeIn R a.named
  freeIn_everything a := ⟨freeIn_everything a.positional, freeIn_everything a.named⟩

/-- A source of free items. -/
def Source.IsFree (R : Scope) : Source → Prop
  | .items vs => FreeIn R vs
  | .row r _ | .rowBack r _ | .entries _ r _ _ | .entriesBack _ r _ _ | .stream r =>
    FreeIn R r
  | .numbers .. | .blocks => True
  | .future .. => R.futures

instance : HoldsValues Source where
  FreeIn := Source.IsFree
  freeIn_everything
    | .items vs => freeIn_everything vs
    | .row .. | .rowBack .. | .entries .. | .entriesBack .. | .stream _ | .numbers .. | .blocks
    | .future .. => trivial

/-- A stream asked to do something with free arguments. -/
def Job.IsFree (R : Scope) : Job → Prop
  | .map a | .select _ a | .selectBy _ a => FreeIn R a
  | .unique v w | .batch v w | .slice v w => FreeIn R v ∧ FreeIn R w
  | .pairs => True

instance : HoldsValues Job where
  FreeIn := Job.IsFree
  freeIn_everything
    | .map a | .select _ a | .selectBy _ a => freeIn_everything a
    | .unique v w | .batch v w | .slice v w => ⟨freeIn_everything v, freeIn_everything w⟩
    | .pairs => trivial

/-- A stage that works with free values. -/
def Stage.IsFree (R : Scope) : Stage → Prop
  | .attribute path v => FreeIn R path ∧ FreeIn R v
  | .filter v a => FreeIn R v ∧ FreeIn R a
  | .select _ a => FreeIn R a
  | .selectBy _ path a => FreeIn R path ∧ FreeIn R a
  | .unique path _ seen => FreeIn R path ∧ FreeIn R seen
  | .batch v w group =>
    FreeIn R v ∧ FreeIn R w ∧ FreeIn R group
  | .slice items _ _ fill => FreeIn R items ∧ FreeIn R fill
  | .pass => True

instance : HoldsValues Stage where
  FreeIn := Stage.IsFree
  freeIn_everything
    | .attribute path v => ⟨freeIn_everything path, freeIn_everything v⟩
    | .filter v a => ⟨freeIn_everything v, freeIn_everything a⟩
    | .select _ a => freeIn_everything a
    | .selectBy _ path a => ⟨freeIn_everything path, freeIn_everything a⟩
    | .unique path _ seen => ⟨freeIn_everything path, freeIn_everything seen⟩
    | .batch v w group => ⟨freeIn_everything v, freeIn_everything w, freeIn_everything group⟩
    | .slice items _ _ fill => ⟨freeIn_everything items, freeIn_everything fill⟩
    | .pass => trivial

/-- A course on which free items are met. -/
def Course.IsFree (R : Scope) : Course → Prop
  | .ended | .running => True
  | .waiting job v => FreeIn R job ∧ FreeIn R v
  | .working stage source => FreeIn R stage ∧ FreeIn R source
  | .plain source => FreeIn R source

instance : HoldsValues Course where
  FreeIn := Course.IsFree
  freeIn_everything
    | .ended | .running => trivial
    | .waiting job v => ⟨freeIn_everything job, freeIn_everything v⟩
    | .working stage source => ⟨freeIn_everything stage, freeIn_everything source⟩
    | .plain source => freeIn_everything source

/-! ## Stores -/

/-- A cell with free parts. -/
def Cell.IsFree (R : Scope) : Cell → Prop
  | .row items => FreeIn R items
  | .entries pairs => FreeIn R pairs
  | .attributes named => FreeIn R named
  | .stream course => FreeIn R course

instance : HoldsValues Cell where
  FreeIn := Cell.IsFree
  freeIn_everything
    | .row items => freeIn_everything items
    | .entries pairs => freeIn_everything pairs
    | .attributes named => freeIn_everything named
    | .stream course => freeIn_everything course

/-- A store of which an evaluation finds only free values, as long as it stays in the scope. -/
structure Store.IsFree (R : Scope) (s : Store) : Prop where
  /-- The places of cells to come belong to the scope. -/
  beyond : ∀ p, s.cells.size ≤ p → p ∈ R.places
  /-- The place of the empty tuple belongs to the scope. -/
  first : Building.emptyRow.place ∈ R.places
  /-- The cells of the scope are free. -/
  cells : ∀ p c, p ∈ R.places → s.cells[p]? = some c → FreeIn R c
  /-- The values of names are free. -/
  bound : FreeIn R s.bound
  /-- Constants are free. -/
  constants : FreeIn R (s.constants.map Prod.snd)

instance : HoldsValues Store where
  FreeIn := Store.IsFree
  freeIn_everything s :=
    ⟨fun _ _ => trivial, trivial, fun _ c _ _ => freeIn_everything c, freeIn_everything s.bound,
      freeIn_everything (s.constants.map Prod.snd)⟩

namespace Store

variable {s : Store} {r : Ref}

/-- What a reference of the scope stands for is free. -/
lemma IsFree.cell? (h : s.IsFree R) (hr : FreeIn R r) :
    FreeIn R (s.cell? r) := by
  cases hc : s.cell? r with
  | none => exact trivial
  | some c => exact h.cells _ c hr hc

lemma IsFree.row (h : s.IsFree R) (hr : FreeIn R r) :
    FreeIn R (s.row r) := by
  have hcell := h.cell? hr
  rw [Store.row]
  split
  · next items hc => rwa [hc] at hcell
  · exact freeIn_nil

lemma IsFree.entries (h : s.IsFree R) (hr : FreeIn R r) :
    FreeIn R (s.entries r) := by
  have hcell := h.cell? hr
  rw [Store.entries]
  split
  · next entries hc => rwa [hc] at hcell
  · exact freeIn_nil

lemma IsFree.attributes (h : s.IsFree R) (hr : FreeIn R r) :
    FreeIn R (s.attributes r) := by
  have hcell := h.cell? hr
  rw [Store.attributes]
  split
  · next named hc => rwa [hc] at hcell
  · exact freeIn_nil

lemma IsFree.course (h : s.IsFree R) (hr : FreeIn R r) :
    FreeIn R (s.course r) := by
  have hcell := h.cell? hr
  rw [Store.course]
  split
  · next course hc => rwa [hc] at hcell
  · exact trivial

/-- A new cell stands in the scope. -/
lemma IsFree.push (h : s.IsFree R) {c : Cell} (hc : FreeIn R c) :
    (s.push c).IsFree R where
  beyond p hp := by
    rw [Store.push, Array.size_push] at hp
    exact h.beyond p (Nat.le_of_succ_le hp)
  first := h.first
  cells p d hp hd := by
    rw [Store.push, Array.getElem?_push] at hd
    split at hd
    · cases hd
      exact hc
    · exact h.cells p d hp hd
  bound := h.bound
  constants := h.constants

lemma IsFree.set (h : s.IsFree R) {c : Cell} (hc : FreeIn R c) :
    (s.set r c).IsFree R where
  beyond p hp := by
    rw [Store.set, Array.size_setIfInBounds] at hp
    exact h.beyond p hp
  first := h.first
  cells p d hp hd := by
    rw [Store.set, Array.getElem?_setIfInBounds] at hd
    split at hd
    · split at hd
      · cases hd
        exact hc
      · cases hd
    · exact h.cells p d hp hd
  bound := h.bound
  constants := h.constants

lemma IsFree.changeRow (h : s.IsFree R) {f : Array Value → Array Value}
    (hf : ∀ items, FreeIn R items → FreeIn R (f items)) :
    (s.changeRow r f).IsFree R where
  beyond p hp := by
    rw [Store.changeRow, Array.size_modify] at hp
    exact h.beyond p hp
  first := h.first
  cells p d hp hd := by
    rw [Store.changeRow, Array.getElem?_modify] at hd
    split at hd
    · obtain ⟨c, hc, rfl⟩ := Option.map_eq_some_iff.1 hd
      have hfree := h.cells p c hp hc
      cases c with
      | row items => exact hf items hfree
      | entries _ | attributes _ | stream _ => exact hfree
    · exact h.cells p d hp hd
  bound := h.bound
  constants := h.constants

lemma IsFree.fresh (h : s.IsFree R) : s.fresh.IsFree R :=
  ⟨h.beyond, h.first, h.cells, h.bound, h.constants⟩

/-- What evaluations have in common is no part of values. -/
lemma IsFree.alter (h : s.IsFree R) (f : Commons → Commons) : (s.alter f).IsFree R :=
  ⟨h.beyond, h.first, h.cells, h.bound, h.constants⟩

/-- What is forgotten leaves the store free. -/
lemma IsFree.settled (h : s.IsFree R) {after : Store} (hafter : after.IsFree R) (count : Nat) :
    (s.settled count after).IsFree R := by
  unfold Store.settled
  split
  · exact h
  · exact ⟨hafter.beyond, hafter.first, hafter.cells, hafter.bound, h.constants⟩

end Store

instance : HoldsValues Memory := ⟨fun R m => FreeIn R m.store, fun m => freeIn_everything m.store⟩

/-! ## Data -/

mutual

/-- A datum of which no part is a future, and of which what stands in the store already is free. -/
def Datum.IsFree (R : Scope) : Datum → Prop
  | .held v => FreeIn R v
  | .list items | .tuple items | .set items => Datum.AreFree R items
  | .dict entries => Datum.EntriesFree R entries
  | .trusted _ d => d.IsFree R
  | .object attributes => Datum.AttributesFree R attributes
  | .token _ => True
  | .point x y => x.IsFree R ∧ y.IsFree R

/-- Several such data. -/
def Datum.AreFree (R : Scope) : List Datum → Prop
  | [] => True
  | d :: ds => d.IsFree R ∧ Datum.AreFree R ds

/-- Entries of such data. -/
def Datum.EntriesFree (R : Scope) : List (Datum × Datum) → Prop
  | [] => True
  | (k, d) :: entries => (k.IsFree R ∧ d.IsFree R) ∧ Datum.EntriesFree R entries

/-- Such data with names. -/
def Datum.AttributesFree (R : Scope) : List (String × Datum) → Prop
  | [] => True
  | (_, d) :: attributes => d.IsFree R ∧ Datum.AttributesFree R attributes

end

mutual

lemma Datum.isFree_everything : ∀ d : Datum, d.IsFree .everything
  | .held v => freeIn_everything v
  | .list items | .tuple items | .set items => Datum.areFree_everything items
  | .dict entries => Datum.entriesFree_everything entries
  | .trusted _ d => d.isFree_everything
  | .object attributes => Datum.attributesFree_everything attributes
  | .token _ => trivial
  | .point x y => ⟨x.isFree_everything, y.isFree_everything⟩
termination_by structural d => d

lemma Datum.areFree_everything : ∀ ds : List Datum, AreFree .everything ds
  | [] => trivial
  | d :: ds => ⟨d.isFree_everything, Datum.areFree_everything ds⟩
termination_by structural ds => ds

lemma Datum.entriesFree_everything : ∀ es : List (Datum × Datum), EntriesFree .everything es
  | [] => trivial
  | (k, d) :: es =>
    ⟨⟨k.isFree_everything, d.isFree_everything⟩, Datum.entriesFree_everything es⟩
termination_by structural es => es

lemma Datum.attributesFree_everything :
    ∀ es : List (String × Datum), AttributesFree .everything es
  | [] => trivial
  | (_, d) :: es => ⟨d.isFree_everything, Datum.attributesFree_everything es⟩
termination_by structural es => es

end

instance : HoldsValues Datum := ⟨Datum.IsFree, Datum.isFree_everything⟩

section Larger

variable {R R' : Region}

mutual

/-- A datum that is free in a region is free in a larger one. -/
lemma Datum.IsFree.mono (h : R ⊆ R') : ∀ {d : Datum}, d.IsFree R → d.IsFree R'
  | .held _, hd => Content.IsFree.mono h hd
  | .list _, hd | .tuple _, hd | .set _, hd => Datum.AreFree.mono h hd
  | .dict _, hd => Datum.EntriesFree.mono h hd
  | .trusted _ d, hd => Datum.IsFree.mono h (d := d) hd
  | .object _, hd => Datum.AttributesFree.mono h hd
  | .token _, _ => trivial
  | .point _ _, hd => ⟨hd.1.mono h, hd.2.mono h⟩
termination_by structural d => d

lemma Datum.AreFree.mono (h : R ⊆ R') : ∀ {ds : List Datum}, AreFree R ds → AreFree R' ds
  | [], _ => trivial
  | _ :: _, hds => ⟨hds.1.mono h, Datum.AreFree.mono h hds.2⟩
termination_by structural ds => ds

lemma Datum.EntriesFree.mono (h : R ⊆ R') :
    ∀ {es : List (Datum × Datum)}, EntriesFree R es → EntriesFree R' es
  | [], _ => trivial
  | (_, _) :: _, hes => ⟨⟨hes.1.1.mono h, hes.1.2.mono h⟩, Datum.EntriesFree.mono h hes.2⟩
termination_by structural es => es

lemma Datum.AttributesFree.mono (h : R ⊆ R') :
    ∀ {es : List (String × Datum)}, AttributesFree R es → AttributesFree R' es
  | [], _ => trivial
  | (_, _) :: _, hes => ⟨hes.1.mono h, Datum.AttributesFree.mono h hes.2⟩
termination_by structural es => es

end

end Larger

/-- A context of free names and values. -/
def Context.IsFree (R : Scope) : Context → Prop
  | .mapping names => FreeIn R names
  | .value v => FreeIn R v

instance : HoldsValues Context where
  FreeIn := Context.IsFree
  freeIn_everything
    | .mapping names => freeIn_everything names
    | .value v => freeIn_everything v

end Interpolation
