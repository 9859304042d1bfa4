import Mathlib.Tactic.Lemma
import Interpolation.Eval.Memory

/-!
# Computations that only add cells

Most computations do nothing to a store besides adding cells to it: they give no name a value, change
no future and draw no number.  This holds of loading a datum in particular.

* `Building.AddsOnly` — a computation that only adds cells.
* `Datum.addsOnly_load` — loading a datum is one.
-/

namespace Interpolation

namespace Building

variable {α β : Type}

/-- A computation that may add cells, but gives no name a value, and leaves alone what all
evaluations have in common. -/
structure AddsOnly (x : Building α) : Prop where
  bound : ∀ s, (x.run s).2.bound = s.bound
  commons : ∀ s, (x.run s).2.commons = s.commons

lemma addsOnly_pure (a : α) : (pure a : Building α).AddsOnly := ⟨fun _ => rfl, fun _ => rfl⟩

lemma AddsOnly.bind {x : Building α} {f : α → Building β} (hx : x.AddsOnly)
    (hf : ∀ a, (f a).AddsOnly) : (x >>= f).AddsOnly :=
  ⟨fun s => ((hf (x.run s).1).bound (x.run s).2).trans (hx.bound s),
    fun s => ((hf (x.run s).1).commons (x.run s).2).trans (hx.commons s)⟩

lemma AddsOnly.map {x : Building α} (f : α → β) (hx : x.AddsOnly) :
    (x >>= fun a => pure (f a)).AddsOnly := hx.bind fun a => addsOnly_pure (f a)

lemma addsOnly_mapM {f : α → Building β} (hf : ∀ a, (f a).AddsOnly) (xs : List α) :
    (xs.mapM f).AddsOnly := by
  induction xs with
  | nil => exact addsOnly_pure []
  | cons a xs ih =>
    rw [List.mapM_cons]
    exact (hf a).bind fun b => ih.map (b :: ·)

lemma addsOnly_keep (v : Value) : (keep v).AddsOnly := by
  rw [keep]
  split
  · split
    · exact addsOnly_pure v
    · exact ⟨fun _ => rfl, fun _ => rfl⟩
  · exact addsOnly_pure v

lemma addsOnly_add (c : Cell) : (add c).AddsOnly := ⟨fun _ => rfl, fun _ => rfl⟩

lemma addsOnly_addRow (items : List Value) : (addRow items).AddsOnly :=
  (addsOnly_mapM addsOnly_keep items).bind fun _ => addsOnly_add _

lemma addsOnly_addEntries (entries : List (Value × Value)) :
    (addEntries entries).AddsOnly := by
  refine (addsOnly_mapM ?_ entries).bind fun _ => addsOnly_add _
  exact fun (k, v) => (addsOnly_keep k).bind fun k => (addsOnly_keep v).map (k, ·)

lemma addsOnly_addAttributes (named : List (String × Value)) :
    (addAttributes named).AddsOnly := by
  refine (addsOnly_mapM ?_ named).bind fun _ => addsOnly_add _
  exact fun (n, v) => (addsOnly_keep v).map (n, ·)

lemma addsOnly_tuple (items : List Value) : (tuple items).AddsOnly := by
  rw [tuple]
  split
  · exact addsOnly_pure _
  · exact (addsOnly_addRow items).map _

lemma addsOnly_mapping (entries : List (Value × Value)) : (mapping entries).AddsOnly := by
  have hdict : ∀ entries, (dict entries).AddsOnly := fun entries =>
    (addsOnly_addEntries entries).map _
  refine AddsOnly.bind ⟨fun _ => rfl, fun _ => rfl⟩ fun s => ?_
  split <;> exact hdict _

end Building

namespace Datum

open Building

mutual

/-- Loading a datum only adds cells. -/
lemma addsOnly_load : ∀ d : Datum, d.load.AddsOnly
  | .held v => addsOnly_keep v
  | .list items | .set items => (addsOnly_loadAll items).bind fun vs =>
      (addsOnly_addRow vs).map _
  | .tuple items => (addsOnly_loadAll items).bind addsOnly_tuple
  | .dict entries => (addsOnly_loadEntries entries).bind addsOnly_mapping
  | .trusted _ d => (addsOnly_load d).bind fun v => (addsOnly_addRow [v]).map _
  | .object attributes => (addsOnly_loadAttributes attributes).bind fun vs =>
      (addsOnly_addAttributes vs).map _
  | .token _ => (addsOnly_addRow _).map _
  | .point x y => (addsOnly_load x).bind fun v => (addsOnly_load y).bind fun w =>
      (addsOnly_addRow [v, w]).map _
termination_by structural d => d

lemma addsOnly_loadAll : ∀ ds : List Datum, (loadAll ds).AddsOnly
  | [] => addsOnly_pure []
  | d :: ds => (addsOnly_load d).bind fun _ =>
      (addsOnly_loadAll ds).map _
termination_by structural ds => ds

lemma addsOnly_loadEntries : ∀ es : List (Datum × Datum), (loadEntries es).AddsOnly
  | [] => addsOnly_pure []
  | (k, d) :: es => (addsOnly_load k).bind fun _ => (addsOnly_load d).bind fun _ =>
      (addsOnly_loadEntries es).map _
termination_by structural es => es

lemma addsOnly_loadAttributes : ∀ es : List (String × Datum), (loadAttributes es).AddsOnly
  | [] => addsOnly_pure []
  | (_, d) :: es => (addsOnly_load d).bind fun _ =>
      (addsOnly_loadAttributes es).map _
termination_by structural es => es

end

end Datum

end Interpolation
