import Interpolation.Proofs.Futures.Lookups
import Interpolation.Proofs.Paths.Basic

/-!
# What a step can read

Attributes and items are looked up in values of many kinds, but there are few ways in which a part
is found: it is computed from the value itself, or it is read from the one cell to which the value
refers.  `Value.Reads` lists these ways.  Whatever is to be known of a step is proved once for each
of them, and not for each kind of value.

* `Building.around` — a value with a cell of its own, in which another one stands.
* `Value.Reads` — the ways in which a part of a value is found.
* **`Value.reads_native?`**, **`Value.reads_item?`** — attributes and items are found in these ways.
-/

namespace Interpolation

/-- A value with a cell of its own, in which `w` stands. -/
def Building.around (make : Ref → Content) (w : Value) : Building Value := do
  return .ofContent (make (← addRow [w]))

/-- What can be looked up in a value: nothing, a part that is computed from it, a part with a cell of
its own, or what stands in the cell to which the value refers. -/
inductive Value.Reads (v : Value) : Eval (Option Value) → Prop
  | nothing : Reads v (pure Option.none)
  | part {w : Value} (h : w.PartOf v) : Reads v (pure (some w))
  | made {w : Value} (h : w.PartOf v) (make : Ref → Content)
    (hmake : ∀ R r, FreeIn R r → FreeIn R (make r))
    (hthere : ∀ r, (Value.ofContent (make r)).isMissing = false) :
    Reads v (do return some (← (Building.around make w : Building Value)))
  | field {r : Ref} (h : v.RefersTo r) (i : Nat) :
    Reads v (do return some (← (Look.itemAt r i : Look Value)))
  | placed {r : Ref} (h : v.RefersTo r) (key : Value) :
    Reads v (do return Value.placedItem? (← (Look.row r : Look _)) id key)
  | named {r : Ref} (h : v.RefersTo r) (name : String) :
    Reads v (do return attribute? name (← (Look.attributes r : Look _)))
  | course (r : Ref) (name : String) :
    Reads v (do return (Value.courseParts (← (Look.course r : Look _))).lookup name)
  | entry {r : Ref} (h : v.RefersTo r) (k : Key) :
    Reads v (do (lookup? k.value (← (Look.entries r : Look _)) : Look (Option Value)))

namespace Value

variable {v : Value}

/-! ## Attributes -/

lemma reads_fieldOf? {r : Ref} (h : v.RefersTo r) (fields : List String) (name : String) :
    v.Reads (fieldOf? r fields name : Look (Option Value)) := by
  rw [fieldOf?]
  split
  · next i _ => exact .field h i
  · exact .nothing

/-- A method of a part of a value. -/
lemma reads_method {w : Value} (h : w.PartOf v) (name : String) :
    v.Reads (do return some (← (Building.method w name : Building Value))) :=
  .made h (fun r => .method w.content.methodType r name) (fun _ _ hr => hr) fun _ => rfl

lemma reads_storedPart? (v : Value) (name : String) : v.Reads (v.storedPart? name) := by
  unfold storedPart?
  split
  · next r fields h => exact reads_fieldOf? (refersTo_of_fields? h) fields name
  · next r _ hv => exact .named (refersTo_of_content hv fun _ => id) name
  · next r _ hv => exact .named (refersTo_of_content hv fun _ => id) name
  · next t _ _ =>
    have htext : (Value.str t).IsAtom := ⟨fun _ => trivial, rfl⟩
    split
    · exact .made htext.partOf .tuple (fun _ _ hr => hr) fun _ => rfl
    · exact .nothing
  · next r _ hv => exact .course r name
  · exact .nothing

/-- **What an attribute of a value reads**, unless the value is missing. -/
theorem reads_native? (h : v.isMissing = false) (name : String) : v.Reads (v.native? name) := by
  unfold native?
  split
  · exact .part v.isAtom_typeOf.partOf
  · split
    · next hv => simp [isMissing, hv] at h
    · split
      · next w hw => exact .part (v.partOf_ownParts.lookup hw)
      · split
        · exact reads_method v.partOf_receiver name
        · exact reads_storedPart? v name

/-! ## Items -/

/-- The items of a text, of bytes or of a range have no parts. -/
lemma placedItem?_atom {α : Type} {items : Array α} {pack : α → Value} {key w : Value}
    (hpack : ∀ a, (pack a).IsAtom) (h : placedItem? items pack key = some w) : w.IsAtom := by
  unfold placedItem? at h
  split at h
  · obtain ⟨i, -, hi⟩ := Option.bind_eq_some_iff.1 h
    obtain ⟨a, -, rfl⟩ := Option.map_eq_some_iff.1 hi
    exact hpack a
  · cases h

/-- What is computed and has no parts if it is there. -/
lemma reads_of_atom {found : Option Value} (h : ∀ w, found = some w → w.IsAtom) :
    v.Reads (pure found) := by
  cases found with
  | none => exact .nothing
  | some w => exact .part (h w rfl).partOf

/-- **What an item of a value reads**, unless the value is missing. -/
theorem reads_item? (h : v.isMissing = false) (k : Key) : v.Reads (v.item? k.value) := by
  have hkey : ∀ r, k.content ≠ .slice r := by
    intro r
    cases k <;> exact nofun
  have hrequire : ∀ store, k.value.requireKey.run store = .ok () := by
    intro store
    cases k <;> rfl
  have hatom : k.value.IsAtom := by
    cases k <;> exact ⟨fun _ => trivial, rfl⟩
  have htext : ∀ c : Char, (Value.str (String.singleton c)).IsAtom := fun c =>
    ⟨fun _ => trivial, rfl⟩
  unfold item?
  split
  · next r hv =>
    simp only [hrequire]
    exact .entry (refersTo_of_content hv fun _ => id) k
  · next r hv =>
    simp only [hrequire]
    exact .entry (refersTo_of_content hv fun _ => id) k
  · next hv => simp [isMissing, hv] at h
  · next hv => simp [isMissing, hv] at h
  · next r _ hv => cases k <;> cases hv
  · exact .made hatom.partOf .generic (fun _ _ hr => hr) fun _ => rfl
  · next r hv _ _ _ _ _ => exact absurd hv (hkey r)
  · exact reads_of_atom fun w hw => placedItem?_atom htext hw
  · refine reads_of_atom fun w hw => placedItem?_atom (fun c => ?_) hw
    exact ⟨fun _ => trivial, rfl⟩
  · exact reads_of_atom fun w hw => placedItem?_atom htext hw
  · exact reads_of_atom fun w hw => placedItem?_atom (fun b => isAtom_int _) hw
  · next r hv _ => exact .placed (refersTo_of_content hv fun _ => id) _
  · next r hv _ => exact .placed (refersTo_of_content hv fun _ => id) _
  · refine reads_of_atom fun w hw => ?_
    obtain ⟨n, -, hn⟩ := Option.bind_eq_some_iff.1 hw
    obtain ⟨i, -, rfl⟩ := Option.map_eq_some_iff.1 hn
    exact isAtom_int _
  · exact .nothing

end Value

end Interpolation
