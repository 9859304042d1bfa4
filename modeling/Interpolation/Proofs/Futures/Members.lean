import Interpolation.Eval.Lookup
import Interpolation.Proofs.Futures.Walks

/-!
# Parts by type

Most attributes of a value come from its type: a table tells which names there are, and what stands
under a name is computed from the value alone.  What is computed in this way is an atom, the value
itself, or another view of the cell to which the value refers.  So it is no future, and is free
wherever the value is; nothing else of the tables is ever used.

* `Value.IsAtom` — a value that refers to nothing.
* `Value.PartOf` — a value that refers to nothing but what another one refers to.
* **`Value.partOf_ownParts`** — the parts that are computed from a value are parts of it.
* `Value.RefersTo` — the cell in which other parts of a value stand.
-/

namespace Interpolation

open Calendar

/-- A value that is no future, is not missing, and has no parts. -/
structure Value.IsAtom (w : Value) : Prop where
  /-- It is no future, and refers to nothing. -/
  free : ∀ R, FreeIn R w
  /-- It is not missing. -/
  there : w.isMissing = false

/-- A value that refers to nothing but what `v` refers to, and is there if `v` is. -/
structure Value.PartOf (w v : Value) : Prop where
  /-- It is free wherever `v` is. -/
  free : ∀ R, FreeIn R v → FreeIn R w
  /-- It is not missing unless `v` is. -/
  there : v.isMissing = false → w.isMissing = false

namespace Value

variable {v w : Value}

lemma PartOf.refl (v : Value) : v.PartOf v := ⟨fun _ h => h, fun h => h⟩

lemma IsAtom.partOf (h : w.IsAtom) : w.PartOf v := ⟨fun R _ => h.free R, fun _ => h.there⟩

/-! ## Atoms -/

lemma isAtom_none : Value.none.IsAtom := ⟨fun _ => trivial, rfl⟩

lemma isAtom_bool (b : Bool) : (Value.bool b).IsAtom := ⟨fun _ => trivial, rfl⟩

lemma isAtom_int (n : Int) : (Value.int n).IsAtom := ⟨fun _ => trivial, rfl⟩

lemma isAtom_float (x : Float) : (Value.float x).IsAtom := ⟨fun _ => trivial, rfl⟩

lemma isAtom_constant_str (s : String) : (Value.constant (.str s)).IsAtom :=
  ⟨fun _ => trivial, rfl⟩

lemma isAtom_duration (d : Duration) : (Value.ofContent (.duration d)).IsAtom :=
  ⟨fun _ => trivial, rfl⟩

lemma isAtom_date (d : Date) : (Value.ofContent (.date d)).IsAtom := ⟨fun _ => trivial, rfl⟩

lemma isAtom_datetime (d : Date) (c : Clock) : (Value.ofContent (.datetime d c)).IsAtom :=
  ⟨fun _ => trivial, rfl⟩

lemma isAtom_time (c : Clock) : (Value.ofContent (.time c)).IsAtom := ⟨fun _ => trivial, rfl⟩

lemma isAtom_zone (n : Int) : (Value.ofContent (.zone n)).IsAtom := ⟨fun _ => trivial, rfl⟩

lemma isAtom_category (c : Trust.Category) : (Value.ofContent (.category c)).IsAtom :=
  ⟨fun _ => trivial, rfl⟩

lemma isAtom_member (sort owner name : String) :
    (Value.ofContent (.member sort owner name)).IsAtom := ⟨fun _ => trivial, rfl⟩

/-- The type of a value. -/
lemma isAtom_typeOf (v : Value) : v.typeOf.IsAtom := by
  unfold typeOf
  split <;> exact ⟨fun _ => trivial, rfl⟩

/-! ## Tables of parts -/

/-- All values in a table are parts of `v`. -/
def PartsOf (v : Value) (parts : List (String × Value)) : Prop := ∀ p ∈ parts, p.2.PartOf v

namespace PartsOf

lemma nil : v.PartsOf [] := List.forall_mem_nil _

lemma cons {n : String} {parts : List (String × Value)} (h : w.PartOf v) (hs : v.PartsOf parts) :
    v.PartsOf ((n, w) :: parts) := List.forall_mem_cons.2 ⟨h, hs⟩

lemma append {parts more : List (String × Value)} (h : v.PartsOf parts) (hmore : v.PartsOf more) :
    v.PartsOf (parts ++ more) := List.forall_mem_append.2 ⟨h, hmore⟩

/-- A table of atoms. -/
lemma atoms {parts : List (String × Value)} (h : ∀ p ∈ parts, p.2.IsAtom) : v.PartsOf parts :=
  fun p hp => (h p hp).partOf

end PartsOf

/-- The parts of an integer are the integer itself or other integers. -/
lemma partsOf_integer (v : Value) (n : Int) : v.PartsOf (integerParts v n) := by
  have hparts : ∀ {w : Value}, w.PartOf v →
      v.PartsOf [("real", w), ("numerator", w), ("imag", .int 0), ("denominator", .int 1)] :=
    fun hw => .cons hw (.cons hw (.cons (isAtom_int 0).partOf (.cons (isAtom_int 1).partOf .nil)))
  unfold integerParts
  dsimp only
  split
  · exact hparts (.refl v)
  · exact hparts (isAtom_int n).partOf

lemma partsOf_bound {least greatest : Content} (hleast : (Value.ofContent least).IsAtom)
    (hgreatest : (Value.ofContent greatest).IsAtom) (d : Duration) :
    v.PartsOf (boundParts least greatest d) :=
  .cons hleast.partOf (.cons hgreatest.partOf (.cons (isAtom_duration d).partOf .nil))

lemma partsOf_date (d : Date) : v.PartsOf (dateNumbers d) :=
  .cons (isAtom_int _).partOf (.cons (isAtom_int _).partOf (.cons (isAtom_int _).partOf .nil))

lemma partsOf_clock (c : Clock) : v.PartsOf (clockNumbers c) := by
  refine .cons (isAtom_int _).partOf (.cons (isAtom_int _).partOf (.cons (isAtom_int _).partOf
    (.cons (isAtom_int _).partOf (.cons (isAtom_int _).partOf (.cons ?_ .nil)))))
  cases c.offset with
  | none => exact isAtom_none.partOf
  | some n => exact (isAtom_zone n).partOf

lemma partsOf_ofType (sort owner : String) (names : List String) :
    v.PartsOf (ofType sort owner names) :=
  .atoms (List.forall_mem_map.2 fun n _ => isAtom_member sort owner n)

lemma partsOf_type (g : Global) : v.PartsOf (typeParts g) := by
  unfold typeParts
  split
  · exact partsOf_ofType _ _ _
  · exact (partsOf_ofType _ _ _).append (partsOf_ofType _ _ _)
  · exact (partsOf_ofType _ _ _).append (partsOf_ofType _ _ _)
  · exact .nil

lemma partsOf_record (type : RecordType) : v.PartsOf (recordParts type) := by
  cases type with
  | group | week | digits => exact .nil
  | moment =>
    exact .cons isAtom_none.partOf (.cons isAtom_none.partOf (.cons (isAtom_int _).partOf
      (.cons (isAtom_int _).partOf (.cons (isAtom_int _).partOf .nil))))

lemma partsOf_course (c : Course) : v.PartsOf (courseParts c) := by
  refine .cons (isAtom_member _ _ _).partOf (.cons ?_ (.cons (isAtom_bool _).partOf
    (.cons (isAtom_bool _).partOf (.cons isAtom_none.partOf .nil))))
  cases c with
  | ended => exact isAtom_none.partOf
  | running | waiting _ _ | working _ _ | plain _ => exact (isAtom_member _ _ _).partOf

/-- **The parts that are computed from a value are parts of it.** -/
theorem partOf_ownParts (v : Value) : v.PartsOf v.ownParts := by
  unfold ownParts
  split
  · refine .cons (isAtom_constant_str _).partOf (.cons (isAtom_constant_str _).partOf ?_)
    exact .atoms (List.forall_mem_map.2 fun c _ => isAtom_category c)
  · exact .cons (isAtom_category _).partOf .nil
  · exact partsOf_integer v _
  · exact partsOf_integer v _
  · exact .cons (.refl v) (.cons (isAtom_float _).partOf .nil)
  · exact .cons (isAtom_float _).partOf (.cons (isAtom_float _).partOf .nil)
  · exact .cons (.refl v) (.cons (IsAtom.partOf ⟨fun _ => trivial, rfl⟩) .nil)
  · exact (partsOf_date _).append (partsOf_bound (isAtom_date _) (isAtom_date _) _)
  · exact ((partsOf_date _).append (partsOf_clock _)).append
      (partsOf_bound (isAtom_datetime _ _) (isAtom_datetime _ _) _)
  · exact (partsOf_clock _).append (partsOf_bound (isAtom_time _) (isAtom_time _) _)
  · refine .append (.cons (isAtom_int _).partOf (.cons (isAtom_int _).partOf
      (.cons (isAtom_int _).partOf .nil))) ?_
    exact partsOf_bound (isAtom_duration _) (isAtom_duration _) _
  · exact .cons (isAtom_zone _).partOf (.cons (isAtom_zone _).partOf
      (.cons (isAtom_zone _).partOf .nil))
  · exact .cons (isAtom_int _).partOf (.cons (isAtom_int _).partOf
      (.cons (isAtom_int _).partOf .nil))
  · cases v.record? with
    | none => exact .nil
    | some type => exact partsOf_record type
  · next kind r h =>
    exact .cons ⟨fun R hv => (freeIn_of_content h hv : FreeIn R r), fun _ => rfl⟩ .nil
  · exact partsOf_type _
  · exact partsOf_type .dict
  · exact .nil

/-- What is found in a table of parts is a part. -/
lemma PartsOf.lookup {parts : List (String × Value)} (h : v.PartsOf parts) {name : String}
    (hw : parts.lookup name = some w) : w.PartOf v := by
  obtain ⟨before, after, hparts, -⟩ := List.lookup_eq_some_iff.1 hw
  exact h (name, w) (by simp [hparts])

/-! ## Receivers and cells -/

/-- Methods are bound to a part of the value of which they are. -/
lemma partOf_receiver (v : Value) : v.receiver.PartOf v := by
  unfold receiver
  split
  · exact (isAtom_constant_str _).partOf
  · exact IsAtom.partOf ⟨fun _ => trivial, rfl⟩
  · exact .refl v

/-- The parts of the value stand at the reference. -/
def RefersTo (v : Value) (r : Ref) : Prop := ∀ R, FreeIn R v → FreeIn R r

lemma refersTo_of_content {c : Content} {r : Ref} (h : v.content = c)
    (hc : ∀ R, FreeIn R c → FreeIn R r) : v.RefersTo r := fun R hv => hc R (freeIn_of_content h hv)

/-- A value refers to the cell of its fields. -/
lemma refersTo_of_fields? {r : Ref} {names : List String} (h : v.fields? = some (r, names)) :
    v.RefersTo r := by
  unfold fields? at h
  split at h
  case h_7 s hv =>
    obtain ⟨type, -, htype⟩ := Option.map_eq_some_iff.1 h
    cases htype
    exact refersTo_of_content hv fun _ => id
  case h_8 => cases h
  all_goals
    next s hv =>
    cases h
    exact refersTo_of_content hv fun _ => id

end Value

end Interpolation
