import Interpolation.Proofs.Paths.Reading

/-!
# Steps on stores with other values

Values can be replaced by others wherever they stand in a store.  A step from a value to one of its
parts does not care: it finds the same place, and there what the part was replaced by.  This holds
as long as only futures are replaced, since no step reads a future, and as long as the values that
are found in the end are ordinary ones, so that nothing refuses to be looked at.

Keys are not replaced.  A key that is a text or an integer is compared with keys that may be
anything, but never with their parts, and so the comparison does not depend on the store.

* `Store.mapValues` — every value replaced, apart from keys, constants and what streams hold.
* `Value.Ordinary`, `Store.Ordinary` — values that are there and are no futures, in a region.
* **`Value.Reads.ends`** — what is read from an ordinary value, before and after a replacement.
-/

namespace Interpolation

/-! ## Keys -/

/-- A value that a mapping can have for a key, as far as comparing it goes: it does not refuse to be
compared, and is no number that signals. -/
structure Value.IsKey (v : Value) : Prop where
  comparable : ∀ m, v.content ≠ .missing .strict m
  quiet : v.content.isSignal = false

namespace Key

variable (k : Key) {a : Value}

lemma equalAtoms_eq (a : Value) : ∃ r : Except Fault Bool,
    Value.equalAtoms a k.value = liftM r ∧ (a.IsKey → ∃ b, r = .ok b) := by
  have hquiet : k.value.content.isSignal = false := by cases k <;> rfl
  have hpure : ∀ b : Bool, ∃ r : Except Fault Bool,
      (pure b : Look Bool) = liftM r ∧ (a.IsKey → ∃ b, r = .ok b) := fun b =>
    ⟨.ok b, rfl, fun _ => ⟨b, rfl⟩⟩
  rw [Value.equalAtoms, hquiet, Bool.or_false]
  split
  · cases hsignal : a.content.isSignal with
    | true => exact ⟨.error _, rfl, fun h => by rw [h.quiet] at hsignal; cases hsignal⟩
    | false => exact hpure _
  · split
    · exact hpure _
    · exact hpure _
    · exact hpure _
    · cases k with
      | text s => next hs => cases hs
      | whole n written =>
        simp only [value, Value.constant, content]
        cases a.content <;> exact hpure _

/-- A comparison with a key ends in the same way on every store. -/
lemma run_equal (a : Value) : ∃ r : Except Fault Bool,
    (∀ store, (Value.equal a k.value).run store = r) ∧ (a.IsKey → ∃ b, r = .ok b) := by
  by_cases hstrict : ∃ m, a.content = .missing .strict m
  · obtain ⟨m, hm⟩ := hstrict
    refine ⟨.error m.fault, fun store => ?_, fun h => absurd hm (h.comparable m)⟩
    rw [Value.equal, Value.comparedLevels, Value.equalTo, hm]
    rfl
  obtain ⟨r, hr, hok⟩ := k.equalAtoms_eq a
  have hkey : k.value.collection? = pure none := by cases k <;> rfl
  refine ⟨r, fun store => ?_, hok⟩
  rw [Value.equal, Value.comparedLevels, Value.equalTo]
  split
  case h_1 m hc => exact absurd ⟨m, hc⟩ hstrict
  case h_13 =>
    -- both are compared as they are, since a key is no collection
    rw [hkey, Value.collection?]
    split <;> rw [hr] <;> rfl
  -- a key is of no kind that is looked into
  case h_12 hk _ => cases k <;> cases hk
  all_goals
    next hk => cases k <;> cases hk

/-- A key suits another value, or does not, on every store. -/
lemma run_fits_eq (a : Value) (store store' : Store) :
    (Value.fits Value.equal a k.value).run store =
      (Value.fits Value.equal a k.value).run store' := by
  obtain ⟨r, hr, -⟩ := k.run_equal a
  simp only [Value.fits]
  split
  · rfl
  · rw [hr, hr]

/-- The first entry is looked at first. -/
lemma lookup?_cons (a v : Value) (entries : List (Value × Value)) :
    lookup? k.value ((a, v) :: entries) = (Value.fits Value.equal a k.value >>= fun b =>
      if b then pure (some v) else lookup? k.value entries) := rfl

/-- Looking for a key among keys finds the same on every store. -/
lemma run_lookup?_eq (entries : List (Value × Value)) (store store' : Store) :
    (lookup? k.value entries).run store = (lookup? k.value entries).run store' := by
  induction entries with
  | nil => rfl
  | cons e entries ih =>
    obtain ⟨a, v⟩ := e
    rw [k.lookup?_cons, ReaderT.run_bind, ReaderT.run_bind, k.run_fits_eq a store store']
    refine bind_congr fun b => ?_
    cases b with
    | true => rfl
    | false => exact ih

/-- Whether the key is the one of an entry. -/
def suits (k : Key) (a : Value) : Bool :=
  match (Value.fits Value.equal a k.value).run .empty with
  | .ok b => b
  | .error _ => false

lemma run_fits (h : a.IsKey) (store : Store) :
    (Value.fits Value.equal a k.value).run store = .ok (k.suits a) := by
  obtain ⟨r, hr, hok⟩ := k.run_equal a
  obtain ⟨b, rfl⟩ := hok h
  rw [suits]
  simp only [Value.fits]
  split
  · rfl
  · rw [hr, hr]

/-- Looking for a key among keys finds the first entry that it suits, on every store. -/
lemma run_lookup? {entries : List (Value × Value)} (h : ∀ e ∈ entries, e.1.IsKey) (store : Store) :
    (lookup? k.value entries).run store =
      .ok ((entries.find? fun e => k.suits e.1).map Prod.snd) := by
  induction entries with
  | nil => rfl
  | cons e entries ih =>
    obtain ⟨he, hentries⟩ := List.forall_mem_cons.1 h
    obtain ⟨a, v⟩ := e
    rw [k.lookup?_cons, ReaderT.run_bind, k.run_fits he, List.find?_cons]
    cases hsuits : k.suits a with
    | true => rfl
    | false => exact ih hentries

end Key

/-! ## Values in the place of others -/

/-- The cell with other values; keys stay, and so does what a stream holds. -/
def Cell.mapValues (f : Value → Value) : Cell → Cell
  | row items => .row (items.map f)
  | entries pairs => .entries (pairs.map fun e => (e.1, f e.2))
  | attributes named => .attributes (named.map fun a => (a.1, f a.2))
  | stream course => .stream course

namespace Store

/-- The store with other values in all cells, and for all names. -/
def mapValues (f : Value → Value) (s : Store) : Store :=
  { s with
    cells := s.cells.map (Cell.mapValues f)
    bound := s.bound.map fun b => (b.1, f b.2) }

variable {f : Value → Value} {s : Store} {r : Ref}

lemma cell?_mapValues : (s.mapValues f).cell? r = (s.cell? r).map (Cell.mapValues f) := by
  rw [cell?, cell?, mapValues, Array.getElem?_map]

lemma row_mapValues : (s.mapValues f).row r = (s.row r).map f := by
  rw [row, row, cell?_mapValues]
  rcases s.cell? r with _ | _ | _ | _ | _ <;> simp [Cell.mapValues]

lemma entries_mapValues :
    (s.mapValues f).entries r = (s.entries r).map fun e => (e.1, f e.2) := by
  rw [entries, entries, cell?_mapValues]
  rcases s.cell? r with _ | _ | _ | _ | _ <;> simp [Cell.mapValues]

lemma attributes_mapValues :
    (s.mapValues f).attributes r = (s.attributes r).map fun a => (a.1, f a.2) := by
  rw [attributes, attributes, cell?_mapValues]
  rcases s.cell? r with _ | _ | _ | _ | _ <;> simp [Cell.mapValues]

lemma course_mapValues : (s.mapValues f).course r = s.course r := by
  rw [course, course, cell?_mapValues]
  rcases s.cell? r with _ | _ | _ | _ | _ <;> rfl

lemma push_mapValues (c : Cell) :
    (s.mapValues f).push (c.mapValues f) = (s.push c).mapValues f := by
  simp [push, mapValues]

@[simp]
lemma mapValues_id (s : Store) : s.mapValues id = s := by
  have hcell : Cell.mapValues id = id := by
    funext c
    cases c <;> simp [Cell.mapValues]
  simp [mapValues, hcell]

end Store

/-! ## Ordinary values -/

/-- A value that is there and is no future, with its parts in the region. -/
structure Value.Ordinary (R : Region) (v : Value) : Prop where
  free : FreeIn R v
  there : v.isMissing = false

/-- A cell of ordinary values, with keys that a mapping can have.  No step looks into a stream. -/
def Cell.Ordinary (R : Region) : Cell → Prop
  | row items => ∀ v ∈ items, v.Ordinary R
  | entries pairs => ∀ e ∈ pairs, e.1.IsKey ∧ e.2.Ordinary R
  | attributes named => ∀ a ∈ named, a.2.Ordinary R
  | stream _ => True

/-- A store of which every cell of the region is one of ordinary values. -/
structure Store.Ordinary (R : Region) (s : Store) : Prop where
  /-- The places of cells to come belong to the region. -/
  beyond : ∀ p, s.cells.size ≤ p → p ∈ R
  /-- So does the place of the empty tuple. -/
  first : 0 ∈ R
  /-- The cells of the region are cells of ordinary values. -/
  cells : ∀ p c, p ∈ R → s.cells[p]? = some c → c.Ordinary R
  /-- The values of names are ordinary. -/
  bound : ∀ b ∈ s.bound, b.2.Ordinary R

variable {R : Region}

/-- A part of an ordinary value is ordinary. -/
lemma Value.PartOf.ordinary {v w : Value} (h : w.PartOf v) (hv : v.Ordinary R) : w.Ordinary R :=
  ⟨h.free R hv.free, h.there hv.there⟩

namespace Store.Ordinary

variable {s : Store} {r : Ref}

lemma row (h : s.Ordinary R) (hr : FreeIn R r) : ∀ v ∈ s.row r, v.Ordinary R := by
  rw [Store.row]
  split
  · next items hc => exact h.cells r.place _ hr hc
  · simp

lemma entries (h : s.Ordinary R) (hr : FreeIn R r) :
    ∀ e ∈ s.entries r, e.1.IsKey ∧ e.2.Ordinary R := by
  rw [Store.entries]
  split
  · next pairs hc => exact h.cells r.place _ hr hc
  · simp

lemma attributes (h : s.Ordinary R) (hr : FreeIn R r) :
    ∀ a ∈ s.attributes r, a.2.Ordinary R := by
  rw [Store.attributes]
  split
  · next named hc => exact h.cells r.place _ hr hc
  · simp

lemma push (h : s.Ordinary R) {c : Cell} (hc : c.Ordinary R) : (s.push c).Ordinary R where
  beyond p hp := by
    rw [Store.push, Array.size_push] at hp
    exact h.beyond p (Nat.le_of_succ_le hp)
  first := h.first
  cells p d hp hd := by
    rw [Store.push, Array.getElem?_push] at hd
    split at hd
    · cases hd
      exact hc
    · exact h.cells p d hp hd
  bound := h.bound

end Store.Ordinary

/-- The store in which only the empty tuple stands is one of ordinary values. -/
lemma Store.ordinary_empty : Store.empty.Ordinary Set.univ := by
  refine ⟨fun _ _ => trivial, trivial, fun q c _ hc => ?_, List.forall_mem_nil _⟩
  cases List.mem_singleton.1 (Array.mem_toList_iff.2 (Array.mem_of_getElem? hc))
  exact fun v hv => absurd hv (Array.not_mem_empty v)

/-! ## Steps -/

/-- Only futures are replaced. -/
def Replaces (f : Value → Value) : Prop := ∀ v, (∀ id, v.content ≠ .future id) → f v = v

lemma Replaces.of_id : Replaces id := fun _ _ => rfl

/-- What is free in a region is no future, so it stays. -/
lemma Replaces.eq {f : Value → Value} (hf : Replaces f) {v : Value} (hv : FreeIn R v) : f v = v :=
  hf v fun _ hid => freeIn_of_content hid hv

lemma Replaces.ordinary {f : Value → Value} (hf : Replaces f) {v : Value} (hv : v.Ordinary R) :
    (f v).Ordinary R := (hf.eq hv.free).symm ▸ hv

/-- A value with an ordinary one in its place is there. -/
lemma Replaces.there {f : Value → Value} (hf : Replaces f) {v : Value} (hv : (f v).Ordinary R) :
    v.isMissing = false := by
  by_contra hmissing
  have hstays : f v = v := hf v fun id hid => hmissing (by rw [Value.isMissing, hid])
  exact hmissing (hstays ▸ hv.there)

/-- An ordinary value is kept alike, whatever other values stand for. -/
lemma Building.run_keep_mapValues (f : Value → Value) (v : Value) (s : Store) :
    (keep v).run (s.mapValues f) =
      (((keep v).run s).1, ((keep v).run s).2.mapValues f) := by
  rw [keep]
  split
  · split <;> rfl
  · rfl

/-- Keeping a value leaves the cells alone. -/
lemma Building.cells_keep (v : Value) (s : Store) : ((keep v).run s).2.cells = s.cells := by
  rw [keep]
  split
  · split <;> rfl
  · rfl

lemma Store.Ordinary.keep {f : Value → Value} {s : Store} (h : (s.mapValues f).Ordinary R)
    (v : Value) : (((Building.keep v).run s).2.mapValues f).Ordinary R := by
  rw [Building.keep]
  split
  · split
    · exact h
    · exact ⟨h.beyond, h.first, h.cells, h.bound⟩
  · exact h

/-- A value is made around another one by a new cell, in which the other one stands. -/
lemma Building.run_around (make : Ref → Content) (w : Value) (s : Store) :
    (around make w).run s = (.ofContent (make ⟨((keep w).run s).2.cells.size⟩),
      ((keep w).run s).2.push (.row #[((keep w).run s).1])) := rfl

/-- The ends of a step: what is found on a store, and what is found where values were replaced. -/
structure Eval.Mirrored (R : Region) (f : Value → Value) (x : Eval (Option Value)) (s : Store)
    (found : Option Value) (s' : Store) : Prop where
  ends : x.Ends s (.ok found) s' []
  replaced : x.Ends (s.mapValues f) (.ok (found.map f)) (s'.mapValues f) []
  ordinary : ∀ w, found = some w → (f w).Ordinary R
  store : (s'.mapValues f).Ordinary R

namespace Eval.Mirrored

variable {f : Value → Value} {s : Store}

/-- A step that finds the same ordinary value everywhere. -/
lemma of_pure (hf : Replaces f) {found : Option Value}
    (hfound : ∀ w, found = some w → w.Ordinary R) (hs : (s.mapValues f).Ordinary R) :
    Mirrored R f (pure found) s found s where
  ends := .pure _ _
  replaced := by
    have hkept : found.map f = found := by
      cases found with
      | none => rfl
      | some w => exact congrArg some (hf.eq (hfound w rfl).free)
    rw [hkept]
    exact .pure _ _
  ordinary w hw := by
    rw [hf.eq (hfound w hw).free]
    exact hfound w hw
  store := hs

/-- A step that looks at the store, and finds in the mirrored one what takes the place of what it
finds. -/
lemma of_look {y : Look (Option Value)} {x : Eval (Option Value)} {found : Option Value}
    (hx : x = liftM y) (h : y.run s = .ok found)
    (h' : y.run (s.mapValues f) = .ok (found.map f))
    (hfound : ∀ w, found.map f = some w → w.Ordinary R) (hs : (s.mapValues f).Ordinary R) :
    Mirrored R f x s found s := by
  subst hx
  exact ⟨h ▸ .look y s, h' ▸ .look y _, fun w hw => hfound _ (hw ▸ rfl), hs⟩

end Eval.Mirrored

namespace Value.Reads

variable {f : Value → Value} {v : Value} {x : Eval (Option Value)} {s : Store}

lemma placedItem?_map (f : Value → Value) (items : Array Value) (key : Value) :
    placedItem? (items.map f) id key = (placedItem? items id key).map f := by
  rw [placedItem?, placedItem?, Array.size_map]
  cases key.int? with
  | none => rfl
  | some n =>
    show ((place? items.size n).bind fun i => ((items.map f)[i]?).map id) =
      ((place? items.size n).bind fun i => (items[i]?).map id).map f
    cases place? items.size n <;> simp

lemma mem_of_placedItem? {items : Array Value} {key w : Value}
    (h : placedItem? items id key = some w) : w ∈ items := by
  unfold placedItem? at h
  split at h
  · obtain ⟨i, -, hi⟩ := Option.bind_eq_some_iff.1 h
    obtain ⟨a, ha, rfl⟩ := Option.map_eq_some_iff.1 hi
    exact Array.mem_of_getElem? ha
  · cases h

/-- A name finds what takes the place of the value that it found first. -/
lemma lookup_mapValues (f : Value → Value) (name : String) (named : List (String × Value)) :
    (named.map fun a => (a.1, f a.2)).lookup name = (named.lookup name).map f := by
  induction named with
  | nil => rfl
  | cons a named ih =>
    rw [List.map_cons, List.lookup_cons, List.lookup_cons, ih]
    split <;> rfl

/-- A value that is made around an ordinary one: that is no future, so it stays. -/
lemma mirrored_around (hf : Replaces f) {w : Value} (hw : w.Ordinary R) {make : Ref → Content}
    (hmake : ∀ r, FreeIn R r → FreeIn R (make r))
    (hthere : ∀ r, (Value.ofContent (make r)).isMissing = false)
    (hs : (s.mapValues f).Ordinary R) :
    Eval.Mirrored R f (do return some (← (Building.around make w : Building Value))) s
      (some ((Building.around make w).run s).1) ((Building.around make w).run s).2 := by
  obtain ⟨kept, hkept⟩ : ∃ kept, ((Building.keep w).run s).1 = kept := ⟨_, rfl⟩
  have hcontent : kept.content = w.content := hkept ▸ Building.content_keep w s
  have hinner : kept.Ordinary R := by
    refine ⟨?_, ?_⟩
    · show FreeIn R kept.content
      rw [hcontent]
      exact hw.free
    · rw [isMissing, hcontent]
      exact hw.there
  have hcells := Building.cells_keep w s
  have hmade : FreeIn R ((Building.around make w).run s).1 := by
    have hplace : ((Building.keep w).run s).2.cells.size ∈ R := by
      refine hs.beyond _ ?_
      rw [Store.mapValues, Array.size_map, hcells]
    rw [Building.run_around]
    exact hmake _ hplace
  have hreplaced : (Building.around make w).run (s.mapValues f) =
      (((Building.around make w).run s).1, ((Building.around make w).run s).2.mapValues f) := by
    have hrow : (Cell.row #[kept]).mapValues f = .row #[kept] := by
      simp [Cell.mapValues, hf.eq hinner.free]
    rw [Building.run_around, Building.run_around, Building.run_keep_mapValues, hkept,
      ← Store.push_mapValues, hrow, Store.mapValues]
    simp
  have hstore := hs.keep w
  refine ⟨(Eval.Ends.build _ _).andThen (.pure _ _), ?_, ?_, ?_⟩
  · have hend := Eval.Ends.build (Building.around make w) (s.mapValues f)
    rw [hreplaced] at hend
    rw [Option.map_some, hf.eq hmade]
    exact hend.andThen (.pure _ _)
  · rintro m ⟨⟩
    rw [hf.eq hmade]
    exact ⟨hmade, hthere _⟩
  · have hrow : (Cell.row #[kept]).Ordinary R := by simpa [Cell.Ordinary] using hinner
    have hpush := hstore.push hrow
    rw [Building.run_around, hkept, ← Store.push_mapValues, Cell.mapValues]
    simpa [hf.eq hinner.free] using hpush

/-- **What is read from an ordinary value.**  A step ends, and so does the same step where values
were replaced; it finds there what takes the place of the value that it found first. -/
theorem ends (h : v.Reads x) (hf : Replaces f) (hv : v.Ordinary R)
    (hs : (s.mapValues f).Ordinary R) : ∃ found s', Eval.Mirrored R f x s found s' := by
  cases h with
  | nothing => exact ⟨_, _, .of_pure hf nofun hs⟩
  | @part w hw => exact ⟨_, _, .of_pure hf (fun _ h => Option.some.inj h ▸ hw.ordinary hv) hs⟩
  | @made w hw make hmake hthere =>
    exact ⟨_, _, mirrored_around hf (hw.ordinary hv) (hmake R) hthere hs⟩
  | @field r hr i =>
    have hitem : ((s.mapValues f).row r)[i]?.getD .none = f ((s.row r)[i]?.getD .none) := by
      rw [Store.row_mapValues, Array.getElem?_map]
      cases (s.row r)[i]? with
      | none => exact (hf .none nofun).symm
      | some w => rfl
    refine ⟨some ((s.row r)[i]?.getD .none), s, .of_look
      (y := do return some (← Look.itemAt r i)) rfl rfl ?_ ?_ hs⟩
    · rw [Option.map_some, ← hitem]
      rfl
    · rintro w ⟨⟩
      rw [← hitem]
      cases hget : ((s.mapValues f).row r)[i]? with
      | none => exact ⟨trivial, rfl⟩
      | some w => exact hs.row (hr R hv.free) w (Array.mem_of_getElem? hget)
  | @placed r hr key =>
    have hplaced := placedItem?_map f (s.row r) key
    rw [← Store.row_mapValues] at hplaced
    refine ⟨placedItem? (s.row r) id key, s, .of_look
      (y := do return placedItem? (← Look.row r) id key) rfl rfl ?_ ?_ hs⟩
    · rw [← hplaced]
      rfl
    · intro w hw
      rw [← hplaced] at hw
      exact hs.row (hr R hv.free) w (mem_of_placedItem? hw)
  | @named r hr name =>
    have hnamed : attribute? name ((s.mapValues f).attributes r) =
        (attribute? name (s.attributes r)).map f := by
      rw [Store.attributes_mapValues]
      exact lookup_mapValues f name _
    refine ⟨attribute? name (s.attributes r), s, .of_look
      (y := do return attribute? name (← Look.attributes r)) rfl rfl ?_ ?_ hs⟩
    · rw [← hnamed]
      rfl
    · intro w hw
      rw [← hnamed] at hw
      obtain ⟨before, after, hmem, -⟩ := List.lookup_eq_some_iff.1 hw
      exact hs.attributes (hr R hv.free) (name, w) (by simp [hmem])
  | course r name =>
    have hcourse : (s.mapValues f).course r = s.course r := Store.course_mapValues
    have hparts : ∀ w, (courseParts (s.course r)).lookup name = some w → w.Ordinary R :=
      fun w hw => ((partsOf_course _).lookup hw).ordinary hv
    have hkept : ((courseParts (s.course r)).lookup name).map f =
        (courseParts (s.course r)).lookup name := by
      cases hfound : (courseParts (s.course r)).lookup name with
      | none => rfl
      | some w => exact congrArg some (hf.eq (hparts w hfound).free)
    refine ⟨(courseParts (s.course r)).lookup name, s, .of_look
      (y := do return (courseParts (← Look.course r)).lookup name) rfl rfl ?_ ?_ hs⟩
    · rw [hkept, ← hcourse]
      rfl
    · rw [hkept]
      exact hparts
  | @entry r hr k =>
    have hentries := hs.entries (hr R hv.free)
    have hmap : ∀ e ∈ s.entries r, (e.1, f e.2) ∈ (s.mapValues f).entries r := fun e he => by
      rw [Store.entries_mapValues]
      exact List.mem_map_of_mem he
    have hfind : ((s.mapValues f).entries r).find? (fun e => k.suits e.1) =
        ((s.entries r).find? fun e => k.suits e.1).map fun e => (e.1, f e.2) := by
      rw [Store.entries_mapValues, List.find?_map]
      rfl
    refine ⟨((s.entries r).find? fun e => k.suits e.1).map Prod.snd, s, .of_look
      (y := do lookup? k.value (← Look.entries r)) rfl ?_ ?_ ?_ hs⟩
    · exact k.run_lookup? (fun e he => (hentries _ (hmap e he)).1) s
    · have hrun := k.run_lookup? (fun e he => (hentries e he).1) (s.mapValues f)
      rw [hfind, Option.map_map] at hrun
      rw [Option.map_map]
      exact hrun
    · intro w hw
      rw [Option.map_map] at hw
      obtain ⟨e, he, rfl⟩ := Option.map_eq_some_iff.1 hw
      exact (hentries _ (hmap e (List.mem_of_find?_eq_some he))).2

end Value.Reads

end Interpolation
