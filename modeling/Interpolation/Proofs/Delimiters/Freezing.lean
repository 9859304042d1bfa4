import Interpolation.Proofs.Scan.Segments

/-!
# Markers are frozen by their first interpolator

Markers can be shared by several interpolators, and whoever holds them can try to change them at any
time.  They are therefore followed through runs in which all of this happens in any order: markers
are read, changed, and frozen, interpolators are built over them, and texts are compiled.

**Changes.**  Each outcome of a change is an equation of its own: `DelimiterState.set_absent`,
`DelimiterState.set_open`, `DelimiterState.set_frozen`.

**Runs.**  Building freezes, and nothing that is frozen changes (`SharedDelimiters.state_after`).
An interpolator therefore has the shared markers for as long as it exists
(`SharedDelimiters.Coherent.after`), although they were free to change until it was built.

* **`SharedDelimiters.frozen_once_built`** — the two together, and what they mean for compiles: a
  text is taken apart in one way only, by all interpolators and at all times.
-/

namespace Interpolation

open Text

/-! ## Changes of a marker -/

namespace Marker

lemma text_ne_empty (m : Marker) : m.text ≠ "" := fun h =>
  m.nonempty (by simpa [text] using congrArg String.toList h)

lemma ofString?_empty : ofString? "" = none := by decide

/-- Every text that is not empty is a marker. -/
lemma exists_ofString? {s : String} (h : s ≠ "") : ∃ m, ofString? s = some m ∧ m.text = s := by
  have hchars : s.toList ≠ [] := fun hnil => h (String.toList_eq_nil_iff.1 hnil)
  exact ⟨⟨s.toList, hchars⟩, dif_pos hchars, String.ofList_toList⟩

end Marker

namespace Delimiters

variable (d : Delimiters) (m : Marker)

@[simp]
lemma get_put_self (name : MarkerName) : (d.put m name).get name = m := by
  cases name <;> rfl

lemma get_put_of_ne {name other : MarkerName} (h : other ≠ name) :
    (d.put m name).get other = d.get other := by
  cases name <;> cases other <;> first | rfl | exact absurd rfl h

end Delimiters

namespace DelimiterState

variable {s : DelimiterState} {name : MarkerName} {value : String}

/-- Without a text, or with the empty one, nothing changes, frozen or not. -/
lemma set_absent {value : Option String} (h : value.getD "" = "") :
    s.set name value = (.ok (s.get name), s) := by
  have hnone : value.bind Marker.ofString? = none := by
    cases value with
    | none => rfl
    | some text =>
      rw [Option.getD_some] at h
      rw [h, Option.bind_some, Marker.ofString?_empty]
  rw [set, hnone]

/-- Before the markers are frozen, a change gives the marker the text and answers with it; the other
markers stay. -/
lemma set_open (hvalue : value ≠ "") (hs : s.frozen = false) :
    (s.set name (some value)).1 = .ok value ∧ (s.set name (some value)).2.get name = value ∧
      (∀ other, other ≠ name → (s.set name (some value)).2.get other = s.get other) ∧
      (s.set name (some value)).2.frozen = false := by
  obtain ⟨m, hm, rfl⟩ := Marker.exists_ofString? hvalue
  have hset : s.set name (some m.text) =
      (.ok m.text, { s with delimiters := s.delimiters.put m name }) := by
    rw [set, Option.bind_some, hm]
    simp only [hs, Bool.false_eq_true, if_false]
  rw [hset]
  refine ⟨rfl, ?_, fun other hother => ?_, hs⟩
  · rw [get, Delimiters.get_put_self]
  · rw [get, Delimiters.get_put_of_ne _ _ hother, get]

/-- Once the markers are frozen, a change is refused, and nothing changes. -/
lemma set_frozen (hvalue : value ≠ "") (hs : s.frozen = true) :
    s.set name (some value) = (.error ⟨name⟩, s) := by
  obtain ⟨m, hm, -⟩ := Marker.exists_ofString? hvalue
  rw [set, Option.bind_some, hm]
  simp only [hs, if_true]

end DelimiterState

/-! ## Runs -/

/-- Markers and the interpolators that were built over them. -/
structure SharedDelimiters where
  /-- The markers, and whether they can be changed. -/
  state : DelimiterState
  /-- The interpolators in the order in which they were built. -/
  built : List Interpolator

/-- What can be done with shared markers. -/
inductive DelimiterUse where
  | get (name : MarkerName)
  | set (name : MarkerName) (value : Option String)
  | freeze
  /-- Builds an interpolator. -/
  | build (engine : Engine) (policy : Policy)
  /-- Compiles with one of the interpolators. -/
  | compile (place : Nat) (request : CompileRequest)

/-- Whether the markers are frozen by a use. -/
def DelimiterUse.freezes : DelimiterUse → Bool
  | freeze | build .. => true
  | _ => false

namespace SharedDelimiters

/-- Markers over which no interpolator was built. -/
def new (d : Delimiters) : SharedDelimiters := ⟨⟨d, false⟩, []⟩

/-- Shared markers after a use. -/
def use (s : SharedDelimiters) : DelimiterUse → SharedDelimiters
  | .get _ => s
  | .set name value => { s with state := (s.state.set name value).2 }
  | .freeze => { s with state := s.state.freeze }
  | .build engine policy =>
    ⟨s.state.freeze, s.built ++ [⟨s.state.delimiters, engine, policy⟩]⟩
  | .compile place request =>
    { s with built := s.built.modify place fun i => (i.compile request).2.1 }

/-- Shared markers after some uses. -/
def after (s : SharedDelimiters) (uses : List DelimiterUse) : SharedDelimiters := uses.foldl use s

/-- The markers are those of all interpolators, and frozen as soon as there is one. -/
structure Coherent (s : SharedDelimiters) : Prop where
  frozen : s.built ≠ [] → s.state.frozen = true
  shared : ∀ i ∈ s.built, i.delimiters = s.state.delimiters

variable {s : SharedDelimiters}

lemma coherent_new (d : Delimiters) : (new d).Coherent :=
  ⟨fun h => absurd rfl h, List.forall_mem_nil _⟩

/-- What happens to a marker leaves the flag as it is. -/
lemma set_frozen_eq (state : DelimiterState) (name : MarkerName) (value : Option String) :
    (state.set name value).2.frozen = state.frozen := by
  rw [DelimiterState.set]
  split
  · rfl
  · split <;> rfl

/-- A frozen marker stays as it is, whatever it is changed to. -/
lemma set_snd_of_frozen {state : DelimiterState} (h : state.frozen = true) (name : MarkerName)
    (value : Option String) : (state.set name value).2 = state := by
  rw [DelimiterState.set]
  split
  · rfl
  · rw [if_pos h]

/-- Markers are frozen by building and by freezing, and by nothing else. -/
lemma frozen_use (u : DelimiterUse) :
    (s.use u).state.frozen = (s.state.frozen || u.freezes) := by
  cases u with
  | get | compile => exact (Bool.or_false _).symm
  | set name value => exact (set_frozen_eq s.state name value).trans (Bool.or_false _).symm
  | freeze | build => exact (Bool.or_true _).symm

lemma frozen_after (uses : List DelimiterUse) :
    (s.after uses).state.frozen = (s.state.frozen || uses.any DelimiterUse.freezes) := by
  induction uses generalizing s with
  | nil => exact (Bool.or_false _).symm
  | cons u uses ih =>
    rw [List.any_cons, ← Bool.or_assoc, ← frozen_use]
    exact ih

/-- Nothing changes markers that are frozen. -/
lemma state_use (h : s.state.frozen = true) (u : DelimiterUse) : (s.use u).state = s.state := by
  cases u with
  | get | compile => rfl
  | set name value => exact set_snd_of_frozen h name value
  | freeze | build => exact congrArg (DelimiterState.mk s.state.delimiters) h.symm

/-- So they are the same after any number of uses. -/
lemma state_after (h : s.state.frozen = true) (uses : List DelimiterUse) :
    (s.after uses).state = s.state := by
  induction uses generalizing s with
  | nil => rfl
  | cons u uses ih =>
    have hu := state_use h u
    exact (ih (hu ▸ h)).trans hu

/-- Each use keeps the markers and the interpolators together. -/
lemma Coherent.use (h : s.Coherent) (u : DelimiterUse) : (s.use u).Coherent := by
  cases u with
  | get name => exact h
  | set name value =>
    refine ⟨fun hbuilt => (set_frozen_eq ..).trans (h.frozen hbuilt), fun i hi => ?_⟩
    -- there is an interpolator, so the change is refused
    have hfrozen := h.frozen (List.ne_nil_of_mem hi)
    exact (h.shared i hi).trans (congrArg _ (set_snd_of_frozen hfrozen name value).symm)
  | freeze => exact ⟨fun _ => rfl, h.shared⟩
  | build engine policy =>
    refine ⟨fun _ => rfl, fun i hi => ?_⟩
    obtain hi | hi := List.mem_append.1 hi
    · exact h.shared i hi
    · rw [List.mem_singleton.1 hi]
      rfl
  | compile place request =>
    refine ⟨fun hbuilt => h.frozen (mt List.modify_eq_nil_iff.2 hbuilt), fun i hi => ?_⟩
    obtain ⟨n, hn⟩ := List.mem_iff_getElem?.1 hi
    obtain ⟨j, hj, rfl⟩ := Option.map_eq_some_iff.1 ((List.getElem?_modify ..).symm.trans hn)
    have hshared := h.shared j (List.mem_of_getElem? hj)
    split
    · exact (Interpolator.alike_compile request).1.trans hshared
    · exact hshared

/-- **Interpolators have the shared markers at all times.** -/
theorem Coherent.after (h : s.Coherent) (uses : List DelimiterUse) : (s.after uses).Coherent := by
  induction uses generalizing s with
  | nil => exact h
  | cons u uses ih => exact ih (h.use u)

end SharedDelimiters

/-- **Markers are frozen by their first interpolator.**  Whatever was done with markers before, and
with the interpolators over them:

No marker is empty.  A change without a text, or with the empty one, is answered with the present
text and changes nothing.  A change with a text gives the marker this text, and no other marker, as
long as the markers are not frozen; then it is refused, also if the text is the present one, and
changes nothing.

They are frozen exactly when they were frozen on their own or an interpolator was built, and then
they stay as they are whatever happens.

Each interpolator has the shared markers.  So all interpolators, at all times, take a text apart
into the same literals and the same sources, whenever it becomes a template. -/
theorem SharedDelimiters.frozen_once_built (d : Delimiters) (before : List DelimiterUse) :
    let s := (new d).after before
    (∀ name, s.state.get name ≠ "") ∧
    (∀ name (value : Option String), value.getD "" = "" →
      s.state.set name value = (.ok (s.state.get name), s.state)) ∧
    (∀ name value, value ≠ "" → s.state.frozen = false →
      (s.state.set name (some value)).1 = .ok value ∧
      (s.state.set name (some value)).2.get name = value ∧
      (∀ other, other ≠ name →
        (s.state.set name (some value)).2.get other = s.state.get other) ∧
      (s.state.set name (some value)).2.frozen = false) ∧
    (∀ name value, value ≠ "" → s.state.frozen = true →
      s.state.set name (some value) = (.error ⟨name⟩, s.state)) ∧
    s.state.frozen = before.any DelimiterUse.freezes ∧
    (∀ later, s.state.frozen = true → (s.after later).state = s.state) ∧
    (∀ i ∈ s.built, i.delimiters = s.state.delimiters) ∧
    ∀ later, ∀ i ∈ s.built, ∀ j ∈ (s.after later).built,
      ∀ (request request' : CompileRequest) (t t' : Template), request.text = request'.text →
        (i.compile request).1 = .ok (some t) → (j.compile request').1 = .ok (some t') →
        t.segments.map Segment.piece = t'.segments.map Segment.piece := by
  intro s
  have hs : s.Coherent := (coherent_new d).after before
  refine ⟨fun name => Marker.text_ne_empty _, fun name value => DelimiterState.set_absent,
    fun name value => DelimiterState.set_open, fun name value => DelimiterState.set_frozen,
    (frozen_after before).trans (Bool.false_or _), fun later h => state_after h later, hs.shared,
    fun later i hi j hj request request' t t' htext ht ht' => ?_⟩
  have hfrozen := hs.frozen (List.ne_nil_of_mem hi)
  rw [Interpolator.map_piece_segments ht, Interpolator.map_piece_segments ht', htext,
    hs.shared i hi, (hs.after later).shared j hj, state_after hfrozen later]

/-- A marker that is changed before two interpolators are built, and in vain between them. -/
theorem SharedDelimiters.frozen_once_built_twice :
    let before := [.set .primaryStart (some "<<"), .build (.new false false true) .standard]
    let later := [.set .primaryStart (some "["), .build (.new true true true) .standard]
    let request : CompileRequest := ⟨"a<<x\x7d\x7d", false, none⟩
    let s := (new .standard).after before
    s.state.set .primaryStart none = (.ok (s.state.get .primaryStart), s.state) ∧
    s.state.set .primaryStart (some "<<") = (.error ⟨.primaryStart⟩, s.state) ∧
    ((new .standard).state.set .primaryStart (some "<<")).1 = .ok "<<" ∧
    (s.after later).state = s.state ∧
    ∃ i ∈ s.built, ∃ j ∈ (s.after later).built, ∃ t t', (i.compile request).1 = .ok (some t) ∧
      (j.compile request).1 = .ok (some t') ∧
      t.segments.map Segment.piece = t'.segments.map Segment.piece := by
  intro before later request s
  obtain ⟨-, habsent, -, hrefused, hfrozen, hstays, -, hsplit⟩ := frozen_once_built .standard before
  obtain ⟨-, -, hopen, -⟩ := frozen_once_built .standard []
  replace hfrozen : s.state.frozen = true := hfrozen.trans rfl
  have hfirst : (s.built[0]?.bind (·.template? request)).isSome := by decide +kernel
  have hsecond : ((s.after later).built[1]?.bind (·.template? request)).isSome := by decide +kernel
  obtain ⟨t, ht⟩ := Option.isSome_iff_exists.1 hfirst
  obtain ⟨i, hi, ht⟩ := Option.bind_eq_some_iff.1 ht
  obtain ⟨t', ht'⟩ := Option.isSome_iff_exists.1 hsecond
  obtain ⟨j, hj, ht'⟩ := Option.bind_eq_some_iff.1 ht'
  replace hi := List.mem_of_getElem? hi
  replace hj := List.mem_of_getElem? hj
  replace ht := Interpolator.template?_eq_some_iff.1 ht
  replace ht' := Interpolator.template?_eq_some_iff.1 ht'
  exact ⟨habsent .primaryStart none rfl, hrefused .primaryStart "<<" (by decide) hfrozen,
    (hopen .primaryStart "<<" (by decide) rfl).1, hstays later hfrozen,
    i, hi, j, hj, t, t', ht, ht', hsplit later i hi j hj request request t t' rfl ht ht'⟩

end Interpolation
