import Interpolation.Proofs.Delimiters.Freezing
import Interpolation.Proofs.Session.Isolation

/-!
# The markers of a session

A session holds markers of its own, and its interpolator has a copy of them that is taken when the
interpolator is made.  Only the session's markers are ever changed, so it has to be shown that the
copy never goes out of date.  A session is looked at as shared markers with at most one interpolator
over them, and making the interpolator is one of the uses of shared markers.

* `Session.shared` — the markers of a session with its interpolator.
* `Session.coherent_step` — no step of a session takes them apart.
* **`Session.delimiters_of_made`** — in any run the interpolator has the markers of the session, and
  they are frozen from the moment it exists.
-/

namespace Interpolation

namespace Session

/-- The markers of a session, with the interpolator if it is made. -/
def shared (s : Session) : SharedDelimiters := ⟨s.delimiters, s.made.toList⟩

variable {s : Session} {i j : Interpolator}

/-- Making the interpolator is a use of the markers. -/
lemma shared_interpolator (h : s.made = none) :
    s.interpolator.2.shared = s.shared.use (.build s.config.engine s.config.trust) := by
  have hinterpolator : s.interpolator.2 =
      { s with
        made := some (s.config.interpolatorWith s.delimiters.delimiters)
        delimiters := s.delimiters.freeze } := by rw [interpolator, h]
  rw [hinterpolator, shared, shared, h]
  rfl

/-- Whoever asks for the interpolator gets the one of the session, and the markers still fit. -/
lemma coherent_interpolator (h : s.shared.Coherent) :
    s.interpolator.2.made = some s.interpolator.1 ∧ s.interpolator.2.shared.Coherent := by
  cases hmade : s.made with
  | none =>
    rw [shared_interpolator hmade, interpolator, hmade]
    exact ⟨rfl, h.use _⟩
  | some i => exact ⟨by rw [interpolator_of_made hmade, hmade], by rwa [interpolator_of_made hmade]⟩

/-- An interpolator can take the place of one with the same markers. -/
lemma coherent_put (h : s.shared.Coherent) (hi : s.made = some i)
    (hj : j.delimiters = i.delimiters) : (s.put j).shared.Coherent := by
  have hmem : i ∈ s.shared.built := by simp [shared, hi]
  refine ⟨fun _ => h.frozen (List.ne_nil_of_mem hmem), fun k hk => ?_⟩
  obtain rfl : j = k := by simpa [shared, put, eq_comm] using hk
  exact hj.trans (h.shared i hmem)

/-- A step keeps the markers and the interpolator together. -/
lemma coherent_step (h : s.shared.Coherent) (st : Step) : (s.step st).2.1.shared.Coherent := by
  obtain ⟨hmade, hmaking⟩ := coherent_interpolator h
  cases st with
  | getMarker _ | isFrozen | showTemplate _ | compare _ _ | expressions _ | faults | clear
  | makeFuture _ _ => exact h
  | setMarker name value => exact h.use (.set name value)
  | freeze => exact h.use .freeze
  | markers | getDefault _ => exact hmaking
  | compile id request =>
    have hput := coherent_put hmaking hmade (Interpolator.alike_compile request).1
    simp only [step, compile]
    rcases (s.interpolator.1.compile request).1 with f | _ | t <;> exact hput
  | render id context =>
    simp only [step, render]
    split <;> exact h
  | setDefault name value =>
    simp only [step, quiet]
    split
    · exact hmaking
    · exact coherent_put hmaking hmade rfl
  | sameEnvironment first second => exact coherent_put hmaking hmade rfl
  | allow entry => exact coherent_put hmaking hmade rfl
  | settle name progress =>
    simp only [step, quiet, settle]
    split
    · exact h
    · split <;> exact h

/-- So does a run. -/
lemma coherent_after (h : s.shared.Coherent) (steps : List Step) :
    (s.after steps).shared.Coherent := by
  induction steps generalizing s with
  | nil => exact h
  | cons st steps ih => exact ih (coherent_step h st)

/-- **The interpolator of a session has the session's markers**, whatever was done in the session,
and they are frozen from the moment it exists. -/
theorem delimiters_of_made (config : Config) (sink : Sink) (futures : Futures)
    (names : List (String × FutureId)) (store : Store) (steps : List Step)
    (hmade : ((start config sink futures names store).after steps).made = some i) :
    i.delimiters = ((start config sink futures names store).after steps).delimiters.delimiters ∧
      ((start config sink futures names store).after steps).delimiters.frozen = true := by
  have hstart : (start config sink futures names store).shared.Coherent :=
    SharedDelimiters.coherent_new config.delimiters
  have hafter := coherent_after hstart steps
  have hmem : i ∈ ((start config sink futures names store).after steps).shared.built := by
    simp [shared, hmade]
  exact ⟨hafter.shared i hmem, hafter.frozen (List.ne_nil_of_mem hmem)⟩

end Session

end Interpolation
