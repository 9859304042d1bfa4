import Mathlib.Data.List.Basic
import Mathlib.Tactic.Lemma
import Interpolation.Yaml.Token

/-!
# Moving over a line

Reading moves a position over characters that are known in advance.  As long as there is no break
among them the position stays in its line, and its number grows by their number; that is all that the
search for a key needs to know, so columns are left out.

* `Position.Crosses` — a position moves over characters of one line.
* `Position.Passes` — a position moves over any characters.
-/

namespace Interpolation.Yaml.Position

variable {p q r : Position} {u v t : List Char}

/-! ## Moving over any characters -/

lemma rest_advance (p : Position) : p.advance.rest = p.rest.tail := by
  unfold advance
  split
  · next h => rw [h]; rfl
  · next h =>
    rw [h]
    split
    · rfl
    · split <;> rfl

lemma rest_advanceBy (p : Position) (n : Nat) : (p.advanceBy n).rest = p.rest.drop n := by
  induction n generalizing p with
  | zero => rfl
  | succ n ih => rw [advanceBy, ih, rest_advance, List.drop_tail]

/-! ## Moving over characters of one line -/

/-- A position moves over characters among which there is no break. -/
structure Crosses (p : Position) (u : List Char) (q : Position) : Prop where
  rest : p.rest = u ++ q.rest
  line : q.line = p.line
  index : q.index = p.index + u.length

namespace Crosses

lemma refl (p : Position) : p.Crosses [] p := ⟨rfl, rfl, rfl⟩

lemma trans (h : p.Crosses u q) (h' : q.Crosses v r) : p.Crosses (u ++ v) r where
  rest := by rw [h.rest, h'.rest, List.append_assoc]
  line := h'.line.trans h.line
  index := by rw [h'.index, h.index, List.length_append, Nat.add_assoc]

lemma advance {c : Char} (hrest : p.rest = c :: t) (hc : isBreak c = false) :
    p.Crosses [c] p.advance := by
  have hrest' : p.advance.rest = t := by rw [rest_advance, hrest]; rfl
  refine ⟨by rw [hrest, hrest']; rfl, ?_, ?_⟩ <;>
  · simp only [Position.advance, hrest, hc, Bool.false_eq_true, false_and, if_false]
    split <;> rfl

lemma advanceBy (hrest : p.rest = u ++ t) (hu : ∀ c ∈ u, isBreak c = false) :
    p.Crosses u (p.advanceBy u.length) := by
  induction u generalizing p with
  | nil => exact .refl p
  | cons c u ih =>
    have hfirst := advance hrest (hu c List.mem_cons_self)
    have hrest' : p.advance.rest = u ++ t := by rw [rest_advance, hrest]; rfl
    exact hfirst.trans (ih hrest' fun d hd => hu d (List.mem_cons_of_mem _ hd))

lemma rest_eq (h : p.Crosses u q) (hrest : p.rest = u ++ t) : q.rest = t :=
  List.append_cancel_left (h.rest.symm.trans hrest)

end Crosses

/-- A position moves over characters, and stays in its line if there is no break among them. -/
structure Passes (p : Position) (u : List Char) (q : Position) : Prop where
  rest : p.rest = u ++ q.rest
  crosses : (∀ c ∈ u, isBreak c = false) → p.Crosses u q

namespace Passes

lemma of_crosses (h : p.Crosses u q) : p.Passes u q := ⟨h.rest, fun _ => h⟩

lemma trans (h : p.Passes u q) (h' : q.Passes v r) : p.Passes (u ++ v) r where
  rest := by rw [h.rest, h'.rest, List.append_assoc]
  crosses hbreak := (h.crosses fun c hc => hbreak c (List.mem_append_left _ hc)).trans
    (h'.crosses fun c hc => hbreak c (List.mem_append_right _ hc))

lemma advance {c : Char} (hrest : p.rest = c :: t) : p.Passes [c] p.advance where
  rest := by rw [rest_advance, hrest]; rfl
  crosses hbreak := .advance hrest (hbreak c (List.mem_singleton_self c))

lemma rest_eq (h : p.Passes u q) (hrest : p.rest = u ++ t) : q.rest = t :=
  List.append_cancel_left (h.rest.symm.trans hrest)

end Passes

/-- The characters of one kind that come next are those up to the first one of another kind. -/
lemma takeWhile_append {keep : Char → Bool} (hu : ∀ c ∈ u, keep c = true)
    (ht : ∀ c ∈ t.head?, keep c = false) : (u ++ t).takeWhile keep = u := by
  rw [List.takeWhile_append_of_pos hu]
  cases t with
  | nil => simp
  | cons c t => rw [List.takeWhile_cons_of_neg (by simp [ht c rfl]), List.append_nil]

/-! ## Moving over blanks -/

/-- Spaces, and breaks of the usual kinds. -/
def AreGaps (u : List Char) : Prop := ∀ c ∈ u, c = ' ' ∨ c = '\n' ∨ c = '\r'

/-- What stands here is no blank. -/
def Begins (t : List Char) : Prop := ∀ c ∈ t.head?, isGap c = false ∧ isBreak c = false

/-- A line does not end at what is no break. -/
lemma lineBreak_of_not_isBreak (h : ∀ c ∈ p.rest.head?, isBreak c = false) :
    p.lineBreak = ([], p) := by
  unfold lineBreak
  split
  · next h' => exact absurd (h '\r' (by rw [h']; rfl)) (by decide)
  · next c rest hne hrest =>
    have hc := h c (by rw [hrest]; rfl)
    have hseparator : ¬(c = '\u2028' ∨ c = '\u2029') := by
      rintro (rfl | rfl) <;> exact absurd hc (by decide)
    rw [if_neg hseparator, if_neg (by simp [hc])]
  · rfl

lemma lineBreak_of_begins (h : Begins p.rest) : p.lineBreak = ([], p) :=
  lineBreak_of_not_isBreak fun c hc => (h c hc).2

/-- A break is passed, and perhaps one more character of it. -/
lemma lineBreak_of_gaps {c : Char} (hc : c = '\n' ∨ c = '\r') (hu : AreGaps u) (ht : Begins t)
    (hrest : p.rest = c :: (u ++ t)) :
    ∃ v q, p.lineBreak = (['\n'], q) ∧ q.rest = v ++ t ∧ AreGaps v ∧ v.length ≤ u.length := by
  unfold lineBreak
  split
  · next t' hrest' =>
    rw [hrest] at hrest'
    obtain ⟨-, hu'⟩ := List.cons.inj hrest'
    cases u with
    | nil => exact absurd (ht '\n' (by rw [List.nil_append] at hu'; rw [hu']; rfl)).2 (by decide)
    | cons d u =>
      refine ⟨u, p.advance.advance, rfl, ?_, fun c hc => hu c (List.mem_cons_of_mem _ hc),
        Nat.le_succ _⟩
      rw [rest_advance, rest_advance, hrest]
      rfl
  · next d rest hne hrest' =>
    rw [hrest'] at hrest
    obtain ⟨rfl, rfl⟩ := List.cons.inj hrest
    refine ⟨u, p.advance, ?_, by rw [rest_advance, hrest']; rfl, hu, Nat.le_refl _⟩
    have hbreak : isBreak d = true := by rcases hc with rfl | rfl <;> rfl
    have hseparator : ¬(d = '\u2028' ∨ d = '\u2029') := by rcases hc with rfl | rfl <;> decide
    rw [if_neg hseparator, if_pos hbreak]
  · next h => rw [h] at hrest; cases hrest

/-- Blanks are spaces up to the first break. -/
lemma AreGaps.exists_spaces (hu : AreGaps u) :
    ∃ spaces v, u = spaces ++ v ∧ (∀ c ∈ spaces, c = ' ') ∧
      (v = [] ∨ ∃ c w, v = c :: w ∧ (c = '\n' ∨ c = '\r')) := by
  induction u with
  | nil => exact ⟨[], [], rfl, List.forall_mem_nil _, .inl rfl⟩
  | cons c u ih =>
    obtain ⟨hc, htail⟩ := List.forall_mem_cons.1 hu
    obtain rfl | hc := hc
    · obtain ⟨spaces, v, rfl, hspaces, hv⟩ := ih htail
      exact ⟨' ' :: spaces, v, rfl, List.forall_mem_cons.2 ⟨rfl, hspaces⟩, hv⟩
    · exact ⟨[], c :: u, rfl, List.forall_mem_nil _, .inr ⟨c, u, rfl, hc⟩⟩

/-- Spaces are passed up to the next break. -/
lemma skipSpaces_gaps (hu : AreGaps u) (ht : Begins t) (hrest : p.rest = u ++ t) :
    ∃ spaces v, u = spaces ++ v ∧ p.Crosses spaces p.skipSpaces ∧
      p.takeWhile (· = ' ') = (spaces, p.skipSpaces) ∧
      (v = [] ∨ ∃ c w, v = c :: w ∧ (c = '\n' ∨ c = '\r')) := by
  obtain ⟨spaces, v, rfl, hspaces, hv⟩ := hu.exists_spaces
  have hnext : ∀ c ∈ (v ++ t).head?, decide (c = ' ') = false := by
    obtain rfl | ⟨c, w, rfl, hc⟩ := hv
    · intro c hc
      have := (ht c hc).1
      simp only [isGap, Bool.or_eq_false_iff] at this
      exact this.1
    · rintro d ⟨⟩
      rcases hc with rfl | rfl <;> rfl
  have htaken : p.rest.takeWhile (· = ' ') = spaces := by
    rw [hrest, List.append_assoc]
    exact takeWhile_append (fun c hc => decide_eq_true (hspaces c hc)) hnext
  have hskip : p.skipSpaces = p.advanceBy spaces.length := by
    rw [skipSpaces, advanceWhile, takeWhile, htaken]
  refine ⟨spaces, v, rfl, ?_, ?_, hv⟩
  · rw [hskip]
    refine .advanceBy (hrest.trans (List.append_assoc _ _ _)) fun c hc => ?_
    rw [hspaces c hc]
    rfl
  · rw [takeWhile, htaken, hskip]

end Interpolation.Yaml.Position
