import Mathlib.Tactic.Lemma
import Interpolation.Template.Piece

/-!
# Leftmost markers

`cut?` searches from the left, and everything that the scanner finds comes out of it.  This file
says what it finds without speaking of a search: `LeftmostAfter m a` states that a marker that is
written behind the text `a` begins nowhere earlier than behind `a`, and cuts, pairs and divisions
are characterised by it.

* `cut?_eq_some_iff`, `cut?_eq_none_iff` — one marker.
* `cutPair?_eq_some_iff`, `cutPair?_eq_none_iff` — a start marker and the end marker behind it.
* **`divide_eq_iff`** — the division of a text by a pair of markers is the only one that writes the
  text and is leftmost everywhere.

An occurrence that begins inside of `a` may end inside of the marker that stands behind `a`, when
markers overlap with the text before them or with each other.  That is why `LeftmostAfter` looks at
`a ++ m` and not at `a` alone.
-/

namespace Interpolation

namespace Text

variable {m s a b : List Char}

/-! ## One marker -/

/-- The marker `m`, written behind `a`, does not begin before the end of `a`. -/
def LeftmostAfter (m a : List Char) : Prop := ∀ k < a.length, ¬ m <+: (a ++ m).drop k

lemma leftmostAfter_nil (m : List Char) : LeftmostAfter m [] := by
  intro k hk
  simp at hk

/-- One more character in front of the text is one more place where the marker must not begin. -/
lemma leftmostAfter_cons {c : Char} :
    LeftmostAfter m (c :: a) ↔ ¬ m <+: c :: (a ++ m) ∧ LeftmostAfter m a := by
  constructor
  · intro h
    refine ⟨h 0 (by simp), fun k hk => ?_⟩
    exact h (k + 1) (by simpa using hk)
  · rintro ⟨h₀, h⟩ k hk
    cases k with
    | zero => exact h₀
    | succ k => exact h k (by simpa using hk)

/-- A single character does not begin earlier than it occurs. -/
lemma leftmostAfter_singleton {c : Char} (h : c ∉ a) : LeftmostAfter [c] a := by
  intro k hk hbegins
  rw [List.drop_append_of_le_length (Nat.le_of_lt hk), List.drop_eq_getElem_cons hk,
    List.cons_append, List.cons_prefix_cons] at hbegins
  exact h (hbegins.1 ▸ List.getElem_mem hk)

lemma after?_eq_some_iff : after? m s = some b ↔ s = m ++ b := by
  constructor
  · exact after?_eq_some
  · rintro rfl
    induction m with
    | nil => simp [after?]
    | cons c m ih => simpa [after?] using ih

lemma after?_eq_none_iff : after? m s = none ↔ ¬ m <+: s := by
  rw [Option.eq_none_iff_forall_ne_some]
  simp only [ne_eq, after?_eq_some_iff, List.IsPrefix, not_exists]
  exact forall_congr' fun b => not_congr eq_comm

/-- Whether a marker begins a text is decided by as many characters as the marker has. -/
lemma isPrefix_append_iff {t u : List Char} (h : m.length ≤ t.length) :
    m <+: t ++ u ↔ m <+: t :=
  ⟨fun hm => List.prefix_of_prefix_length_le hm (List.prefix_append t u) h,
    fun hm => hm.trans (List.prefix_append t u)⟩

/-- **A cut is the leftmost one.**  The two sides of a cut make up the text with the marker between
them, and the marker does not begin earlier. -/
theorem cut?_eq_some_iff :
    cut? m s = some (a, b) ↔ s = a ++ m ++ b ∧ LeftmostAfter m a := by
  induction s generalizing a with
  | nil =>
    constructor
    · intro h
      have hs := cut?_eq_some h
      obtain ⟨rfl, rfl, rfl⟩ : a = [] ∧ m = [] ∧ b = [] := by simpa using hs.symm
      exact ⟨rfl, leftmostAfter_nil _⟩
    · rintro ⟨hs, -⟩
      obtain ⟨rfl, rfl, rfl⟩ : a = [] ∧ m = [] ∧ b = [] := by simpa using hs.symm
      simp [cut?, after?]
  | cons c s ih =>
    cases hr : after? m (c :: s) with
    | some rest =>
      have hs := after?_eq_some hr
      simp only [cut?, hr, Option.some.injEq, Prod.mk.injEq]
      constructor
      · rintro ⟨rfl, rfl⟩
        exact ⟨by simpa using hs, leftmostAfter_nil m⟩
      · rintro ⟨h, hl⟩
        cases a with
        | nil => exact ⟨rfl, List.append_cancel_left (hs.symm.trans (by simpa using h))⟩
        | cons d a =>
          -- the marker begins the whole text, so it begins before the end of a nonempty side
          have hm : m <+: (d :: a ++ m) ++ b := by
            rw [← h, hs]
            exact List.prefix_append m rest
          exact absurd ((isPrefix_append_iff (by simp; omega)).1 hm) (hl 0 (by simp))
    | none =>
      have hn := after?_eq_none_iff.1 hr
      simp only [cut?, hr, Option.map_eq_some_iff, Prod.mk.injEq]
      constructor
      · rintro ⟨⟨a', b'⟩, hcut, rfl, rfl⟩
        obtain ⟨rfl, hl⟩ := ih.1 hcut
        refine ⟨rfl, leftmostAfter_cons.2 ⟨fun hm => hn ?_, hl⟩⟩
        simpa using hm.trans (List.prefix_append _ b')
      · rintro ⟨h, hl⟩
        cases a with
        | nil => exact absurd (by simpa using ⟨b, h.symm⟩) hn
        | cons d a =>
          obtain ⟨rfl, rfl⟩ : c = d ∧ s = a ++ m ++ b := by simpa using h
          exact ⟨(a, b), ih.2 ⟨rfl, (leftmostAfter_cons.1 hl).2⟩, rfl, rfl⟩

/-- A text has no cut exactly when the marker does not occur in it. -/
theorem cut?_eq_none_iff : cut? m s = none ↔ ¬ m <:+: s := by
  constructor
  · rintro h ⟨a, b, rfl⟩
    induction a with
    | nil =>
      cases hs : m ++ b with
      | nil =>
        obtain ⟨rfl, rfl⟩ := List.append_eq_nil_iff.1 hs
        simp [cut?, after?] at h
      | cons c s =>
        have : after? m (c :: s) = some b := after?_eq_some_iff.2 hs.symm
        simp [hs, cut?, this] at h
    | cons c a ih =>
      simp only [List.cons_append, cut?] at h
      split at h
      · simp at h
      · exact ih (by simpa using h)
  · intro h
    rw [Option.eq_none_iff_forall_ne_some]
    rintro ⟨a, b⟩ hcut
    exact h ⟨a, b, (cut?_eq_some hcut).symm⟩

/-- What stands behind any occurrence of a marker also ends what stands behind the leftmost one. -/
lemma suffix_of_leftmostAfter {rest tail : List Char} (hl : LeftmostAfter m a)
    (h : a ++ m ++ rest = b ++ m ++ tail) : tail <:+ rest := by
  have hle : a.length ≤ b.length := by
    refine Nat.le_of_not_lt fun hlt => hl b.length hlt ?_
    have hm : m <+: (a ++ m).drop b.length ++ rest := by
      rw [← List.drop_append_of_le_length (by simp; omega), h, List.append_assoc, List.drop_left]
      exact List.prefix_append m tail
    exact (isPrefix_append_iff (by simp; omega)).1 hm
  have htail : tail <:+ a ++ m ++ rest := by
    rw [h]
    exact List.suffix_append _ tail
  refine List.suffix_of_suffix_length_le htail (List.suffix_append _ rest) ?_
  have := congrArg List.length h
  simp only [List.length_append] at this
  omega

end Text

open Text

variable {start stop : Marker} {text : List Char}

/-! ## A pair of markers -/

/-- **A pair is the leftmost one**: the start marker behind the chunk, and the first end marker
behind it. -/
theorem cutPair?_eq_some_iff {m : Marked} {after : List Char} :
    cutPair? start stop text = some (m, after) ↔
      text = m.chunk ++ start.chars ++ (m.source ++ stop.chars ++ after) ∧
        LeftmostAfter start.chars m.chunk ∧ LeftmostAfter stop.chars m.source := by
  obtain ⟨chunk, source⟩ := m
  simp only [cutPair?, Option.bind_eq_bind, Option.bind_eq_some_iff, Option.pure_def,
    Option.some.injEq, Prod.mk.injEq, Prod.exists, cut?_eq_some_iff, Marked.mk.injEq]
  constructor
  · rintro ⟨a, rest, ⟨htext, ha⟩, x, b, ⟨hrest, hx⟩, ⟨rfl, rfl⟩, rfl⟩
    exact ⟨by rw [htext, hrest], ha, hx⟩
  · rintro ⟨htext, ha, hx⟩
    exact ⟨chunk, _, ⟨htext, ha⟩, source, after, ⟨rfl, hx⟩, ⟨rfl, rfl⟩, rfl⟩

/-- The two markers occur in the text, the second one behind the first. -/
def HasPair (start stop : Marker) (text : List Char) : Prop :=
  ∃ a x b, text = a ++ start.chars ++ (x ++ stop.chars ++ b)

/-- No pair is found exactly when there is none at all, leftmost or not. -/
theorem cutPair?_eq_none_iff : cutPair? start stop text = none ↔ ¬ HasPair start stop text := by
  simp only [cutPair?, Option.bind_eq_bind, Option.bind_eq_none_iff, Option.pure_def, Prod.forall,
    reduceCtorEq, imp_false]
  constructor
  · rintro h ⟨a, x, b, htext⟩
    cases hcut : cut? start.chars text with
    | none => exact cut?_eq_none_iff.1 hcut ⟨a, x ++ stop.chars ++ b, htext.symm⟩
    | some sides =>
      obtain ⟨chunk, rest⟩ := sides
      obtain ⟨htext', hl⟩ := cut?_eq_some_iff.1 hcut
      -- the pair that is given lies behind the leftmost start marker with its end marker
      have hsuffix := suffix_of_leftmostAfter hl (htext'.symm.trans htext)
      refine cut?_eq_none_iff.1 (Option.eq_none_iff_forall_ne_some.2 ?_)
        (List.IsInfix.trans ⟨x, b, rfl⟩ hsuffix.isInfix)
      rintro ⟨source, after⟩ hstop
      exact h chunk rest hcut source after hstop
  · rintro h chunk rest hcut source after hstop
    refine h ⟨chunk, source, after, ?_⟩
    rw [cut?_eq_some hcut, cut?_eq_some hstop]

/-! ## Divisions -/

namespace Division

/-- The text of a division: chunks, each with its source between the markers behind it, and the
chunk at the end. -/
def write (start stop : Marker) (d : Division) : List Char :=
  d.marked.flatMap (fun m => m.chunk ++ start.chars ++ (m.source ++ stop.chars)) ++ d.last

/-- A division that is leftmost everywhere: the start marker begins no earlier than behind its
chunk, the end marker no earlier than behind its source, and the chunk at the end has no pair. -/
structure Leftmost (start stop : Marker) (d : Division) : Prop where
  chunks : ∀ m ∈ d.marked, LeftmostAfter start.chars m.chunk
  sources : ∀ m ∈ d.marked, LeftmostAfter stop.chars m.source
  last : ¬ HasPair start stop d.last

@[simp] lemma write_cons (m : Marked) (ms : List Marked) (last : List Char) :
    write start stop ⟨m :: ms, last⟩ =
      m.chunk ++ start.chars ++ (m.source ++ stop.chars ++ write start stop ⟨ms, last⟩) := by
  simp [write]

lemma leftmost_cons {m : Marked} {ms : List Marked} {last : List Char} :
    Leftmost start stop ⟨m :: ms, last⟩ ↔
      (LeftmostAfter start.chars m.chunk ∧ LeftmostAfter stop.chars m.source) ∧
        Leftmost start stop ⟨ms, last⟩ := by
  constructor
  · rintro ⟨hc, hs, hl⟩
    simp only [List.forall_mem_cons] at hc hs
    exact ⟨⟨hc.1, hs.1⟩, hc.2, hs.2, hl⟩
  · rintro ⟨⟨hc, hs⟩, h⟩
    exact ⟨List.forall_mem_cons.2 ⟨hc, h.chunks⟩, List.forall_mem_cons.2 ⟨hs, h.sources⟩, h.last⟩

end Division

lemma divide_of_none (h : cutPair? start stop text = none) :
    divide start stop text = ⟨[], text⟩ := by
  rw [divide]
  split
  · rfl
  · next h' => simp [h] at h'

lemma divide_of_some {m : Marked} {after : List Char}
    (h : cutPair? start stop text = some (m, after)) :
    divide start stop text =
      ⟨m :: (divide start stop after).marked, (divide start stop after).last⟩ := by
  rw [divide]
  split
  · next h' => simp [h] at h'
  · next h' =>
    obtain ⟨rfl, rfl⟩ : m = _ ∧ after = _ := by simpa [h] using h'
    rfl

/-- The division that is computed writes its text and is leftmost everywhere. -/
lemma divide_leftmost (start stop : Marker) (text : List Char) :
    (divide start stop text).Leftmost start stop ∧
      (divide start stop text).write start stop = text := by
  induction text using divide.induct start stop with
  | case1 text h =>
    rw [divide_of_none h]
    exact ⟨⟨by simp, by simp, cutPair?_eq_none_iff.1 h⟩, rfl⟩
  | case2 text m after h ih =>
    rw [divide_of_some h]
    obtain ⟨htext, hc, hs⟩ := cutPair?_eq_some_iff.1 h
    refine ⟨Division.leftmost_cons.2 ⟨⟨hc, hs⟩, ih.1⟩, ?_⟩
    rw [Division.write_cons, ih.2, htext]

/-- **Divisions are unique.**  The division of a text by a pair of markers is the one that writes
the text and is leftmost everywhere. -/
theorem divide_eq_iff {d : Division} :
    divide start stop text = d ↔ d.Leftmost start stop ∧ d.write start stop = text := by
  constructor
  · rintro rfl
    exact divide_leftmost start stop text
  · obtain ⟨marked, last⟩ := d
    -- on the pairs of the given division, each of which the scanner must find as the next one
    induction marked generalizing text with
    | nil =>
      rintro ⟨h, rfl⟩
      exact divide_of_none (cutPair?_eq_none_iff.2 h.last)
    | cons m ms ih =>
      rintro ⟨h, rfl⟩
      obtain ⟨⟨hc, hs⟩, hrest⟩ := Division.leftmost_cons.1 h
      rw [divide_of_some (cutPair?_eq_some_iff.2 ⟨Division.write_cons .., hc, hs⟩),
        ih ⟨hrest, rfl⟩]

end Interpolation
