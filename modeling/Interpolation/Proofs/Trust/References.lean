import Mathlib.Tactic.Lemma
import Interpolation.Text.Escape

/-!
# References in escaped text

Escaping is no loss: `readReferences` reads the five references back, and the escaped text of a text
is read as this text, whatever looks like a reference in it.  The reason is that an ampersand of the
text never stays one, so that every ampersand of the escaped text begins a reference that escaping
put there.

* `not_mem_escapeHtmlChars` — the characters that have a meaning in markup are gone.
* `reference_of_ampersand` — an ampersand stands nowhere but at the beginning of a reference.
* **`readReferences_escapeHtmlChars`** — reading undoes escaping.
-/

namespace Interpolation.Text

/-- The characters that escaping writes as references. -/
def htmlSpecials : List Char := ['&', '<', '>', '\'', '"']

/-- The five references. -/
def htmlReferences : List (List Char) := htmlSpecials.map htmlReference

/-- The text with the five references read as their characters. -/
def readReferences : List Char → List Char
  | '&' :: 'a' :: 'm' :: 'p' :: ';' :: s => '&' :: readReferences s
  | '&' :: 'l' :: 't' :: ';' :: s => '<' :: readReferences s
  | '&' :: 'g' :: 't' :: ';' :: s => '>' :: readReferences s
  | '&' :: '#' :: '3' :: '9' :: ';' :: s => '\'' :: readReferences s
  | '&' :: '#' :: '3' :: '4' :: ';' :: s => '"' :: readReferences s
  | c :: s => c :: readReferences s
  | [] => []

lemma escapeHtmlChars_cons (c : Char) (s : List Char) :
    escapeHtmlChars (c :: s) = htmlReference c ++ escapeHtmlChars s := rfl

/-- A character without a meaning in markup stays as it is. -/
lemma htmlReference_of_not_mem {c : Char} (h : c ∉ htmlSpecials) : htmlReference c = [c] := by
  simp only [htmlSpecials, List.mem_cons, List.not_mem_nil, or_false, not_or] at h
  rw [htmlReference] <;> simp [h]

/-- A reference has its ampersand in front and no other one. -/
lemma htmlReference_of_mem {c : Char} (h : c ∈ htmlSpecials) :
    ∃ name, htmlReference c = '&' :: name ∧ ∀ d ∈ htmlSpecials, d ∉ name := by
  simp only [htmlSpecials, List.mem_cons, List.not_mem_nil, or_false] at h
  obtain rfl | rfl | rfl | rfl | rfl := h
  · exact ⟨['a', 'm', 'p', ';'], rfl, by simp [htmlSpecials]⟩
  · exact ⟨['l', 't', ';'], rfl, by simp [htmlSpecials]⟩
  · exact ⟨['g', 't', ';'], rfl, by simp [htmlSpecials]⟩
  · exact ⟨['#', '3', '9', ';'], rfl, by simp [htmlSpecials]⟩
  · exact ⟨['#', '3', '4', ';'], rfl, by simp [htmlSpecials]⟩

/-! ## Reading references back -/

/-- Only an ampersand can begin a reference. -/
lemma readReferences_cons {c : Char} (h : c ≠ '&') (s : List Char) :
    readReferences (c :: s) = c :: readReferences s := by
  rw [readReferences] <;> simp [h]

lemma readReferences_htmlReference (c : Char) (s : List Char) :
    readReferences (htmlReference c ++ s) = c :: readReferences s := by
  by_cases hc : c ∈ htmlSpecials
  · simp only [htmlSpecials, List.mem_cons, List.not_mem_nil, or_false] at hc
    obtain rfl | rfl | rfl | rfl | rfl := hc <;> rfl
  · rw [htmlReference_of_not_mem hc]
    have hne : c ≠ '&' := by
      rintro rfl
      exact hc (by decide)
    exact readReferences_cons hne s

/-- **Reading undoes escaping.** -/
theorem readReferences_escapeHtmlChars (s : List Char) : readReferences (escapeHtmlChars s) = s := by
  induction s with
  | nil => rfl
  | cons c s ih => rw [escapeHtmlChars_cons, readReferences_htmlReference, ih]

/-- The text with the five references read as their characters. -/
def unescapeReferences (s : String) : String := String.ofList (readReferences s.toList)

lemma unescapeReferences_escapeHtml (s : String) : unescapeReferences (escapeHtml s) = s := by
  simp [unescapeReferences, escapeHtml, readReferences_escapeHtmlChars]

/-! ## What is left of the five characters -/

/-- Of the five characters only the ampersand is left. -/
lemma not_mem_escapeHtmlChars {c : Char} (hc : c ∈ htmlSpecials) (hne : c ≠ '&') (s : List Char) :
    c ∉ escapeHtmlChars s := by
  rw [escapeHtmlChars, List.mem_flatMap]
  rintro ⟨d, -, hd⟩
  by_cases hspecial : d ∈ htmlSpecials
  · obtain ⟨name, heq, hname⟩ := htmlReference_of_mem hspecial
    rw [heq, List.mem_cons] at hd
    exact hd.elim hne (hname c hc)
  · rw [htmlReference_of_not_mem hspecial, List.mem_singleton] at hd
    exact hspecial (hd ▸ hc)

/-- An ampersand in what a character is escaped to is the first of all, in front of a whole
reference. -/
lemma mem_htmlReferences_of_suffix {c : Char} {rest : List Char}
    (h : '&' :: rest <:+ htmlReference c) : '&' :: rest ∈ htmlReferences := by
  by_cases hc : c ∈ htmlSpecials
  · obtain ⟨name, heq, hname⟩ := htmlReference_of_mem hc
    rw [heq, List.suffix_cons_iff] at h
    obtain h | h := h
    · rw [h, ← heq]
      exact List.mem_map_of_mem hc
    · exact absurd (h.subset List.mem_cons_self) (hname '&' (by decide))
  · rw [htmlReference_of_not_mem hc] at h
    have hmem := h.subset List.mem_cons_self
    rw [List.mem_singleton] at hmem
    exact absurd (hmem ▸ by decide) hc

/-- **An ampersand of an escaped text begins a reference.** -/
theorem reference_of_ampersand {s rest : List Char} (h : '&' :: rest <:+ escapeHtmlChars s) :
    ∃ r ∈ htmlReferences, r <+: '&' :: rest := by
  induction s with
  | nil => simp [escapeHtmlChars] at h
  | cons c s ih =>
    rw [escapeHtmlChars_cons] at h
    obtain ⟨before, heq⟩ := h
    -- the ampersand stands in what `c` is escaped to, or behind it
    obtain ⟨middle, hc, hrest⟩ | ⟨middle, hc, hrest⟩ := List.append_eq_append_iff.1 heq
    · cases middle with
      | nil => exact ih ⟨[], hrest⟩
      | cons d middle =>
        obtain ⟨rfl, rfl⟩ := List.cons.inj hrest
        exact ⟨'&' :: middle, mem_htmlReferences_of_suffix ⟨before, hc.symm⟩,
          List.prefix_append _ _⟩
    · exact ih ⟨middle, hrest.symm⟩

end Interpolation.Text
