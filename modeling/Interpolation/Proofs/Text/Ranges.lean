import Mathlib.Data.List.TakeWhile
import Mathlib.Data.List.Chain
import Interpolation.Text.Blank
import Interpolation.Text.Letter

/-!
# Ranges of characters

The classes of characters are lists of ranges in rising order.  To compare two of them it is enough
to walk through both lists at once, and the comparisons here are written that way, because they are
made by evaluation.

* `Text.apart`, `Text.covered` — two lists of ranges have no number in common, or all numbers of the
  first one.
* `Text.inRanges_eq_false_of_apart`, `Text.inRanges_of_covered` — what that says of a number.
* **`Text.strip_identifier`** — an identifier begins and ends with no blank; likewise its first
  character is no digit, and all of its characters can stand behind the first one.
-/

namespace Interpolation.Text

/-! ## Ranges -/

/-- The ranges are in rising order. -/
def Rising (ranges : List (Nat × Nat)) : Prop := ranges.IsChain fun r r' => r.1 ≤ r'.1

instance (ranges : List (Nat × Nat)) : Decidable (Rising ranges) :=
  inferInstanceAs (Decidable (ranges.IsChain fun r r' => r.1 ≤ r'.1))

/-- Whether no range of a rising list meets one of another. -/
def apart : List (Nat × Nat) → List (Nat × Nat) → Bool
  | [], _ => true
  | r :: ranges, others =>
    match others.dropWhile fun o => Nat.blt o.2 r.1 with
    | o :: others => Nat.blt r.2 o.1 && apart ranges (o :: others)
    | [] => true

/-- Whether every range of a rising list is inside of one of another. -/
def covered : List (Nat × Nat) → List (Nat × Nat) → Bool
  | [], _ => true
  | r :: ranges, others =>
    match others.dropWhile fun o => Nat.blt o.2 r.2 with
    | o :: others => Nat.ble o.1 r.1 && covered ranges (o :: others)
    | [] => false

lemma mem_or_mem_dropWhile {α : Type} {p : α → Bool} {xs : List α} {a : α} (h : a ∈ xs) :
    p a = true ∨ a ∈ xs.dropWhile p := by
  rw [← List.takeWhile_append_dropWhile (p := p) (l := xs)] at h
  obtain h | h := List.mem_append.1 h
  · exact .inl (List.mem_takeWhile_imp h)
  · exact .inr h

section Ranges

variable {ranges others : List (Nat × Nat)} {n : Nat}

lemma inRanges_iff : inRanges ranges n = true ↔ ∃ r ∈ ranges, r.1 ≤ n ∧ n ≤ r.2 := by
  simp [inRanges]

lemma Rising.pairwise (h : Rising ranges) : ranges.Pairwise fun r r' => r.1 ≤ r'.1 := by
  have htrans : IsTrans (Nat × Nat) fun r r' => r.1 ≤ r'.1 := ⟨fun _ _ _ => Nat.le_trans⟩
  exact List.isChain_iff_pairwise.1 h

/-- The ranges that are passed lie before a range, and so before those that follow it. -/
lemma lt_or_lt_of_apart (hranges : ranges.Pairwise fun r r' => r.1 ≤ r'.1)
    (hothers : others.Pairwise fun o o' => o.1 ≤ o'.1) (h : apart ranges others = true) :
    ∀ r ∈ ranges, ∀ o ∈ others, r.2 < o.1 ∨ o.2 < r.1 := by
  induction ranges generalizing others with
  | nil => exact List.forall_mem_nil _
  | cons r ranges ih =>
    obtain ⟨hfirst, hranges⟩ := List.pairwise_cons.1 hranges
    intro r' hr' o ho
    have hle : r.1 ≤ r'.1 := by
      obtain rfl | hr' := List.mem_cons.1 hr'
      · exact Nat.le_refl _
      · exact hfirst r' hr'
    have hrest := hothers.sublist (List.dropWhile_sublist fun o => Nat.blt o.2 r.1)
    rw [apart] at h
    obtain ho | ho := mem_or_mem_dropWhile (p := fun o => Nat.blt o.2 r.1) ho
    · have hpassed : o.2 < r.1 := by simpa using ho
      exact .inr (Nat.lt_of_lt_of_le hpassed hle)
    · generalize others.dropWhile (fun o => Nat.blt o.2 r.1) = rest at h ho hrest
      cases rest with
      | nil => cases ho
      | cons next rest =>
        obtain ⟨hlt, h⟩ := Bool.and_eq_true_iff.1 h
        obtain rfl | hr' := List.mem_cons.1 hr'
        · have hle' : next.1 ≤ o.1 := by
            obtain rfl | ho := List.mem_cons.1 ho
            · exact Nat.le_refl _
            · exact (List.pairwise_cons.1 hrest).1 o ho
          exact .inl (Nat.lt_of_lt_of_le (by simpa using hlt) hle')
        · exact ih hranges hrest h r' hr' o ho

lemma inRanges_eq_false_of_apart (hranges : Rising ranges) (hothers : Rising others)
    (h : apart ranges others = true) (hn : inRanges others n = true) :
    inRanges ranges n = false := by
  refine Bool.eq_false_iff.2 fun hin => ?_
  obtain ⟨r, hr, hfirst, hlast⟩ := inRanges_iff.1 hin
  obtain ⟨o, ho, hfirst', hlast'⟩ := inRanges_iff.1 hn
  obtain hbefore | hbehind := lt_or_lt_of_apart hranges.pairwise hothers.pairwise h r hr o ho
  · omega
  · omega

lemma exists_mem_of_covered (h : covered ranges others = true) :
    ∀ r ∈ ranges, ∃ o ∈ others, o.1 ≤ r.1 ∧ r.2 ≤ o.2 := by
  induction ranges generalizing others with
  | nil => exact List.forall_mem_nil _
  | cons r ranges ih =>
    have hsublist := List.dropWhile_sublist (l := others) fun o => Nat.blt o.2 r.2
    have hhead := List.head?_dropWhile_not (fun o : Nat × Nat => Nat.blt o.2 r.2) others
    rw [covered] at h
    generalize others.dropWhile (fun o => Nat.blt o.2 r.2) = rest at h hsublist hhead
    cases rest with
    | nil => cases h
    | cons next rest =>
      obtain ⟨hle, h⟩ := Bool.and_eq_true_iff.1 h
      refine List.forall_mem_cons.2 ⟨⟨next, hsublist.subset List.mem_cons_self, ?_, ?_⟩, ?_⟩
      · exact Nat.le_of_ble_eq_true hle
      · simpa [Nat.blt_eq] using Bool.eq_false_iff.1 hhead
      · intro r' hr'
        obtain ⟨o, ho, hinside⟩ := ih h r' hr'
        exact ⟨o, hsublist.subset ho, hinside⟩

lemma inRanges_of_covered (h : covered ranges others = true) (hn : inRanges ranges n = true) :
    inRanges others n = true := by
  obtain ⟨r, hr, hfirst, hlast⟩ := inRanges_iff.1 hn
  obtain ⟨o, ho, hbefore, hbehind⟩ := exists_mem_of_covered h r hr
  exact inRanges_iff.2 ⟨o, ho, Nat.le_trans hbefore hfirst, Nat.le_trans hlast hbehind⟩

end Ranges

/-- The blanks as ranges. -/
def blankRanges : List (Nat × Nat) :=
  [(9, 13), (28, 32), (0x85, 0x85), (0xa0, 0xa0), (0x1680, 0x1680), (0x2000, 0x200a),
   (0x2028, 0x2028), (0x2029, 0x2029), (0x202f, 0x202f), (0x205f, 0x205f), (0x3000, 0x3000)]

/-- The decimal digits as ranges. -/
def decimalRanges : List (Nat × Nat) := decimalZeros.map fun z => (z, z + 9)

lemma isBlank_eq_true_iff {c : Char} :
    isBlank c = true ↔ inRanges blankRanges c.toNat = true := by
  simp [isBlank, inRanges, blankRanges]
  omega

lemma isSome_digitValue?_iff {c : Char} :
    (digitValue? c).isSome = true ↔ inRanges decimalRanges c.toNat = true := by
  simp [digitValue?, inRanges, decimalRanges]

/-! ## Characters of identifiers -/

lemma rising_identifierStart : Rising identifierStartRanges := by decide +kernel

lemma rising_identifierContinue : Rising identifierContinueRanges := by decide +kernel

lemma apart_blank : apart blankRanges identifierContinueRanges = true := by decide +kernel

lemma apart_decimal : apart decimalRanges identifierStartRanges = true := by decide +kernel

lemma covered_identifierStart : covered identifierStartRanges identifierContinueRanges = true := by
  decide +kernel

variable {c : Char} {s : List Char}

lemma isBlank_of_isIdentifierContinue (h : isIdentifierContinue c = true) : isBlank c = false :=
  Bool.eq_false_iff.2 fun hblank => Bool.eq_false_iff.1
    (inRanges_eq_false_of_apart (by decide) rising_identifierContinue apart_blank h)
    (isBlank_eq_true_iff.1 hblank)

lemma digitValue?_of_isIdentifierStart (h : isIdentifierStart c = true) : digitValue? c = none := by
  by_contra hsome
  exact Bool.eq_false_iff.1
    (inRanges_eq_false_of_apart (by decide +kernel) rising_identifierStart apart_decimal h)
    (isSome_digitValue?_iff.1 (Option.isSome_iff_ne_none.2 hsome))

lemma isIdentifierContinue_of_isIdentifierStart (h : isIdentifierStart c = true) :
    isIdentifierContinue c = true := inRanges_of_covered covered_identifierStart h

/-- All characters of an identifier can stand behind the first one. -/
lemma all_isIdentifierContinue (h : isIdentifier s = true) :
    ∀ c ∈ s, isIdentifierContinue c = true := by
  cases s with
  | nil => cases h
  | cons c s =>
    obtain ⟨hfirst, hrest⟩ := Bool.and_eq_true_iff.1 h
    exact List.forall_mem_cons.2
      ⟨isIdentifierContinue_of_isIdentifierStart hfirst, List.all_eq_true.1 hrest⟩

/-- A text without blanks is not changed by stripping it. -/
lemma strip_eq_self (h : ∀ c ∈ s, isBlank c = false) : strip s = s := by
  have hdrop : ∀ t : List Char, (∀ c ∈ t, isBlank c = false) → t.dropWhile isBlank = t := by
    intro t ht
    refine List.dropWhile_eq_self_iff.2 fun hlength => ?_
    rw [ht _ (List.getElem_mem hlength)]
    exact Bool.false_ne_true
  rw [strip, stripBy, dropEndWhile, hdrop s h, hdrop s.reverse, List.reverse_reverse]
  exact fun c hc => h c (List.mem_reverse.1 hc)

/-- An identifier has no blanks to be stripped of. -/
lemma strip_identifier (h : isIdentifier s = true) : strip s = s :=
  strip_eq_self fun c hc => isBlank_of_isIdentifierContinue (all_isIdentifierContinue h c hc)

end Interpolation.Text
