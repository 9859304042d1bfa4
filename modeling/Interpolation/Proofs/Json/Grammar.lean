import Mathlib.Data.Bool.AllAny
import Mathlib.Data.List.DropRight
import Interpolation.Proofs.Json.RoundTrip
import Interpolation.Proofs.Json.Source

/-!
# Every tree is read

What the reader accepts was written as a tree says; here is the other direction.  So the trees are
the grammar of the reader, and what a reader of another language makes of the text of a tree can be
compared with what this one makes of it.

A token is read up to its end, whatever stands behind it; only a number needs to know that its digits
do not go on.  Behind a document stands a blank, a comma or a closing bracket, if there is anything.

* `Ends` — what can stand behind a document.
* `readNumber_chars`, `readText_glyphs` — numbers and texts.
* **`read?_chars`** — the text of a tree is read as its document.
* `read?_eq_some_iff` — the trees are the grammar of the reader.
-/

namespace Interpolation.Json

open Interpolation.Number

variable {s t rest : List Char} {fuel : Nat}

/-! ## Texts -/

/-- A glyph is read as its character. -/
lemma readText_glyph (g : Glyph) (s : List Char) :
    readText (g.chars ++ s) = (readText s).map fun p => (g.char :: p.1, p.2) := by
  cases g with
  | plain c hcontrol hquote hslash =>
    exact readText_cons hquote hslash (Nat.not_lt_of_le hcontrol) s
  | letter c d h =>
    have hu : c ≠ 'u' := by rintro rfl; cases h
    rw [Glyph.chars, List.cons_append, List.singleton_append, readText, h]
    · cases readText s <;> rfl
    · rintro a b c d s rfl
      exact fun h => hu rfl
  | unit u hhigh hlow =>
    rw [Glyph.chars, CodeUnit.chars]
    simp only [List.cons_append, List.nil_append, readText, u.reads, hhigh, hlow,
      Option.bind_eq_bind, Option.bind_some, Bool.false_eq_true, if_false]
    cases readText s <;> rfl
  | pair u v hhigh hlow =>
    rw [Glyph.chars, CodeUnit.chars, CodeUnit.chars]
    simp only [List.cons_append, List.nil_append, readText, u.reads, v.reads, hhigh, hlow,
      Option.bind_eq_bind, Option.bind_some, if_true]
    cases readText s <;> rfl

/-- **A text is read glyph by glyph**, up to its closing quote. -/
theorem readText_glyphs (gs : List Glyph) (rest : List Char) :
    readText (gs.flatMap Glyph.chars ++ '"' :: rest) = some (gs.map Glyph.char, rest) := by
  induction gs with
  | nil => rw [List.flatMap_nil, List.nil_append, readText]; rfl
  | cons g gs ih => rw [List.flatMap_cons, List.append_assoc, readText_glyph, ih]; rfl

/-! ## Numbers -/

/-- What can stand behind a document: nothing, a blank, a comma or a closing bracket. -/
def Ends (rest : List Char) : Prop :=
  ∀ c ∈ rest.head?, c ∈ [' ', '\t', '\n', '\r', ',', ']', '\x7d']

lemma ends_nil : Ends [] := by rintro c ⟨⟩

lemma Ends.of_follows (h : Follows rest) : Ends rest := fun c hc => by
  rcases h c hc with rfl | rfl | rfl <;> decide

lemma Ends.blank (b : Blank) (h : Ends rest) : Ends (b.chars ++ rest) := by
  obtain ⟨chars, hspace⟩ := b
  cases chars with
  | nil => exact h
  | cons c chars =>
    rintro d ⟨⟩
    have hc := hspace c List.mem_cons_self
    simp only [isSpace, Bool.or_eq_true, beq_iff_eq] at hc
    simp only [List.mem_cons]
    tauto

/-- Nothing that continues a number can stand behind it. -/
lemma Ends.ne (h : Ends rest) :
    ∀ c ∈ rest.head?, c.isDigit = false ∧ c ≠ '.' ∧ c ≠ 'e' ∧ c ≠ 'E' := by
  have hall : ∀ c ∈ [' ', '\t', '\n', '\r', ',', ']', '\x7d'],
      c.isDigit = false ∧ c ≠ '.' ∧ c ≠ 'e' ∧ c ≠ 'E' :=
    List.all_iff_forall_prop.1 (by decide)
  exact fun c hc => hall c (h c hc)

lemma readDigits_chars (d : Digits) (hrest : ∀ c ∈ rest.head?, c.isDigit = false) :
    readDigits (d.chars ++ rest) = some (d.chars, rest) := by
  have hnext : rest.takeWhile Char.isDigit = [] ∧ rest.dropWhile Char.isDigit = rest := by
    cases rest with
    | nil => exact ⟨rfl, rfl⟩
    | cons c rest =>
      have hc := hrest c rfl
      simp [hc]
  rw [readDigits, List.takeWhile_append_of_pos d.isDigit, List.dropWhile_append_of_pos d.isDigit,
    hnext.1, hnext.2, List.append_nil]
  split
  · next hnil => exact absurd hnil d.ne_nil
  · rfl

lemma readFraction_chars (f : Option Digits)
    (hrest : ∀ c ∈ rest.head?, c.isDigit = false ∧ c ≠ '.') :
    readFraction ((f.map fun d => '.' :: d.chars).getD [] ++ rest) =
      some ((f.map Digits.chars).getD [], rest) := by
  cases f with
  | some d => exact readDigits_chars d fun c hc => (hrest c hc).1
  | none =>
    rw [readFraction.eq_def]
    split
    · next h => exact absurd rfl (hrest '.' (by rw [show rest = _ from h]; rfl)).2
    · rfl

lemma readExponent_chars (e : Option Exponent)
    (hrest : ∀ c ∈ rest.head?, c.isDigit = false ∧ c ≠ 'e' ∧ c ≠ 'E') :
    readExponent ((e.map Exponent.chars).getD [] ++ rest) =
      some (e.map Exponent.value, rest) := by
  cases e with
  | none =>
    cases rest with
    | nil => rfl
    | cons c rest =>
      obtain ⟨-, he, hE⟩ := hrest c rfl
      exact if_neg (by tauto)
  | some e =>
    obtain ⟨letter, sign, digits, hletter⟩ := e
    have hdigits := readDigits_chars digits fun c hc => (hrest c hc).1
    cases sign with
    | some negative =>
      cases negative <;>
      · show readExponent (letter :: _ :: (digits.chars ++ rest)) = _
        rw [readExponent.eq_def]
        dsimp only
        rw [if_pos hletter]
        show (readDigits (digits.chars ++ rest)).map _ = _
        rw [hdigits]
        rfl
    | none =>
      obtain ⟨c, x, hc, hdigit⟩ := digits.exists_first
      show readExponent (letter :: (digits.chars ++ rest)) = _
      rw [readExponent.eq_def]
      dsimp only
      rw [if_pos hletter]
      -- a digit is no sign, so nothing is taken off
      split
      · next hminus =>
        rw [hc] at hminus
        cases hminus
        cases hdigit
      · next hplus =>
        rw [hc] at hplus
        cases hplus
        cases hdigit
      · rw [hdigits]
        rfl

lemma readMagnitude_magnitude (n : Numeral) (h : Ends rest) :
    readMagnitude n.negative (n.magnitude ++ rest) = some (n.json, rest) := by
  obtain ⟨negative, whole, fraction, exponent, hzero⟩ := n
  have hne := h.ne
  -- what stands behind the digits in front of the point, and behind those of the fraction
  have hbehind : ∀ c ∈ ((exponent.map Exponent.chars).getD [] ++ rest).head?,
      c.isDigit = false ∧ c ≠ '.' := by
    cases exponent with
    | none => exact fun c hc => ⟨(hne c hc).1, (hne c hc).2.1⟩
    | some e =>
      rintro c ⟨⟩
      rcases e.isLetter with h | h <;> rw [h] <;> decide
  have hbehind' : ∀ c ∈ ((fraction.map fun d => '.' :: d.chars).getD [] ++
      ((exponent.map Exponent.chars).getD [] ++ rest)).head?, c.isDigit = false := by
    cases fraction with
    | none => exact fun c hc => (hbehind c hc).1
    | some d => rintro c ⟨⟩; rfl
  have hleading : ¬(whole.chars.head? = some '0' ∧ whole.chars.length ≠ 1) := fun h =>
    h.2 (hzero h.1)
  simp only [readMagnitude, Numeral.magnitude, List.append_assoc, readDigits_chars whole hbehind',
    readFraction_chars fraction hbehind,
    readExponent_chars exponent fun c hc => ⟨(hne c hc).1, (hne c hc).2.2⟩, if_neg hleading,
    Option.bind_eq_bind, Option.bind_some]
  cases fraction with
  | some d =>
    split
    · next hnil _ => exact absurd hnil d.ne_nil
    · rfl
  | none =>
    cases exponent with
    | none => rfl
    | some e => rfl

/-- **A number is read as it is meant.** -/
theorem readNumber_chars (n : Numeral) (h : Ends rest) :
    readNumber (n.chars ++ rest) = some (n.json, rest) := by
  have hread := readMagnitude_magnitude n h
  rw [Numeral.chars]
  cases hn : n.negative with
  | true =>
    rw [hn] at hread
    exact hread
  | false =>
    rw [hn] at hread
    obtain ⟨c, x, hc, hdigit⟩ := n.exists_first_magnitude
    have hminus : c ≠ '-' := by rintro rfl; cases hdigit
    rw [if_neg Bool.false_ne_true, List.nil_append, readNumber.eq_def]
    split
    · next hs =>
      rw [hc] at hs
      exact absurd (List.cons.inj hs).1 hminus
    · exact hread

/-! ## Documents -/

lemma skipSpace_blank (b : Blank) (s : List Char) : skipSpace (b.chars ++ s) = skipSpace s :=
  List.dropWhile_append_of_pos b.isSpace

lemma skipSpace_skipSpace (s : List Char) : skipSpace (skipSpace s) = skipSpace s :=
  List.dropWhile_idempotent _ _

/-- Blanks in front of a document are skipped. -/
lemma readValue_skipSpace (fuel : Nat) (s : List Char) :
    readValue fuel (skipSpace s) = readValue fuel s := by
  cases fuel with
  | zero => rw [readValue, readValue]
  | succ fuel => rw [readValue, readValue, skipSpace_skipSpace]

lemma readValue_blank (b : Blank) (fuel : Nat) (s : List Char) :
    readValue fuel (b.chars ++ s) = readValue fuel s := by
  rw [← readValue_skipSpace, skipSpace_blank, readValue_skipSpace]

lemma readItems_skipSpace (fuel : Nat) (s : List Char) :
    readItems fuel (skipSpace s) = readItems fuel s := by
  cases fuel with
  | zero => rw [readItems, readItems]
  | succ fuel => rw [readItems, readItems, readValue_skipSpace]

lemma readEntries_skipSpace (fuel : Nat) (s : List Char) :
    readEntries fuel (skipSpace s) = readEntries fuel s := by
  cases fuel with
  | zero => rw [readEntries, readEntries]
  | succ fuel => rw [readEntries, readEntries, skipSpace_skipSpace]

/-- A document begins neither with a blank nor with a closing bracket. -/
lemma Source.exists_first (v : Source) :
    ∃ c x, v.chars = c :: x ∧ isSpace c = false ∧ c ≠ ']' := by
  cases v with
  | null => exact ⟨_, _, rfl, by decide, by decide⟩
  | bool b => cases b <;> exact ⟨_, _, rfl, by decide, by decide⟩
  | number n =>
    obtain ⟨c, x, hc, hfirst⟩ := n.exists_first
    have hnumeral : IsNumeral c := hfirst.symm
    exact ⟨c, x, hc, hnumeral.not_space, hnumeral.ne (by decide)⟩
  | _ => exact ⟨_, _, rfl, by decide, by decide⟩

/-- The items of an array do not begin with its end. -/
lemma Items.exists_first (items : Items) (rest : List Char) :
    ∃ c x, skipSpace (items.chars ++ rest) = c :: x ∧ c ≠ ']' := by
  have hpadded : ∀ (d : Padded) (rest : List Char),
      ∃ c x, skipSpace (d.chars ++ rest) = c :: x ∧ c ≠ ']' := by
    rintro ⟨before, v, after⟩ rest
    obtain ⟨c, x, hc, hspace, hne⟩ := v.exists_first
    refine ⟨c, x ++ (after.chars ++ rest), ?_, hne⟩
    rw [Padded.chars, List.append_assoc, List.append_assoc, skipSpace_blank, hc, List.cons_append,
      skipSpace_cons hspace]
  cases items with
  | last d =>
    rw [Items.chars, List.append_assoc]
    exact hpadded d _
  | more d items =>
    rw [Items.chars, List.append_assoc]
    exact hpadded d _

/-- An entry is read, and then what stands behind it decides. -/
lemma Key.readEntries_chars (k : Key) {j : Json} (h : readValue fuel s = some (j, rest)) :
    readEntries (fuel + 1) (k.chars ++ s) =
      match skipSpace rest with
      | '\x7d' :: s => some ([(textOf k.glyphs, j)], s)
      | ',' :: s => (readEntries fuel s).map fun (es, rest) => ((textOf k.glyphs, j) :: es, rest)
      | _ => none := by
  have hquote : skipSpace (k.chars ++ s) =
      '"' :: (k.glyphs.flatMap Glyph.chars ++ '"' :: (k.behind.chars ++ ':' :: s)) := by
    simp only [Key.chars, quoted, List.append_assoc, List.cons_append, List.nil_append]
    rw [skipSpace_blank]
    rfl
  exact readEntries_step hquote (readText_glyphs k.glyphs _) (skipSpace_blank k.behind (':' :: s)) h

/-- The entries of an object begin with a quote. -/
lemma Entries.exists_first (entries : Entries) (rest : List Char) :
    ∃ x, skipSpace (entries.chars ++ rest) = '"' :: x := by
  have hkey : ∀ (k : Key) (s : List Char), ∃ x, skipSpace (k.chars ++ s) = '"' :: x := by
    intro k s
    rw [Key.chars, List.append_assoc, skipSpace_blank]
    exact ⟨_, rfl⟩
  cases entries with
  | last k v =>
    rw [Entries.chars, List.append_assoc]
    exact hkey k _
  | more k v entries =>
    rw [Entries.chars, List.append_assoc]
    exact hkey k _

/-- Behind an opening brace the object ends, or its entries follow. -/
lemma readValue_brace (fuel : Nat) (s : List Char) :
    readValue (fuel + 1) ('\x7b' :: s) =
      match skipSpace s with
      | '\x7d' :: s => some (.object [], s)
      | s => (readEntries fuel s).map fun (es, rest) => (.object es, rest) := rfl

mutual

/-- The text of a document is read, with enough fuel. -/
theorem Source.readValue_chars (v : Source) (fuel : Nat) (rest : List Char)
    (hf : 2 * v.chars.length + 1 ≤ fuel) (hrest : Ends rest) :
    readValue fuel (v.chars ++ rest) = some (v.json, rest) := by
  obtain _ | fuel := fuel
  · omega
  match v with
  | .null => rfl
  | .bool b => cases b <;> rfl
  | .number n =>
    obtain ⟨c, x, hc, hfirst⟩ := n.exists_first
    have hread := readNumber_chars n hrest
    rw [hc] at hread
    rw [Source.chars, hc]
    exact (readValue_number hfirst.symm fuel _).trans hread
  | .text gs =>
    have hread := readText_glyphs gs rest
    rw [Source.chars, quoted, List.cons_append, List.append_assoc]
    show (readText (gs.flatMap Glyph.chars ++ '"' :: rest)).map _ = _
    rw [hread]
    rfl
  | .emptyArray inside =>
    rw [Source.chars, List.cons_append, List.append_assoc, readValue_bracket, skipSpace_blank]
    rfl
  | .array items =>
    have hread := items.readItems_chars fuel rest
      (by rw [Source.chars, List.length_cons] at hf; omega)
    obtain ⟨c, x, hskip, hne⟩ := items.exists_first rest
    rw [← readItems_skipSpace, hskip] at hread
    rw [Source.chars, List.cons_append, readValue_bracket, hskip]
    split
    · next hs => exact absurd (List.cons.inj hs).1 hne
    · rw [hread]
      rfl
  | .emptyObject inside =>
    rw [Source.chars, List.cons_append, List.append_assoc, readValue_brace, skipSpace_blank]
    rfl
  | .object entries =>
    have hread := entries.readEntries_chars fuel rest
      (by rw [Source.chars, List.length_cons] at hf; omega)
    obtain ⟨x, hskip⟩ := entries.exists_first rest
    rw [← readEntries_skipSpace, hskip] at hread
    rw [Source.chars, List.cons_append, readValue_brace, hskip]
    exact congrArg (Option.map _) hread

/-- The items of an array are read up to its end, with enough fuel. -/
theorem Items.readItems_chars (items : Items) (fuel : Nat) (rest : List Char)
    (hf : 2 * items.chars.length + 2 ≤ fuel) :
    readItems fuel (items.chars ++ rest) = some (items.json, rest) := by
  obtain _ | fuel := fuel
  · omega
  match items with
  | .last (.mk before v after) =>
    simp only [Items.chars, Padded.chars, List.length_append] at hf
    have hread := v.readValue_chars fuel (after.chars ++ ']' :: rest) (by omega)
      (.blank after (.of_follows (follows_cons (by decide))))
    simp only [Items.chars, Padded.chars, List.append_assoc, List.singleton_append]
    rw [readItems, readValue_blank, hread]
    show (match skipSpace (after.chars ++ ']' :: rest) with
      | ']' :: s => _
      | ',' :: s => _
      | _ => _) = _
    rw [skipSpace_blank]
    rfl
  | .more (.mk before v after) items =>
    simp only [Items.chars, Padded.chars, List.length_append, List.length_cons] at hf
    have hread := v.readValue_chars fuel (after.chars ++ ',' :: (items.chars ++ rest)) (by omega)
      (.blank after (.of_follows (follows_cons (by decide))))
    have hitems := items.readItems_chars fuel rest (by omega)
    simp only [Items.chars, Padded.chars, List.append_assoc, List.cons_append]
    rw [readItems, readValue_blank, hread]
    show (match skipSpace (after.chars ++ ',' :: (items.chars ++ rest)) with
      | ']' :: s => _
      | ',' :: s => _
      | _ => _) = _
    rw [skipSpace_blank]
    show (readItems fuel (items.chars ++ rest)).bind _ = _
    rw [hitems]
    rfl

/-- The entries of an object are read up to its end, with enough fuel. -/
theorem Entries.readEntries_chars (entries : Entries) (fuel : Nat) (rest : List Char)
    (hf : 2 * entries.chars.length + 2 ≤ fuel) :
    readEntries fuel (entries.chars ++ rest) = some (entries.json, rest) := by
  obtain _ | fuel := fuel
  · omega
  match entries with
  | .last k (.mk before v after) =>
    simp only [Entries.chars, Padded.chars, List.length_append] at hf
    have hread := v.readValue_chars fuel (after.chars ++ '\x7d' :: rest) (by omega)
      (.blank after (.of_follows (follows_cons (by decide))))
    rw [← readValue_blank before] at hread
    simp only [Entries.chars, Padded.chars, List.append_assoc, List.singleton_append]
    rw [k.readEntries_chars hread, skipSpace_blank]
    rfl
  | .more k (.mk before v after) entries =>
    simp only [Entries.chars, Padded.chars, List.length_append, List.length_cons] at hf
    have hread := v.readValue_chars fuel (after.chars ++ ',' :: (entries.chars ++ rest)) (by omega)
      (.blank after (.of_follows (follows_cons (by decide))))
    rw [← readValue_blank before] at hread
    have hentries := entries.readEntries_chars fuel rest (by omega)
    simp only [Entries.chars, Padded.chars, List.append_assoc, List.cons_append]
    rw [k.readEntries_chars hread, skipSpace_blank]
    exact congrArg (Option.map _) hentries

end

/-- **The text of a tree is read as its document.** -/
theorem read?_chars (d : Padded) : read? (String.ofList d.chars) = some d.json := by
  obtain ⟨before, v, after⟩ := d
  have hread := v.readValue_chars (2 * (Padded.mk before v after).chars.length + 1) after.chars
    (by simp only [Padded.chars, List.length_append]; omega)
    (by simpa using Ends.blank after ends_nil)
  have hblank : skipSpace (after.chars ++ []) = [] := skipSpace_blank after []
  rw [List.append_nil] at hblank
  rw [← readValue_blank before] at hread
  rw [read?, String.toList_ofList]
  show (readValue _ (before.chars ++ (v.chars ++ after.chars))).bind _ = _
  rw [hread]
  show (if (skipSpace after.chars).isEmpty then some v.json else none) = _
  rw [hblank]
  rfl

/-- The trees are the grammar of the reader. -/
theorem read?_eq_some_iff {s : String} {j : Json} :
    read? s = some j ↔ ∃ d : Padded, d.chars = s.toList ∧ d.json = j := by
  refine ⟨exists_padded_of_read?, ?_⟩
  rintro ⟨d, hd, rfl⟩
  rw [← read?_chars d, hd, String.ofList_toList]

end Interpolation.Json
