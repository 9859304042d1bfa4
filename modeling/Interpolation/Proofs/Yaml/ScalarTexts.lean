import Mathlib.Data.Bool.AllAny
import Interpolation.Proofs.Json.Source
import Interpolation.Proofs.Yaml.Positions

/-!
# JSON texts and words as scalars of YAML

A text between quotes is taken piece by piece: characters that stand for themselves, blanks, and what
stands behind a backslash.  The two languages agree on all of these but the surrogate pairs.  They
differ on what a line is.  For a reader of YAML a text may go on in another line, and the break with
the blanks around it becomes a space; but the separators of lines and of paragraphs, which end a line
as well, stay in the text.  So they are kept unless there is a blank next to them, or the line behind
them looks like the end of a document.

Numbers and the names of constants are words without quotes.  All their characters belong to the word,
and the blanks behind it do not.

* `Glyph.isPlain`, `areKept` — a character, or a whole text, is read alike.
* **`quotedText_glyphs`** — a text between quotes.
* **`plainText_word`** — a word without quotes.
-/

namespace Interpolation.Json

open Yaml

/-- Whether a character of a text is read alike by a reader of YAML, and does not end a line. -/
def Glyph.isPlain : Glyph → Bool
  | plain c .. => Words.isPrintable c && !isBreak c
  | letter .. | unit .. => true
  | pair .. => false

/-- The character itself is written, and it is of some kind. -/
def Glyph.isOf (keep : Char → Bool) : Glyph → Bool
  | plain c .. => keep c
  | _ => false

/-- Whether a character ends a line and stays in the text. -/
def isSeparator (c : Char) : Bool := c = '\u2028' || c = '\u2029'

/-- Whether a line that begins like this would end a document. -/
def endsDocument : List Glyph → Bool
  | a :: b :: c :: d :: _ =>
    ([a, b, c].all (Glyph.isOf (· = '-')) || [a, b, c].all (Glyph.isOf (· = '.'))) &&
      d.isOf fun c => isGap c || isBreak c
  | _ => false

/-- Whether a character of a text is read alike in front of others. -/
def Glyph.isKept (g : Glyph) (gs : List Glyph) : Bool :=
  if g.isOf isSeparator then !gs.head?.any (isOf isGap) && !endsDocument gs
  else g.isPlain && !(g.isOf isGap && gs.head?.any (isOf isSeparator))

/-- Whether a text is read alike. -/
def areKept : List Glyph → Bool
  | [] => true
  | g :: gs => g.isKept gs && areKept gs

lemma Glyph.chars_of_isOf {keep : Char → Bool} {g : Glyph} (h : g.isOf keep = true) :
    g.chars = [g.char] ∧ keep g.char = true := by
  cases g with
  | plain c => exact ⟨rfl, h⟩
  | _ => cases h

lemma Glyph.flatMap_chars_of_isOf {keep : Char → Bool} {gs : List Glyph}
    (h : ∀ g ∈ gs, g.isOf keep = true) : gs.flatMap Glyph.chars = gs.map Glyph.char := by
  induction gs with
  | nil => rfl
  | cons g gs ih =>
    rw [List.flatMap_cons, (chars_of_isOf (h g List.mem_cons_self)).1,
      ih fun g hg => h g (List.mem_cons_of_mem _ hg)]
    rfl

lemma Glyph.length_le_chars (gs : List Glyph) : gs.length ≤ (gs.flatMap Glyph.chars).length := by
  induction gs with
  | nil => exact Nat.le_refl _
  | cons g gs ih =>
    have hg : 0 < g.chars.length := by cases g <;> exact Nat.succ_pos _
    rw [List.flatMap_cons, List.length_append, List.length_cons]
    omega

/-- The characters of one kind at the beginning of a text are those of the glyphs of that kind. -/
lemma Glyph.takeWhile_chars {keep : Char → Bool} (hquote : keep '"' = false)
    (hslash : keep '\\' = false) (gs : List Glyph) (t : List Char) :
    (gs.flatMap Glyph.chars ++ '"' :: t).takeWhile keep =
      (gs.takeWhile (Glyph.isOf keep)).map Glyph.char := by
  induction gs with
  | nil => exact List.takeWhile_cons_of_neg (by simp [hquote])
  | cons g gs ih =>
    rw [List.flatMap_cons, List.append_assoc]
    cases hg : g.isOf keep with
    | true =>
      obtain ⟨hchars, hchar⟩ := chars_of_isOf hg
      rw [List.takeWhile_cons_of_pos hg, hchars, List.singleton_append,
        List.takeWhile_cons_of_pos hchar, ih]
      rfl
    | false =>
      rw [List.takeWhile_cons_of_neg (by simp [hg])]
      cases g with
      | plain c => exact List.takeWhile_cons_of_neg (by simpa [isOf] using hg)
      | _ => exact List.takeWhile_cons_of_neg (by simp [hslash])

/-- What is written is a character of its own, unless it is a backslash or the closing quote. -/
lemma Glyph.exists_of_chars {c : Char} {gs : List Glyph} {s t : List Char} (hquote : c ≠ '"')
    (hslash : c ≠ '\\') (h : gs.flatMap Glyph.chars ++ '"' :: t = c :: s) :
    ∃ g gs', gs = g :: gs' ∧ (∀ keep, g.isOf keep = keep c) ∧
      s = gs'.flatMap Glyph.chars ++ '"' :: t := by
  cases gs with
  | nil => exact absurd (List.cons.inj h).1.symm hquote
  | cons g gs =>
    rw [List.flatMap_cons, List.append_assoc] at h
    cases g with
    | plain d =>
      obtain ⟨rfl, rfl⟩ := List.cons.inj h
      exact ⟨_, gs, rfl, fun _ => rfl, rfl⟩
    | _ => exact absurd (List.cons.inj h).1.symm hslash

lemma Glyph.not_isBreak {g : Glyph} (h : g.isPlain = true) : ∀ c ∈ g.chars, isBreak c = false := by
  cases g with
  | plain c => exact List.forall_mem_singleton.2 ((Bool.not_eq_true' _).mp (Bool.and_eq_true_iff.1 h).2)
  | letter c d hescape =>
    refine List.forall_mem_cons.2 ⟨by decide, List.forall_mem_singleton.2 ?_⟩
    unfold escape? at hescape
    split at hescape <;> first | rfl | cases hescape
  | unit u =>
    have hdigit : ∀ {c : Char} {n : Nat}, hexValue? c = some n → isBreak c = false := by
      intro c n hn
      by_contra hbreak
      simp only [isBreak, Bool.or_eq_true, decide_eq_true_eq, Bool.not_eq_false] at hbreak
      obtain (((rfl | rfl) | rfl) | rfl) | rfl := hbreak <;> cases hn
    obtain ⟨a, b, c, d, ha, hb, hc, hd, -⟩ := u.exists_hexValue?
    simp only [chars, CodeUnit.chars, List.forall_mem_cons]
    exact ⟨by decide, by decide, hdigit ha, hdigit hb, hdigit hc, hdigit hd, List.forall_mem_nil _⟩
  | pair u v => cases h

/-- A text of plain characters stands in one line. -/
lemma quoted_not_isBreak {gs : List Glyph} (h : ∀ g ∈ gs, g.isPlain = true) :
    ∀ c ∈ quoted gs, isBreak c = false := by
  have hinside : ∀ c ∈ gs.flatMap Glyph.chars, isBreak c = false := fun c hc => by
    obtain ⟨g, hg, hc⟩ := List.mem_flatMap.1 hc
    exact Glyph.not_isBreak (h g hg) c hc
  exact List.forall_mem_cons.2 ⟨by decide,
    List.forall_mem_append.2 ⟨hinside, List.forall_mem_singleton.2 (by decide)⟩⟩

/-! ### Texts that are kept -/

section Kept

variable {g : Glyph} {gs run : List Glyph}

lemma isBreak_of_isSeparator {c : Char} (h : isSeparator c = true) : isBreak c = true := by
  simp only [isSeparator, Bool.or_eq_true, decide_eq_true_eq] at h
  obtain rfl | rfl := h <;> decide

lemma Glyph.not_isSeparator (h : g.isPlain = true) : g.isOf isSeparator = false := by
  by_contra hof
  rw [Bool.not_eq_false] at hof
  obtain ⟨hchars, hchar⟩ := chars_of_isOf hof
  have hbreak := not_isBreak h g.char (by rw [hchars]; exact List.mem_singleton_self _)
  rw [isBreak_of_isSeparator hchar] at hbreak
  cases hbreak

/-- A character that is kept is plain, or a separator. -/
lemma Glyph.isPlain_of_isKept (h : g.isKept gs = true) (hof : g.isOf isSeparator = false) :
    g.isPlain = true := by
  rw [isKept, hof, if_neg Bool.false_ne_true] at h
  exact (Bool.and_eq_true_iff.1 h).1

lemma areKept_tail (h : areKept (g :: gs) = true) : areKept gs = true :=
  (Bool.and_eq_true_iff.1 h).2

lemma areKept_right (h : areKept (run ++ gs) = true) : areKept gs = true := by
  induction run with
  | nil => exact h
  | cons g run ih => exact ih (areKept_tail h)

/-- A text of plain characters is kept. -/
lemma areKept_of_isPlain (h : ∀ g ∈ gs, g.isPlain = true) : areKept gs = true := by
  induction gs with
  | nil => rfl
  | cons g gs ih =>
    obtain ⟨hg, hgs⟩ := List.forall_mem_cons.1 h
    refine Bool.and_eq_true_iff.2 ⟨?_, ih hgs⟩
    have hhead : gs.head?.any (Glyph.isOf isSeparator) = false := by
      cases gs with
      | nil => rfl
      | cons g' gs => exact Glyph.not_isSeparator (hgs g' List.mem_cons_self)
    rw [Glyph.isKept, Glyph.not_isSeparator hg, if_neg Bool.false_ne_true, hg, hhead, Bool.and_false]
    rfl

/-- Behind blanks there is no separator. -/
lemma head?_of_blanks (h : areKept (run ++ g :: gs) = true) (hne : run ≠ [])
    (hblank : ∀ g ∈ run, g.isOf isGap = true) : g.isOf isSeparator = false := by
  induction run with
  | nil => exact absurd rfl hne
  | cons b run ih =>
    obtain ⟨hb, hrun⟩ := List.forall_mem_cons.1 hblank
    cases run with
    | cons b' run => exact ih (areKept_tail h) (List.cons_ne_nil _ _) hrun
    | nil =>
      have hkept := (Bool.and_eq_true_iff.1 h).1
      have hof : b.isOf isSeparator = false := by
        cases b with
        | plain c =>
          by_contra hc
          have hgap : isGap c = true := hb
          simp only [isGap, Bool.or_eq_true, decide_eq_true_eq] at hgap
          obtain rfl | rfl := hgap <;> exact hc rfl
        | _ => rfl
      rw [Glyph.isKept, hof, if_neg Bool.false_ne_true, hb] at hkept
      simpa using (Bool.and_eq_true_iff.1 hkept).2

end Kept

end Interpolation.Json

namespace Interpolation.Yaml

open Json (Glyph quoted CodeUnit areKept)

/-! ## Escapes -/

lemma hexValue?_eq (c : Char) : hexValue? c = Json.hexValue? c := by
  unfold hexValue? Json.hexValue?
  have hzero : '0'.toNat = 48 := rfl
  have ha : 'a'.toNat = 97 := rfl
  have hA : 'A'.toNat = 65 := rfl
  split_ifs with hdigit hsmall hcapital
  · rw [hzero]
  · have : 97 ≤ c.toNat := hsmall.1
    rw [ha]
    exact congrArg some (by omega)
  · have : 65 ≤ c.toNat := hcapital.1
    rw [hA]
    exact congrArg some (by omega)
  · rfl

lemma hexValue?_lt {c : Char} {n : Nat} (h : Json.hexValue? c = some n) : n < 16 := by
  unfold Json.hexValue? at h
  split_ifs at h with hdigit hsmall hcapital
  · have : c.toNat ≤ 57 := (Char.isDigit_iff_toNat.1 hdigit).2
    cases h
    omega
  · have : c.toNat ≤ 102 := hsmall.2
    cases h
    omega
  · have : c.toNat ≤ 70 := hcapital.2
    cases h
    omega

/-- Four digits are read as the number that they stand for. -/
lemma hexNumber?_unit (u : CodeUnit) (t : List Char) :
    hexNumber? 4 0 (u.a :: u.b :: u.c :: u.d :: t) = some u.value ∧ u.value < 0x10000 := by
  obtain ⟨a, b, c, d, ha, hb, hc, hd, h⟩ := u.exists_hexValue?
  have := hexValue?_lt ha
  have := hexValue?_lt hb
  have := hexValue?_lt hc
  have := hexValue?_lt hd
  refine ⟨?_, by omega⟩
  simp only [hexNumber?, hexValue?_eq, ha, hb, hc, hd, Option.bind_eq_bind, Option.bind_some]
  exact congrArg some (by omega)

/-- A letter behind a backslash has the same meaning. -/
lemma escapes_lookup {c d : Char} (h : Json.escape? c = some d) : escapes.lookup c = some d := by
  unfold Json.escape? at h
  split at h <;> cases h <;> rfl

/-! ## Quoted texts -/

variable {p : Position} {t : List Char}

lemma joinPieces_cons (piece : List Char) (pieces : List (List Char)) :
    joinPieces (piece :: pieces) = joinPieces pieces ++ piece := by
  simp [joinPieces]

/-- What a backslash stands for is read as in a JSON text. -/
lemma quotedEscape_glyph {g : Glyph} (hplain : g.isPlain = true)
    (hescape : ∀ keep, g.isOf keep = false) (hrest : p.rest = g.chars ++ t) :
    p.next? = some '\\' ∧ ∃ q, quotedEscape p.advance = .ok ([g.char], q) ∧ p.Crosses g.chars q := by
  have hbreak := g.not_isBreak hplain
  cases g with
  | plain c => exact absurd (hescape fun _ => true) (by simp [Glyph.isOf])
  | pair u v => cases hplain
  | letter c d h =>
    have hrest' : p.advance.rest = c :: t := by rw [Position.rest_advance, hrest]; rfl
    refine ⟨by rw [Position.next?, hrest]; rfl, p.advance.advance, ?_, .advanceBy hrest hbreak⟩
    have hnext : p.advance.next? = some c := by rw [Position.next?, hrest']; rfl
    rw [quotedEscape, hnext]
    dsimp only
    rw [escapes_lookup h]
    rfl
  | unit u hhigh hlow =>
    have hrest' : p.advance.rest = 'u' :: ([u.a, u.b, u.c, u.d] ++ t) := by
      rw [Position.rest_advance, hrest]
      rfl
    have hrest'' : p.advance.advance.rest = [u.a, u.b, u.c, u.d] ++ t := by
      rw [Position.rest_advance, hrest']
      rfl
    obtain ⟨hnumber, hlt⟩ := hexNumber?_unit u t
    refine ⟨by rw [Position.next?, hrest]; rfl, p.advance.advance.advanceBy 4, ?_,
      .advanceBy hrest hbreak⟩
    have hnext : p.advance.next? = some 'u' := by rw [Position.next?, hrest']; rfl
    have hu : escapes.lookup 'u' = none := by decide
    have hwidth : escapeWidth? 'u' = some 4 := by decide
    rw [quotedEscape, hnext]
    dsimp only
    rw [hu, hwidth]
    dsimp only
    rw [hrest'', List.cons_append, List.cons_append, List.cons_append, List.cons_append,
      List.nil_append, hnumber]
    dsimp only
    have hplace : ¬(0xd800 ≤ u.value ∧ u.value < 0xe000) := by
      simp only [Json.isHighUnit, Json.isLowUnit, Bool.and_eq_false_iff, decide_eq_false_iff_not]
        at hhigh hlow
      omega
    rw [characterOf, if_pos (by omega), Text.ofCodePoint, if_neg hplace]
    rfl

/-- The characters of one kind at the beginning of a text are taken together. -/
lemma takeWhile_run {keep : Char → Bool} (hquote : keep '"' = false) (hslash : keep '\\' = false)
    (hbreak : ∀ c, keep c = true → isBreak c = false) {gs : List Glyph}
    (hrest : p.rest = gs.flatMap Glyph.chars ++ '"' :: t) :
    let run := gs.takeWhile (Glyph.isOf keep)
    ∃ q, p.takeWhile keep = (run.map Glyph.char, q) ∧ p.Crosses (run.flatMap Glyph.chars) q := by
  intro run
  have hkeep : ∀ g ∈ run, g.isOf keep = true := fun g hg =>
    List.all_eq_true.1 List.all_takeWhile g hg
  have hchars : run.flatMap Glyph.chars = run.map Glyph.char := Glyph.flatMap_chars_of_isOf hkeep
  have htaken : p.rest.takeWhile keep = run.map Glyph.char := by
    rw [hrest, Glyph.takeWhile_chars hquote hslash]
  have hsplit : p.rest = run.map Glyph.char ++ p.rest.dropWhile keep := by
    rw [← htaken, List.takeWhile_append_dropWhile]
  refine ⟨p.advanceBy (run.map Glyph.char).length, ?_, ?_⟩
  · rw [Position.takeWhile, htaken]
  · rw [hchars]
    refine .advanceBy hsplit fun c hc => ?_
    obtain ⟨g, hg, rfl⟩ := List.mem_map.1 hc
    exact hbreak _ (Glyph.chars_of_isOf (hkeep g hg)).2

/-- A line ends within a text only with a separator. -/
lemma exists_next {gs : List Glyph} (hkept : areKept gs = true)
    (hrest : p.rest = gs.flatMap Glyph.chars ++ '"' :: t) :
    (∃ c, p.next? = some c ∧ isBreak c = false) ∨
      ∃ g gs', gs = g :: gs' ∧ g.isOf Json.isSeparator = true := by
  rw [Position.next?, hrest]
  cases gs with
  | nil => exact .inl ⟨'"', rfl, by decide⟩
  | cons g gs =>
    cases hof : g.isOf Json.isSeparator with
    | true => exact .inr ⟨g, gs, rfl, hof⟩
    | false =>
      have hbreak := g.not_isBreak (Glyph.isPlain_of_isKept (Bool.and_eq_true_iff.1 hkept).1 hof)
      have hne : g.chars ≠ [] := by cases g <;> exact List.cons_ne_nil _ _
      obtain ⟨c, x, hc⟩ := List.exists_cons_of_ne_nil hne
      refine .inl ⟨c, ?_, hbreak c (by rw [hc]; exact List.mem_cons_self)⟩
      rw [List.flatMap_cons, hc]
      rfl

/-! ### Separators -/

/-- The line behind a separator does not end the document. -/
lemma atSeparator_of_endsDocument {gs : List Glyph} (h : Json.endsDocument gs = false)
    (hrest : p.rest = gs.flatMap Glyph.chars ++ '"' :: t) : p.atSeparator = false := by
  by_contra hat
  rw [Bool.not_eq_false, Position.atSeparator] at hat
  split at hat
  · next a b c rest habc =>
    rw [hrest] at habc
    simp only [Bool.and_eq_true, Bool.or_eq_true, decide_eq_true_eq] at hat
    obtain ⟨hmark, hend⟩ := hat
    have hne : ∀ x ∈ [a, b, c], x ≠ '"' ∧ x ≠ '\\' := by
      obtain ⟨⟨rfl, rfl⟩, rfl⟩ | ⟨⟨rfl, rfl⟩, rfl⟩ := hmark <;>
        exact List.all_iff_forall_prop.1 (by decide)
    simp only [List.forall_mem_cons] at hne
    obtain ⟨ha, hb, hc, -⟩ := hne
    obtain ⟨g₁, gs, rfl, h₁, habc⟩ := Glyph.exists_of_chars ha.1 ha.2 habc
    obtain ⟨g₂, gs, rfl, h₂, habc⟩ := Glyph.exists_of_chars hb.1 hb.2 habc.symm
    obtain ⟨g₃, gs, rfl, h₃, habc⟩ := Glyph.exists_of_chars hc.1 hc.2 habc.symm
    cases rest with
    | nil => simp at habc
    | cons d rest =>
      have hd : isGap d = true ∨ isBreak d = true := Bool.or_eq_true_iff.1 hend
      have hdne : d ≠ '"' ∧ d ≠ '\\' := by
        constructor <;> rintro rfl <;> simp [isGap, isBreak] at hd
      obtain ⟨g₄, gs, rfl, h₄, -⟩ := Glyph.exists_of_chars hdne.1 hdne.2 habc.symm
      simp only [Json.endsDocument, List.all_cons, List.all_nil, h₁, h₂, h₃, h₄] at h
      obtain ⟨⟨rfl, rfl⟩, rfl⟩ | ⟨⟨rfl, rfl⟩, rfl⟩ := hmark <;>
        obtain hd | hd := hd <;> simp [hd] at h
  · cases hat

/-- A separator is kept as it is. -/
lemma lineBreak_separator {c : Char} (hc : Json.isSeparator c = true) (hrest : p.rest = c :: t) :
    p.lineBreak = ([c], p.advance) := by
  simp only [Json.isSeparator, Bool.or_eq_true, decide_eq_true_eq] at hc
  unfold Position.lineBreak
  split
  · next h =>
    obtain ⟨rfl, -⟩ := List.cons.inj (hrest.symm.trans h)
    obtain h | h := hc <;> cases h
  · next d s _ h =>
    obtain ⟨rfl, -⟩ := List.cons.inj (hrest.symm.trans h)
    rw [if_pos hc]
  · next h => cases hrest.symm.trans h

section Separators

variable {g : Glyph} {gs : List Glyph} (hkept : areKept (g :: gs) = true)
  (hg : g.isOf Json.isSeparator = true) (hrest : p.rest = gs.flatMap Glyph.chars ++ '"' :: t)

include hkept hg hrest

/-- Behind a separator only a further one matters. -/
lemma quotedBreaks_step (fuel : Nat) (breaks : List Char) :
    quotedBreaks (fuel + 1) breaks p =
      match p.lineBreak with
      | ([], _) => .ok (breaks, p)
      | (b, p) => quotedBreaks fuel (breaks ++ b) p := by
  have hbehind := (Bool.and_eq_true_iff.1 hkept).1
  rw [Glyph.isKept, if_pos hg, Bool.and_eq_true, Bool.not_eq_true', Bool.not_eq_true'] at hbehind
  obtain ⟨hblank, hend⟩ := hbehind
  have hgaps : p.advanceWhile isGap = p := by
    have hnone : gs.takeWhile (Glyph.isOf isGap) = [] := by
      cases gs with
      | nil => rfl
      | cons g' gs => exact List.takeWhile_cons_of_neg (by simpa using hblank)
    have htaken : p.rest.takeWhile isGap = [] := by
      rw [hrest, Glyph.takeWhile_chars (by decide) (by decide), hnone]
      rfl
    rw [Position.advanceWhile, Position.takeWhile, htaken]
    rfl
  rewrite [quotedBreaks, if_neg (by simp [atSeparator_of_endsDocument hend hrest]), hgaps]
  rfl

end Separators

/-- Separators behind another one are taken together. -/
lemma quotedBreaks_separators {g : Glyph} {gs : List Glyph} (hkept : areKept (g :: gs) = true)
    (hg : g.isOf Json.isSeparator = true) {fuel : Nat} (hfuel : gs.length < fuel)
    (breaks : List Char) (hrest : p.rest = gs.flatMap Glyph.chars ++ '"' :: t) :
    ∃ run gs' q, gs = run ++ gs' ∧ q.rest = gs'.flatMap Glyph.chars ++ '"' :: t ∧
      quotedBreaks fuel breaks p = .ok (breaks ++ run.map Glyph.char, q) := by
  induction fuel generalizing g gs breaks p with
  | zero => exact absurd hfuel (Nat.not_lt_zero _)
  | succ fuel ih =>
    rw [quotedBreaks_step hkept hg hrest]
    obtain ⟨c, hc, hbreak⟩ | ⟨g', gs, rfl, hsep⟩ := exists_next (Json.areKept_tail hkept) hrest
    · have hline : p.lineBreak = ([], p) := by
        refine Position.lineBreak_of_not_isBreak fun d hd => ?_
        cases hc.symm.trans hd
        exact hbreak
      rw [hline]
      exact ⟨[], gs, p, rfl, hrest, by rw [List.map_nil, List.append_nil]⟩
    · obtain ⟨hchars, hchar⟩ := Glyph.chars_of_isOf hsep
      have hrest' : p.rest = g'.char :: (gs.flatMap Glyph.chars ++ '"' :: t) := by
        rw [hrest, List.flatMap_cons, hchars]
        rfl
      obtain ⟨run, gs', q, rfl, hq, hrun⟩ := ih (Json.areKept_tail hkept) hsep
        (by rw [List.length_cons] at hfuel; omega) (breaks ++ [g'.char])
        (by rw [Position.rest_advance, hrest']; rfl)
      refine ⟨g' :: run, gs', q, rfl, hq, ?_⟩
      rw [lineBreak_separator hchar hrest']
      show quotedBreaks fuel (breaks ++ [g'.char]) p.advance = _
      rw [hrun, List.append_assoc]
      rfl

/-- **A separator stays**, with those behind it. -/
lemma quotedBlanks_separators {g : Glyph} {gs : List Glyph} (hkept : areKept (g :: gs) = true)
    (hg : g.isOf Json.isSeparator = true)
    (hrest : p.rest = (g :: gs).flatMap Glyph.chars ++ '"' :: t) :
    ∃ run gs' q, gs = run ++ gs' ∧ q.rest = gs'.flatMap Glyph.chars ++ '"' :: t ∧
      quotedBlanks p = .ok (g.char :: run.map Glyph.char, q) := by
  obtain ⟨hchars, hchar⟩ := Glyph.chars_of_isOf hg
  have hrest' : p.rest = g.char :: (gs.flatMap Glyph.chars ++ '"' :: t) := by
    rw [hrest, List.flatMap_cons, hchars]
    rfl
  have hbehind : p.advance.rest = gs.flatMap Glyph.chars ++ '"' :: t := by
    rw [Position.rest_advance, hrest']
    rfl
  have hbreak := Json.isBreak_of_isSeparator hchar
  have hgaps : p.takeWhile isGap = ([], p) := by
    have hgap : isGap g.char = false := by
      simp only [Json.isSeparator, Bool.or_eq_true, decide_eq_true_eq] at hchar
      obtain h | h := hchar <;> rw [h] <;> decide
    rw [Position.takeWhile, hrest', List.takeWhile_cons_of_neg (by simp [hgap])]
    rfl
  have hfuel : gs.length < p.advance.rest.length + 1 := by
    have := Glyph.length_le_chars gs
    rw [hbehind, List.length_append]
    omega
  obtain ⟨run, gs', q, hgs, hq, hrun⟩ := quotedBreaks_separators hkept hg hfuel [] hbehind
  refine ⟨run, gs', q, hgs, hq, ?_⟩
  have hnext : p.next? = some g.char := by rw [Position.next?, hrest']; rfl
  rw [quotedBlanks, hgaps]
  dsimp only
  rw [hnext]
  dsimp only
  rw [if_pos hbreak, lineBreak_separator hchar hrest']
  dsimp only
  rw [hrun]
  have hne : [g.char] ≠ ['\n'] := by
    intro h
    rw [List.cons.inj h |>.1] at hchar
    cases hchar
  dsimp only [bind, Except.bind]
  rw [if_pos hne]
  rfl

/-! ### Pieces -/

lemma not_isBreak_of_isGap {c : Char} (h : isGap c = true) : isBreak c = false := by
  simp only [isGap, Bool.or_eq_true, decide_eq_true_eq] at h
  obtain rfl | rfl := h <;> decide

lemma not_isBreak_of_isQuotable {c : Char} (h : isQuotable c = true) : isBreak c = false := by
  rw [isQuotable, Bool.and_eq_true] at h
  exact (Bool.not_eq_true' _).mp h.2

/-- The next run of a text is read as one piece. -/
def TakesRun (p : Position) (fuel : Nat) (pieces : List (List Char)) (gs : List Glyph) : Prop :=
  ∃ run gs' q, gs = run ++ gs' ∧ run ≠ [] ∧ p.Passes (run.flatMap Glyph.chars) q ∧
    quotedPieces '"' (fuel + 1) pieces p = quotedPieces '"' fuel (run.map Glyph.char :: pieces) q

section Runs

variable {g : Glyph} {gs : List Glyph} (fuel : Nat) (pieces : List (List Char))

lemma TakesRun.alone {q : Position} (hpass : p.Passes g.chars q)
    (h : quotedPieces '"' (fuel + 1) pieces p = quotedPieces '"' fuel ([g.char] :: pieces) q) :
    TakesRun p fuel pieces (g :: gs) :=
  ⟨[g], gs, q, rfl, List.cons_ne_nil _ _, by simpa using hpass, h⟩

/-- The run of the characters of a kind, of which the first one is. -/
lemma exists_run {keep : Char → Bool} (hquote : keep '"' = false) (hslash : keep '\\' = false)
    (hbreak : ∀ c, keep c = true → isBreak c = false) (hg : g.isOf keep = true)
    (hrest : p.rest = (g :: gs).flatMap Glyph.chars ++ '"' :: t) :
    ∃ run gs' q, g :: gs = run ++ gs' ∧ run ≠ [] ∧ (∀ g ∈ run, g.isOf keep = true) ∧
      p.Passes (run.flatMap Glyph.chars) q ∧ p.takeWhile keep = (run.map Glyph.char, q) := by
  obtain ⟨q, htaken, hcross⟩ := takeWhile_run hquote hslash hbreak hrest
  refine ⟨_, _, q, List.takeWhile_append_dropWhile.symm, ?_, fun g hg => ?_,
    .of_crosses hcross, htaken⟩
  · rw [List.takeWhile_cons_of_pos hg]
    exact List.cons_ne_nil _ _
  · exact List.all_eq_true.1 List.all_takeWhile g hg

variable (hkept : areKept (g :: gs) = true)
  (hrest : p.rest = (g :: gs).flatMap Glyph.chars ++ '"' :: t)
include hkept hrest

lemma takesRun_separators (hsep : g.isOf Json.isSeparator = true) :
    TakesRun p fuel pieces (g :: gs) := by
  obtain ⟨run, gs', q, rfl, hq, hblanks⟩ := quotedBlanks_separators hkept hsep hrest
  obtain ⟨hchars, hchar⟩ := Glyph.chars_of_isOf hsep
  have hbreak := Json.isBreak_of_isSeparator hchar
  refine ⟨g :: run, gs', q, rfl, List.cons_ne_nil _ _, ⟨?_, fun h => ?_⟩, ?_⟩
  · rw [hrest, hq, ← List.cons_append, List.flatMap_append, List.append_assoc]
  · have := h g.char (by simp [hchars])
    rw [hbreak] at this
    cases this
  · have hnext : p.next? = some g.char := by
      rw [Position.next?, hrest, List.flatMap_cons, hchars]
      rfl
    have hne : g.char ≠ '"' ∧ g.char ≠ '\\' ∧ g.char ≠ '\'' := by
      refine ⟨?_, ?_, ?_⟩ <;> intro h <;> rw [h] at hchar <;> cases hchar
    rw [quotedPieces, hnext]
    dsimp only
    rw [if_neg (by simp [isQuotable, hbreak]), if_neg hne.1, if_neg (by simp [hne]),
      if_neg (by simp [hne]), hblanks]
    rfl

/-- Spaces are no blanks that are left out, because there is no break behind them. -/
lemma takesRun_spaces (hg : g.char = ' ') (hgap : g.isOf isGap = true) :
    TakesRun p fuel pieces (g :: gs) := by
  obtain ⟨run, gs', q, hgs, hne, hgaps, hpass, htaken⟩ :=
    exists_run (by decide) (by decide) (fun _ => not_isBreak_of_isGap) hgap hrest
  refine ⟨run, gs', q, hgs, hne, hpass, ?_⟩
  have hrest' : q.rest = gs'.flatMap Glyph.chars ++ '"' :: t := by
    refine hpass.rest_eq ?_
    rw [hrest, hgs, List.flatMap_append, List.append_assoc]
  obtain ⟨d, hd, hdbreak⟩ : ∃ d, q.next? = some d ∧ isBreak d = false := by
    rw [hgs] at hkept
    obtain hnext | ⟨g', gs'', rfl, hsep⟩ := exists_next (Json.areKept_right hkept) hrest'
    · exact hnext
    · rw [Json.head?_of_blanks hkept hne hgaps] at hsep
      cases hsep
  have hblanks : quotedBlanks p = .ok (run.map Glyph.char, q) := by
    rw [quotedBlanks, htaken]
    dsimp only
    rw [hd]
    dsimp only
    rw [if_neg (by simp [hdbreak])]
    rfl
  have hnext : p.next? = some ' ' := by
    rw [Position.next?, hrest, List.flatMap_cons, (Glyph.chars_of_isOf hgap).1, hg]
    rfl
  rw [quotedPieces, hnext]
  dsimp only
  rw [if_neg (by decide), if_neg (by decide), if_neg (by decide), if_neg (by decide), hblanks]
  rfl

/-- **A run is what stands for itself, or spaces, or separators, or one other character.** -/
lemma quotedPieces_run : TakesRun p fuel pieces (g :: gs) := by
  cases hsep : g.isOf Json.isSeparator with
  | true => exact takesRun_separators fuel pieces hkept hrest hsep
  | false =>
    have hplain := Glyph.isPlain_of_isKept (Bool.and_eq_true_iff.1 hkept).1 hsep
    have hrest' : p.rest = g.chars ++ (gs.flatMap Glyph.chars ++ '"' :: t) := by
      rw [hrest, List.flatMap_cons, List.append_assoc]
    by_cases hescape : ∀ keep, g.isOf keep = false
    · obtain ⟨hnext, q, hread, hcross⟩ := quotedEscape_glyph hplain hescape hrest'
      refine .alone fuel pieces (.of_crosses hcross) ?_
      rw [quotedPieces, hnext]
      dsimp only
      rw [if_neg (by decide), if_neg (by decide), if_pos (by decide), hread]
      rfl
    cases g with
    | plain c hcontrol hquote hslash =>
      have hnext : p.next? = some c := by rw [Position.next?, hrest']; rfl
      by_cases hquotable : isQuotable c = true
      · obtain ⟨run, gs', q, hgs, hne, -, hpass, htaken⟩ :=
          exists_run (by decide) (by decide) (fun _ => not_isBreak_of_isQuotable)
            (show (Glyph.plain c hcontrol hquote hslash).isOf isQuotable = true from hquotable) hrest
        refine ⟨run, gs', q, hgs, hne, hpass, ?_⟩
        rw [quotedPieces, hnext]
        dsimp only
        rw [if_pos hquotable, htaken]
      · obtain ⟨-, hbreak⟩ := Bool.and_eq_true_iff.1 hplain
        have hgap : c = '\'' ∨ c = ' ' := by
          have htab : c ≠ '\t' := by rintro rfl; exact absurd hcontrol (by decide)
          simpa [isQuotable, isGap, hquote, hslash, htab, (Bool.not_eq_true' _).mp hbreak,
            Classical.or_iff_not_imp_left] using hquotable
        obtain rfl | rfl := hgap
        · refine .alone fuel pieces (.advance hrest') ?_
          rw [quotedPieces, hnext]
          dsimp only
          rw [if_neg (by decide), if_neg (by decide), if_neg (by decide), if_pos (by decide)]
          rfl
        · exact takesRun_spaces fuel pieces hkept hrest rfl rfl
    | _ => exact absurd (fun keep => rfl) hescape

end Runs

/-- **A JSON text is read as a quoted text.**  Its characters are taken in runs: those that stand for
themselves, spaces, separators, single quotes, and escapes one by one. -/
lemma quotedPieces_glyphs {gs : List Glyph} (hkept : areKept gs = true)
    {fuel : Nat} (hfuel : gs.length < fuel) (pieces : List (List Char))
    (hrest : p.rest = gs.flatMap Glyph.chars ++ '"' :: t) :
    ∃ q, quotedPieces '"' fuel pieces p = .ok (joinPieces pieces ++ gs.map Glyph.char, q) ∧
      p.Passes (gs.flatMap Glyph.chars ++ ['"']) q := by
  induction h : gs.length using Nat.strongRecOn generalizing gs fuel pieces p with
  | ind n ih =>
    obtain ⟨fuel, rfl⟩ : ∃ m, fuel = m + 1 := ⟨fuel - 1, by omega⟩
    cases gs with
    | nil =>
      have hnext : p.next? = some '"' := by rw [Position.next?, hrest]; rfl
      refine ⟨p.advance, ?_, .advance hrest⟩
      rw [quotedPieces, hnext]
      dsimp only
      rw [if_neg (by decide), if_pos rfl, if_neg (by simp), List.map_nil, List.append_nil]
      rfl
    | cons g gs =>
      obtain ⟨run, gs', q, hgs, hne, hq, hrun⟩ := quotedPieces_run fuel pieces hkept hrest
      have hlength : gs'.length < (g :: gs).length := by
        have := List.length_pos_iff.2 hne
        rw [hgs, List.length_append]
        omega
      have hrest' : q.rest = gs'.flatMap Glyph.chars ++ '"' :: t := by
        refine hq.rest_eq ?_
        rw [hrest, hgs, List.flatMap_append, List.append_assoc]
      obtain ⟨r, hr, hpass⟩ := ih gs'.length (h ▸ hlength) (Json.areKept_right (hgs ▸ hkept))
        (show gs'.length < fuel by omega) (run.map Glyph.char :: pieces) hrest' rfl
      refine ⟨r, ?_, ?_⟩
      · rw [hrun, hr, joinPieces_cons, hgs, List.map_append, List.append_assoc]
      · rw [hgs, List.flatMap_append, List.append_assoc]
        exact hq.trans hpass

/-- The same with the quotes. -/
lemma quotedText_glyphs {gs : List Glyph} (hkept : areKept gs = true)
    (hrest : p.rest = quoted gs ++ t) :
    ∃ q, quotedText '"' p = .ok (gs.map Glyph.char, q) ∧ p.Passes (quoted gs) q := by
  have hfirst : p.Passes ['"'] p.advance := .advance hrest
  have hrest' : p.advance.rest = gs.flatMap Glyph.chars ++ '"' :: t :=
    hfirst.rest_eq (by rw [hrest]; simp [quoted])
  have hfuel : gs.length < p.rest.length + 1 := by
    have := Glyph.length_le_chars gs
    have := congrArg List.length hrest
    simp only [quoted, List.length_append, List.length_cons] at this
    omega
  obtain ⟨q, hq, hpass⟩ := quotedPieces_glyphs hkept hfuel [] hrest'
  exact ⟨q, hq, hfirst.trans hpass⟩

/-! ## Plain texts -/

open Position (AreGaps Begins)

/-- What stands here ends a value between brackets. -/
def Stops (t : List Char) : Prop := ∃ c s, t = c :: s ∧ (c = ',' ∨ c = ']' ∨ c = '\x7d')

/-- Whether a character can stand in a number or in the name of a constant. -/
def isWordChar (c : Char) : Bool := c.isAlphanum || c = '+' || c = '-' || c = '.'

variable {u w : List Char}

lemma Stops.begins (h : Stops t) : Begins t := by
  obtain ⟨c, s, rfl, rfl | rfl | rfl⟩ := h <;> rintro d ⟨⟩ <;> decide

/-- No line that begins or ends a document comes next. -/
lemma atSeparator_eq_false (h : ∀ c ∈ p.rest.head?, c ≠ '-' ∧ c ≠ '.') : p.atSeparator = false := by
  unfold Position.atSeparator
  split
  · next a b c rest hrest =>
    obtain ⟨hhyphen, hpoint⟩ := h a (by rw [hrest]; rfl)
    simp [hhyphen, hpoint]
  · rfl

lemma atSeparator_gaps (hu : AreGaps u) (ht : Stops t) (hrest : p.rest = u ++ t) :
    p.atSeparator = false := by
  refine atSeparator_eq_false ?_
  rw [hrest]
  cases u with
  | nil => obtain ⟨c, s, rfl, rfl | rfl | rfl⟩ := ht <;> rintro d ⟨⟩ <;> decide
  | cons c u =>
    rintro d ⟨⟩
    obtain rfl | rfl | rfl := hu c List.mem_cons_self <;> decide

/-- Blanks over several lines are passed. -/
lemma plainBreaks_gaps (ht : Stops t) (fuel : Nat) (hfuel : u.length < fuel) (hu : AreGaps u)
    (breaks : List Char) (hrest : p.rest = u ++ t) :
    ∃ more q, plainBreaks fuel breaks p = (some more, q) ∧ q.rest = t := by
  induction fuel generalizing u breaks p with
  | zero => exact absurd hfuel (Nat.not_lt_zero _)
  | succ fuel ih =>
    obtain ⟨spaces, v, rfl, hcross, -, hv⟩ := Position.skipSpaces_gaps hu ht.begins hrest
    have hv' : AreGaps v := fun c hc => hu c (List.mem_append_right _ hc)
    have hrest' : p.skipSpaces.rest = v ++ t :=
      hcross.rest_eq (hrest.trans (List.append_assoc _ _ _))
    rw [plainBreaks]
    obtain rfl | ⟨c, x, rfl, hc⟩ := hv
    · rw [Position.lineBreak_of_begins (by rw [hrest']; exact ht.begins)]
      exact ⟨breaks, _, rfl, hrest'⟩
    · obtain ⟨y, q, hbreak, hq, hy, hlength⟩ := Position.lineBreak_of_gaps hc
        (fun d hd => hv' d (List.mem_cons_of_mem _ hd)) ht.begins hrest'
      rw [hbreak]
      dsimp only
      rw [if_neg (by simp [atSeparator_gaps hy ht hq])]
      refine ih ?_ hy _ hq
      simp only [List.length_append, List.length_cons] at hfuel
      omega

/-- The blanks behind a word are passed. -/
lemma plainBlanks_gaps (ht : Stops t) (hu : AreGaps u) (hrest : p.rest = u ++ t) :
    ∃ blanks ended q, plainBlanks p = (blanks, ended, q) ∧ q.rest = t := by
  obtain ⟨spaces, v, rfl, hcross, htaken, hv⟩ := Position.skipSpaces_gaps hu ht.begins hrest
  have hv' : AreGaps v := fun c hc => hu c (List.mem_append_right _ hc)
  have hrest' : p.skipSpaces.rest = v ++ t :=
    hcross.rest_eq (hrest.trans (List.append_assoc _ _ _))
  rw [plainBlanks, htaken]
  dsimp only
  obtain rfl | ⟨c, x, rfl, hc⟩ := hv
  · rw [Position.lineBreak_of_begins (by rw [hrest']; exact ht.begins)]
    exact ⟨_, _, _, rfl, hrest'⟩
  · obtain ⟨y, q, hbreak, hq, hy, hlength⟩ := Position.lineBreak_of_gaps hc
      (fun d hd => hv' d (List.mem_cons_of_mem _ hd)) ht.begins hrest'
    obtain ⟨more, r, hmore, hr⟩ := plainBreaks_gaps ht (q.rest.length + 1)
      (by rw [hq, List.length_append]; omega) hy [] hq
    rw [hbreak]
    dsimp only
    rw [if_neg (by simp [atSeparator_gaps hy ht hq]), hmore]
    exact ⟨_, _, _, rfl, hr⟩

/-- The characters that end a word or have a meaning of their own in front of one. -/
def specials : List Char :=
  [' ', '\t', '\n', '\r', '\x85', '\u2028', '\u2029', ':', '#', ',', '?', '[', ']', '\x7b',
   '\x7d', '"', '%', '&', '*', '!', '|', '>', '\'', '@', '`']

lemma ne_of_isWordChar {c : Char} (h : isWordChar c = true) : ∀ d ∈ specials, c ≠ d := by
  have hspecials : ∀ d ∈ specials, isWordChar d = false := List.all_iff_forall_prop.1 (by decide)
  rintro d hd rfl
  rw [hspecials c hd] at h
  cases h

/-- A word ends where blanks begin or the value does. -/
lemma plainLength_word (hw : ∀ c ∈ w, isWordChar c = true)
    (hv : ∀ c ∈ u.head?, (isGap c || isBreak c || isFlowIndicator c) = true) :
    plainLength true (w ++ u) = w.length := by
  induction w with
  | nil =>
    cases u with
    | nil => rfl
    | cons c u =>
      have hend := hv c rfl
      rw [List.nil_append, plainLength, if_pos]
      · rfl
      · simp only [Bool.or_eq_true] at hend
        simp only [Bool.true_and, Bool.or_eq_true]
        exact hend.imp_left .inl
  | cons c w ih =>
    obtain ⟨hc, hw⟩ := List.forall_mem_cons.1 hw
    have hne := ne_of_isWordChar hc
    simp only [specials, List.forall_mem_cons] at hne
    rw [List.cons_append, plainLength, if_neg, ih hw]
    · rfl
    · simp [isGap, isBreak, isFlowIndicator, hne]

/-- **A word is read as a plain text**, together with the blanks behind it. -/
lemma plainText_word (parent : Int) (hne : w ≠ []) (hw : ∀ c ∈ w, isWordChar c = true)
    (hu : AreGaps u) (ht : Stops t) (hrest : p.rest = w ++ (u ++ t)) :
    ∃ ended q, plainText true parent p = (w, ended, q) ∧ q.rest = t := by
  have hend : ∀ c ∈ (u ++ t).head?, (isGap c || isBreak c || isFlowIndicator c) = true := by
    cases u with
    | nil => obtain ⟨c, s, rfl, rfl | rfl | rfl⟩ := ht <;> rintro d ⟨⟩ <;> decide
    | cons c u => rintro d ⟨⟩; obtain rfl | rfl | rfl := hu c List.mem_cons_self <;> decide
  have hstop : ∀ q : Position, q.rest = t → plainLength true q.rest = 0 := by
    intro q hq
    rw [hq]
    obtain ⟨c, s, rfl, rfl | rfl | rfl⟩ := ht <;> rfl
  have hlength : plainLength true p.rest = w.length := by rw [hrest, plainLength_word hw hend]
  obtain ⟨c, w', rfl⟩ := List.exists_cons_of_ne_nil hne
  have hcomment : p.next? ≠ some '#' := by
    rw [Position.next?, hrest]
    rintro ⟨⟩
    exact absurd (hw '#' List.mem_cons_self) (by decide)
  have hafter : (p.advanceBy (c :: w').length).rest = u ++ t := by
    rw [Position.rest_advanceBy, hrest, List.drop_left]
  obtain ⟨blanks, ended, q, hblanks, hq⟩ := plainBlanks_gaps ht hu hafter
  refine ⟨ended, q, ?_, hq⟩
  have hjoin : joinPieces [c :: w', []] = c :: w' := by simp [joinPieces]
  have htake : p.rest.take (c :: w').length = c :: w' := by rw [hrest, List.take_left]
  rw [plainText, plainWords]
  dsimp only
  rw [hlength, if_neg (by simp [hcomment]), htake, hblanks]
  dsimp only
  split
  · rw [hjoin]
  · -- what stands behind the blanks is no word
    cases hfuel : p.rest.length with
    | zero => rw [plainWords, joinPieces]; simp
    | succ n =>
      rw [plainWords]
      dsimp only
      rw [hstop q hq, if_pos (.inr rfl), hjoin]

end Interpolation.Yaml
