import Interpolation.Proofs.Json.Reading

/-!
# Written documents read back

What `Json.write` writes, `Json.read?` reads as the same document, as long as it holds no float; and
outside of texts it has no blanks.  The argument is the same for each token: a written token is read
up to its end, whatever follows it, except that digits must not follow an integer.  In a document
only a comma or a closing bracket ever does (`Follows`).

* `readText_writeText`, `readNumber_toString` — texts with their escapes, and integers.
* **`read?_write`** — reading undoes writing; so documents that are written alike are the same.
* **`compact_write`** — a written document has no blanks outside of texts.
-/

namespace Interpolation.Json

/-! ## Texts -/

lemma hexValue?_hexDigit : ∀ n < 16, hexValue? (hexDigit n) = some n := by decide

/-- A control character is read back from its number. -/
lemma unit?_of_lt {n : Nat} (h : n < 0x20) :
    unit? '0' '0' (hexDigit (n / 16)) (hexDigit (n % 16)) = some n := by
  have hzero : hexValue? '0' = some 0 := by decide
  simp only [unit?, hzero, hexValue?_hexDigit _ (show n / 16 < 16 by omega),
    hexValue?_hexDigit _ (show n % 16 < 16 by omega), Option.bind_eq_bind, Option.bind_some]
  exact congrArg some (by omega)

/-- A character that is not escaped is read as it is. -/
lemma readText_cons {c : Char} (hq : c ≠ '"') (hb : c ≠ '\\') (hc : ¬ c.toNat < 0x20)
    (s : List Char) : readText (c :: s) = (readText s).map fun p => (c :: p.1, p.2) := by
  rw [readText.eq_def]
  split
  · next h => cases h
  · next h => exact absurd (List.cons.inj h).1 hq
  · next h => exact absurd (List.cons.inj h).1 hb
  · next h => exact absurd (List.cons.inj h).1 hb
  · next h =>
    obtain ⟨rfl, rfl⟩ := List.cons.inj h
    have hplain : (decide (c.toNat < 0x20) || c == '\\') = false := by simp [hc, hb]
    rw [hplain]
    cases readText s <;> rfl

/-- A written character is read back. -/
lemma readText_writeChar (c : Char) (s : List Char) :
    readText (writeChar c ++ s) = (readText s).map fun p => (c :: p.1, p.2) := by
  rw [writeChar.eq_def]
  split
  iterate 7
    · rw [List.cons_append, List.cons_append, List.nil_append, readText]
      · cases readText s <;> rfl
      · exact fun _ _ _ _ _ h => absurd h (by decide)
  · split
    · next hc =>
      have hhigh : isHighUnit c.toNat = false := by
        simp only [isHighUnit, Bool.and_eq_false_iff, decide_eq_false_iff_not]; omega
      have hlow : isLowUnit c.toNat = false := by
        simp only [isLowUnit, Bool.and_eq_false_iff, decide_eq_false_iff_not]; omega
      simp only [List.cons_append, List.nil_append, readText, unit?_of_lt hc, hhigh, hlow,
        Option.bind_eq_bind, Option.bind_some, Bool.false_eq_true, if_false, Char.ofNat_toNat]
      cases readText s <;> rfl
    · next hq hb _ _ _ _ _ hc =>
      exact readText_cons hq hb hc s

/-- **A written text is read back**, and reading stops behind its closing quote. -/
theorem readText_writeText (s rest : List Char) :
    readText (s.flatMap writeChar ++ '"' :: rest) = some (s, rest) := by
  induction s with
  | nil => rw [List.flatMap_nil, List.nil_append, readText]
  | cons c s ih => rw [List.flatMap_cons, List.append_assoc, readText_writeChar, ih]; rfl

/-! ## What stands behind a document -/

/-- What can follow a document inside of another one: nothing, a comma or a closing bracket. -/
def Follows (rest : List Char) : Prop := ∀ c ∈ rest.head?, c = ',' ∨ c = ']' ∨ c = '\x7d'

lemma follows_nil : Follows [] := by rintro c ⟨⟩

lemma follows_cons {c : Char} {s : List Char} (h : c = ',' ∨ c = ']' ∨ c = '\x7d') :
    Follows (c :: s) := by rintro d ⟨⟩; exact h

lemma skipSpace_cons {c : Char} {s : List Char} (h : isSpace c = false) :
    skipSpace (c :: s) = c :: s := List.dropWhile_cons_of_neg (by rw [h]; decide)

/-! ## Numbers -/

/-- A number is written with at least one digit. -/
lemma toDigits_eq_cons (n : Nat) : ∃ c s, Nat.toDigits 10 n = c :: s ∧ c.isDigit = true := by
  cases hd : Nat.toDigits 10 n with
  | nil => exact absurd hd Nat.toDigits_ne_nil
  | cons c s =>
    exact ⟨c, s, rfl, Nat.isDigit_of_mem_toDigits (by decide) (by decide)
      (hd ▸ List.mem_cons_self)⟩

/-- A positive number is written without a zero in front. -/
lemma head_toDigits_ne_zero (n : Nat) (h : 0 < n) : (Nat.toDigits 10 n).head? ≠ some '0' := by
  induction n using Nat.strongRecOn with
  | ind n ih =>
    rw [Nat.toDigits_eq_if (by decide)]
    split
    · next hn =>
      have hdigit : ∀ d < 10, 0 < d → [Nat.digitChar d].head? ≠ some '0' := by decide
      exact hdigit n hn h
    · rw [List.head?_append_of_ne_nil _ Nat.toDigits_ne_nil]
      exact ih (n / 10) (by omega) (by omega)

lemma takeWhile_toDigits {n : Nat} {rest : List Char} (h : Follows rest) :
    (Nat.toDigits 10 n ++ rest).takeWhile Char.isDigit = Nat.toDigits 10 n ∧
      (Nat.toDigits 10 n ++ rest).dropWhile Char.isDigit = rest := by
  have hdigits : ∀ c ∈ Nat.toDigits 10 n, c.isDigit = true :=
    fun c hc => Nat.isDigit_of_mem_toDigits (by decide) (by decide) hc
  rw [List.takeWhile_append_of_pos hdigits, List.dropWhile_append_of_pos hdigits]
  cases rest with
  | nil => simp
  | cons c rest =>
    have hc : c.isDigit = false := by rcases h c rfl with rfl | rfl | rfl <;> decide
    simp [hc]

/-- A natural number is read back, with the sign in front of it. -/
lemma readMagnitude_toDigits (negative : Bool) (n : Nat) {rest : List Char} (h : Follows rest) :
    readMagnitude negative (Nat.toDigits 10 n ++ rest) =
      some (.int (if negative then -(n : Int) else n), rest) := by
  have hread : readDigits (Nat.toDigits 10 n ++ rest) = some (Nat.toDigits 10 n, rest) := by
    obtain ⟨htake, hdrop⟩ := takeWhile_toDigits (n := n) h
    rw [readDigits, htake, hdrop]
    split
    · next hnil => exact absurd hnil Nat.toDigits_ne_nil
    · rfl
  have hzero : ¬((Nat.toDigits 10 n).head? = some '0' ∧ (Nat.toDigits 10 n).length ≠ 1) := by
    rintro ⟨hhead, hlength⟩
    rcases Nat.eq_zero_or_pos n with rfl | hn
    · exact hlength rfl
    · exact head_toDigits_ne_zero n hn hhead
  have hfraction : readFraction rest = some ([], rest) := by
    rw [readFraction.eq_def]
    split
    · next s => rcases h '.' rfl with h | h | h <;> exact absurd h (by decide)
    · rfl
  have hexponent : readExponent rest = some (none, rest) := by
    cases rest with
    | nil => rfl
    | cons c rest =>
      have hc : ¬(c = 'e' ∨ c = 'E') := by rcases h c rfl with rfl | rfl | rfl <;> decide
      rw [readExponent.eq_def]
      exact if_neg hc
  simp only [readMagnitude, hread, hfraction, hexponent, if_neg hzero, Option.bind_eq_bind,
    Option.bind_some, Nat.ofDigitChars_ten_toDigits]
  rfl

/-- A character that integers are written with: a sign or a digit. -/
def IsNumeral (c : Char) : Prop := c = '-' ∨ c.isDigit = true

instance (c : Char) : Decidable (IsNumeral c) := inferInstanceAs (Decidable (_ ∨ _))

lemma IsNumeral.ne {c d : Char} (hc : IsNumeral c) (hd : ¬IsNumeral d) : c ≠ d := by
  rintro rfl
  exact hd hc

lemma IsNumeral.not_space {c : Char} (hc : IsNumeral c) : isSpace c = false := by
  simp only [isSpace, Bool.or_eq_false_iff, beq_eq_false_iff_ne]
  exact ⟨⟨⟨hc.ne (by decide), hc.ne (by decide)⟩, hc.ne (by decide)⟩, hc.ne (by decide)⟩

lemma isNumeral_of_mem_toString {n : Int} {c : Char} (hc : c ∈ (toString n).toList) :
    IsNumeral c := by
  have hdigit : ∀ m : Nat, c ∈ m.repr.toList → IsNumeral c := fun m hm =>
    .inr (Nat.isDigit_of_mem_toDigits (by decide) (by decide) (Nat.toList_repr ▸ hm))
  rw [Int.toString_eq_repr, Int.repr_eq_if] at hc
  split at hc
  · exact hdigit _ hc
  · rw [String.toList_append, List.mem_append] at hc
    rcases hc with hc | hc
    · exact .inl (List.mem_singleton.1 hc)
    · exact hdigit _ hc

/-- A written integer begins with its sign or a digit. -/
lemma toString_eq_cons (n : Int) : ∃ c s, (toString n).toList = c :: s ∧ IsNumeral c := by
  cases hn : (toString n).toList with
  | nil =>
    rw [Int.toString_eq_repr, Int.repr_eq_if] at hn
    split at hn
    · exact absurd (Nat.toList_repr ▸ hn) Nat.toDigits_ne_nil
    · rw [String.toList_append] at hn
      exact absurd hn (by simp)
  | cons c s => exact ⟨c, s, rfl, isNumeral_of_mem_toString (hn ▸ List.mem_cons_self)⟩

/-- **A written integer is read back.** -/
theorem readNumber_toString (n : Int) {rest : List Char} (h : Follows rest) :
    readNumber ((toString n).toList ++ rest) = some (.int n, rest) := by
  rw [Int.toString_eq_repr, Int.repr_eq_if]
  split
  · next hn =>
    have hread := readMagnitude_toDigits false n.toNat h
    rw [if_neg (by decide), Int.toNat_of_nonneg hn] at hread
    rw [Nat.toList_repr, readNumber.eq_def]
    split
    · next s hs =>
      obtain ⟨c, ds, hd, hc⟩ := toDigits_eq_cons n.toNat
      rw [hd] at hs
      cases hs
      exact absurd hc (by decide)
    · exact hread
  · next hn =>
    have hread := readMagnitude_toDigits true (-n).toNat h
    rw [if_pos rfl, Int.toNat_of_nonneg (by omega), Int.neg_neg] at hread
    rw [String.toList_append, Nat.toList_repr]
    exact hread

/-! ## Documents -/

mutual

/-- A document that holds no float at any depth. -/
def IsExact : Json → Prop
  | .float _ => False
  | .array items => AreExact items
  | .object entries => HaveExact entries
  | _ => True

/-- Items that hold no float. -/
def AreExact : List Json → Prop
  | [] => True
  | j :: js => j.IsExact ∧ AreExact js

/-- Entries that hold no float. -/
def HaveExact : List (String × Json) → Prop
  | [] => True
  | (_, j) :: es => j.IsExact ∧ HaveExact es

end

/-- A document begins neither with a blank nor with the end of an array. -/
lemma writeChars_eq_cons {j : Json} (h : j.IsExact) :
    ∃ c s, j.writeChars = c :: s ∧ isSpace c = false ∧ c ≠ ']' := by
  cases j with
  | null => exact ⟨'n', _, rfl, by decide, by decide⟩
  | bool b =>
    cases b
    · exact ⟨'f', _, rfl, by decide, by decide⟩
    · exact ⟨'t', _, rfl, by decide, by decide⟩
  | int n =>
    obtain ⟨c, s, hn, hc⟩ := toString_eq_cons n
    exact ⟨c, s, hn, hc.not_space, hc.ne (by decide)⟩
  | float x => exact h.elim
  | str s => exact ⟨'"', _, rfl, by decide, by decide⟩
  | array items => exact ⟨'[', _, rfl, by decide, by decide⟩
  | object entries => exact ⟨'\x7b', _, rfl, by decide, by decide⟩

/-- What begins with a sign or a digit is read as a number. -/
lemma readValue_number {c : Char} (hc : IsNumeral c) (fuel : Nat) (s : List Char) :
    readValue (fuel + 1) (c :: s) = readNumber (c :: s) := by
  rw [readValue, skipSpace_cons hc.not_space]
  split
  iterate 6
    · next hs => exact absurd (List.cons.inj hs).1 (hc.ne (by decide))
  rfl

/-- Behind an opening bracket the array ends, or its items follow. -/
lemma readValue_bracket (fuel : Nat) (s : List Char) :
    readValue (fuel + 1) ('[' :: s) =
      match skipSpace s with
      | ']' :: s => some (array [], s)
      | s => (readItems fuel s).map fun (js, rest) => (array js, rest) := rfl

/-- An array that does not end at once is read item by item. -/
lemma readValue_array {c : Char} (hspace : isSpace c = false) (hne : c ≠ ']') (fuel : Nat)
    (s : List Char) :
    readValue (fuel + 1) ('[' :: c :: s) =
      (readItems fuel (c :: s)).map fun (js, rest) => (array js, rest) := by
  rw [readValue_bracket, skipSpace_cons hspace]
  split
  · next hs => exact absurd (List.cons.inj hs).1 hne
  · rfl

/-- An entry is read, and then what stands behind it decides. -/
lemma readEntries_step {s t u key colon rest : List Char} {j : Json} {fuel : Nat}
    (hquote : skipSpace s = '"' :: t) (hkey : readText t = some (key, colon))
    (hcolon : skipSpace colon = ':' :: u) (h : readValue fuel u = some (j, rest)) :
    readEntries (fuel + 1) s =
      match skipSpace rest with
      | '\x7d' :: s => some ([(String.ofList key, j)], s)
      | ',' :: s => (readEntries fuel s).map fun (es, rest) => ((String.ofList key, j) :: es, rest)
      | _ => none := by
  rw [readEntries, hquote]
  show (readText t).bind _ = _
  rw [hkey, Option.bind_some]
  dsimp only
  rw [hcolon]
  show (readValue fuel u).bind _ = _
  rw [h, Option.bind_some]
  dsimp only
  generalize skipSpace rest = behind
  split
  · rfl
  · next s =>
    show _ = (readEntries fuel s).map _
    cases readEntries fuel s <;> rfl
  · simp

lemma readEntries_entry (k : String) {j : Json} {fuel : Nat} {rest : List Char}
    (h : readValue fuel (j.writeChars ++ rest) = some (j, rest)) :
    readEntries (fuel + 1) (writeText k.toList ++ ':' :: (j.writeChars ++ rest)) =
      match skipSpace rest with
      | '\x7d' :: s => some ([(k, j)], s)
      | ',' :: s => (readEntries fuel s).map fun (es, rest) => ((k, j) :: es, rest)
      | _ => none := by
  have hkey := readText_writeText k.toList (':' :: (j.writeChars ++ rest))
  have hread := readEntries_step (skipSpace_cons (by decide)) hkey (skipSpace_cons (by decide)) h
  rw [String.ofList_toList] at hread
  rw [writeText, List.append_assoc]
  exact hread

mutual

/-- A written document is read back, with enough fuel. -/
theorem readValue_writeChars (j : Json) (h : j.IsExact) (fuel : Nat) (rest : List Char)
    (hf : 2 * j.writeChars.length + 1 ≤ fuel) (hrest : Follows rest) :
    readValue fuel (j.writeChars ++ rest) = some (j, rest) := by
  obtain _ | fuel := fuel
  · omega
  match j with
  | .null => rfl
  | .bool b => cases b <;> rfl
  | .int n =>
    obtain ⟨c, s, hn, hc⟩ := toString_eq_cons n
    have hread := readNumber_toString n hrest
    rw [hn] at hread
    rw [writeChars, hn]
    exact (readValue_number hc fuel _).trans hread
  | .float x => exact h.elim
  | .str s =>
    have hread := readText_writeText s.toList rest
    rw [writeChars, writeText, List.append_assoc]
    show (readText (s.toList.flatMap writeChar ++ '"' :: rest)).map _ = _
    rw [hread]
    show some (str (String.ofList s.toList), rest) = _
    rw [String.ofList_toList]
  | .array [] => rfl
  | .array (j :: js) =>
    obtain ⟨c, s, hs, hspace, hne⟩ := writeChars_eq_cons h.1
    have hitems : ∃ s, writeItems (j :: js) = c :: s := by
      cases js with
      | nil => exact ⟨_, by rw [writeItems, hs, List.cons_append]⟩
      | cons k js => exact ⟨_, by rw [writeItems, hs, List.cons_append]⟩
    obtain ⟨s, hitems⟩ := hitems
    have hread := readItems_writeItems (j :: js) (by simp) h fuel rest
      (by rw [writeChars, List.length_cons] at hf; omega)
    rw [hitems] at hread
    rw [writeChars, hitems]
    exact (readValue_array hspace hne fuel _).trans (congrArg (Option.map _) hread)
  | .object [] => rfl
  | .object (e :: es) =>
    have hread := readEntries_writeEntries (e :: es) (by simp) h fuel rest
      (by rw [writeChars, List.length_cons] at hf; omega)
    obtain ⟨s, hentries⟩ : ∃ s, writeEntries (e :: es) = '"' :: s := by
      cases es <;> exact ⟨_, rfl⟩
    rw [hentries] at hread
    rw [writeChars, hentries]
    exact congrArg (Option.map _) hread

/-- Written items are read back, with enough fuel. -/
theorem readItems_writeItems (js : List Json) (hne : js ≠ []) (h : AreExact js) (fuel : Nat)
    (rest : List Char) (hf : 2 * (writeItems js).length + 2 ≤ fuel) :
    readItems fuel (writeItems js ++ rest) = some (js, rest) := by
  obtain _ | fuel := fuel
  · omega
  match js with
  | [] => exact absurd rfl hne
  | [j] =>
    rw [writeItems, List.length_append] at hf
    have hread := readValue_writeChars j h.1 fuel (']' :: rest) (by omega)
      (follows_cons (by decide))
    rw [writeItems, List.append_assoc, readItems]
    show (readValue fuel (j.writeChars ++ ']' :: rest)).bind _ = _
    rw [hread]
    rfl
  | j :: k :: js =>
    rw [writeItems, List.length_append, List.length_cons] at hf
    have hread := readValue_writeChars j h.1 fuel (',' :: (writeItems (k :: js) ++ rest))
      (by omega) (follows_cons (by decide))
    have hitems := readItems_writeItems (k :: js) (by simp) h.2 fuel rest (by omega)
    rw [writeItems, List.append_assoc, readItems]
    show (readValue fuel (j.writeChars ++ ',' :: (writeItems (k :: js) ++ rest))).bind _ = _
    rw [hread]
    show (readItems fuel (writeItems (k :: js) ++ rest)).bind _ = _
    rw [hitems]
    rfl

/-- Written entries are read back, with enough fuel. -/
theorem readEntries_writeEntries (es : List (String × Json)) (hne : es ≠ [])
    (h : HaveExact es) (fuel : Nat) (rest : List Char)
    (hf : 2 * (writeEntries es).length + 2 ≤ fuel) :
    readEntries fuel (writeEntries es ++ rest) = some (es, rest) := by
  obtain _ | fuel := fuel
  · omega
  match es with
  | [] => exact absurd rfl hne
  | [(k, j)] =>
    rw [writeEntries, List.length_append, List.length_append, List.length_cons] at hf
    have hread := readValue_writeChars j h.1 fuel ('\x7d' :: rest) (by omega)
      (follows_cons (by decide))
    rw [writeEntries, List.append_assoc, List.append_assoc]
    exact readEntries_entry k hread
  | (k, j) :: e :: es =>
    rw [writeEntries, List.length_append, List.length_append, List.length_cons,
      List.length_cons] at hf
    have hread := readValue_writeChars j h.1 fuel (',' :: (writeEntries (e :: es) ++ rest))
      (by omega) (follows_cons (by decide))
    have hentries := readEntries_writeEntries (e :: es) (by simp) h.2 fuel rest (by omega)
    rw [writeEntries, List.append_assoc, List.append_assoc]
    exact (readEntries_entry k hread).trans (congrArg (Option.map _) hentries)

end

/-- **Reading undoes writing**, for documents that hold no float. -/
theorem read?_write {j : Json} (h : j.IsExact) : read? j.write = some j := by
  have hread := readValue_writeChars j h (2 * j.writeChars.length + 1) [] (Nat.le_refl _) follows_nil
  rw [List.append_nil] at hread
  rw [read?, write, String.toList_ofList, hread]
  rfl

/-- Documents without floats that are written alike are the same. -/
theorem write_injective {j k : Json} (hj : j.IsExact) (hk : k.IsExact) (h : j.write = k.write) :
    j = k := by
  have hread := read?_write hj
  rw [h, read?_write hk] at hread
  exact (Option.some.inj hread).symm

/-! ## Blanks -/

/-- A text that has no blanks outside of the texts between its quotes. -/
def Compact (s : List Char) : Prop := ∀ c ∈ outsideTexts s, isSpace c = false

lemma compact_nil : Compact [] := by
  intro c hc
  rw [outsideTexts] at hc
  exact absurd hc List.not_mem_nil

lemma compact_cons {c : Char} {s : List Char} (hquote : c ≠ '"') (hspace : isSpace c = false)
    (h : Compact s) : Compact (c :: s) := by
  intro d hd
  rw [outsideTexts, if_neg hquote, List.mem_cons] at hd
  rcases hd with rfl | hd
  · exact hspace
  · exact h d hd

/-- Letters, digits and signs in front of a text add no blanks. -/
lemma compact_append {l s : List Char} (hl : ∀ c ∈ l, c ≠ '"' ∧ isSpace c = false)
    (h : Compact s) : Compact (l ++ s) := by
  induction l with
  | nil => exact h
  | cons c l ih =>
    obtain ⟨hquote, hspace⟩ := hl c List.mem_cons_self
    exact compact_cons hquote hspace (ih fun d hd => hl d (List.mem_cons_of_mem c hd))

/-- A written character does not end the text that it stands in. -/
lemma insideText_writeChar (c : Char) (s : List Char) :
    insideText (writeChar c ++ s) = insideText s := by
  rw [writeChar.eq_def]
  split
  iterate 7
    · rfl
  · split
    · next hc =>
      have hhex : ∀ n < 16, hexDigit n ≠ '"' ∧ hexDigit n ≠ '\\' := by decide
      obtain ⟨hquote, hback⟩ := hhex (c.toNat / 16) (by omega)
      obtain ⟨hquote', hback'⟩ := hhex (c.toNat % 16) (by omega)
      simp [insideText, hquote, hquote', hback, hback']
    · next hquote hback _ _ _ _ _ _ =>
      rw [List.cons_append, List.nil_append, insideText, if_neg hquote]
      exact fun _ _ hc _ => hback hc

/-- A written text adds no blanks. -/
lemma compact_writeText (t : List Char) {s : List Char} (h : Compact s) :
    Compact (writeText t ++ s) := by
  have hinside : ∀ t : List Char, insideText (t.flatMap writeChar ++ '"' :: s) = outsideTexts s := by
    intro t
    induction t with
    | nil => simp [insideText]
    | cons c t ih => rw [List.flatMap_cons, List.append_assoc, insideText_writeChar, ih]
  intro c hc
  rw [writeText, List.append_assoc] at hc
  exact h c (by rw [← hinside t]; exact hc)

mutual

/-- A written document adds no blanks. -/
lemma compact_writeChars (j : Json) (hj : j.IsExact) {s : List Char} (h : Compact s) :
    Compact (j.writeChars ++ s) := by
  match j with
  | .null =>
    show Compact (['n', 'u', 'l', 'l'] ++ s)
    exact compact_append (by simp [isSpace]) h
  | .bool true =>
    show Compact (['t', 'r', 'u', 'e'] ++ s)
    exact compact_append (by simp [isSpace]) h
  | .bool false =>
    show Compact (['f', 'a', 'l', 's', 'e'] ++ s)
    exact compact_append (by simp [isSpace]) h
  | .int n =>
    refine compact_append (fun c hc => ?_) h
    have hc := isNumeral_of_mem_toString hc
    exact ⟨hc.ne (by decide), hc.not_space⟩
  | .float x => exact hj.elim
  | .str t => exact compact_writeText t.toList h
  | .array js => exact compact_cons (by decide) (by decide) (compact_writeItems js hj h)
  | .object es => exact compact_cons (by decide) (by decide) (compact_writeEntries es hj h)

/-- Written items add no blanks. -/
lemma compact_writeItems (js : List Json) (hjs : AreExact js) {s : List Char} (h : Compact s) :
    Compact (writeItems js ++ s) := by
  match js with
  | [] => exact compact_cons (by decide) (by decide) h
  | [j] =>
    rw [writeItems, List.append_assoc]
    exact compact_writeChars j hjs.1 (compact_cons (by decide) (by decide) h)
  | j :: k :: js =>
    rw [writeItems, List.append_assoc]
    exact compact_writeChars j hjs.1
      (compact_cons (by decide) (by decide) (compact_writeItems (k :: js) hjs.2 h))

/-- Written entries add no blanks. -/
lemma compact_writeEntries (es : List (String × Json)) (hes : HaveExact es) {s : List Char}
    (h : Compact s) : Compact (writeEntries es ++ s) := by
  match es with
  | [] => exact compact_cons (by decide) (by decide) h
  | [(k, j)] =>
    rw [writeEntries, List.append_assoc, List.append_assoc]
    exact compact_writeText k.toList (compact_cons (by decide) (by decide)
      (compact_writeChars j hes.1 (compact_cons (by decide) (by decide) h)))
  | (k, j) :: e :: es =>
    rw [writeEntries, List.append_assoc, List.append_assoc]
    exact compact_writeText k.toList (compact_cons (by decide) (by decide)
      (compact_writeChars j hes.1 (compact_cons (by decide) (by decide)
        (compact_writeEntries (e :: es) hes.2 h))))

end

/-- **A written document has no blanks** outside of texts. -/
theorem compact_write {j : Json} (h : j.IsExact) : Compact j.write.toList := by
  have hcompact := compact_writeChars j h compact_nil
  rwa [List.append_nil, ← String.toList_ofList (l := j.writeChars)] at hcompact

end Interpolation.Json
