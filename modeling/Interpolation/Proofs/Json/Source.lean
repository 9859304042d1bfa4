import Interpolation.Proofs.Json.Reading

/-!
# How JSON documents are written

The reader of documents forgets how a document was written: where blanks stood, which characters were
escaped, and in which of its forms a number was given.  Other readers may depend on these things, so
here is the grammar as a syntax tree that keeps all of them.  A tree has the characters that it was
written with and the document that it stands for, and every text that the reader accepts is the text
of such a tree.

* `Blank`, `Glyph`, `Numeral` — blanks, the characters of texts, and numbers, as they are written.
* `Source`, `Padded` — a document as it is written, and the same with blanks around it.
* **`exists_padded_of_read?`** — what can be read was written as a tree says.
-/

namespace Interpolation.Json

open Interpolation.Number

/-! ## Texts -/

/-- Blanks between two tokens. -/
structure Blank where
  /-- The characters. -/
  chars : List Char
  isSpace : ∀ c ∈ chars, isSpace c = true

/-- A character, or a half of one, by its number. -/
structure CodeUnit where
  /-- The four digits. -/
  (a b c d : Char)
  /-- The number. -/
  value : Nat
  reads : unit? a b c d = some value

/-- The characters of a unit behind a backslash. -/
def CodeUnit.chars (u : CodeUnit) : List Char := ['\\', 'u', u.a, u.b, u.c, u.d]

/-- The digits of a unit, with their values. -/
lemma CodeUnit.exists_hexValue? (u : CodeUnit) :
    ∃ a b c d, hexValue? u.a = some a ∧ hexValue? u.b = some b ∧ hexValue? u.c = some c ∧
      hexValue? u.d = some d ∧ u.value = ((a * 16 + b) * 16 + c) * 16 + d := by
  have h := u.reads
  simp only [unit?, Option.bind_eq_bind, Option.bind_eq_some_iff, Option.pure_def,
    Option.some.injEq] at h
  obtain ⟨a, ha, b, hb, c, hc, d, hd, h⟩ := h
  exact ⟨a, b, c, d, ha, hb, hc, hd, h.symm⟩

/-- A character of a text, as it is written. -/
inductive Glyph where
  /-- The character itself. -/
  | plain (c : Char) (hcontrol : 0x20 ≤ c.toNat) (hquote : c ≠ '"') (hslash : c ≠ '\\')
  /-- A letter behind a backslash. -/
  | letter (c d : Char) (h : escape? c = some d)
  /-- Its number. -/
  | unit (u : CodeUnit) (hhigh : isHighUnit u.value = false) (hlow : isLowUnit u.value = false)
  /-- The numbers of the two units of a surrogate pair. -/
  | pair (u v : CodeUnit) (hhigh : isHighUnit u.value = true) (hlow : isLowUnit v.value = true)

namespace Glyph

/-- The characters that are written. -/
def chars : Glyph → List Char
  | plain c .. => [c]
  | letter c _ _ => ['\\', c]
  | unit u .. => u.chars
  | pair u v .. => u.chars ++ v.chars

/-- The character that is meant. -/
def char : Glyph → Char
  | plain c .. => c
  | letter _ d _ => d
  | unit u .. => Char.ofNat u.value
  | pair u v .. => Char.ofNat (0x10000 + (u.value - 0xd800) * 0x400 + (v.value - 0xdc00))

end Glyph

/-- A text between its quotes. -/
def quoted (gs : List Glyph) : List Char := '"' :: (gs.flatMap Glyph.chars ++ ['"'])

/-- The text that is meant. -/
def textOf (gs : List Glyph) : String := String.ofList (gs.map Glyph.char)

/-- The glyphs of the rest of a text, with one more in front. -/
lemma exists_glyphs_cons (g : Glyph) {s t rest : List Char} (h : ∃ gs : List Glyph,
    s = gs.flatMap Glyph.chars ++ '"' :: rest ∧ t = gs.map Glyph.char) :
    ∃ gs : List Glyph, g.chars ++ s = gs.flatMap Glyph.chars ++ '"' :: rest ∧
      g.char :: t = gs.map Glyph.char := by
  obtain ⟨gs, rfl, rfl⟩ := h
  exact ⟨g :: gs, by rw [List.flatMap_cons, List.append_assoc], rfl⟩

/-- A text that can be read was written with glyphs. -/
lemma exists_glyphs {s t rest : List Char} (h : readText s = some (t, rest)) :
    ∃ gs : List Glyph, s = gs.flatMap Glyph.chars ++ '"' :: rest ∧ t = gs.map Glyph.char := by
  induction s using readText.induct generalizing t with
  | case1 => rw [readText] at h; cases h
  | case2 s =>
    rw [readText] at h
    cases h
    exact ⟨[], rfl, rfl⟩
  | case3 a b c d s ihpair ih =>
    rw [readText] at h
    cases hunit : unit? a b c d with
    | none => rw [hunit] at h; cases h
    | some n =>
      let u : CodeUnit := ⟨a, b, c, d, n, hunit⟩
      rw [hunit, Option.bind_eq_bind, Option.bind_some] at h
      split at h
      · next hhigh =>
        split at h
        · next a' b' c' d' s =>
          simp only [Option.bind_eq_bind, Option.bind_eq_some_iff] at h
          obtain ⟨m, hm, h⟩ := h
          split at h
          · next hlow =>
            simp only [Option.bind_eq_some_iff] at h
            obtain ⟨⟨t', rest'⟩, hread, h⟩ := h
            cases h
            exact exists_glyphs_cons (.pair u ⟨a', b', c', d', m, hm⟩ hhigh hlow) (ihpair hread)
          · cases h
        · cases h
      · next hhigh =>
        split at h
        · cases h
        · next hlow =>
          simp only [Option.bind_eq_bind, Option.bind_eq_some_iff] at h
          obtain ⟨⟨t', rest'⟩, hread, h⟩ := h
          cases h
          exact exists_glyphs_cons (.unit u (Bool.of_not_eq_true hhigh) (Bool.of_not_eq_true hlow))
            (ih hread)
  | case4 c s hu ih =>
    rw [readText] at h
    · simp only [Option.bind_eq_bind, Option.bind_eq_some_iff] at h
      obtain ⟨d, hd, ⟨t', rest'⟩, hread, h⟩ := h
      cases h
      exact exists_glyphs_cons (.letter c d hd) (ih hread)
    · exact hu
  | case5 c s hquote hu hescape hbad =>
    rw [readText, if_pos hbad] at h
    · cases h
    · exact hquote
    · exact hu
    · exact hescape
  | case6 c s hquote hu hescape hgood ih =>
    rw [readText, if_neg hgood] at h
    · simp only [Option.bind_eq_bind, Option.bind_eq_some_iff] at h
      obtain ⟨⟨t', rest'⟩, hread, h⟩ := h
      cases h
      simp only [Bool.or_eq_true, decide_eq_true_eq, beq_iff_eq, not_or] at hgood
      exact exists_glyphs_cons (.plain c (Nat.le_of_not_lt hgood.1) hquote hgood.2) (ih hread)
    · exact hquote
    · exact hu
    · exact hescape

/-! ## Numbers -/

/-- Digits, of which there is at least one. -/
structure Digits where
  /-- The characters. -/
  chars : List Char
  ne_nil : chars ≠ []
  isDigit : ∀ c ∈ chars, c.isDigit = true

/-- The number that digits stand for. -/
def Digits.value (d : Digits) : Nat := Nat.ofDigitChars 10 d.chars 0

lemma Digits.exists_first (d : Digits) : ∃ c x, d.chars = c :: x ∧ c.isDigit = true := by
  obtain ⟨c, x, hc⟩ := List.exists_cons_of_ne_nil d.ne_nil
  exact ⟨c, x, hc, d.isDigit c (by rw [hc]; exact List.mem_cons_self)⟩

/-- An exponent, as it is written. -/
structure Exponent where
  /-- The letter in front. -/
  letter : Char
  /-- The sign, if there is one; `true` is minus. -/
  sign : Option Bool
  /-- The digits. -/
  digits : Digits
  isLetter : letter = 'e' ∨ letter = 'E'

namespace Exponent

/-- The characters of a sign. -/
def signChars : Option Bool → List Char
  | none => []
  | some false => ['+']
  | some true => ['-']

/-- The characters that are written. -/
def chars (e : Exponent) : List Char := e.letter :: (signChars e.sign ++ e.digits.chars)

/-- The exponent that is meant. -/
def value (e : Exponent) : Int := if e.sign = some true then -e.digits.value else e.digits.value

end Exponent

/-- A number, as it is written. -/
structure Numeral where
  /-- Whether there is a minus in front. -/
  negative : Bool
  /-- The digits in front of the point. -/
  whole : Digits
  /-- The digits behind the point, if there is one. -/
  fraction : Option Digits
  /-- The exponent, if there is one. -/
  exponent : Option Exponent
  noZero : whole.chars.head? = some '0' → whole.chars.length = 1

namespace Numeral

/-- The digits of a fraction. -/
def fractionDigits (n : Numeral) : List Char := (n.fraction.map Digits.chars).getD []

/-- The characters behind the sign. -/
def magnitude (n : Numeral) : List Char :=
  n.whole.chars ++ ((n.fraction.map fun d => '.' :: d.chars).getD [] ++
    (n.exponent.map Exponent.chars).getD [])

/-- The characters that are written. -/
def chars (n : Numeral) : List Char := (if n.negative then ['-'] else []) ++ n.magnitude

lemma exists_first_magnitude (n : Numeral) : ∃ c x, n.magnitude = c :: x ∧ c.isDigit = true := by
  obtain ⟨c, x, hc, hdigit⟩ := n.whole.exists_first
  exact ⟨c, _, by rw [magnitude, hc]; rfl, hdigit⟩

/-- A number begins with a digit or with its sign. -/
lemma exists_first (n : Numeral) : ∃ c x, n.chars = c :: x ∧ (c.isDigit = true ∨ c = '-') := by
  rw [chars]
  cases n.negative with
  | false =>
    obtain ⟨c, x, hc, hdigit⟩ := n.exists_first_magnitude
    exact ⟨c, x, hc, .inl hdigit⟩
  | true => exact ⟨'-', _, rfl, .inr rfl⟩

/-- The number that is meant: an integer unless there is a fraction or an exponent. -/
def json (n : Numeral) : Json :=
  match n.fraction, n.exponent with
  | none, none => .int (if n.negative then -n.whole.value else n.whole.value)
  | _, _ => .float (Binary.ofDecimal n.negative
      (Nat.ofDigitChars 10 (n.whole.chars ++ n.fractionDigits) 0)
      ((n.exponent.map Exponent.value).getD 0 - n.fractionDigits.length))

end Numeral

lemma exists_digits {s ds rest : List Char} (h : readDigits s = some (ds, rest)) :
    ∃ d : Digits, d.chars = ds ∧ s = ds ++ rest := by
  rw [readDigits] at h
  split at h
  · cases h
  · next hne =>
    cases h
    refine ⟨⟨_, hne, fun c hc => List.all_eq_true.1 List.all_takeWhile c hc⟩, rfl, ?_⟩
    exact List.takeWhile_append_dropWhile.symm

lemma exists_fraction {s ds rest : List Char} (h : readFraction s = some (ds, rest)) :
    ∃ f : Option Digits, (f.map Digits.chars).getD [] = ds ∧
      s = (f.map fun d => '.' :: d.chars).getD [] ++ rest := by
  unfold readFraction at h
  split at h
  · next s =>
    obtain ⟨d, rfl, rfl⟩ := exists_digits h
    exact ⟨some d, rfl, rfl⟩
  · cases h
    exact ⟨none, rfl, rfl⟩

lemma exists_exponent {s rest : List Char} {n : Option Int} (h : readExponent s = some (n, rest)) :
    ∃ e : Option Exponent, e.map Exponent.value = n ∧ s = (e.map Exponent.chars).getD [] ++ rest := by
  unfold readExponent at h
  split at h
  · cases h
    exact ⟨none, rfl, rfl⟩
  · next c s =>
    split at h
    · next hletter =>
      dsimp only at h
      split at h
      · next t =>
        obtain ⟨⟨ds, rest'⟩, hdigits, h⟩ := Option.map_eq_some_iff.1 h
        cases h
        obtain ⟨d, rfl, rfl⟩ := exists_digits hdigits
        exact ⟨some ⟨c, some true, d, hletter⟩, rfl, rfl⟩
      · next t =>
        obtain ⟨⟨ds, rest'⟩, hdigits, h⟩ := Option.map_eq_some_iff.1 h
        cases h
        obtain ⟨d, rfl, rfl⟩ := exists_digits hdigits
        exact ⟨some ⟨c, some false, d, hletter⟩, rfl, rfl⟩
      · obtain ⟨⟨ds, rest'⟩, hdigits, h⟩ := Option.map_eq_some_iff.1 h
        cases h
        obtain ⟨d, rfl, rfl⟩ := exists_digits hdigits
        exact ⟨some ⟨c, none, d, hletter⟩, rfl, rfl⟩
    · cases h
      exact ⟨none, rfl, rfl⟩

/-- A number that can be read was written as a numeral. -/
lemma exists_numeral_of_magnitude {negative : Bool} {s rest : List Char} {j : Json}
    (h : readMagnitude negative s = some (j, rest)) :
    ∃ n : Numeral, n.negative = negative ∧ s = n.magnitude ++ rest ∧ n.json = j := by
  simp only [readMagnitude, Option.bind_eq_bind, Option.bind_eq_some_iff] at h
  obtain ⟨⟨whole, s₁⟩, hwhole, h⟩ := h
  obtain ⟨w, rfl, rfl⟩ := exists_digits hwhole
  split at h
  · next hzero => cases h
  · next hzero =>
    simp only [Option.bind_eq_some_iff] at h
    obtain ⟨⟨fraction, s₂⟩, hfraction, ⟨exponent, s₃⟩, hexponent, h⟩ := h
    obtain ⟨f, rfl, rfl⟩ := exists_fraction hfraction
    obtain ⟨e, rfl, rfl⟩ := exists_exponent hexponent
    let n : Numeral := ⟨negative, w, f, e, fun hw => by simpa [hw] using hzero⟩
    have hs : s₃ = rest := by
      split at h
      · exact congrArg Prod.snd (Option.some.inj h)
      · exact congrArg Prod.snd (Option.some.inj h)
    subst hs
    refine ⟨n, rfl, by simp only [n, Numeral.magnitude, List.append_assoc], ?_⟩
    split at h
    · next hnil hnone =>
      -- no digits are written where there is no fraction
      have hf : f = none := by
        cases f with
        | none => rfl
        | some d => exact absurd hnil d.ne_nil
      obtain rfl := Option.map_eq_none_iff.1 hnone
      subst hf
      exact congrArg Prod.fst (Option.some.inj h)
    · next hsome =>
      refine Eq.trans ?_ (congrArg Prod.fst (Option.some.inj h))
      rw [Numeral.json]
      split
      · next hf he =>
        have hf : f = none := hf
        have he : e = none := he
        exact absurd (congrArg (Option.map Exponent.value) he) (hsome (by rw [hf]; rfl))
      · rfl

lemma exists_numeral {s rest : List Char} {j : Json} (h : readNumber s = some (j, rest)) :
    ∃ n : Numeral, s = n.chars ++ rest ∧ n.json = j := by
  unfold readNumber at h
  split at h
  · obtain ⟨n, hn, rfl, hj⟩ := exists_numeral_of_magnitude h
    exact ⟨n, by rw [Numeral.chars, hn]; rfl, hj⟩
  · obtain ⟨n, hn, rfl, hj⟩ := exists_numeral_of_magnitude h
    exact ⟨n, by rw [Numeral.chars, hn]; rfl, hj⟩

/-! ## Documents -/

/-- A key of an object with its colon, as it is written. -/
structure Key where
  /-- The blanks in front. -/
  before : Blank
  /-- The text. -/
  glyphs : List Glyph
  /-- The blanks in front of the colon. -/
  behind : Blank

/-- The characters of a key and its colon. -/
def Key.chars (k : Key) : List Char :=
  k.before.chars ++ (quoted k.glyphs ++ (k.behind.chars ++ [':']))

mutual

/-- A document, as it is written. -/
inductive Source where
  | null
  | bool (b : Bool)
  | number (n : Numeral)
  | text (gs : List Glyph)
  | emptyArray (inside : Blank)
  | array (items : Items)
  | emptyObject (inside : Blank)
  | object (entries : Entries)

/-- A document with blanks around it. -/
inductive Padded where
  | mk (before : Blank) (source : Source) (after : Blank)

/-- The items of an array, of which there is at least one. -/
inductive Items where
  | last (item : Padded)
  | more (item : Padded) (rest : Items)

/-- The entries of an object, of which there is at least one. -/
inductive Entries where
  | last (key : Key) (value : Padded)
  | more (key : Key) (value : Padded) (rest : Entries)

end

mutual

/-- The characters that are written. -/
def Source.chars : Source → List Char
  | .null => ['n', 'u', 'l', 'l']
  | .bool true => ['t', 'r', 'u', 'e']
  | .bool false => ['f', 'a', 'l', 's', 'e']
  | .number n => n.chars
  | .text gs => quoted gs
  | .emptyArray inside => '[' :: (inside.chars ++ [']'])
  | .array items => '[' :: items.chars
  | .emptyObject inside => '\x7b' :: (inside.chars ++ ['\x7d'])
  | .object entries => '\x7b' :: entries.chars

/-- The same with the blanks around it. -/
def Padded.chars : Padded → List Char
  | .mk before v after => before.chars ++ (v.chars ++ after.chars)

/-- The items with what separates them, and the bracket that closes the array. -/
def Items.chars : Items → List Char
  | .last v => v.chars ++ [']']
  | .more v rest => v.chars ++ ',' :: rest.chars

/-- The entries with what separates them, and the brace that closes the object. -/
def Entries.chars : Entries → List Char
  | .last k v => k.chars ++ (v.chars ++ ['\x7d'])
  | .more k v rest => k.chars ++ (v.chars ++ ',' :: rest.chars)

end

mutual

/-- The document that is meant. -/
def Source.json : Source → Json
  | .null => .null
  | .bool b => .bool b
  | .number n => n.json
  | .text gs => .str (textOf gs)
  | .emptyArray _ => .array []
  | .array items => .array items.json
  | .emptyObject _ => .object []
  | .object entries => .object entries.json

/-- The document between the blanks. -/
def Padded.json : Padded → Json
  | .mk _ v _ => v.json

/-- The documents that are meant. -/
def Items.json : Items → List Json
  | .last v => [v.json]
  | .more v rest => v.json :: rest.json

/-- The texts of the keys with the documents that are meant. -/
def Entries.json : Entries → List (String × Json)
  | .last k v => [(textOf k.glyphs, v.json)]
  | .more k v rest => (textOf k.glyphs, v.json) :: rest.json

end

/-! ### Blanks in front -/

/-- Blanks behind others. -/
def Blank.append (a b : Blank) : Blank :=
  ⟨a.chars ++ b.chars, fun c hc => (List.mem_append.1 hc).elim (a.isSpace c) (b.isSpace c)⟩

/-- The items with further blanks in front. -/
def Items.indented (b : Blank) : Items → Items
  | .last (.mk before v after) => .last (.mk (b.append before) v after)
  | .more (.mk before v after) rest => .more (.mk (b.append before) v after) rest

/-- The entries with further blanks in front. -/
def Entries.indented (b : Blank) : Entries → Entries
  | .last k v => .last { k with before := b.append k.before } v
  | .more k v rest => .more { k with before := b.append k.before } v rest

lemma Items.indented_spec (b : Blank) (items : Items) :
    (items.indented b).chars = b.chars ++ items.chars ∧ (items.indented b).json = items.json := by
  cases items with
  | last v =>
    obtain ⟨before, v, after⟩ := v
    exact ⟨by simp only [indented, chars, Padded.chars, Blank.append, List.append_assoc], rfl⟩
  | more v rest =>
    obtain ⟨before, v, after⟩ := v
    exact ⟨by simp only [indented, chars, Padded.chars, Blank.append, List.append_assoc], rfl⟩

lemma Entries.indented_spec (b : Blank) (entries : Entries) :
    (entries.indented b).chars = b.chars ++ entries.chars ∧
      (entries.indented b).json = entries.json := by
  cases entries with
  | last k v =>
    exact ⟨by simp only [indented, chars, Key.chars, Blank.append, List.append_assoc], rfl⟩
  | more k v rest =>
    exact ⟨by simp only [indented, chars, Key.chars, Blank.append, List.append_assoc], rfl⟩

/-! ### What can be read -/

/-- The blanks at the beginning of a text. -/
lemma exists_blank (s : List Char) : ∃ b : Blank, s = b.chars ++ skipSpace s :=
  ⟨⟨s.takeWhile isSpace, fun c hc => List.all_eq_true.1 List.all_takeWhile c hc⟩,
    List.takeWhile_append_dropWhile.symm⟩

lemma exists_text {s t rest : List Char} (h : readText s = some (t, rest)) :
    ∃ gs : List Glyph, '"' :: s = quoted gs ++ rest ∧ String.ofList t = textOf gs := by
  obtain ⟨gs, rfl, rfl⟩ := exists_glyphs h
  exact ⟨gs, by simp [quoted], rfl⟩

/-- The text was written as a tree says, with blanks in front. -/
def ReadsValue (s : List Char) (j : Json) (rest : List Char) : Prop :=
  ∃ (b : Blank) (v : Source), s = b.chars ++ (v.chars ++ rest) ∧ v.json = j

/-- The same for items. -/
def ReadsItems (s : List Char) (js : List Json) (rest : List Char) : Prop :=
  ∃ items : Items, s = items.chars ++ rest ∧ items.json = js

/-- The same for entries. -/
def ReadsEntries (s : List Char) (es : List (String × Json)) (rest : List Char) : Prop :=
  ∃ entries : Entries, s = entries.chars ++ rest ∧ entries.json = es

section Readers

variable {fuel : Nat} {s rest : List Char}

lemma readsValue {j : Json} (h : readValue (fuel + 1) s = some (j, rest))
    (hitems : ∀ s js rest, readItems fuel s = some (js, rest) → ReadsItems s js rest)
    (hentries : ∀ s es rest, readEntries fuel s = some (es, rest) → ReadsEntries s es rest) :
    ReadsValue s j rest := by
  obtain ⟨b, hb⟩ := exists_blank s
  suffices ∃ v : Source, skipSpace s = v.chars ++ rest ∧ v.json = j by
    obtain ⟨v, hv, hj⟩ := this
    exact ⟨b, v, hv ▸ hb, hj⟩
  rw [readValue] at h
  split at h
  · next hs => cases h; exact ⟨.null, hs, rfl⟩
  · next hs => cases h; exact ⟨.bool true, hs, rfl⟩
  · next hs => cases h; exact ⟨.bool false, hs, rfl⟩
  · next t hs =>
    obtain ⟨⟨t, rest'⟩, htext, h⟩ := Option.map_eq_some_iff.1 h
    cases h
    obtain ⟨gs, hgs, ht⟩ := exists_text htext
    exact ⟨.text gs, hs.trans hgs, congrArg Json.str ht.symm⟩
  · next t hs =>
    obtain ⟨inside, hinside⟩ := exists_blank t
    split at h
    · next hclose =>
      cases h
      rw [hclose] at hinside
      exact ⟨.emptyArray inside, by rw [hs, hinside, Source.chars]; simp, rfl⟩
    · obtain ⟨⟨js, rest'⟩, hread, h⟩ := Option.map_eq_some_iff.1 h
      cases h
      obtain ⟨items, hskip, rfl⟩ := hitems _ _ _ hread
      obtain ⟨hchars, hjson⟩ := items.indented_spec inside
      refine ⟨.array (items.indented inside), ?_, congrArg Json.array hjson⟩
      rw [hs, hinside, hskip, Source.chars, hchars, List.cons_append, List.append_assoc]
  · next t hs =>
    obtain ⟨inside, hinside⟩ := exists_blank t
    split at h
    · next hclose =>
      cases h
      rw [hclose] at hinside
      exact ⟨.emptyObject inside, by rw [hs, hinside, Source.chars]; simp, rfl⟩
    · obtain ⟨⟨es, rest'⟩, hread, h⟩ := Option.map_eq_some_iff.1 h
      cases h
      obtain ⟨entries, hskip, rfl⟩ := hentries _ _ _ hread
      obtain ⟨hchars, hjson⟩ := entries.indented_spec inside
      refine ⟨.object (entries.indented inside), ?_, congrArg Json.object hjson⟩
      rw [hs, hinside, hskip, Source.chars, hchars, List.cons_append, List.append_assoc]
  · obtain ⟨n, hn, hj⟩ := exists_numeral h
    exact ⟨.number n, hn, hj⟩

lemma readsItems {js : List Json} (h : readItems (fuel + 1) s = some (js, rest))
    (hvalue : ∀ s j rest, readValue fuel s = some (j, rest) → ReadsValue s j rest)
    (hitems : ∀ s js rest, readItems fuel s = some (js, rest) → ReadsItems s js rest) :
    ReadsItems s js rest := by
  simp only [readItems, Option.bind_eq_bind, Option.bind_eq_some_iff] at h
  obtain ⟨⟨j, s₁⟩, hread, h⟩ := h
  obtain ⟨before, v, rfl, rfl⟩ := hvalue _ _ _ hread
  obtain ⟨after, hafter⟩ := exists_blank s₁
  split at h
  · next t ht =>
    cases h
    refine ⟨.last (.mk before v after), ?_, rfl⟩
    rw [hafter, ht]
    simp [Items.chars, Padded.chars]
  · next t ht =>
    simp only [Option.bind_eq_some_iff] at h
    obtain ⟨⟨js, rest'⟩, hmore, h⟩ := h
    cases h
    obtain ⟨items, rfl, rfl⟩ := hitems _ _ _ hmore
    refine ⟨.more (.mk before v after) items, ?_, rfl⟩
    rw [hafter, ht]
    simp [Items.chars, Padded.chars]
  · cases h

lemma readsEntries {es : List (String × Json)} (h : readEntries (fuel + 1) s = some (es, rest))
    (hvalue : ∀ s j rest, readValue fuel s = some (j, rest) → ReadsValue s j rest)
    (hentries : ∀ s es rest, readEntries fuel s = some (es, rest) → ReadsEntries s es rest) :
    ReadsEntries s es rest := by
  obtain ⟨before, hbefore⟩ := exists_blank s
  rw [readEntries] at h
  split at h
  · next t ht =>
    simp only [Option.bind_eq_bind, Option.bind_eq_some_iff] at h
    obtain ⟨⟨k, s₁⟩, hkey, h⟩ := h
    obtain ⟨gs, hgs, hk⟩ := exists_text hkey
    obtain ⟨behind, hbehind⟩ := exists_blank s₁
    split at h
    · next s₂ hcolon =>
      simp only [Option.bind_eq_some_iff] at h
      obtain ⟨⟨j, s₃⟩, hread, h⟩ := h
      obtain ⟨between, v, rfl, rfl⟩ := hvalue _ _ _ hread
      obtain ⟨after, hafter⟩ := exists_blank s₃
      -- all that stands in front of the value
      have hs : s = (⟨before, gs, behind⟩ : Key).chars ++
          (between.chars ++ (v.chars ++ (after.chars ++ skipSpace s₃))) := by
        rw [hbefore, ht, hgs, hbehind, hcolon, ← hafter]
        simp [Key.chars]
      split at h
      · next s₄ hclose =>
        cases h
        refine ⟨.last ⟨before, gs, behind⟩ (.mk between v after), ?_, ?_⟩
        · rw [hs, hclose]
          simp [Entries.chars, Padded.chars]
        · rw [hk]
          rfl
      · next s₄ hcomma =>
        simp only [Option.bind_eq_some_iff] at h
        obtain ⟨⟨es, rest'⟩, hmore, h⟩ := h
        cases h
        obtain ⟨entries, rfl, rfl⟩ := hentries _ _ _ hmore
        refine ⟨.more ⟨before, gs, behind⟩ (.mk between v after) entries, ?_, ?_⟩
        · rw [hs, hcomma]
          simp [Entries.chars, Padded.chars]
        · rw [hk]
          rfl
      · cases h
    · cases h
  · cases h

end Readers

/-- What can be read with some fuel was written as a tree says. -/
lemma reads_of_fuel (fuel : Nat) :
    (∀ s j rest, readValue fuel s = some (j, rest) → ReadsValue s j rest) ∧
    (∀ s js rest, readItems fuel s = some (js, rest) → ReadsItems s js rest) ∧
    (∀ s es rest, readEntries fuel s = some (es, rest) → ReadsEntries s es rest) := by
  induction fuel with
  | zero =>
    refine ⟨fun s j rest h => ?_, fun s js rest h => ?_, fun s es rest h => ?_⟩
    · rw [readValue] at h; cases h
    · rw [readItems] at h; cases h
    · rw [readEntries] at h; cases h
  | succ fuel ih =>
    obtain ⟨ihvalue, ihitems, ihentries⟩ := ih
    exact ⟨fun _ _ _ h => readsValue h ihitems ihentries,
      fun _ _ _ h => readsItems h ihvalue ihitems,
      fun _ _ _ h => readsEntries h ihvalue ihentries⟩

/-- **What can be read was written as a tree says.** -/
theorem exists_padded_of_read? {s : String} {j : Json} (h : read? s = some j) :
    ∃ d : Padded, d.chars = s.toList ∧ d.json = j := by
  simp only [read?, Option.bind_eq_bind, Option.bind_eq_some_iff] at h
  obtain ⟨⟨j', rest⟩, hread, h⟩ := h
  obtain ⟨before, v, hs, hj⟩ := (reads_of_fuel _).1 _ _ _ hread
  obtain ⟨after, hafter⟩ := exists_blank rest
  split at h
  · next hnil =>
    cases h
    rw [List.isEmpty_iff.1 hnil, List.append_nil] at hafter
    exact ⟨.mk before v after, by rw [hs, hafter]; rfl, hj⟩
  · cases h

end Interpolation.Json
