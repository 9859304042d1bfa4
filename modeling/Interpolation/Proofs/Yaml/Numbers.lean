import Interpolation.Yaml.Content
import Interpolation.Proofs.Yaml.Words
import Interpolation.Proofs.Text.Ranges

/-!
# JSON numbers and constants as plain scalars

What a word without quotes stands for is found out from its characters alone, by trying one notation
after the other, and YAML has more notations than JSON: a zero or a letter in front can tell the base,
colons separate places to the base sixty, low lines do not count, and many words are truth values.  A
number of JSON has none of these, so that it is an integer or a float by its point.  Its digits are
then taken by another reader than that of JSON, which takes them in one go with the fraction; in the
end both make a float of the same digits and the same exponent.

* `readNumeral?_magnitude` — the digits and the exponent of a number with a point.
* `Json.content?` — what a document without parts stands for.
* `Json.IsScalar` — a tag and a text stand for a document.
* **`Json.Numeral.isScalar`** — a number is read as it is meant.
-/

namespace Interpolation

open Text

namespace Number

variable {c : Char} {s t : List Char}

/-! ## Digits -/

lemma digitValue?_of_isDigit (h : c.isDigit = true) : digitValue? c = some (c.toNat - 48) := by
  obtain ⟨hlow, hhigh⟩ := Char.isDigit_iff_toNat.1 h
  let inScript (z : Nat) : Bool := z ≤ c.toNat && c.toNat ≤ z + 9
  have hfirst : inScript 0x30 = true := Bool.and_eq_true_iff.2
    ⟨decide_eq_true hlow, decide_eq_true hhigh⟩
  have hfind : decimalZeros.find? inScript = some 0x30 := List.find?_cons_of_pos hfirst
  exact congrArg (Option.map (c.toNat - ·)) hfind

lemma digitIn?_of_isDigit (h : c.isDigit = true) : digitIn? c = some (c.toNat - 48) := by
  obtain ⟨hlow, hhigh⟩ := Char.isDigit_iff_toNat.1 h
  have hsmall : ¬('a' ≤ c ∧ c ≤ 'z') := fun h => absurd (Nat.le_trans h.1 hhigh) (by decide)
  have hcapital : ¬('A' ≤ c ∧ c ≤ 'Z') := fun h => absurd (Nat.le_trans h.1 hhigh) (by decide)
  rw [digitIn?, if_neg hsmall, if_neg hcapital, digitValue?_of_isDigit h]

lemma ne_of_isDigit (h : c.isDigit = true) : ∀ d, d.isDigit = false → c ≠ d := by
  rintro d hd rfl
  rw [h] at hd
  cases hd

lemma lt_of_isDigit (h : c.isDigit = true) : c.toNat - 48 < 10 := by
  have : c.toNat ≤ 57 := (Char.isDigit_iff_toNat.1 h).2
  omega

/-- Digits are read as the number that they stand for. -/
lemma readDigits?_digits (hs : ∀ c ∈ s, c.isDigit = true) (value : Nat) {afterDigit : Bool}
    (hne : s ≠ [] ∨ afterDigit = true) :
    readDigits? 10 value afterDigit s = some (Nat.ofDigitChars 10 s value) := by
  induction s generalizing value afterDigit with
  | nil =>
    obtain h | rfl := hne
    · exact absurd rfl h
    · rfl
  | cons c s ih =>
    obtain ⟨hc, hs⟩ := List.forall_mem_cons.1 hs
    rw [readDigits?, if_neg (ne_of_isDigit hc '_' rfl), digitIn?_of_isDigit hc]
    dsimp only
    rw [if_pos (lt_of_isDigit hc), ih hs _ (.inr rfl), Nat.ofDigitChars_cons, Nat.mul_comm]
    rfl

lemma countDigits?_digits (hs : ∀ c ∈ s, c.isDigit = true) (count : Nat) {afterDigit : Bool}
    (hne : s ≠ [] ∨ afterDigit = true) :
    countDigits? 10 count afterDigit s = some (count + s.length) := by
  induction s generalizing count afterDigit with
  | nil =>
    obtain h | rfl := hne
    · exact absurd rfl h
    · rfl
  | cons c s ih =>
    obtain ⟨hc, hs⟩ := List.forall_mem_cons.1 hs
    have hfilter : (digitIn? c).filter (· < 10) = some (c.toNat - 48) := by
      rw [digitIn?_of_isDigit hc]
      exact Option.filter_some_pos (decide_eq_true (lt_of_isDigit hc))
    rw [countDigits?, if_neg (ne_of_isDigit hc '_' rfl), hfilter]
    dsimp only
    rw [ih hs _ (.inr rfl), List.length_cons]
    exact congrArg some (by omega)

/-- Digits are taken up to what is no digit. -/
lemma takeDigits_digits (hs : ∀ c ∈ s, c.isDigit = true)
    (ht : ∀ c ∈ t.head?, c ≠ '_' ∧ digitValue? c = none) (value count : Nat) :
    takeDigits value count (s ++ t) = (Nat.ofDigitChars 10 s value, count + s.length, t) := by
  induction s generalizing value count with
  | nil =>
    cases t with
    | nil => rfl
    | cons c t =>
      obtain ⟨hline, hnone⟩ := ht c rfl
      rw [List.nil_append, takeDigits, hnone]
      · rfl
      · rintro c' s' rfl -
        exact hline rfl
  | cons c s ih =>
    obtain ⟨hc, hs⟩ := List.forall_mem_cons.1 hs
    rw [List.cons_append, takeDigits, digitValue?_of_isDigit hc]
    · dsimp only
      rw [ih hs, Nat.ofDigitChars_cons, Nat.mul_comm, List.length_cons, Nat.add_assoc,
        Nat.add_comm 1]
      rfl
    · rintro c' s' rfl -
      exact ne_of_isDigit hc '_' rfl rfl

/-- What begins with a digit has no sign. -/
lemma splitSign_of_isDigit (hc : c.isDigit = true) : splitSign (c :: s) = (false, c :: s) := by
  unfold splitSign
  split
  · next h => exact absurd (List.cons.inj h).1 (ne_of_isDigit hc '-' rfl)
  · next h => exact absurd (List.cons.inj h).1 (ne_of_isDigit hc '+' rfl)
  · rfl

/-- An exponent is read as it is meant. -/
lemma readExponent?_chars (e : Json.Exponent) : readExponent? e.chars = some e.value := by
  obtain ⟨letter, sign, digits, hletter⟩ := e
  have hdigits : takeDigits 0 0 digits.chars = (digits.value, digits.chars.length, []) := by
    have := takeDigits_digits (t := []) digits.isDigit (by rintro c ⟨⟩) 0 0
    rwa [List.append_nil, Nat.zero_add] at this
  have hne : digits.chars.length ≠ 0 := fun h => digits.ne_nil (List.eq_nil_of_length_eq_zero h)
  have hsign : splitSign (Json.Exponent.signChars sign ++ digits.chars) =
      (decide (sign = some true), digits.chars) := by
    cases sign with
    | none =>
      obtain ⟨c, x, hc, hdigit⟩ := digits.exists_first
      rw [hc]
      exact splitSign_of_isDigit hdigit
    | some negative => cases negative <;> rfl
  rw [Json.Exponent.chars, readExponent?, if_pos hletter]
  dsimp only
  rw [hsign]
  dsimp only
  rw [hdigits]
  dsimp only
  rw [if_neg hne, Json.Exponent.value]
  simp

/-- A float with a point and perhaps an exponent is read as it is meant. -/
lemma readNumeral?_magnitude (n : Json.Numeral) {d : Json.Digits} (hd : n.fraction = some d) :
    ∃ m, readNumeral? n.magnitude = some m ∧
      m.coefficient = Nat.ofDigitChars 10 (n.whole.chars ++ n.fractionDigits) 0 ∧
      m.exponent = (n.exponent.map Json.Exponent.value).getD 0 - n.fractionDigits.length := by
  have hfraction : n.fractionDigits = d.chars := by rw [Json.Numeral.fractionDigits, hd]; rfl
  let exponent : List Char := (n.exponent.map Json.Exponent.chars).getD []
  have hexponent : readExponent? exponent =
      some ((n.exponent.map Json.Exponent.value).getD 0) := by
    cases he : n.exponent with
    | none => simp only [exponent, he]; rfl
    | some e => simp only [exponent, he]; exact readExponent?_chars e
  have hletter : ∀ c ∈ exponent.head?, c ≠ '_' ∧ digitValue? c = none := by
    cases he : n.exponent with
    | none => simp [exponent, he]
    | some e =>
      simp only [exponent, he]
      rintro c ⟨⟩
      obtain h | h := e.isLetter <;> rw [h] <;> decide
  have hwhole := takeDigits_digits (t := '.' :: (d.chars ++ exponent)) n.whole.isDigit
    (by rintro c ⟨⟩; decide) 0 0
  have hdigits := takeDigits_digits d.isDigit hletter 0 0
  have hline : (d.chars ++ exponent).head? ≠ some '_' := by
    obtain ⟨c, x, hc, hdigit⟩ := d.exists_first
    rw [hc]
    rintro ⟨⟩
    exact ne_of_isDigit hdigit '_' rfl rfl
  have hcount : 0 + n.whole.chars.length + (0 + d.chars.length) ≠ 0 := by
    have := List.length_pos_iff.2 d.ne_nil
    omega
  have hchars : n.magnitude = n.whole.chars ++ '.' :: (d.chars ++ exponent) := by
    rw [Json.Numeral.magnitude, hd]
    rfl
  rw [hchars, hfraction, readNumeral?, hwhole]
  simp only [if_neg hline, hdigits, if_neg hcount, hexponent, Option.map_some]
  refine ⟨_, rfl, ?_, ?_⟩
  · rw [Nat.ofDigitChars_append,
      @Nat.ofDigitChars_eq_ofDigitChars_zero d.chars (Nat.ofDigitChars 10 n.whole.chars 0),
      Nat.mul_comm, Nat.zero_add]
  · dsimp only
    congr 1
    omega

end Number

namespace Json

open Number Yaml

variable {c : Char} {s : List Char} {n : Numeral} {d : Digits}

/-! ## The characters of numbers -/

lemma Numeral.unsigned_chars (n : Numeral) : Tag.unsigned n.chars = n.magnitude := by
  obtain ⟨c, x, hc, hdigit⟩ := n.exists_first_magnitude
  rw [Numeral.chars]
  cases n.negative with
  | true => rfl
  | false =>
    rw [if_neg Bool.false_ne_true, List.nil_append, hc, Tag.unsigned, if_neg]
    rintro (rfl | rfl) <;> cases hdigit

/-- There are no low lines in a number. -/
lemma Numeral.filter_chars (n : Numeral) : n.chars.filter (· ≠ '_') = n.chars := by
  refine List.filter_eq_self.2 fun c hc => decide_eq_true ?_
  rintro rfl
  exact absurd (n.isWord.chars _ hc) (by decide)

lemma Numeral.scalar_unsigned_chars (n : Numeral) :
    Scalar.unsigned n.chars = .ok (n.negative, n.magnitude) := by
  obtain ⟨c, x, hc, hdigit⟩ := n.exists_first_magnitude
  rw [Scalar.unsigned, Numeral.filter_chars, Numeral.chars]
  cases n.negative with
  | true => rfl
  | false =>
    rw [if_neg Bool.false_ne_true, List.nil_append, hc]
    dsimp only
    rw [if_neg]
    rintro (rfl | rfl) <;> cases hdigit

/-- A text without colons is one place. -/
lemma places_of_forall_ne (h : ∀ c ∈ s, c ≠ ':') : Tag.places s = [s] := by
  rw [Tag.places]
  induction s with
  | nil => rfl
  | cons c s ih =>
    obtain ⟨hc, hs⟩ := List.forall_mem_cons.1 h
    rw [List.foldr_cons, ih hs, if_neg hc]

/-- What begins with no letter is not spelled like a word. -/
lemma isSpelled_eq_false {word : String}
    (hword : ∀ w ∈ Tag.spellings word, w.toList.head?.all Char.isAlpha = true)
    (hc : c.isAlpha = false) : Tag.isSpelled word (c :: s) = false := by
  rw [Tag.isSpelled, List.contains_eq_any_beq, List.any_eq_false]
  intro w hw hsame
  have hchars : w.toList = c :: s := by
    rw [← LawfulBEq.eq_of_beq hsame, String.toList_ofList]
  have hfirst := hword w hw
  rw [hchars] at hfirst
  exact absurd (hfirst.symm.trans hc) (by decide)

lemma spellings_begin : ∀ word ∈ "null" :: Tag.booleanTexts.map Prod.fst,
    ∀ w ∈ Tag.spellings word, w.toList.head?.all Char.isAlpha = true := by
  decide +kernel

lemma isBlank_of_isWordChar (h : isWordChar c = true) : isBlank c = false := by
  obtain ⟨hlow, hhigh⟩ := toNat_of_isWordChar h
  simp only [isBlank, Bool.or_eq_false_iff, Bool.and_eq_false_iff, decide_eq_false_iff_not,
    beq_eq_false_iff_ne]
  omega

/-! ## Tags -/

lemma Numeral.isSpelled_chars (n : Numeral) {word : String}
    (hword : word ∈ "null" :: Tag.booleanTexts.map Prod.fst) :
    Tag.isSpelled word n.chars = false := by
  obtain ⟨c, x, hc, hfirst⟩ := n.exists_first
  rw [hc]
  refine isSpelled_eq_false (spellings_begin word hword) ?_
  obtain h | rfl := hfirst
  · have hdigit : c.toNat ≤ 57 := (Char.isDigit_iff_toNat.1 h).2
    unfold Char.isAlpha Char.isUpper Char.isLower
    simp [UInt32.le_iff_toNat_le]
    omega
  · rfl

lemma Numeral.isBoolean_chars (n : Numeral) :
    (Tag.booleanTexts.any fun (word, _) => Tag.isSpelled word n.chars) = false := by
  rw [List.any_eq_false]
  rintro ⟨word, b⟩ h
  have := n.isSpelled_chars (List.mem_cons_of_mem _ (List.mem_map.2 ⟨_, h, rfl⟩))
  simpa using this

/-- Whether a number is a float depends only on the point in it. -/
lemma Numeral.isFloat_chars (n : Numeral) : Tag.isFloat n.chars = Tag.isPointed n.chars := by
  obtain ⟨c, x, hc, hfirst⟩ := n.exists_first
  obtain ⟨d, y, hd, hdigit⟩ := n.exists_first_magnitude
  have hpoint : c ≠ '.' ∧ d ≠ '.' := by
    refine ⟨?_, ne_of_isDigit hdigit '.' rfl⟩
    obtain h | rfl := hfirst
    · exact ne_of_isDigit h '.' rfl
    · decide
  unfold Tag.isFloat
  rw [n.unsigned_chars, hd, hc]
  simp [hpoint]

lemma Digits.ne_point (d : Digits) : ∀ c ∈ d.chars, decide (c ≠ '.') = true := fun c hc =>
  decide_eq_true (ne_of_isDigit (d.isDigit c hc) '.' rfl)

lemma Digits.places (d : Digits) : Tag.places d.chars = [d.chars] :=
  places_of_forall_ne fun c hc => ne_of_isDigit (d.isDigit c hc) ':' rfl

lemma Digits.isNumber (d : Digits) : Tag.isNumber d.chars = true := by
  have hall : ∀ c ∈ d.chars, Tag.isDigitOrLine c = true := fun c hc => by
    simp [Tag.isDigitOrLine, d.isDigit c hc]
  obtain ⟨c, x, hc, hdigit⟩ := d.exists_first
  rw [hc] at hall ⊢
  rw [Tag.isNumber, hdigit, Bool.true_and, List.all_eq_true]
  exact fun e he => hall e (List.mem_cons_of_mem _ he)

/-- A number in front of a mark would begin with a zero and a letter. -/
lemma Digits.markedBase?_chars (d : Digits) : markedBase? d.chars = none := by
  unfold markedBase?
  split
  · next c s h =>
    have hc := ne_of_isDigit (d.isDigit c (by rw [h]; simp))
    simp [hc]
  · rfl

lemma Digits.strip_chars (d : Digits) : strip d.chars = d.chars :=
  strip_eq_self fun c hc => isBlank_of_isWordChar (isWordChar_of_isDigit (d.isDigit c hc))

lemma Digits.splitSign_chars (d : Digits) : splitSign d.chars = (false, d.chars) := by
  obtain ⟨c, x, hc, hdigit⟩ := d.exists_first
  rw [hc]
  exact splitSign_of_isDigit hdigit

/-- Digits are converted unless there are too many of them. -/
lemma Digits.digits_chars (d : Digits) (hlimit : d.chars.length ≤ digitLimit) :
    Scalar.digits 10 d.chars = .ok d.value := by
  have hcount : convertedDigits 10 d.chars = d.chars.length := by
    rw [convertedDigits, d.strip_chars, d.splitSign_chars, d.markedBase?_chars]
    show (countDigits? 10 0 false d.chars).getD 0 = _
    rw [countDigits?_digits d.isDigit 0 (.inl d.ne_nil), Nat.zero_add]
    rfl
  have hmagnitude : readMagnitude? 10 d.chars = some d.value := by
    rw [readMagnitude?, d.markedBase?_chars]
    exact readDigits?_digits d.isDigit 0 (.inl d.ne_nil)
  have hread : readInt? 10 d.chars = some (d.value : Int) := by
    rw [readInt?, d.strip_chars, d.splitSign_chars]
    dsimp only
    rw [hmagnitude]
    rfl
  rw [Scalar.digits, hcount, if_neg (Nat.not_lt_of_le hlimit), hread]

lemma isExponent_chars {e : Exponent} (hsign : e.sign.isSome = true) :
    Tag.isExponent e.chars = true := by
  obtain ⟨letter, sign, digits, hletter⟩ := e
  obtain ⟨negative, rfl⟩ := Option.isSome_iff_exists.1 hsign
  obtain ⟨c, x, hc, hdigit⟩ := digits.exists_first
  have hall : (c :: x).all Char.isDigit = true :=
    List.all_eq_true.2 fun c' hc' => digits.isDigit c' (hc ▸ hc')
  have hletter' : (letter = 'e' || letter = 'E') = true := by simpa using hletter
  rw [Exponent.chars]
  dsimp only
  rw [hc]
  cases negative <;> simp [Exponent.signChars, Tag.isExponent, hletter, hall] 

section Integer

variable (hfraction : n.fraction = none) (hexponent : n.exponent = none)

include hfraction hexponent

lemma Numeral.magnitude_of_integer : n.magnitude = n.whole.chars := by
  rw [Numeral.magnitude, hfraction, hexponent]
  exact List.append_nil _

lemma Numeral.isPointed_of_integer : Tag.isPointed n.chars = false := by
  have htake : n.whole.chars.takeWhile (· ≠ '.') = n.whole.chars :=
    List.takeWhile_eq_self_iff.2 n.whole.ne_point
  rw [Tag.isPointed, n.unsigned_chars, magnitude_of_integer hfraction hexponent, htake,
    List.drop_length, n.whole.places]

lemma Numeral.isInteger_of_integer : Tag.isInteger n.chars = true := by
  unfold Tag.isInteger
  rw [n.unsigned_chars, magnitude_of_integer hfraction hexponent, Bool.or_eq_true]
  right
  split
  · next rest h =>
    have hlength := n.noZero (by rw [h]; rfl)
    rw [h] at hlength
    rw [List.eq_nil_of_length_eq_zero (Nat.succ.inj hlength)]
    rfl
  · rw [n.whole.places]
    exact n.whole.isNumber

lemma Numeral.ofPlain_of_integer : Tag.ofPlain n.chars = .integer := by
  rw [Tag.ofPlain, n.isBoolean_chars, n.isFloat_chars, isPointed_of_integer hfraction hexponent,
    isInteger_of_integer hfraction hexponent]
  rfl

/-- **An integer is read as it is meant.** -/
lemma Numeral.integer_chars (hlimit : n.whole.chars.length ≤ digitLimit) :
    Scalar.integer n.chars = .ok (if n.negative then -n.whole.value else n.whole.value) := by
  have hparts : (Tag.places n.whole.chars).mapM (Scalar.digits 10) = .ok [(n.whole.value : Int)] := by
    rw [n.whole.places, List.mapM_cons, n.whole.digits_chars hlimit]
    rfl
  have hzero : ∀ x, n.whole.chars = '0' :: x → x = [] := fun x h => by
    have hlength := n.noZero (by rw [h]; rfl)
    rw [h] at hlength
    exact List.eq_nil_of_length_eq_zero (Nat.succ.inj hlength)
  unfold Scalar.integer
  rw [n.scalar_unsigned_chars, magnitude_of_integer hfraction hexponent]
  simp only [bind, Except.bind]
  split
  · next h => exact absurd h n.whole.ne_nil
  · next h =>
    rw [Digits.value, h]
    cases n.negative <;> rfl
  · next h => cases hzero _ h
  · next h => cases hzero _ h
  · next hne _ _ h => exact absurd (hzero _ h) hne
  · rw [hparts]
    simp only [List.foldl_cons, List.foldl_nil, Int.zero_mul, Int.zero_add]
    rfl

end Integer

section Float

variable (hd : n.fraction = some d)

include hd

lemma Numeral.magnitude_of_float :
    n.magnitude = n.whole.chars ++ '.' :: (d.chars ++ (n.exponent.map Exponent.chars).getD []) := by
  rw [Numeral.magnitude, hd]
  rfl

lemma Numeral.isPointed_of_float (hsign : ∀ e, n.exponent = some e → e.sign.isSome = true) :
    Tag.isPointed n.chars = true := by
  have htake : n.magnitude.takeWhile (· ≠ '.') = n.whole.chars := by
    rw [magnitude_of_float hd]
    exact Position.takeWhile_append n.whole.ne_point (by rintro c ⟨⟩; rfl)
  have hdrop : n.magnitude.drop n.whole.chars.length =
      '.' :: (d.chars ++ (n.exponent.map Exponent.chars).getD []) := by
    rw [magnitude_of_float hd, List.drop_left]
  have hfraction : Tag.isFraction (d.chars ++ (n.exponent.map Exponent.chars).getD []) = true := by
    rw [Tag.isFraction, List.dropWhile_append_of_pos fun c hc => by
      simp [Tag.isDigitOrLine, d.isDigit c hc]]
    cases he : n.exponent with
    | none => rfl
    | some e =>
      have hletter : Tag.isDigitOrLine e.letter = false := by
        obtain h | h := e.isLetter <;> rw [h] <;> decide
      refine (congrArg Tag.isExponent ?_).trans (isExponent_chars (hsign e he))
      exact List.dropWhile_cons_of_neg (by rw [hletter]; exact Bool.false_ne_true)
  rw [Tag.isPointed, n.unsigned_chars, htake, hdrop, n.whole.places]
  simp [n.whole.isNumber, hfraction]

lemma Numeral.ofPlain_of_float (hsign : ∀ e, n.exponent = some e → e.sign.isSome = true) :
    Tag.ofPlain n.chars = .float := by
  rw [Tag.ofPlain, n.isBoolean_chars, n.isFloat_chars, isPointed_of_float hd hsign]
  rfl

end Float

/-- The same number with a small letter. -/
def Numeral.lower (n : Numeral) : Numeral :=
  { n with exponent := n.exponent.map fun e => { e with letter := 'e', isLetter := .inl rfl } }

lemma toLower_of_le (h : c.toNat ≤ 57) : c.toLower = c := by
  unfold Char.toLower
  rw [dif_neg]
  rintro ⟨hlow, -⟩
  exact absurd (Nat.le_trans hlow h) (by decide)

lemma map_toLower (h : ∀ c ∈ s, c.toNat ≤ 57) : s.map Char.toLower = s :=
  (List.map_congr_left (g := id) fun c hc => toLower_of_le (h c hc)).trans (List.map_id s)

lemma Digits.map_toLower_chars (d : Digits) : d.chars.map Char.toLower = d.chars :=
  map_toLower fun c hc => (Char.isDigit_iff_toNat.1 (d.isDigit c hc)).2

lemma Exponent.map_toLower_chars (e : Exponent) :
    e.chars.map Char.toLower = 'e' :: (signChars e.sign ++ e.digits.chars) := by
  have hletter : e.letter.toLower = 'e' := by
    obtain h | h := e.isLetter <;> rw [h] <;> decide
  have hsign : (signChars e.sign).map Char.toLower = signChars e.sign := by
    cases e.sign with
    | none => rfl
    | some negative => cases negative <;> decide
  rw [chars, List.map_cons, hletter, List.map_append, hsign, e.digits.map_toLower_chars]

lemma Numeral.map_toLower_chars (n : Numeral) : n.chars.map Char.toLower = n.lower.chars := by
  have hsign : (if n.negative then ['-'] else []).map Char.toLower =
      if n.negative then ['-'] else [] := by
    cases n.negative <;> decide
  have hfraction : ((n.fraction.map fun d => '.' :: d.chars).getD []).map Char.toLower =
      (n.fraction.map fun d => '.' :: d.chars).getD [] := by
    cases n.fraction with
    | none => rfl
    | some d => exact congrArg ('.' :: ·) d.map_toLower_chars
  have hexponent : ((n.exponent.map Exponent.chars).getD []).map Char.toLower =
      (n.lower.exponent.map Exponent.chars).getD [] := by
    rw [lower]
    cases n.exponent with
    | none => rfl
    | some e => exact e.map_toLower_chars
  rw [chars, magnitude, List.map_append, List.map_append, List.map_append, hsign, hfraction,
    hexponent, n.whole.map_toLower_chars]
  rfl

/-- What begins with a digit is no word. -/
lemma ofList_ne_of_isDigit (hc : c.isDigit = true) {word : String}
    (hword : word.toList.head?.any Char.isDigit = false) : String.ofList (c :: s) ≠ word := by
  rintro rfl
  rw [String.toList_ofList] at hword
  exact absurd (hword.symm.trans hc) (by decide)

lemma Numeral.readUnsignedFloat?_magnitude (n : Numeral) (negative : Bool) :
    readUnsignedFloat? negative n.magnitude =
      (readNumeral? n.magnitude).map fun m => Binary.ofDecimal negative m.coefficient m.exponent := by
  obtain ⟨c, x, hc, hdigit⟩ := n.exists_first_magnitude
  have hword : ∀ word ∈ ["inf", "infinity", "nan"],
      String.ofList (n.magnitude.map Char.toLower) ≠ word := by
    intro word hword
    rw [hc, List.map_cons, toLower_of_le (Char.isDigit_iff_toNat.1 hdigit).2]
    refine ofList_ne_of_isDigit hdigit ?_
    revert word
    decide
  simp only [List.forall_mem_cons] at hword
  rw [readUnsignedFloat?, if_neg (not_or.2 ⟨hword.1, hword.2.1⟩), if_neg hword.2.2.1]

/-- **A float is read as it is meant.** -/
lemma Numeral.float_chars {d : Digits} (hd : n.fraction = some d) :
    Scalar.float n.chars = .ok (Binary.ofDecimal n.negative
      (Nat.ofDigitChars 10 (n.whole.chars ++ n.fractionDigits) 0)
      ((n.exponent.map Exponent.value).getD 0 - n.fractionDigits.length)) := by
  have hword : ∀ c ∈ n.lower.magnitude, isWordChar c = true := fun c hc =>
    n.lower.isWord.chars c (by rw [Numeral.chars]; exact List.mem_append_right _ hc)
  obtain ⟨c, x, hc, hdigit⟩ := n.lower.exists_first_magnitude
  have hstrip : strip n.lower.magnitude = n.lower.magnitude :=
    strip_eq_self fun c hc => isBlank_of_isWordChar (hword c hc)
  have hplaces : Tag.places n.lower.magnitude = [n.lower.magnitude] := by
    refine places_of_forall_ne fun c hc => ?_
    rintro rfl
    exact absurd (hword _ hc) (by decide)
  have hsplit : splitSign n.lower.magnitude = (false, n.lower.magnitude) := by
    rw [hc]
    exact splitSign_of_isDigit hdigit
  obtain ⟨m, hm, hcoefficient, hexponent⟩ := readNumeral?_magnitude n.lower (d := d) hd
  have hvalue : (n.lower.exponent.map Exponent.value).getD 0 =
      (n.exponent.map Exponent.value).getD 0 := by
    rw [lower, Option.map_map]
    rfl
  have hdecimal : Scalar.decimal n.negative n.lower.magnitude = .ok (Binary.ofDecimal n.negative
      (Nat.ofDigitChars 10 (n.whole.chars ++ n.fractionDigits) 0)
      ((n.exponent.map Exponent.value).getD 0 - n.fractionDigits.length)) := by
    rw [Scalar.decimal, hstrip, hsplit]
    dsimp only
    rw [Bool.false_bne, n.lower.readUnsignedFloat?_magnitude, hm, Option.map_some, hcoefficient,
      hexponent, hvalue]
    rfl
  unfold Scalar.float
  rw [n.map_toLower_chars, n.lower.scalar_unsigned_chars]
  simp only [bind, Except.bind]
  split
  · next h => rw [hc] at h; exact absurd h (ofList_ne_of_isDigit hdigit (by decide))
  · next h => rw [hc] at h; exact absurd h (ofList_ne_of_isDigit hdigit (by decide))
  · rw [hplaces]
    exact hdecimal

/-! ## Documents without parts -/

/-- The content that a document without parts stands for. -/
def content? : Json → Option Content
  | .null => some .none
  | .bool b => some (.bool b)
  | .int n => some (.int n)
  | .float x => some (.float x)
  | .str t => some (.str t)
  | .array _ | .object _ => none

/-- A scalar stands for a document without parts. -/
structure IsScalar (j : Json) (tag : Tag) (text : String) : Prop where
  textual : Scalar.isTextual tag = true
  value : ∃ c, j.content? = some c ∧ Scalar.value tag text = .ok c

lemma isScalar_null : IsScalar .null (.ofPlain "null".toList) "null" := by
  have htag : Tag.ofPlain "null".toList = .null := by decide +kernel
  rw [htag]
  exact ⟨rfl, _, rfl, rfl⟩

lemma isScalar_bool (b : Bool) :
    IsScalar (.bool b) (.ofPlain (if b then "true" else "false").toList)
      (if b then "true" else "false") := by
  have htag : Tag.ofPlain (if b then "true" else "false").toList = .boolean := by
    cases b <;> decide +kernel
  have hvalue : Scalar.boolean (if b then "true" else "false") = .ok b := by
    cases b <;> decide +kernel
  rw [htag]
  refine ⟨rfl, _, rfl, ?_⟩
  show (Scalar.boolean _).map Content.bool = _
  rw [hvalue]
  rfl

lemma isScalar_text (text : String) : IsScalar (.str text) .text text := ⟨rfl, _, rfl, rfl⟩

/-- **A number is read as it is meant.** -/
theorem Numeral.isScalar {n : Numeral} (h : n.isPlain = true) :
    IsScalar n.json (.ofPlain n.chars) (String.ofList n.chars) := by
  rw [Numeral.isPlain] at h
  cases hfraction : n.fraction with
  | none =>
    cases hexponent : n.exponent with
    | some e => rw [hfraction, hexponent] at h; cases h
    | none =>
      rw [hfraction, hexponent, decide_eq_true_eq] at h
      rw [ofPlain_of_integer hfraction hexponent, json, hfraction, hexponent]
      refine ⟨rfl, _, rfl, ?_⟩
      show (Scalar.integer (String.ofList n.chars).toList).map Content.int = _
      rw [String.toList_ofList, integer_chars hfraction hexponent h]
      rfl
  | some d =>
    have hsign : ∀ e, n.exponent = some e → e.sign.isSome = true := by
      intro e he
      rwa [hfraction, he] at h
    rw [ofPlain_of_float hfraction hsign, json, hfraction]
    refine ⟨rfl, _, rfl, ?_⟩
    show (Scalar.float (String.ofList n.chars).toList).map Content.float = _
    rw [String.toList_ofList, float_chars hfraction]
    rfl

end Json

end Interpolation
