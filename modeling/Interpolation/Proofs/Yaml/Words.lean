import Interpolation.Value.Shown
import Interpolation.Proofs.Yaml.Scanning

/-!
# The words of a JSON document

Not every JSON document is the same for a reader of YAML.  It knows no tabs; a number with an exponent
needs a point and a sign; a key must stand in one line with its colon and close to it; characters that
YAML does not print cannot stand in a text as they are, and those that end a line only if they are
separators that stay in it; and the two units of a surrogate pair are two characters.
`Padded.isPlain` excludes these, and integers with more digits than are converted, and nothing else.

What is left is read word by word.  The proof follows the tree: each part is read from where it
begins, and stops where the next one begins, up to blanks.

* `Padded.isPlain` — a document is written in a way that a reader of YAML takes for the same.
* `Padded.tokens` — the words that it is read as.
* **`Padded.ofText_chars`** — they are all the words of its text.
-/

namespace Interpolation.Json

open Yaml

/-- Whether blanks are passed by a reader of YAML: it knows no tabs. -/
def Blank.isPlain (b : Blank) : Bool := b.chars.all (· ≠ '\t')

/-- Whether a number is of the same kind for a reader of YAML: one with an exponent needs a point and
a sign, and an integer must not have more digits than are converted. -/
def Numeral.isPlain (n : Numeral) : Bool :=
  match n.fraction, n.exponent with
  | none, none => n.whole.chars.length ≤ digitLimit
  | some _, none => true
  | some _, some e => e.sign.isSome
  | none, some _ => false

/-- Whether a key is one for a reader of YAML: its colon stands in its line and not too far behind. -/
def Key.isPlain (k : Key) : Bool :=
  k.before.isPlain && k.glyphs.all Glyph.isPlain && k.behind.chars.all (· = ' ') &&
    (quoted k.glyphs).length + k.behind.chars.length ≤ 1024

mutual

/-- Whether a document is written in a way that a reader of YAML takes for the same. -/
def Source.isPlain : Source → Bool
  | .null | .bool _ => true
  | .number n => n.isPlain
  | .text gs => areKept gs
  | .emptyArray inside | .emptyObject inside => inside.isPlain
  | .array items => items.isPlain
  | .object entries => entries.isPlain

def Padded.isPlain : Padded → Bool
  | .mk before v after => before.isPlain && v.isPlain && after.isPlain

def Items.isPlain : Items → Bool
  | .last v => v.isPlain
  | .more v rest => v.isPlain && rest.isPlain

def Entries.isPlain : Entries → Bool
  | .last k v => k.isPlain && v.isPlain
  | .more k v rest => k.isPlain && v.isPlain && rest.isPlain

end

mutual

/-- The words of YAML that a document is read as. -/
def Source.tokens : Source → List Yaml.Token
  | .text gs => [.scalar (textOf gs) false]
  | .emptyArray _ => [.flowSequenceStart, .flowSequenceEnd]
  | .array items => .flowSequenceStart :: items.tokens
  | .emptyObject _ => [.flowMappingStart, .flowMappingEnd]
  | .object entries => .flowMappingStart :: entries.tokens
  | .null => [.scalar "null" true]
  | .bool b => [.scalar (if b then "true" else "false") true]
  | .number n => [.scalar (String.ofList n.chars) true]

def Padded.tokens : Padded → List Yaml.Token
  | .mk _ v _ => v.tokens

def Items.tokens : Items → List Yaml.Token
  | .last v => v.tokens ++ [.flowSequenceEnd]
  | .more v rest => v.tokens ++ .flowEntry :: rest.tokens

def Entries.tokens : Entries → List Yaml.Token
  | .last k v => [.key, .scalar (textOf k.glyphs) false, .value] ++ (v.tokens ++ [.flowMappingEnd])
  | .more k v rest =>
    [.key, .scalar (textOf k.glyphs) false, .value] ++ (v.tokens ++ .flowEntry :: rest.tokens)

end

/-! ## Parts of a document -/

open Scanner Yaml.Position

lemma Blank.areGaps {b : Blank} (h : b.isPlain = true) : AreGaps b.chars := by
  intro c hc
  have htab := List.all_eq_true.1 h c hc
  have hspace := b.isSpace c hc
  simp only [Json.isSpace, Bool.or_eq_true, beq_iff_eq] at hspace
  simp only [ne_eq, decide_not, Bool.not_eq_true', decide_eq_false_iff_not] at htab
  tauto

lemma isWordChar_of_isDigit {c : Char} (h : c.isDigit = true) : isWordChar c = true := by
  simp [isWordChar, Char.isAlphanum, h]

lemma Digits.areWord (d : Digits) : ∀ c ∈ d.chars, isWordChar c = true := fun c hc =>
  isWordChar_of_isDigit (d.isDigit c hc)

lemma Exponent.areWord (e : Exponent) : ∀ c ∈ e.chars, isWordChar c = true := by
  refine List.forall_mem_cons.2 ⟨?_, List.forall_mem_append.2 ⟨?_, e.digits.areWord⟩⟩
  · rcases e.isLetter with h | h <;> rw [h] <;> decide
  · cases e.sign with
    | none => exact List.forall_mem_nil _
    | some b => cases b <;> exact List.forall_mem_singleton.2 (by decide)

/-- A number is a word. -/
lemma Numeral.isWord (n : Numeral) : IsWord n.chars := by
  have hmagnitude : ∀ c ∈ n.magnitude, isWordChar c = true := by
    refine List.forall_mem_append.2 ⟨n.whole.areWord, List.forall_mem_append.2 ⟨?_, ?_⟩⟩
    · cases n.fraction with
      | none => exact List.forall_mem_nil _
      | some d => exact List.forall_mem_cons.2 ⟨by decide, d.areWord⟩
    · cases n.exponent with
      | none => exact List.forall_mem_nil _
      | some e => exact e.areWord
  obtain ⟨c, x, hc⟩ := List.exists_cons_of_ne_nil n.whole.ne_nil
  have hdigit : c.isDigit = true := n.whole.isDigit c (by rw [hc]; exact List.mem_cons_self)
  have halnum : c.isAlphanum = true := by simp [Char.isAlphanum, hdigit]
  have hfirst : ∃ y, n.magnitude = c :: y := ⟨_, by rw [magnitude, hc]; rfl⟩
  obtain ⟨y, hy⟩ := hfirst
  rw [chars]
  cases n.negative with
  | false => exact ⟨hmagnitude, .inl ⟨c, y, hy, halnum⟩⟩
  | true =>
    exact ⟨List.forall_mem_cons.2 ⟨by decide, hmagnitude⟩, .inr ⟨c, y, congrArg _ hy, halnum⟩⟩

lemma isWordNext_of_alphanum {c : Char} (h : c.isAlphanum = true) (t : List Char) :
    IsWordNext (c :: t) := by
  have hne := ne_of_isAlphanum h
  simp only [specials, List.forall_mem_cons] at hne
  refine ⟨?_, by simp [hne]⟩
  rintro d ⟨⟩
  simp [isGap, isBreak, hne]

lemma isWordNext_of_isWord {w : List Char} (h : IsWord w) (t : List Char) :
    IsWordNext (w ++ t) := by
  obtain ⟨c, x, rfl, hc⟩ | ⟨c, x, rfl, hc⟩ := h.first
  · exact isWordNext_of_alphanum hc _
  · exact ⟨by rintro d ⟨⟩; decide, by simp⟩

variable {s : Scanner} {u t : List Char}

/-- A word is read between blanks. -/
lemma goes_word {w v : List Char} (hs : s.IsCalm) (hflow : s.inFlow = true) (hw : IsWord w)
    (hu : AreGaps u) (hv : AreGaps v) (ht : Stops t) (hrest : s.here.rest = u ++ (w ++ (v ++ t))) :
    ∃ s', s.Goes [.scalar (String.ofList w) true] t s.level s' := by
  obtain ⟨s₁, harrives, hleads⟩ := exists_step hs hu (isWordNext_of_isWord hw _) hrest
  have hflow' : s₁.inFlow = true := by rw [inFlow, harrives.level]; exact hflow
  obtain ⟨s', hread, h⟩ := readPlain_calm harrives.calm hw hflow' hv ht harrives.rest
  refine ⟨s', harrives.reads (harrives.level ▸ h), hleads s' hread ?_⟩
  have hne : w ≠ [] := by
    obtain ⟨c, x, rfl, -⟩ | ⟨c, x, rfl, -⟩ := hw.first <;> exact List.cons_ne_nil _ _
  have := List.length_pos_iff.2 hne
  rw [h.rest]
  simp only [List.length_append]
  omega

lemma isWordNext_quoted (gs : List Glyph) (t : List Char) : IsWordNext (quoted gs ++ t) :=
  ⟨by rintro d ⟨⟩; decide, by simp [quoted]⟩

lemma length_lt_quoted (gs : List Glyph) (t : List Char) : t.length < (quoted gs ++ t).length := by
  simp only [List.length_append, quoted, List.length_cons]
  omega

/-- A quoted text is read behind blanks. -/
lemma goes_text {gs : List Glyph} (hs : s.IsCalm) (hkept : areKept gs = true)
    (hu : AreGaps u) (hrest : s.here.rest = u ++ (quoted gs ++ t)) :
    ∃ s', s.Goes [.scalar (textOf gs) false] t s.level s' := by
  obtain ⟨s₁, harrives, hleads⟩ := exists_step hs hu (isWordNext_quoted gs t) hrest
  obtain ⟨s', hread, h, -⟩ := readQuoted_calm harrives.calm hkept harrives.rest
  refine ⟨s', harrives.reads (harrives.level ▸ h), hleads s' ?_ ?_⟩
  · rw [readNext, Position.next?, harrives.rest]
    exact hread
  · rw [h.rest]
    exact length_lt_quoted gs t

/-- The next character is an indicator. -/
lemma exists_step_indicator {c : Char} (hs : s.IsCalm) (hu : AreGaps u)
    (hc : c ∈ ['[', ']', '\x7b', '\x7d', ',', ':']) (hrest : s.here.rest = u ++ c :: t) :
    ∃ s₁, s.Arrives u (c :: t) s₁ ∧ s₁.here.atSeparator = false ∧
      ∀ s', s₁.readWord c = .ok s' → s'.here.rest = t → s.Leads s' := by
  have hnext : IsWordNext (c :: t) ∧ c ≠ '-' ∧ c ≠ '.' := by
    simp only [List.mem_cons, List.not_mem_nil, or_false] at hc
    refine ⟨⟨?_, ?_⟩, ?_⟩
    · rintro d ⟨⟩
      rcases hc with rfl | rfl | rfl | rfl | rfl | rfl <;> decide
    · rcases hc with rfl | rfl | rfl | rfl | rfl | rfl <;> simp
    · rcases hc with rfl | rfl | rfl | rfl | rfl | rfl <;> decide
  obtain ⟨s₁, harrives, hleads⟩ := exists_step hs hu hnext.1 hrest
  refine ⟨s₁, harrives, atSeparator_eq_false ?_, fun s' hread ht => hleads s' ?_ ?_⟩
  · rw [harrives.rest]
    rintro d ⟨⟩
    exact hnext.2
  · rw [readNext, Position.next?, harrives.rest]
    exact hread
  · rw [ht]
    exact Nat.lt_succ_self _

/-- A bracket that opens a collection. -/
lemma goes_opening {c : Char} {x : Yaml.Token} (hs : s.IsCalm) (hu : AreGaps u)
    (hc : c = '[' ∧ x = .flowSequenceStart ∨ c = '\x7b' ∧ x = .flowMappingStart)
    (hrest : s.here.rest = u ++ c :: t) :
    ∃ s', s.Goes [x] t (s.level + 1) s' ∧ s'.keyAllowed = true := by
  obtain ⟨s₁, harrives, hseparator, hleads⟩ := exists_step_indicator hs hu
    (by rcases hc with ⟨rfl, -⟩ | ⟨rfl, -⟩ <;> simp) hrest
  obtain ⟨s', hread, h, hallowed⟩ := readOpening_calm harrives.calm harrives.rest x
  have hword : s₁.readWord c = s₁.readOpening x := by
    rcases hc with ⟨rfl, rfl⟩ | ⟨rfl, rfl⟩ <;> simp [readWord, hseparator]
  exact ⟨s', ⟨harrives.reads (harrives.level ▸ h), hleads s' (hword.trans hread) h.rest⟩, hallowed⟩

/-- A bracket that closes a collection. -/
lemma goes_closing {c : Char} {x : Yaml.Token} (hs : s.IsCalm) (hu : AreGaps u)
    (hc : c = ']' ∧ x = .flowSequenceEnd ∨ c = '\x7d' ∧ x = .flowMappingEnd)
    (hrest : s.here.rest = u ++ c :: t) : ∃ s', s.Goes [x] t (s.level - 1) s' := by
  obtain ⟨s₁, harrives, hseparator, hleads⟩ := exists_step_indicator hs hu
    (by rcases hc with ⟨rfl, -⟩ | ⟨rfl, -⟩ <;> simp) hrest
  obtain ⟨s', hread, h⟩ := readClosing_calm harrives.calm harrives.rest x
  have hword : s₁.readWord c = s₁.readClosing x := by
    rcases hc with ⟨rfl, rfl⟩ | ⟨rfl, rfl⟩ <;> simp [readWord, hseparator]
  exact ⟨s', harrives.reads (harrives.level ▸ h), hleads s' (hword.trans hread) h.rest⟩

/-- A comma. -/
lemma goes_comma (hs : s.IsCalm) (hu : AreGaps u) (hrest : s.here.rest = u ++ ',' :: t) :
    ∃ s', s.Goes [.flowEntry] t s.level s' ∧ s'.keyAllowed = true := by
  obtain ⟨s₁, harrives, hseparator, hleads⟩ := exists_step_indicator hs hu (by simp) hrest
  obtain ⟨s', hread, h, hallowed⟩ := readComma_calm harrives.calm harrives.rest
  have hword : s₁.readWord ',' = s₁.readComma := by simp [readWord, hseparator]
  exact ⟨s', ⟨harrives.reads (harrives.level ▸ h), hleads s' (hword.trans hread) h.rest⟩, hallowed⟩

/-- A key with its colon: the place that is kept open in front of the text is filled. -/
lemma goes_key {k : Key} (hs : s.IsCalm) (hflow : s.inFlow = true) (hallowed : s.keyAllowed = true)
    (hk : k.isPlain = true) (hrest : s.here.rest = k.chars ++ t) :
    ∃ s', s.Goes [.key, .scalar (textOf k.glyphs) false, .value] t s.level s' := by
  simp only [Key.isPlain, Bool.and_eq_true, List.all_eq_true, decide_eq_true_eq] at hk
  obtain ⟨⟨⟨hbefore, hplain⟩, hbehind⟩, hnear⟩ := hk
  have hrest' : s.here.rest =
      k.before.chars ++ (quoted k.glyphs ++ (k.behind.chars ++ ':' :: t)) := by
    rw [hrest, Key.chars]
    simp only [List.append_assoc, List.singleton_append]
  obtain ⟨s₁, harrives₁, hleads₁⟩ :=
    exists_step hs (Blank.areGaps hbefore) (isWordNext_quoted k.glyphs _) hrest'
  obtain ⟨s₂, hread₂, htext, hkey⟩ :=
    readQuoted_calm harrives₁.calm (areKept_of_isPlain hplain) harrives₁.rest
  obtain ⟨hslots, key, others, hkeys, hlevel, hslot, hindex, hline⟩ :=
    hkey (harrives₁.allowed hallowed) hplain
  have hgaps : AreGaps k.behind.chars := fun c hc => .inl (hbehind c hc)
  obtain ⟨s₃, harrives₃, -, hleads₃⟩ :=
    exists_step_indicator htext.calm hgaps (by simp) htext.rest
  -- the colon is in the line of the text and near enough
  obtain ⟨others', hkeys'⟩ := harrives₃.keys key others hkeys hbehind hline (by omega)
  have hlevel₃ : s₃.level = s₁.level := harrives₃.level.trans htext.level
  have hflow' : s₃.inFlow = true := by rw [inFlow, hlevel₃, harrives₁.level]; exact hflow
  obtain ⟨s', hread, hcalm, hrest, hlevel', hwords⟩ := readColon_calm harrives₃.calm hflow' hkeys'
    (hlevel.trans hlevel₃.symm) hslot (harrives₃.slots.trans hslots) harrives₃.rest
  have hnext : s₁.readNext = .ok s₂ := by
    rw [readNext, Position.next?, harrives₁.rest]
    exact hread₂
  refine ⟨s', ⟨hcalm, hrest, ?_, ?_⟩, (hleads₁ s₂ hnext ?_).trans (hleads₃ s' hread hrest)⟩
  · rw [hwords, harrives₁.slots]
    rfl
  · rw [hlevel', hlevel₃, harrives₁.level]
  · rw [htext.rest]
    exact length_lt_quoted k.glyphs _

/-! ## Collections -/

/-- What stands between brackets is read behind the one that opens it. -/
lemma goes_bracketed {c : Char} {x : Yaml.Token} {ts : List Yaml.Token} {w : List Char} (hs : s.IsCalm)
    (hu : AreGaps u) (hc : c = '[' ∧ x = .flowSequenceStart ∨ c = '\x7b' ∧ x = .flowMappingStart)
    (hinner : ∀ s₁ : Scanner, s₁.IsCalm → s₁.inFlow = true → s₁.keyAllowed = true →
      s₁.here.rest = w → ∃ s', s₁.Goes ts t (s₁.level - 1) s')
    (hrest : s.here.rest = u ++ c :: w) : ∃ s', s.Goes (x :: ts) t s.level s' := by
  obtain ⟨s₁, hopen, hallowed⟩ := goes_opening hs hu hc hrest
  have hflow : s₁.inFlow = true := by simp [inFlow, hopen.level]
  obtain ⟨s', h⟩ := hinner s₁ hopen.calm hflow hallowed hopen.rest
  rw [hopen.level, Nat.add_sub_cancel] at h
  exact ⟨s', hopen.trans h⟩

/-- Brackets with nothing but blanks between them. -/
lemma goes_empty {c d : Char} {x y : Yaml.Token} {b : Blank} (hs : s.IsCalm) (hu : AreGaps u)
    (hb : b.isPlain = true)
    (hbrackets : c = '[' ∧ x = .flowSequenceStart ∧ d = ']' ∧ y = .flowSequenceEnd ∨
      c = '\x7b' ∧ x = .flowMappingStart ∧ d = '\x7d' ∧ y = .flowMappingEnd)
    (hrest : s.here.rest = u ++ c :: (b.chars ++ d :: t)) :
    ∃ s', s.Goes [x, y] t s.level s' :=
  goes_bracketed hs hu (by tauto) (fun s₁ hs₁ _ _ hrest₁ =>
    goes_closing hs₁ (Blank.areGaps hb) (by tauto) hrest₁) hrest

/-- The name of a constant is a word. -/
lemma isWord_constant {w : List Char} (hw : w ∈ ["null".toList, "true".toList, "false".toList]) :
    IsWord w := by
  simp only [List.mem_cons, List.not_mem_nil, or_false] at hw
  obtain rfl | rfl | rfl := hw <;>
    exact ⟨List.all_eq_true.1 (by decide), .inl ⟨_, _, rfl, by decide⟩⟩

mutual

/-- **A document is read between blanks** up to what ends a value; perhaps with the blanks behind
it. -/
theorem Source.goes : ∀ {v : Source} {s : Scanner} {u a t : List Char}, v.isPlain = true →
    s.IsCalm → s.inFlow = true → AreGaps u → AreGaps a → Stops t →
    s.here.rest = u ++ (v.chars ++ (a ++ t)) →
    ∃ w s', AreGaps w ∧ s.Goes v.tokens (w ++ t) s.level s'
  | .null, s, _, _, _, _, hs, hflow, hu, ha, ht, hrest =>
    have ⟨s', h⟩ := goes_word hs hflow (isWord_constant (by decide)) hu ha ht hrest
    ⟨[], s', List.forall_mem_nil _, h⟩
  | .bool true, s, _, _, _, _, hs, hflow, hu, ha, ht, hrest =>
    have ⟨s', h⟩ := goes_word hs hflow (isWord_constant (by decide)) hu ha ht hrest
    ⟨[], s', List.forall_mem_nil _, h⟩
  | .bool false, s, _, _, _, _, hs, hflow, hu, ha, ht, hrest =>
    have ⟨s', h⟩ := goes_word hs hflow (isWord_constant (by decide)) hu ha ht hrest
    ⟨[], s', List.forall_mem_nil _, h⟩
  | .number n, s, _, _, _, _, hs, hflow, hu, ha, ht, hrest =>
    have ⟨s', h⟩ := goes_word hs hflow n.isWord hu ha ht hrest
    ⟨[], s', List.forall_mem_nil _, h⟩
  | .text gs, s, _, a, _, hplain, hs, _, hu, ha, _, hrest =>
    have ⟨s', h⟩ := goes_text hs hplain hu hrest
    ⟨a, s', ha, h⟩
  | .emptyArray inside, s, u, a, t, hplain, hs, _, hu, ha, _, hrest =>
    have ⟨s', h⟩ := goes_empty (t := a ++ t) hs hu hplain (.inl ⟨rfl, rfl, rfl, rfl⟩)
      (by rw [hrest]; simp [Source.chars])
    ⟨a, s', ha, h⟩
  | .array items, s, u, a, t, hplain, hs, _, hu, ha, _, hrest =>
    have ⟨s', h⟩ := goes_bracketed (t := a ++ t) hs hu (.inl ⟨rfl, rfl⟩)
      (fun _ hs₁ hflow _ hrest₁ => items.goes hplain hs₁ hflow hrest₁) hrest
    ⟨a, s', ha, h⟩
  | .emptyObject inside, s, u, a, t, hplain, hs, _, hu, ha, _, hrest =>
    have ⟨s', h⟩ := goes_empty (t := a ++ t) hs hu hplain (.inr ⟨rfl, rfl, rfl, rfl⟩)
      (by rw [hrest]; simp [Source.chars])
    ⟨a, s', ha, h⟩
  | .object entries, s, u, a, t, hplain, hs, _, hu, ha, _, hrest =>
    have ⟨s', h⟩ := goes_bracketed (t := a ++ t) hs hu (.inr ⟨rfl, rfl⟩)
      (fun _ hs₁ hflow hallowed hrest₁ => entries.goes hplain hs₁ hflow hallowed hrest₁) hrest
    ⟨a, s', ha, h⟩

/-- The same with the blanks in front. -/
theorem Padded.goes : ∀ {d : Padded} {s : Scanner} {t : List Char}, d.isPlain = true → s.IsCalm →
    s.inFlow = true → Stops t → s.here.rest = d.chars ++ t →
    ∃ w s', AreGaps w ∧ s.Goes d.tokens (w ++ t) s.level s'
  | .mk before v after, s, t, hplain, hs, hflow, ht, hrest => by
    simp only [Padded.isPlain, Bool.and_eq_true] at hplain
    refine v.goes hplain.1.2 hs hflow (Blank.areGaps hplain.1.1) (Blank.areGaps hplain.2) ht ?_
    rw [hrest, Padded.chars, List.append_assoc, List.append_assoc]

/-- Items are read up to the bracket behind them. -/
theorem Items.goes : ∀ {items : Items} {s : Scanner} {t : List Char}, items.isPlain = true →
    s.IsCalm → s.inFlow = true → s.here.rest = items.chars ++ t →
    ∃ s', s.Goes items.tokens t (s.level - 1) s'
  | .last v, s, t, hplain, hs, hflow, hrest => by
    obtain ⟨w, s₁, hw, h⟩ := v.goes hplain hs hflow (t := ']' :: t) ⟨_, _, rfl, by simp⟩
      (by rw [hrest]; simp [Items.chars])
    obtain ⟨s', hclose⟩ := goes_closing h.calm hw (.inl ⟨rfl, rfl⟩) h.rest
    exact ⟨s', h.trans (h.level ▸ hclose)⟩
  | .more v rest, s, t, hplain, hs, hflow, hrest => by
    simp only [Items.isPlain, Bool.and_eq_true] at hplain
    obtain ⟨w, s₁, hw, h⟩ := v.goes hplain.1 hs hflow (t := ',' :: (rest.chars ++ t))
      ⟨_, _, rfl, by simp⟩ (by rw [hrest]; simp [Items.chars])
    obtain ⟨s₂, hcomma, -⟩ := goes_comma h.calm hw h.rest
    have hlevel : s₂.level = s.level := hcomma.level.trans h.level
    obtain ⟨s', hmore⟩ := rest.goes hplain.2 hcomma.calm (by rw [inFlow, hlevel]; exact hflow)
      hcomma.rest
    exact ⟨s', h.trans (hcomma.trans (hlevel ▸ hmore))⟩

/-- Entries are read up to the brace behind them. -/
theorem Entries.goes : ∀ {entries : Entries} {s : Scanner} {t : List Char},
    entries.isPlain = true → s.IsCalm → s.inFlow = true → s.keyAllowed = true →
    s.here.rest = entries.chars ++ t → ∃ s', s.Goes entries.tokens t (s.level - 1) s'
  | .last k v, s, t, hplain, hs, hflow, hallowed, hrest => by
    simp only [Entries.isPlain, Bool.and_eq_true] at hplain
    obtain ⟨s₁, hkey⟩ := goes_key (t := v.chars ++ '\x7d' :: t) hs hflow hallowed hplain.1
      (by rw [hrest]; simp [Entries.chars])
    obtain ⟨w, s₂, hw, h⟩ := v.goes hplain.2 hkey.calm (by rw [inFlow, hkey.level]; exact hflow)
      ⟨_, _, rfl, by simp⟩ hkey.rest
    obtain ⟨s', hclose⟩ := goes_closing h.calm hw (.inr ⟨rfl, rfl⟩) h.rest
    have hlevel : s₂.level = s.level := h.level.trans hkey.level
    exact ⟨s', hkey.trans (h.trans (hlevel ▸ hclose))⟩
  | .more k v rest, s, t, hplain, hs, hflow, hallowed, hrest => by
    simp only [Entries.isPlain, Bool.and_eq_true] at hplain
    obtain ⟨s₁, hkey⟩ := goes_key (t := v.chars ++ ',' :: (rest.chars ++ t)) hs hflow hallowed
      hplain.1.1 (by rw [hrest]; simp [Entries.chars])
    obtain ⟨w, s₂, hw, h⟩ := v.goes hplain.1.2 hkey.calm (by rw [inFlow, hkey.level]; exact hflow)
      ⟨_, _, rfl, by simp⟩ hkey.rest
    obtain ⟨s₃, hcomma, hallowed'⟩ := goes_comma h.calm hw h.rest
    have hlevel : s₃.level = s.level := hcomma.level.trans (h.level.trans hkey.level)
    obtain ⟨s', hmore⟩ := rest.goes hplain.2 hcomma.calm (by rw [inFlow, hlevel]; exact hflow)
      hallowed' hcomma.rest
    exact ⟨s', hkey.trans (h.trans (hcomma.trans (hlevel ▸ hmore)))⟩

end

/-! ## Characters -/

lemma toNat_of_isWordChar {c : Char} (h : isWordChar c = true) :
    0x2B ≤ c.toNat ∧ c.toNat ≤ 0x7A := by
  simp only [isWordChar, Bool.or_eq_true, decide_eq_true_eq] at h
  obtain ((h | rfl) | rfl) | rfl := h
  · unfold Char.isAlphanum Char.isAlpha Char.isUpper Char.isLower Char.isDigit at h
    simp only [Bool.or_eq_true, Bool.and_eq_true, decide_eq_true_eq, ge_iff_le,
      UInt32.le_iff_toNat_le] at h
    obtain (⟨h, h'⟩ | ⟨h, h'⟩) | ⟨h, h'⟩ := h <;>
      exact ⟨Nat.le_trans (by decide) h, Nat.le_trans h' (by decide)⟩
  all_goals decide

lemma isPrintable_of_toNat {c : Char} (h : 0x20 ≤ c.toNat) (h' : c.toNat ≤ 0x7E) :
    Words.isPrintable c = true := by
  simp [Words.isPrintable, h, h']

lemma isPrintable_of_isWordChar {c : Char} (h : isWordChar c = true) :
    Words.isPrintable c = true :=
  have ⟨hlow, hhigh⟩ := toNat_of_isWordChar h
  isPrintable_of_toNat (Nat.le_trans (by decide) hlow) (Nat.le_trans hhigh (by decide))

lemma isPrintable_of_hexValue? {c : Char} {n : Nat} (h : Json.hexValue? c = some n) :
    Words.isPrintable c = true := by
  unfold Json.hexValue? at h
  split_ifs at h with hdigit hsmall hcapital
  · exact isPrintable_of_isWordChar (isWordChar_of_isDigit hdigit)
  · exact isPrintable_of_toNat (Nat.le_trans (by decide) hsmall.1)
      (Nat.le_trans hsmall.2 (by decide))
  · exact isPrintable_of_toNat (Nat.le_trans (by decide) hcapital.1)
      (Nat.le_trans hcapital.2 (by decide))

lemma Blank.arePrintable (b : Blank) : b.chars.all Words.isPrintable = true := by
  refine List.all_eq_true.2 fun c hc => ?_
  have h := b.isSpace c hc
  simp only [Json.isSpace, Bool.or_eq_true, beq_iff_eq] at h
  obtain ((rfl | rfl) | rfl) | rfl := h <;> decide

lemma Glyph.arePrintable {g : Glyph} {gs : List Glyph} (h : g.isKept gs = true) :
    g.chars.all Words.isPrintable = true := by
  cases hof : g.isOf isSeparator with
  | true =>
    obtain ⟨hchars, hchar⟩ := chars_of_isOf hof
    simp only [isSeparator, Bool.or_eq_true, decide_eq_true_eq] at hchar
    rw [hchars]
    obtain hchar | hchar := hchar <;> rw [hchar] <;> decide
  | false =>
    have hplain := isPlain_of_isKept h hof
    cases g with
    | plain c =>
      have := (Bool.and_eq_true_iff.1 hplain).1
      simp [Glyph.chars, this]
    | letter c d hescape =>
      have hc : Words.isPrintable c = true := by
        unfold escape? at hescape
        split at hescape <;> first | decide | cases hescape
      have hslash : Words.isPrintable '\\' = true := by decide
      simp [Glyph.chars, hslash, hc]
    | unit u =>
      obtain ⟨a, b, c, d, ha, hb, hc, hd, -⟩ := u.exists_hexValue?
      have hmark : Words.isPrintable '\\' = true ∧ Words.isPrintable 'u' = true := by decide
      simp [Glyph.chars, CodeUnit.chars, hmark, isPrintable_of_hexValue? ha,
        isPrintable_of_hexValue? hb, isPrintable_of_hexValue? hc, isPrintable_of_hexValue? hd]
    | pair u v => cases hplain

lemma isPrintable_indicators : Words.isPrintable '[' = true ∧ Words.isPrintable ']' = true ∧
    Words.isPrintable '\x7b' = true ∧ Words.isPrintable '\x7d' = true ∧
    Words.isPrintable ',' = true ∧ Words.isPrintable ':' = true ∧
    Words.isPrintable '"' = true := by decide

lemma arePrintable_quoted {gs : List Glyph} (h : areKept gs = true) :
    (quoted gs).all Words.isPrintable = true := by
  have hinside : (gs.flatMap Glyph.chars).all Words.isPrintable = true := by
    induction gs with
    | nil => rfl
    | cons g gs ih =>
      rw [List.flatMap_cons, List.all_append, Glyph.arePrintable (Bool.and_eq_true_iff.1 h).1,
        ih (areKept_tail h)]
      rfl
  simp [quoted, isPrintable_indicators, hinside]

lemma Key.arePrintable {k : Key} (h : k.isPlain = true) :
    k.chars.all Words.isPrintable = true := by
  simp only [Key.isPlain, Bool.and_eq_true] at h
  have hkept := areKept_of_isPlain (List.all_eq_true.1 h.1.1.2)
  simp [Key.chars, isPrintable_indicators, k.before.arePrintable, k.behind.arePrintable,
    arePrintable_quoted hkept]

lemma Numeral.arePrintable (n : Numeral) : n.chars.all Words.isPrintable = true :=
  List.all_eq_true.2 fun c hc => isPrintable_of_isWordChar (n.isWord.chars c hc)

mutual

theorem Source.arePrintable : ∀ {v : Source}, v.isPlain = true →
    v.chars.all Words.isPrintable = true
  | .null, _ => by decide
  | .bool true, _ => by decide
  | .bool false, _ => by decide
  | .number n, _ => n.arePrintable
  | .text _, h => arePrintable_quoted h
  | .emptyArray inside, _ => by
    simp [Source.chars, inside.arePrintable, isPrintable_indicators]
  | .array items, h => by
    simp [Source.chars, items.arePrintable h, isPrintable_indicators]
  | .emptyObject inside, _ => by
    simp [Source.chars, inside.arePrintable, isPrintable_indicators]
  | .object entries, h => by
    simp [Source.chars, entries.arePrintable h, isPrintable_indicators]

theorem Padded.arePrintable : ∀ {d : Padded}, d.isPlain = true →
    d.chars.all Words.isPrintable = true
  | .mk before v after, h => by
    simp only [Padded.isPlain, Bool.and_eq_true] at h
    simp [Padded.chars, before.arePrintable, v.arePrintable h.1.2, after.arePrintable]

theorem Items.arePrintable : ∀ {items : Items}, items.isPlain = true →
    items.chars.all Words.isPrintable = true
  | .last v, h => by
    simp [Items.chars, v.arePrintable h, isPrintable_indicators]
  | .more v rest, h => by
    simp only [Items.isPlain, Bool.and_eq_true] at h
    simp [Items.chars, v.arePrintable h.1, rest.arePrintable h.2,
      isPrintable_indicators]

theorem Entries.arePrintable : ∀ {entries : Entries}, entries.isPlain = true →
    entries.chars.all Words.isPrintable = true
  | .last k v, h => by
    simp only [Entries.isPlain, Bool.and_eq_true] at h
    simp [Entries.chars, Key.arePrintable h.1, v.arePrintable h.2,
      isPrintable_indicators]
  | .more k v rest, h => by
    simp only [Entries.isPlain, Bool.and_eq_true] at h
    simp [Entries.chars, Key.arePrintable h.1.1, v.arePrintable h.1.2, rest.arePrintable h.2,
      isPrintable_indicators]

end

/-! ## The whole text -/

/-- Behind the last word only blanks are left, and the words are complete. -/
lemma scan_end {a : List Char} (hs : s.IsCalm) (ha : AreGaps a) (hrest : s.here.rest = a)
    (fuel : Nat) :
    Words.scan (fuel + 2) s = ⟨s.words ++ [.streamEnd], none⟩ := by
  obtain ⟨s₁, harrives, hscan⟩ := exists_arrives (t := []) hs ha
    ⟨by rintro c ⟨⟩, by simp⟩ (by rw [hrest, List.append_nil])
  have hread : s₁.readNext = s₁.readEnd := by rw [readNext, Position.next?, harrives.rest]; rfl
  have hend : s₁.readEnd = .ok { s₁.push .streamEnd s₁.here with
      keyAllowed := false, keys := [], done := true } := by
    rw [readEnd, harrives.calm.unwind_eq, harrives.calm.dropKey_eq]
    rfl
  rw [hscan _ (hread.trans hend), Words.scan, if_pos rfl, Words.ofSlots]
  refine congrArg (Words.mk · none) ?_
  have := words_push s₁ .streamEnd s₁.here
  rw [words] at this
  refine this.trans ?_
  rw [words, harrives.slots]
  rfl

/-- An object was written with braces. -/
lemma Source.eq_of_json_eq {v : Source} {es : List (String × Json)} (hv : v.json = .object es) :
    (∃ inside, v = .emptyObject inside) ∨ ∃ entries, v = .object entries := by
  cases v with
  | emptyObject inside => exact .inl ⟨inside, rfl⟩
  | object entries => exact .inr ⟨entries, rfl⟩
  | number n =>
    rw [Source.json, Numeral.json] at hv
    split at hv <;> cases hv
  | _ => cases hv

/-- An object is read wherever it stands. -/
lemma Source.goes_object {v : Source} {es : List (String × Json)} (hv : v.json = .object es)
    (hplain : v.isPlain = true) (hs : s.IsCalm) (hu : AreGaps u)
    (hrest : s.here.rest = u ++ (v.chars ++ t)) : ∃ s', s.Goes v.tokens t s.level s' := by
  obtain ⟨inside, rfl⟩ | ⟨entries, rfl⟩ := Source.eq_of_json_eq hv
  · exact goes_empty hs hu hplain (.inr ⟨rfl, rfl, rfl, rfl⟩) (by rw [hrest]; simp [Source.chars])
  · exact goes_bracketed hs hu (.inr ⟨rfl, rfl⟩)
      (fun _ hs₁ hflow hallowed hrest₁ => entries.goes hplain hs₁ hflow hallowed hrest₁) hrest

/-- A mark of the byte order is no blank. -/
lemma skipMark_eq {c : Char} (hu : AreGaps u) (hc : c ≠ '\ufeff') :
    Words.skipMark (u ++ c :: t) = u ++ c :: t := by
  unfold Words.skipMark
  split
  · next t' h =>
    cases u with
    | nil => exact absurd (List.cons.inj h).1 hc
    | cons d u =>
      obtain ⟨rfl, -⟩ := List.cons.inj h
      obtain h | h | h := hu _ List.mem_cons_self <;> cases h
  · rfl

lemma isCalm_start (t : List Char) : (Scanner.start t).IsCalm :=
  ⟨rfl, List.forall_mem_nil _, rfl, rfl⟩

/-- **The words of a JSON document are those of its tree.** -/
theorem Padded.ofText_chars {d : Padded} {es : List (String × Json)} (hd : d.json = .object es)
    (hplain : d.isPlain = true) :
    Words.ofText d.chars = ⟨d.tokens ++ [.streamEnd], none⟩ := by
  have hprintable := d.arePrintable hplain
  obtain ⟨before, v, after⟩ := d
  simp only [Padded.isPlain, Bool.and_eq_true] at hplain
  have hbefore := Blank.areGaps hplain.1.1
  have hmark : Words.skipMark (Padded.mk before v after).chars =
      (Padded.mk before v after).chars := by
    obtain ⟨inside, rfl⟩ | ⟨entries, rfl⟩ := Source.eq_of_json_eq hd <;>
      exact skipMark_eq hbefore (by decide)
  obtain ⟨s, h⟩ := Source.goes_object hd hplain.1.2 (isCalm_start _) hbefore
    (show (Scanner.start (Padded.mk before v after).chars).here.rest = _ from rfl)
  obtain ⟨n, hn, hscan⟩ := h.leads
  have hlength : n ≤ (Padded.mk before v after).chars.length :=
    Nat.le_trans (Nat.le_add_right n _) hn
  obtain ⟨m, hm⟩ := Nat.exists_eq_add_of_le' hlength
  rw [Words.ofText, if_pos hprintable, hmark]
  dsimp only
  rw [hm, Nat.add_right_comm, hscan, scan_end h.calm (Blank.areGaps hplain.2) h.rest, h.words]
  rfl

end Interpolation.Json
