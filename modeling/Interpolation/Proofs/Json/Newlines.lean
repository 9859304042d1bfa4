import Interpolation.Text.Newlines
import Interpolation.Proofs.Json.Grammar
import Interpolation.Proofs.Yaml.Words

/-!
# JSON documents in files

The line ends of a file are made equal when it is read.  In a JSON document they can only stand among
the blanks, because a text between quotes has none that is not escaped.  So a document in a file is
read as another text of the same document, which differs in its blanks only; and if a reader of YAML
takes the one for the same, then the other as well.

* `Padded.newlined` — the tree with all its line ends made equal.
* **`Padded.newlined_chars`** — it is what is read from a file.
* `Padded.json_newlined`, `Padded.isPlain_newlined` — what it has from the tree.
-/

namespace Interpolation

namespace Text

variable {c : Char} {s t : List Char}

lemma universalNewlines_cons (hc : c ≠ '\r') (s : List Char) :
    universalNewlines (c :: s) = c :: universalNewlines s :=
  universalNewlines.eq_3 c s (fun _ h _ => hc h) hc

/-- A text without carriage returns stays as it is. -/
lemma universalNewlines_of_not_mem (h : '\r' ∉ s) (t : List Char) :
    universalNewlines (s ++ t) = s ++ universalNewlines t := by
  induction s with
  | nil => rfl
  | cons c s ih =>
    rw [List.cons_append, universalNewlines_cons (List.ne_of_not_mem_cons h).symm,
      ih (List.not_mem_of_not_mem_cons h), List.cons_append]

/-- No line end is made of the end of one text and the beginning of another one. -/
lemma universalNewlines_append (s : List Char) (ht : t.head? ≠ some '\n') :
    universalNewlines (s ++ t) = universalNewlines s ++ universalNewlines t := by
  induction s using universalNewlines.induct with
  | case1 s ih => exact congrArg _ ih
  | case2 s hs ih =>
    have hst : ∀ x, s ++ t = '\n' :: x → False := by
      cases s with
      | nil =>
        rintro x rfl
        exact ht rfl
      | cons c s =>
        rintro x ⟨⟩
        exact hs s rfl
    rw [List.cons_append, universalNewlines.eq_2 _ hst, universalNewlines.eq_2 _ hs, ih,
      List.cons_append]
  | case3 c s hpair hsingle ih =>
    rw [List.cons_append, universalNewlines_cons hsingle, universalNewlines_cons hsingle, ih,
      List.cons_append]
  | case4 => rfl

/-- Nothing but line feeds comes in. -/
lemma mem_of_mem_universalNewlines (h : c ∈ universalNewlines s) : c ∈ s ∨ c = '\n' := by
  induction s using universalNewlines.induct with
  | case1 s ih =>
    obtain h | h := List.mem_cons.1 h
    · exact .inr h
    · exact (ih h).imp_left fun hs => by simp [hs]
  | case2 s hs ih =>
    rw [universalNewlines.eq_2 _ hs] at h
    obtain h | h := List.mem_cons.1 h
    · exact .inr h
    · exact (ih h).imp_left (List.mem_cons_of_mem _)
  | case3 d s hpair hsingle ih =>
    rw [universalNewlines_cons hsingle] at h
    obtain h | h := List.mem_cons.1 h
    · exact .inl (h ▸ List.mem_cons_self)
    · exact (ih h).imp_left (List.mem_cons_of_mem _)
  | case4 => cases h

end Text

namespace Json

open Text

/-! ## Trees with equal line ends -/

/-- The blanks with all line ends made equal. -/
def Blank.newlined (b : Blank) : Blank where
  chars := universalNewlines b.chars
  isSpace c hc := by
    obtain hc | rfl := mem_of_mem_universalNewlines hc
    · exact b.isSpace c hc
    · rfl

/-- The key with all line ends made equal. -/
def Key.newlined (k : Key) : Key := ⟨k.before.newlined, k.glyphs, k.behind.newlined⟩

mutual

/-- The document with all line ends made equal. -/
def Source.newlined : Source → Source
  | .emptyArray inside => .emptyArray inside.newlined
  | .array items => .array items.newlined
  | .emptyObject inside => .emptyObject inside.newlined
  | .object entries => .object entries.newlined
  | v => v

def Padded.newlined : Padded → Padded
  | .mk before v after => .mk before.newlined v.newlined after.newlined

def Items.newlined : Items → Items
  | .last v => .last v.newlined
  | .more v rest => .more v.newlined rest.newlined

def Entries.newlined : Entries → Entries
  | .last k v => .last k.newlined v.newlined
  | .more k v rest => .more k.newlined v.newlined rest.newlined

end

mutual

theorem Source.json_newlined : ∀ v : Source, v.newlined.json = v.json
  | .null | .bool _ | .number _ | .text _ | .emptyArray _ | .emptyObject _ => rfl
  | .array items => congrArg Json.array items.json_newlined
  | .object entries => congrArg Json.object entries.json_newlined

/-- The tree still stands for the same document. -/
theorem Padded.json_newlined : ∀ d : Padded, d.newlined.json = d.json
  | .mk _ v _ => v.json_newlined

theorem Items.json_newlined : ∀ items : Items, items.newlined.json = items.json
  | .last v => congrArg (· :: []) v.json_newlined
  | .more v rest => congrArg₂ List.cons v.json_newlined rest.json_newlined

theorem Entries.json_newlined : ∀ entries : Entries, entries.newlined.json = entries.json
  | .last k v => congrArg (fun j => [(textOf k.glyphs, j)]) v.json_newlined
  | .more k v rest =>
    congrArg₂ (fun j es => (textOf k.glyphs, j) :: es) v.json_newlined rest.json_newlined

end

/-! ## Plain documents -/

lemma Blank.isPlain_newlined {b : Blank} (h : b.isPlain = true) : b.newlined.isPlain = true :=
  List.all_eq_true.2 fun c hc => by
    obtain hc | rfl := mem_of_mem_universalNewlines hc
    · exact List.all_eq_true.1 h c hc
    · rfl

/-- Behind a plain key there is nothing that could be changed. -/
lemma Key.isPlain_newlined {k : Key} (h : k.isPlain = true) : k.newlined.isPlain = true := by
  simp only [Key.isPlain, Bool.and_eq_true] at h ⊢
  obtain ⟨⟨⟨hbefore, hglyphs⟩, hbehind⟩, hnear⟩ := h
  have hreturn : '\r' ∉ k.behind.chars := fun hmem =>
    absurd (List.all_eq_true.1 hbehind _ hmem) (by decide)
  have hsame : k.newlined.behind.chars = k.behind.chars := by
    have := universalNewlines_of_not_mem hreturn []
    rwa [List.append_nil, universalNewlines, List.append_nil] at this
  rw [hsame]
  exact ⟨⟨⟨Blank.isPlain_newlined hbefore, hglyphs⟩, hbehind⟩, hnear⟩

mutual

theorem Source.isPlain_newlined : ∀ {v : Source}, v.isPlain = true → v.newlined.isPlain = true
  | .null, h | .bool _, h | .number _, h | .text _, h => h
  | .emptyArray _, h | .emptyObject _, h => Blank.isPlain_newlined h
  | .array items, h => items.isPlain_newlined h
  | .object entries, h => entries.isPlain_newlined h

/-- If the one is read as a document, then the other as well. -/
theorem Padded.isPlain_newlined : ∀ {d : Padded}, d.isPlain = true → d.newlined.isPlain = true
  | .mk before v after, h => by
    simp only [Padded.isPlain, Padded.newlined, Bool.and_eq_true] at h ⊢
    exact ⟨⟨Blank.isPlain_newlined h.1.1, v.isPlain_newlined h.1.2⟩, Blank.isPlain_newlined h.2⟩

theorem Items.isPlain_newlined : ∀ {items : Items}, items.isPlain = true →
    items.newlined.isPlain = true
  | .last v, h => v.isPlain_newlined h
  | .more v rest, h => by
    simp only [Items.isPlain, Items.newlined, Bool.and_eq_true] at h ⊢
    exact ⟨v.isPlain_newlined h.1, rest.isPlain_newlined h.2⟩

theorem Entries.isPlain_newlined : ∀ {entries : Entries}, entries.isPlain = true →
    entries.newlined.isPlain = true
  | .last k v, h => by
    simp only [Entries.isPlain, Entries.newlined, Bool.and_eq_true] at h ⊢
    exact ⟨Key.isPlain_newlined h.1, v.isPlain_newlined h.2⟩
  | .more k v rest, h => by
    simp only [Entries.isPlain, Entries.newlined, Bool.and_eq_true] at h ⊢
    exact ⟨⟨Key.isPlain_newlined h.1.1, v.isPlain_newlined h.1.2⟩, rest.isPlain_newlined h.2⟩

end

/-! ## What is read from a file -/

lemma Glyph.not_mem_chars (g : Glyph) : '\r' ∉ g.chars := by
  have hunit : ∀ u : CodeUnit, '\r' ∉ u.chars := by
    intro u hmem
    obtain ⟨a, b, c, d, ha, hb, hc, hd, -⟩ := u.exists_hexValue?
    simp only [CodeUnit.chars, List.mem_cons, List.not_mem_nil, or_false] at hmem
    obtain h | h | h | h | h | h := hmem
    · cases h
    · cases h
    · rw [← h] at ha; cases ha
    · rw [← h] at hb; cases hb
    · rw [← h] at hc; cases hc
    · rw [← h] at hd; cases hd
  cases g with
  | plain c hcontrol _ _ =>
    rintro hmem
    rw [← List.mem_singleton.1 hmem] at hcontrol
    exact absurd hcontrol (by decide)
  | letter c d h =>
    intro hmem
    obtain h' | h' := List.mem_cons.1 hmem
    · cases h'
    · rw [← List.mem_singleton.1 h'] at h
      cases h
  | unit u _ _ => exact hunit u
  | pair u v _ _ => exact fun hmem => (List.mem_append.1 hmem).elim (hunit u) (hunit v)

lemma not_mem_quoted (gs : List Glyph) : '\r' ∉ quoted gs := by
  intro hmem
  obtain h | hmem := List.mem_cons.1 hmem
  · cases h
  obtain hmem | hmem := List.mem_append.1 hmem
  · obtain ⟨g, -, hg⟩ := List.mem_flatMap.1 hmem
    exact g.not_mem_chars hg
  · cases List.mem_singleton.1 hmem

/-- Blanks in front of something that does not end a line. -/
lemma Blank.newlined_chars {s : List Char} (b : Blank) (hs : s.head? ≠ some '\n') :
    universalNewlines (b.chars ++ s) = b.newlined.chars ++ universalNewlines s :=
  universalNewlines_append b.chars hs

lemma Key.newlined_chars (k : Key) (s : List Char) :
    universalNewlines (k.chars ++ s) = k.newlined.chars ++ universalNewlines s := by
  simp only [Key.chars, List.append_assoc, List.singleton_append]
  rw [k.before.newlined_chars (by simp [quoted]), universalNewlines_of_not_mem (not_mem_quoted _),
    k.behind.newlined_chars (by simp), universalNewlines_cons (by decide)]
  rfl

lemma Source.head?_chars_ne (v : Source) (s : List Char) : (v.chars ++ s).head? ≠ some '\n' := by
  obtain ⟨c, x, hc, hspace, -⟩ := v.exists_first
  rw [hc]
  rintro ⟨⟩
  cases hspace

mutual

theorem Source.newlined_chars : ∀ (v : Source) (s : List Char),
    universalNewlines (v.chars ++ s) = v.newlined.chars ++ universalNewlines s
  | .null, s => universalNewlines_of_not_mem (by decide) s
  | .bool true, s => universalNewlines_of_not_mem (by decide) s
  | .bool false, s => universalNewlines_of_not_mem (by decide) s
  | .number n, s =>
    universalNewlines_of_not_mem (fun h => absurd (n.isWord.chars _ h) (by decide)) s
  | .text gs, s => universalNewlines_of_not_mem (not_mem_quoted gs) s
  | .emptyArray inside, s => by
    simp only [Source.chars, Source.newlined, List.cons_append, List.append_assoc, List.nil_append]
    rw [universalNewlines_cons (by decide), inside.newlined_chars (by simp),
      universalNewlines_cons (by decide)]
  | .array items, s => by
    simp only [Source.chars, Source.newlined, List.cons_append]
    rw [universalNewlines_cons (by decide), items.newlined_chars]
  | .emptyObject inside, s => by
    simp only [Source.chars, Source.newlined, List.cons_append, List.append_assoc, List.nil_append]
    rw [universalNewlines_cons (by decide), inside.newlined_chars (by simp),
      universalNewlines_cons (by decide)]
  | .object entries, s => by
    simp only [Source.chars, Source.newlined, List.cons_append]
    rw [universalNewlines_cons (by decide), entries.newlined_chars]

theorem Padded.newlined_chars_append : ∀ (d : Padded) {s : List Char}, s.head? ≠ some '\n' →
    universalNewlines (d.chars ++ s) = d.newlined.chars ++ universalNewlines s
  | .mk before v after, s, hs => by
    simp only [Padded.chars, Padded.newlined, List.append_assoc]
    rw [before.newlined_chars (v.head?_chars_ne _), v.newlined_chars, after.newlined_chars hs]

theorem Items.newlined_chars : ∀ (items : Items) (s : List Char),
    universalNewlines (items.chars ++ s) = items.newlined.chars ++ universalNewlines s
  | .last v, s => by
    simp only [Items.chars, Items.newlined, List.append_assoc, List.singleton_append]
    rw [v.newlined_chars_append (by simp), universalNewlines_cons (by decide)]
  | .more v rest, s => by
    simp only [Items.chars, Items.newlined, List.append_assoc, List.cons_append]
    rw [v.newlined_chars_append (by simp), universalNewlines_cons (by decide), rest.newlined_chars]

theorem Entries.newlined_chars : ∀ (entries : Entries) (s : List Char),
    universalNewlines (entries.chars ++ s) = entries.newlined.chars ++ universalNewlines s
  | .last k v, s => by
    simp only [Entries.chars, Entries.newlined, List.append_assoc, List.singleton_append]
    rw [k.newlined_chars, v.newlined_chars_append (by simp), universalNewlines_cons (by decide)]
  | .more k v rest, s => by
    simp only [Entries.chars, Entries.newlined, List.append_assoc, List.cons_append]
    rw [k.newlined_chars, v.newlined_chars_append (by simp), universalNewlines_cons (by decide),
      rest.newlined_chars]

end

/-- **What is read from a file is the text of the tree with its line ends made equal.** -/
theorem Padded.newlined_chars (d : Padded) : universalNewlines d.chars = d.newlined.chars := by
  have h := d.newlined_chars_append (s := []) (by simp)
  rwa [List.append_nil, universalNewlines, List.append_nil] at h

end Json

end Interpolation
