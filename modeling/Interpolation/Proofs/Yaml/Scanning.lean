import Interpolation.Proofs.Yaml.ScalarTexts

/-!
# Reading words between brackets

Inside of brackets a reader of YAML has little to remember: no block is begun, the indentation means
nothing, and nothing has to be a key.  Then each kind of word is read in one step, which moves over
blanks first and takes at least one character, and the words that were read before stay as they are.
The only exception is the place in front of a quoted text, which is filled when a colon follows.

* `Scanner.IsCalm` — there is nothing else to remember.
* `Scanner.Arrives` — blanks are passed, and what stands in front of them may still be a key.
* `Scanner.Goes` — some words are read, in no more steps than there are characters;
  `Scanner.exists_step` is one step.
-/

namespace Interpolation.Yaml

open Position (AreGaps Begins)

/-! ## Scanners between brackets -/

/-- No block was begun, and nothing has to be a key. -/
structure Scanner.IsCalm (s : Scanner) : Prop where
  going : s.done = false
  free : ∀ k ∈ s.keys, k.required = false
  indent : s.indent = -1
  indents : s.indents = []

namespace Scanner

/-- The words so far. -/
def words (s : Scanner) : List Token := s.slots.toList.flatMap Slot.tokens

variable {s s' s'' : Scanner} {t : List Char}

namespace IsCalm

lemma unwind_eq (h : s.IsCalm) (column : Int) : s.unwind column = s := by
  rw [unwind, h.indents]
  split <;> rfl

lemma forgetStale_eq (h : s.IsCalm) :
    s.forgetStale = .ok { s with keys := s.keys.filter s.isFresh } := by
  have hstale : ((s.keys.partition s.isFresh).2.any (·.required)) = false := by
    rw [List.partition_eq_filter_filter, List.any_eq_false]
    intro k hk
    rw [h.free k (List.mem_filter.1 hk).1]
    decide
  rw [forgetStale]
  dsimp only
  rw [hstale, List.partition_eq_filter_filter]
  rfl

lemma dropKey_eq (h : s.IsCalm) :
    s.dropKey = .ok { s with keys := s.keys.filter fun k => !decide (k.level = s.level) } := by
  have hpresent : ((s.keys.partition (·.level = s.level)).1.any (·.required)) = false := by
    rw [List.partition_eq_filter_filter, List.any_eq_false]
    intro k hk
    rw [h.free k (List.mem_filter.1 hk).1]
    decide
  rw [dropKey]
  dsimp only
  rw [hpresent, List.partition_eq_filter_filter]
  rfl

/-- Other keys may be forgotten, and the position may be another one. -/
lemma moved (h : s.IsCalm) {p : Position} {allowed : Bool} {keys : List PossibleKey}
    (hkeys : ∀ k ∈ keys, k ∈ s.keys) :
    IsCalm { s with here := p, keyAllowed := allowed, keys := keys } :=
  ⟨h.going, fun k hk => h.free k (hkeys k hk), h.indent, h.indents⟩

end IsCalm

/-! ## Moving to the next word -/

/-- A word comes next. -/
def IsWordNext (t : List Char) : Prop := Begins t ∧ t.head? ≠ some '#'

lemma toNextWord_gaps (ht : IsWordNext t) (fuel : Nat) {u : List Char} (hfuel : u.length < fuel)
    (hu : AreGaps u) (hrest : s.here.rest = u ++ t) :
    ∃ p allowed, s.toNextWord fuel = { s with here := p, keyAllowed := allowed } ∧ p.rest = t ∧
      (s.keyAllowed = true → allowed = true) ∧ ((∀ c ∈ u, c = ' ') → s.here.Crosses u p) := by
  induction fuel generalizing u s with
  | zero => exact absurd hfuel (Nat.not_lt_zero _)
  | succ fuel ih =>
    obtain ⟨spaces, v, rfl, hcross, -, hv⟩ := Position.skipSpaces_gaps hu ht.1 hrest
    have hv' : AreGaps v := fun c hc => hu c (List.mem_append_right _ hc)
    have hrest' : s.here.skipSpaces.rest = v ++ t :=
      hcross.rest_eq (hrest.trans (List.append_assoc _ _ _))
    have hcomment : s.here.skipSpaces.skipComment = s.here.skipSpaces := by
      rw [Position.skipComment, if_neg]
      rw [Position.next?, hrest']
      obtain rfl | ⟨c, x, rfl, rfl | rfl⟩ := hv
      · exact ht.2
      · simp
      · simp
    rw [toNextWord, hcomment]
    obtain rfl | ⟨c, x, rfl, hc⟩ := hv
    · rw [Position.lineBreak_of_begins (by rw [hrest']; exact ht.1)]
      exact ⟨_, s.keyAllowed, rfl, hrest', id, fun _ => by rwa [List.append_nil]⟩
    · obtain ⟨y, q, hbreak, hq, hy, hlength⟩ := Position.lineBreak_of_gaps hc
        (fun d hd => hv' d (List.mem_cons_of_mem _ hd)) ht.1 hrest'
      rw [hbreak]
      simp only [List.length_append, List.length_cons] at hfuel
      obtain ⟨p, allowed, hmove, hp, hallowed, -⟩ :=
        ih (s := { s with here := q, keyAllowed := s.keyAllowed || !s.inFlow }) (by omega) hy hq
      refine ⟨p, allowed, hmove, hp, fun h => hallowed (by simp [h]), fun h => ?_⟩
      have := h c (List.mem_append_right _ List.mem_cons_self)
      rcases hc with rfl | rfl <;> cases this

/-- A scanner has moved over blanks to the next word. -/
structure Arrives (s : Scanner) (u t : List Char) (s' : Scanner) : Prop where
  calm : s'.IsCalm
  rest : s'.here.rest = t
  slots : s'.slots = s.slots
  level : s'.level = s.level
  allowed : s.keyAllowed = true → s'.keyAllowed = true
  /-- What stands in front of spaces may still be a key. -/
  keys : ∀ k ks, s.keys = k :: ks → (∀ c ∈ u, c = ' ') → k.line = s.here.line →
    s.here.index + u.length ≤ k.index + 1024 → ∃ ks', s'.keys = k :: ks'

/-- What is done at the next word. -/
def readNext (s : Scanner) : Except YamlFault Scanner :=
  match s.here.next? with
  | none => s.readEnd
  | some c => s.readWord c

/-- A step moves to the next word and reads it. -/
lemma exists_arrives {u : List Char} (hs : s.IsCalm) (hu : AreGaps u) (ht : IsWordNext t)
    (hrest : s.here.rest = u ++ t) :
    ∃ s₁, s.Arrives u t s₁ ∧ ∀ s', s₁.readNext = .ok s' →
      ∀ fuel, Words.scan (fuel + 1) s = Words.scan fuel s' := by
  let fresh : Scanner := { s with keys := s.keys.filter s.isFresh }
  have hfresh : fresh.IsCalm := hs.moved fun k hk => (List.mem_filter.1 hk).1
  have hfuel : u.length < fresh.here.rest.length + 1 := by
    rw [show fresh.here.rest = _ from hrest, List.length_append]
    omega
  obtain ⟨p, allowed, hmove, hp, hallowed, hcross⟩ :=
    toNextWord_gaps (s := fresh) ht _ hfuel hu hrest
  let moved : Scanner := { fresh with here := p, keyAllowed := allowed }
  have hmoved : moved.IsCalm := hfresh.moved fun k hk => hk
  let s₁ : Scanner := { moved with keys := moved.keys.filter moved.isFresh }
  have hcalm : s₁.IsCalm := hmoved.moved fun k hk => (List.mem_filter.1 hk).1
  refine ⟨s₁, ⟨hcalm, hp, rfl, rfl, hallowed, fun k ks hk hspaces hline hnear => ?_⟩,
    fun s' hread fuel => ?_⟩
  · have hq := hcross hspaces
    have hline' : p.line = s.here.line := hq.line
    have hindex : p.index = s.here.index + u.length := hq.index
    have hfirst : s.isFresh k = true := by
      simp only [isFresh, hline, decide_true, Bool.true_and, decide_eq_true_eq]
      omega
    have hsecond : moved.isFresh k = true := by
      simp only [isFresh, moved, hline', hline, decide_true, Bool.true_and, decide_eq_true_eq, hindex]
      omega
    refine ⟨(ks.filter s.isFresh).filter moved.isFresh, ?_⟩
    show (s.keys.filter s.isFresh).filter moved.isFresh = _
    rw [hk, List.filter_cons_of_pos hfirst, List.filter_cons_of_pos hsecond]
  · have hstep : fresh.step = .ok s' := by
      rw [step, hmove]
      show (moved.forgetStale >>= _) = _
      rw [hmoved.forgetStale_eq]
      show (s₁.unwind s₁.here.column).readNext = _
      rw [hcalm.unwind_eq]
      exact hread
    rw [Words.scan, if_neg (by rw [hs.going]; decide), hs.forgetStale_eq]
    dsimp only
    rw [show Scanner.step { s with keys := s.keys.filter s.isFresh } = .ok s' from hstep]

/-! ## Reading a word -/

/-- Some words were read, and this is left. -/
structure Reads (s : Scanner) (ts : List Token) (t : List Char) (level : Nat) (s' : Scanner) :
    Prop where
  calm : s'.IsCalm
  rest : s'.here.rest = t
  words : s'.words = s.words ++ ts
  level : s'.level = level

lemma words_push (s : Scanner) (x : Token) (p : Position) : (s.push x p).words = s.words ++ [x] := by
  simp [words, push, Slot.tokens]

/-- A place is kept open for a key, which does not change the words. -/
lemma saveKey_calm (h : s.IsCalm) :
    ∃ s', s.saveKey = .ok s' ∧ s'.IsCalm ∧ s'.here = s.here ∧ s'.level = s.level ∧
      s'.words = s.words ∧ (s.keyAllowed = true → s'.slots = s.slots.push .vacant ∧
        ∃ k ks, s'.keys = k :: ks ∧ k.level = s.level ∧ k.slot = s.slots.size ∧
          k.index = s.here.index ∧ k.line = s.here.line) := by
  rw [saveKey]
  cases hallowed : s.keyAllowed with
  | false => exact ⟨s, rfl, h, rfl, rfl, rfl, nofun⟩
  | true =>
    let others := s.keys.filter fun k => !decide (k.level = s.level)
    let key : PossibleKey :=
      ⟨s.level, s.slots.size, !s.inFlow && s.indent = s.here.column, s.here.index, s.here.line,
        s.here.column⟩
    have hrequired : key.required = false := by
      have hcolumn : ¬ s.indent = (s.here.column : Int) := by
        rw [h.indent]
        omega
      simp [key, hcolumn]
    refine ⟨{ s with slots := s.slots.push .vacant, keys := key :: others }, ?_, ?_, rfl, rfl, ?_,
      fun _ => ⟨rfl, key, others, rfl, rfl, rfl, rfl, rfl⟩⟩
    · rw [if_neg (by decide), h.dropKey_eq]
      rfl
    · refine ⟨h.going, List.forall_mem_cons.2 ⟨hrequired, fun k hk => ?_⟩, h.indent, h.indents⟩
      exact h.free k (List.mem_filter.1 hk).1
    · simp [words, Slot.tokens]

lemma IsCalm.push (h : s.IsCalm) (x : Token) (p : Position) : (s.push x p).IsCalm :=
  ⟨h.going, h.free, h.indent, h.indents⟩

lemma readOpening_calm (h : s.IsCalm) {c : Char} (hrest : s.here.rest = c :: t) (x : Token) :
    ∃ s', s.readOpening x = .ok s' ∧ s.Reads [x] t (s.level + 1) s' ∧ s'.keyAllowed = true := by
  obtain ⟨s₁, hsave, hcalm, hhere, hlevel, hwords, -⟩ := saveKey_calm h
  refine ⟨{ s₁.push x s₁.here.advance with level := s₁.level + 1, keyAllowed := true }, ?_,
    ⟨?_, ?_, ?_, ?_⟩, rfl⟩
  · rw [readOpening, hsave]
    rfl
  · exact ⟨hcalm.going, hcalm.free, hcalm.indent, hcalm.indents⟩
  · show s₁.here.advance.rest = t
    rw [Position.rest_advance, hhere, hrest]
    rfl
  · exact (words_push s₁ x s₁.here.advance).trans (by rw [hwords])
  · show s₁.level + 1 = _
    rw [hlevel]

lemma readClosing_calm (h : s.IsCalm) {c : Char} (hrest : s.here.rest = c :: t) (x : Token) :
    ∃ s', s.readClosing x = .ok s' ∧ s.Reads [x] t (s.level - 1) s' := by
  let others := s.keys.filter fun k => !decide (k.level = s.level)
  have hcalm : IsCalm { s with keys := others } := h.moved fun k hk => (List.mem_filter.1 hk).1
  refine ⟨{ { s with keys := others }.push x s.here.advance with
    level := s.level - 1, keyAllowed := false }, ?_, ⟨?_, ?_, ?_, rfl⟩⟩
  · rw [readClosing, h.dropKey_eq]
    rfl
  · exact ⟨h.going, hcalm.free, h.indent, h.indents⟩
  · show s.here.advance.rest = t
    rw [Position.rest_advance, hrest]
    rfl
  · exact words_push s x s.here.advance

lemma readComma_calm (h : s.IsCalm) {c : Char} (hrest : s.here.rest = c :: t) :
    ∃ s', s.readComma = .ok s' ∧ s.Reads [.flowEntry] t s.level s' ∧ s'.keyAllowed = true := by
  let others := s.keys.filter fun k => !decide (k.level = s.level)
  have hcalm : IsCalm { s with keys := others } := h.moved fun k hk => (List.mem_filter.1 hk).1
  refine ⟨{ { s with keys := others }.push .flowEntry s.here.advance with keyAllowed := true }, ?_,
    ⟨?_, ?_, ?_, rfl⟩, rfl⟩
  · rw [readComma, h.dropKey_eq]
    rfl
  · exact ⟨h.going, hcalm.free, h.indent, h.indents⟩
  · show s.here.advance.rest = t
    rw [Position.rest_advance, hrest]
    rfl
  · exact words_push s .flowEntry s.here.advance

/-- A quoted text may be a key: then a place is open in front of it. -/
lemma readQuoted_calm (h : s.IsCalm) {gs : List Json.Glyph} (hkept : Json.areKept gs = true)
    (hrest : s.here.rest = Json.quoted gs ++ t) :
    ∃ s', s.readWord '"' = .ok s' ∧ s.Reads [.scalar (Json.textOf gs) false] t s.level s' ∧
      (s.keyAllowed = true → (∀ g ∈ gs, g.isPlain = true) →
        s'.slots = (s.slots.push .vacant).push (.token (.scalar (Json.textOf gs) false)) ∧
        ∃ k ks, s'.keys = k :: ks ∧ k.level = s.level ∧ k.slot = s.slots.size ∧
          s'.here.index = k.index + (Json.quoted gs).length ∧ k.line = s'.here.line) := by
  obtain ⟨s₁, hsave, hcalm, hhere, hlevel, hwords, hkey⟩ := saveKey_calm h
  obtain ⟨q, hq, hpass⟩ := quotedText_glyphs hkept (hhere ▸ hrest : s₁.here.rest = _)
  have hseparator : s.here.atSeparator = false := by
    refine atSeparator_eq_false ?_
    rw [hrest]
    rintro c ⟨⟩
    decide
  refine ⟨{ s₁.push (.scalar (Json.textOf gs) false) q with keyAllowed := false }, ?_,
    ⟨?_, ?_, ?_, hlevel⟩, fun hallowed hplain => ?_⟩
  · rw [readWord, if_neg fun hpercent => absurd hpercent.2 (by decide),
      if_neg fun hmark => absurd (hseparator ▸ hmark.2) (by decide)]
    show (s.readNodePart fun p => quotedText '"' p >>= _) = _
    rw [readNodePart, hsave]
    show ((quotedText '"' s₁.here >>= _) >>= _) = _
    rw [hq]
    rfl
  · exact ⟨hcalm.going, hcalm.free, hcalm.indent, hcalm.indents⟩
  · exact hpass.rest_eq (hhere ▸ hrest)
  · exact (words_push s₁ _ q).trans (by rw [hwords])
  · obtain ⟨hslots, k, ks, hk, hklevel, hslot, hindex, hline⟩ := hkey hallowed
    have hcross := hpass.crosses (Json.quoted_not_isBreak hplain)
    refine ⟨by rw [← hslots]; rfl, k, ks, hk, hklevel, hslot, ?_, ?_⟩
    · rw [hindex, ← hhere]
      exact hcross.index
    · rw [hline, ← hhere]
      exact hcross.line.symm

/-- A colon makes a key of what stands in front of it: the open place is filled. -/
lemma readColon_calm (h : s.IsCalm) (hflow : s.inFlow = true) {k : PossibleKey}
    {ks : List PossibleKey} {slots : Array Slot} {x : Token} (hkeys : s.keys = k :: ks)
    (hlevel : k.level = s.level) (hslot : k.slot = slots.size)
    (hslots : s.slots = (slots.push .vacant).push (.token x)) (hrest : s.here.rest = ':' :: t) :
    ∃ s', s.readWord ':' = .ok s' ∧ s'.IsCalm ∧ s'.here.rest = t ∧ s'.level = s.level ∧
      s'.words = slots.toList.flatMap Slot.tokens ++ [.key, x, .value] := by
  have hseparator : s.here.atSeparator = false := by
    refine atSeparator_eq_false ?_
    rw [hrest]
    rintro c ⟨⟩
    decide
  have hword : s.readWord ':' = s.readColon := by simp [readWord, hseparator, hflow]
  have hfind : s.keys.find? (fun k => k.level = s.level) = some k := by
    rw [hkeys, List.find?_cons_of_pos (by simp [hlevel])]
  let filled : Scanner := { s with
    keys := s.keys.filter fun k => k.level ≠ s.level
    slots := s.slots.setIfInBounds k.slot (.key false)
    keyAllowed := false }
  refine ⟨filled.push .value s.here.advance, ?_, ?_, ?_, rfl, ?_⟩
  · have hflow' : { s with keys := s.keys.filter fun k => k.level ≠ s.level }.inFlow = true := hflow
    rw [hword, readColon, hfind]
    dsimp only
    rw [if_pos hflow']
    rfl
  · exact ⟨h.going, fun k hk => h.free k (List.mem_filter.1 hk).1, h.indent, h.indents⟩
  · show s.here.advance.rest = t
    rw [Position.rest_advance, hrest]
    rfl
  · rw [words_push]
    have hset : filled.slots.toList = slots.toList ++ [.key false, .token x] := by
      show (s.slots.setIfInBounds k.slot (.key false)).toList = _
      rw [hslots, hslot]
      simp
    rw [words, hset]
    simp [Slot.tokens]

/-- A word that begins with a letter or a digit, or with a minus in front of one. -/
structure IsWord (w : List Char) : Prop where
  chars : ∀ c ∈ w, isWordChar c = true
  first : (∃ c x, w = c :: x ∧ c.isAlphanum = true) ∨
    ∃ c x, w = '-' :: c :: x ∧ c.isAlphanum = true

lemma ne_of_isAlphanum {c : Char} (h : c.isAlphanum = true) :
    ∀ d ∈ '-' :: '.' :: specials, c ≠ d := by
  have hspecials : ∀ d ∈ '-' :: '.' :: specials, d.isAlphanum = false :=
    List.all_iff_forall_prop.1 (by decide)
  rintro d hd rfl
  rw [hspecials c hd] at h
  cases h

/-- A word that begins a plain scalar is read as one. -/
lemma readWord_word {w u : List Char} {c : Char} (hw : IsWord (c :: w))
    (hrest : s.here.rest = c :: w ++ u) : s.readWord c = s.readPlain := by
  obtain ⟨d, x, hd, halnum⟩ | ⟨d, x, hd, halnum⟩ := hw.first
  · obtain ⟨rfl, rfl⟩ := List.cons.inj hd
    have hne := ne_of_isAlphanum halnum
    simp only [specials, List.forall_mem_cons] at hne
    have hseparator : s.here.atSeparator = false := by
      refine atSeparator_eq_false ?_
      rw [hrest]
      rintro _ ⟨⟩
      exact ⟨hne.1, hne.2.1⟩
    simp [readWord, hseparator, beginsPlain, isGap, isBreak, hne]
  · obtain ⟨rfl, rfl⟩ := List.cons.inj hd
    have hne := ne_of_isAlphanum halnum
    simp only [specials, List.forall_mem_cons] at hne
    have hseparator : s.here.atSeparator = false := by
      unfold Position.atSeparator
      split
      · next a b e rest h =>
        rw [hrest] at h
        obtain ⟨rfl, h'⟩ := List.cons.inj h
        obtain ⟨rfl, -⟩ := List.cons.inj h'
        simp [hne]
      · rfl
    have hsecond : endsIndicator s.here.second? = false := by
      rw [Position.second?, hrest]
      simp [endsIndicator, isGap, isBreak, hne]
    simp [readWord, hseparator, beginsPlain, hsecond]

/-- A word is read, together with the blanks behind it. -/
lemma readPlain_calm (h : s.IsCalm) {w u : List Char} (hw : IsWord w) (hflow : s.inFlow = true)
    (hu : AreGaps u) (ht : Stops t) (hrest : s.here.rest = w ++ (u ++ t)) :
    ∃ s', s.readNext = .ok s' ∧ s.Reads [.scalar (String.ofList w) true] t s.level s' := by
  obtain ⟨c, x, rfl⟩ : ∃ c x, w = c :: x := by
    obtain ⟨c, x, rfl, -⟩ | ⟨c, x, rfl, -⟩ := hw.first
    · exact ⟨c, x, rfl⟩
    · exact ⟨'-', c :: x, rfl⟩
  obtain ⟨s₁, hsave, hcalm, hhere, hlevel, hwords, -⟩ := saveKey_calm h
  have hflow' : s₁.inFlow = true := by rw [inFlow, hlevel]; exact hflow
  obtain ⟨ended, q, hplain, hq⟩ := plainText_word s₁.indent (List.cons_ne_nil c x) hw.chars hu ht
    (hhere ▸ hrest : s₁.here.rest = _)
  refine ⟨{ s₁.push (.scalar (String.ofList (c :: x)) true) q with keyAllowed := ended }, ?_,
    ⟨?_, hq, ?_, hlevel⟩⟩
  · have hnext : s.here.next? = some c := by rw [Position.next?, hrest]; rfl
    rw [readNext, hnext]
    dsimp only
    rw [readWord_word hw hrest, readPlain, hsave]
    dsimp only [bind, Except.bind]
    rw [hflow', hplain]
    rfl
  · exact ⟨hcalm.going, hcalm.free, hcalm.indent, hcalm.indents⟩
  · exact (words_push s₁ _ q).trans (by rw [hwords])

/-! ## Reading on -/

/-- Reading goes on from one scanner to the other, in no more steps than there are characters. -/
def Leads (s s' : Scanner) : Prop :=
  ∃ n, n + s'.here.rest.length ≤ s.here.rest.length ∧
    ∀ fuel, Words.scan (fuel + n) s = Words.scan fuel s'

lemma Leads.trans (h : s.Leads s') (h' : s'.Leads s'') : s.Leads s'' := by
  obtain ⟨n, hn, hscan⟩ := h
  obtain ⟨m, hm, hscan'⟩ := h'
  refine ⟨m + n, by omega, fun fuel => ?_⟩
  rw [← Nat.add_assoc, hscan, hscan']

/-- Reading goes on to a scanner that has read some words. -/
structure Goes (s : Scanner) (ts : List Token) (t : List Char) (level : Nat) (s' : Scanner) : Prop
    extends s.Reads ts t level s' where
  leads : s.Leads s'

lemma Goes.trans {ts ts' : List Token} {t' : List Char} {level level' : Nat}
    (h : s.Goes ts t level s') (h' : s'.Goes ts' t' level' s'') :
    s.Goes (ts ++ ts') t' level' s'' where
  calm := h'.calm
  rest := h'.rest
  words := by rw [h'.words, h.words, List.append_assoc]
  level := h'.level
  leads := h.leads.trans h'.leads

/-- What is read behind blanks is read. -/
lemma Arrives.reads {u t t' : List Char} {ts : List Token} {level : Nat} (h : s.Arrives u t s')
    (h' : s'.Reads ts t' level s'') : s.Reads ts t' level s'' where
  calm := h'.calm
  rest := h'.rest
  words := by
    rw [h'.words, words, h.slots]
    rfl
  level := h'.level

/-- One step moves over blanks and reads what comes next. -/
lemma exists_step {u t : List Char} (hs : s.IsCalm) (hu : AreGaps u) (ht : IsWordNext t)
    (hrest : s.here.rest = u ++ t) :
    ∃ s₁, s.Arrives u t s₁ ∧ ∀ s', s₁.readNext = .ok s' → s'.here.rest.length < t.length →
      s.Leads s' := by
  obtain ⟨s₁, harrives, hscan⟩ := exists_arrives hs hu ht hrest
  refine ⟨s₁, harrives, fun s' hread hlt => ⟨1, ?_, hscan s' hread⟩⟩
  rw [hrest, List.length_append]
  omega

end Scanner

end Interpolation.Yaml
