import Mathlib.Data.List.Forall2
import Mathlib.Tactic.Lemma
import Interpolation.Trust.Policy

/-!
# What a pattern matches

A pattern matches a text when the text can be cut into one piece for every part of the pattern: any
piece for a star, and a single character that the part admits for every other one.

The search for such a cut has no way back.  It keeps the first place at which a run between two
stars matches.  No match is lost by that, since characters that match a run are as many as the run
has parts: behind the first place everything is left that is left behind a later one
(`exists_afterFirstRun?`), and a star takes what is left over in front of the next run
(`RunsFit.after`).

* `Fits`, `RunsFit` — characters match a run, and a text matches runs with a star before each.
* `itemsMatch_iff` — the search finds a cut of the text exactly when there is one.
* `PatternTakes`, `globMatches_iff` — the same for the characters of a pattern without brackets.
* **`Policy.allows_pattern_iff`** — which URLs a single pattern admits.
-/

namespace Interpolation

namespace Trust

variable {run : List GlobItem} {runs : List (List GlobItem)} {s taken rest : List Char}

/-! ## Runs without a star -/

/-- Characters match the parts of a run, one for one. -/
def Fits (run : List GlobItem) (taken : List Char) : Prop :=
  List.Forall₂ (fun item c => item.admits c = true) run taken

lemma Fits.length_eq (h : Fits run taken) : run.length = taken.length := List.Forall₂.length_eq h

lemma afterRun?_eq_some_iff :
    afterRun? run s = some rest ↔ ∃ taken, s = taken ++ rest ∧ Fits run taken := by
  induction run generalizing s with
  | nil =>
    rw [afterRun?, Option.some.injEq]
    exact ⟨fun h => ⟨[], h, .nil⟩, fun ⟨_, h, hfits⟩ => by cases hfits; exact h⟩
  | cons item run ih =>
    cases s with
    | nil => simp [afterRun?, Fits]
    | cons c s =>
      constructor
      · intro h
        rw [afterRun?] at h
        split_ifs at h with hc
        obtain ⟨taken, rfl, hfits⟩ := ih.1 h
        exact ⟨c :: taken, rfl, .cons hc hfits⟩
      · rintro ⟨taken, hs, hfits⟩
        cases hfits with
        | cons hc hfits =>
          obtain ⟨rfl, rfl⟩ := List.cons.inj hs
          rw [afterRun?, if_pos hc, ih]
          exact ⟨_, rfl, hfits⟩

/-! ## A run at its first place -/

lemma afterFirstRun?_of_afterRun? (h : afterRun? run s = some rest) :
    afterFirstRun? run s = some rest := by
  cases s with
  | nil => exact h
  | cons c s => rw [afterFirstRun?, h]

lemma exists_of_afterFirstRun? (h : afterFirstRun? run s = some rest) :
    ∃ skipped taken, s = skipped ++ (taken ++ rest) ∧ Fits run taken := by
  induction s with
  | nil => exact ⟨[], afterRun?_eq_some_iff.1 h⟩
  | cons c s ih =>
    rw [afterFirstRun?] at h
    split at h
    · next rest' hrest =>
      obtain rfl := Option.some.inj h
      exact ⟨[], afterRun?_eq_some_iff.1 hrest⟩
    · obtain ⟨skipped, taken, rfl, hfits⟩ := ih h
      exact ⟨c :: skipped, taken, rfl, hfits⟩

/-- **The first place leaves the most room**: wherever a run matches, what is left behind it is also
left behind the first place at which the run matches. -/
lemma exists_afterFirstRun? (h : Fits run taken) (skipped rest : List Char) :
    ∃ more, afterFirstRun? run (skipped ++ (taken ++ rest)) = some (more ++ rest) := by
  induction skipped with
  | nil => exact ⟨[], afterFirstRun?_of_afterRun? (afterRun?_eq_some_iff.2 ⟨taken, rfl, h⟩)⟩
  | cons c skipped ih =>
    rw [List.cons_append, afterFirstRun?]
    split
    · next rest' hrest =>
      obtain ⟨taken', htext, hfits⟩ := afterRun?_eq_some_iff.1 hrest
      have hlength := congrArg List.length htext
      simp only [List.length_cons, List.length_append, ← h.length_eq, ← hfits.length_eq] at hlength
      have hsuffix : rest <:+ taken' ++ rest' := htext ▸ ⟨c :: (skipped ++ taken), by simp⟩
      obtain ⟨more, rfl⟩ : rest <:+ rest' :=
        List.suffix_of_suffix_length_le hsuffix (List.suffix_append _ _) (by omega)
      exact ⟨more, rfl⟩
    · exact ih

lemma endsWithRun_iff :
    endsWithRun run s = true ↔ ∃ skipped taken, s = skipped ++ taken ∧ Fits run taken := by
  simp only [endsWithRun, Bool.and_eq_true, decide_eq_true_eq, Option.isSome_iff_exists,
    afterRun?_eq_some_iff]
  constructor
  · rintro ⟨hle, rest, taken, hdrop, hfits⟩
    have hlength := congrArg List.length hdrop
    simp only [List.length_drop, List.length_append, ← hfits.length_eq] at hlength
    obtain rfl : rest = [] := List.eq_nil_of_length_eq_zero (by omega)
    rw [List.append_nil] at hdrop
    exact ⟨s.take (s.length - run.length), taken, by rw [← hdrop, List.take_append_drop], hfits⟩
  · rintro ⟨skipped, taken, rfl, hfits⟩
    rw [hfits.length_eq, List.length_append, Nat.add_sub_cancel, List.drop_left]
    exact ⟨by omega, [], taken, (List.append_nil _).symm, hfits⟩

/-! ## Runs behind stars -/

/-- A text matches runs with a star before each of them: anything may stand before a run, and
nothing is left over at the end. -/
def RunsFit : List (List GlobItem) → List Char → Prop
  | [], s => s = []
  | run :: runs, s =>
    ∃ skipped taken rest, s = skipped ++ (taken ++ rest) ∧ Fits run taken ∧ RunsFit runs rest

/-- The first star takes more, if there is more before the text. -/
lemma RunsFit.after (h : RunsFit (run :: runs) s) (more : List Char) :
    RunsFit (run :: runs) (more ++ s) := by
  obtain ⟨skipped, taken, rest, rfl, hfits, hrest⟩ := h
  exact ⟨more ++ skipped, taken, rest, (List.append_assoc ..).symm, hfits, hrest⟩

/-- **The search loses no match.** -/
theorem runsMatch_iff : ∀ {runs : List (List GlobItem)} {s : List Char},
    runsMatch runs s = true ↔ RunsFit runs s
  | [], s => by rw [runsMatch, List.isEmpty_iff, RunsFit]
  | [last], s => by
    rw [runsMatch, endsWithRun_iff]
    constructor
    · rintro ⟨skipped, taken, rfl, h⟩
      exact ⟨skipped, taken, [], by rw [List.append_nil], h, rfl⟩
    · rintro ⟨skipped, taken, rest, rfl, h, rfl⟩
      exact ⟨skipped, taken, by rw [List.append_nil], h⟩
  | run :: next :: runs, s => by
    rw [runsMatch]
    · constructor
      · intro h
        split at h
        · next rest hrest =>
          obtain ⟨skipped, taken, rfl, hfits⟩ := exists_of_afterFirstRun? hrest
          exact ⟨skipped, taken, rest, rfl, hfits, runsMatch_iff.1 h⟩
        · cases h
      · rintro ⟨skipped, taken, rest, rfl, hfits, hrest⟩
        obtain ⟨more, hfirst⟩ := exists_afterFirstRun? hfits skipped rest
        rw [hfirst]
        exact runsMatch_iff.2 (hrest.after more)
    · simp

/-! ## Parts and pieces -/

/-- What a part of a pattern takes of a text. -/
inductive GlobItem.Takes : GlobItem → List Char → Prop
  | anything (piece : List Char) : Takes .anyText piece
  | character {item : GlobItem} {c : Char} (hitem : item ≠ .anyText) (h : item.admits c = true) :
    Takes item [c]

lemma starRuns_of_ne {item : GlobItem} (h : item ≠ .anyText) (items : List GlobItem) :
    starRuns (item :: items) = (item :: (starRuns items).1, (starRuns items).2) := by
  cases item with
  | anyText => exact absurd rfl h
  | anyChar | char _ | set _ _ => rfl

/-- A cut into pieces is one into runs. -/
lemma exists_pieces_iff {items : List GlobItem} :
    (∃ pieces, List.Forall₂ GlobItem.Takes items pieces ∧ pieces.flatten = s) ↔
      ∃ taken rest, s = taken ++ rest ∧ Fits (starRuns items).1 taken ∧
        RunsFit (starRuns items).2 rest := by
  induction items generalizing s with
  | nil =>
    constructor
    · rintro ⟨pieces, ⟨⟩, rfl⟩
      exact ⟨[], [], rfl, .nil, rfl⟩
    · rintro ⟨taken, rest, rfl, ⟨⟩, rfl⟩
      exact ⟨[], .nil, rfl⟩
  | cons item items ih =>
    by_cases hitem : item = .anyText
    · subst hitem
      constructor
      · rintro ⟨_, hall, rfl⟩
        obtain ⟨piece, pieces, -, hpieces, rfl⟩ := List.forall₂_cons_left_iff.1 hall
        obtain ⟨taken, rest, htext, hfits, hruns⟩ := ih.1 ⟨pieces, hpieces, rfl⟩
        rw [List.flatten_cons, htext]
        exact ⟨[], _, rfl, .nil, piece, taken, rest, rfl, hfits, hruns⟩
      · rintro ⟨_, _, rfl, ⟨⟩, skipped, taken, rest, rfl, hfits, hruns⟩
        obtain ⟨pieces, hpieces, htext⟩ := ih.2 ⟨taken, rest, rfl, hfits, hruns⟩
        exact ⟨skipped :: pieces, .cons (.anything skipped) hpieces, by simp [htext]⟩
    · rw [starRuns_of_ne hitem]
      constructor
      · rintro ⟨_, hall, rfl⟩
        obtain ⟨piece, pieces, hpiece, hpieces, rfl⟩ := List.forall₂_cons_left_iff.1 hall
        obtain ⟨taken, rest, htext, hfits, hruns⟩ := ih.1 ⟨pieces, hpieces, rfl⟩
        cases hpiece with
        | anything => exact absurd rfl hitem
        | @character _ c _ hc =>
          exact ⟨c :: taken, rest, by simp [htext], .cons hc hfits, hruns⟩
      · rintro ⟨_, rest, rfl, hall, hruns⟩
        obtain ⟨c, taken, hc, hfits, rfl⟩ := List.forall₂_cons_left_iff.1 hall
        obtain ⟨pieces, hpieces, htext⟩ := ih.2 ⟨taken, rest, rfl, hfits, hruns⟩
        exact ⟨[c] :: pieces, .cons (.character hitem hc) hpieces, by simp [htext]⟩

/-- **Parts match a text that can be cut into pieces for them**, and no other one. -/
theorem itemsMatch_iff {items : List GlobItem} :
    itemsMatch items s = true ↔
      ∃ pieces, List.Forall₂ GlobItem.Takes items pieces ∧ pieces.flatten = s := by
  rw [exists_pieces_iff, itemsMatch]
  constructor
  · intro h
    dsimp only at h
    split at h
    · next rest hrest =>
      obtain ⟨taken, rfl, hfits⟩ := afterRun?_eq_some_iff.1 hrest
      exact ⟨taken, rest, rfl, hfits, runsMatch_iff.1 h⟩
    · cases h
  · rintro ⟨taken, rest, rfl, hfits, hruns⟩
    have hrest : afterRun? (starRuns items).1 (taken ++ rest) = some rest :=
      afterRun?_eq_some_iff.2 ⟨taken, rfl, hfits⟩
    dsimp only
    rw [hrest]
    exact runsMatch_iff.2 hruns

/-! ## Patterns without brackets -/

/-- What a character of a pattern takes of a text, when no bracket opens a set. -/
inductive PatternTakes : Char → List Char → Prop
  | star (piece : List Char) : PatternTakes '*' piece
  | mark (c : Char) : PatternTakes '?' [c]
  | self {c : Char} (hstar : c ≠ '*') (hmark : c ≠ '?') : PatternTakes c [c]

/-- The part of a pattern that a character stands for, when no bracket opens a set. -/
def GlobItem.ofChar (c : Char) : GlobItem :=
  if c = '*' then .anyText else if c = '?' then .anyChar else .char c

lemma GlobItem.takes_ofChar_iff {c : Char} {piece : List Char} :
    (ofChar c).Takes piece ↔ PatternTakes c piece := by
  unfold ofChar
  split_ifs with hstar hmark
  · subst hstar
    exact ⟨fun _ => .star piece, fun _ => .anything piece⟩
  · subst hmark
    constructor
    · rintro (_ | ⟨_, _⟩)
      exact .mark _
    · rintro (_ | c | ⟨_, hmark⟩)
      · exact .character (by simp) rfl
      · exact absurd rfl hmark
  · constructor
    · rintro (_ | @⟨_, d, _, h⟩)
      obtain rfl : d = c := by simpa [admits] using h
      exact .self hstar hmark
    · rintro (_ | _ | _)
      · exact absurd rfl hstar
      · exact absurd rfl hmark
      · exact .character (by simp) (by simp [admits])

lemma globItemsFrom_of_no_set {fuel : Nat} {pattern : List Char} (hfuel : pattern.length ≤ fuel)
    (h : '[' ∉ pattern) : globItemsFrom fuel pattern = pattern.map GlobItem.ofChar := by
  induction pattern generalizing fuel with
  | nil => cases fuel <;> rfl
  | cons c pattern ih =>
    obtain ⟨hc, h⟩ := not_or.1 (mt List.mem_cons.2 h)
    obtain ⟨fuel, rfl⟩ := Nat.exists_eq_succ_of_ne_zero (Nat.ne_zero_of_lt hfuel)
    have hrest := ih (Nat.le_of_succ_le_succ hfuel) h
    rw [globItemsFrom, hrest, List.map_cons, GlobItem.ofChar]
    split_ifs with hstar hmark hset
    · rfl
    · rfl
    · exact absurd hset.symm hc
    · rfl

/-- A pattern without brackets matches a text that can be cut into a piece for each of its
characters. -/
theorem globMatches_iff {pattern text : String} (h : '[' ∉ pattern.toList) :
    globMatches pattern text = true ↔
      ∃ pieces, List.Forall₂ PatternTakes pattern.toList pieces ∧
        pieces.flatten = text.toList := by
  rw [globMatches, itemsMatch_iff, globItems, globItemsFrom_of_no_set (Nat.le_refl _) h]
  simp only [List.forall₂_map_left_iff, GlobItem.takes_ofChar_iff]

/-- Characters that stand for themselves, with a star behind them, take what begins with them. -/
lemma exists_pieces_stem_iff {stem : List Char} (hstar : '*' ∉ stem) (hmark : '?' ∉ stem) :
    (∃ pieces, List.Forall₂ PatternTakes (stem ++ ['*']) pieces ∧ pieces.flatten = s) ↔
      stem <+: s := by
  induction stem generalizing s with
  | nil =>
    refine iff_of_true ⟨[s], .cons (.star s) .nil, by simp⟩ List.nil_prefix
  | cons c stem ih =>
    obtain ⟨hc, hstar⟩ := not_or.1 (mt List.mem_cons.2 hstar)
    obtain ⟨hc', hmark⟩ := not_or.1 (mt List.mem_cons.2 hmark)
    constructor
    · rintro ⟨_, hall, rfl⟩
      obtain ⟨piece, pieces, hpiece, hpieces, rfl⟩ := List.forall₂_cons_left_iff.1 hall
      have hbegins := (ih hstar hmark).1 ⟨pieces, hpieces, rfl⟩
      cases hpiece with
      | star => exact absurd rfl hc
      | mark => exact absurd rfl hc'
      | self => exact (List.prefix_cons_inj c).2 hbegins
    · rintro ⟨tail, rfl⟩
      obtain ⟨pieces, hpieces, htext⟩ := (ih hstar hmark).2 (List.prefix_append stem tail)
      exact ⟨[c] :: pieces, .cons (.self (Ne.symm hc) (Ne.symm hc')) hpieces, by simp [htext]⟩

end Trust

open Trust

/-- **A pattern admits exactly the URLs that it denotes.**  A list with a single entry that is a
pattern without brackets never fails to tell.  It admits a URL when the URL can be cut into
consecutive pieces, one for each character of the pattern: any piece for a star, any single
character for a question mark, and the character itself for every other one.  So a text with a star
behind it admits the URLs that begin with this text. -/
theorem Policy.allows_pattern_iff {pattern : String} (hself : pattern ≠ Policy.self)
    (hset : '[' ∉ pattern.toList) (url : String) :
    (∃ admitted, (⟨[pattern]⟩ : Policy).allows url = .ok admitted) ∧
    ((⟨[pattern]⟩ : Policy).allows url = .ok true ↔
      ∃ pieces, List.Forall₂ PatternTakes pattern.toList pieces ∧
        pieces.flatten = url.toList) ∧
    ∀ stem : String, pattern = stem ++ "*" → '*' ∉ stem.toList → '?' ∉ stem.toList →
      ((⟨[pattern]⟩ : Policy).allows url = .ok true ↔ stem.toList <+: url.toList) := by
  have hallows : (⟨[pattern]⟩ : Policy).allows url = .ok (globMatches pattern url) := by
    rw [allows, someAccepts, entryAccepts, if_neg hself]
    cases globMatches pattern url <;> rfl
  have hpieces : (⟨[pattern]⟩ : Policy).allows url = .ok true ↔
      ∃ pieces, List.Forall₂ PatternTakes pattern.toList pieces ∧
        pieces.flatten = url.toList := by
    rw [hallows, Except.ok.injEq, globMatches_iff hset]
  refine ⟨⟨_, hallows⟩, hpieces, fun stem hpattern hstar hmark => ?_⟩
  rw [hpieces, hpattern, String.toList_append]
  exact exists_pieces_stem_iff hstar hmark

/-- Two runs that share a character of the text do not both match: the pattern takes `ababab`, but
not `abab`. -/
theorem Policy.allows_pattern_iff_overlapping :
    (∃ pieces, List.Forall₂ PatternTakes "*aba*ab".toList pieces ∧
      pieces.flatten = "ababab".toList) ∧
    ¬ ∃ pieces, List.Forall₂ PatternTakes "*aba*ab".toList pieces ∧
      pieces.flatten = "abab".toList := by
  have hself : "*aba*ab" ≠ Policy.self := by decide
  have hset : '[' ∉ "*aba*ab".toList := by decide
  constructor
  · exact (allows_pattern_iff hself hset "ababab").2.1.1 (by decide +kernel)
  · exact mt (allows_pattern_iff hself hset "abab").2.1.2 (by decide +kernel)

end Interpolation
