import Interpolation.Proofs.Delimiters.Freezing
import Interpolation.Proofs.Scan.Decomposition

/-!
# The scan comes to an end

`divide` goes on with the text behind a pair, so its recursion ends because a marker has at least one
character.  Here the same search is told as a loop: a cursor moves over a text that stays as it is,
and a pass of the loop looks for a start marker at or behind the cursor and for an end marker behind
that.  Nothing in the loop itself keeps it from running forever, and with two empty markers it does
(`not_passes_nil`).  What keeps it from that is `pass?_eq_some`: a pass that does not leave the loop
moves the cursor over a whole pair, and never past the end of the text.

* `Pass`, `Passes` — a pass, and the passes from a cursor until the loop is left.
* `exists_passes` — the loop is left if a pair has at least one character.
* `Passes.divide` — its passes are those that `divide` makes.
* `Sweep` — the passes over a text and over all of its chunks; `Sweep.Of.spans` says that the pairs
  of both loops are disjoint pieces of the text.
* **`SharedDelimiters.scan_terminates`** — all of it for markers that were changed in any way.
-/

namespace Interpolation

open Text

/-! ## Slices and searches -/

/-- The characters between two places. -/
def slice (text : List Char) (first last : Nat) : List Char := (text.drop first).take (last - first)

/-- The first place, at or behind the given one, at which a marker begins. -/
def findFrom? (m text : List Char) (place : Nat) : Option Nat :=
  (indexOf? m (text.drop place)).map (place + ·)

lemma findFrom?_eq_some_iff {m text : List Char} {place found : Nat} :
    findFrom? m text place = some found ↔
      ∃ a b, cut? m (text.drop place) = some (a, b) ∧ found = place + a.length := by
  simp only [findFrom?, indexOf?, Option.map_map, Option.map_eq_some_iff, Prod.exists,
    Function.comp_apply, eq_comm (a := place + _)]

/-! ## Passes -/

/-- A pass that finds a pair of markers. -/
structure Pass where
  /-- The place of the cursor. -/
  cursor : Nat
  /-- The place of the start marker. -/
  opening : Nat
  /-- The place of the end marker. -/
  closing : Nat
deriving DecidableEq

section Loop

variable (start stop text : List Char)

/-- The pass with the cursor at a place, unless the loop is left there. -/
def pass? (cursor : Nat) : Option Pass :=
  if cursor < text.length then do
    let opening ← findFrom? start text cursor
    let closing ← findFrom? stop text (opening + start.length)
    return ⟨cursor, opening, closing⟩
  else none

/-- The place of the cursor after a pass. -/
def Pass.next (p : Pass) : Nat := p.closing + stop.length

/-- The loop makes these passes from a cursor on, and is left with the cursor at the last place. -/
inductive Passes : Nat → List Pass → Nat → Prop
  | leave {cursor} (h : pass? start stop text cursor = none) : Passes cursor [] cursor
  | again {cursor p ps last} (h : pass? start stop text cursor = some p)
    (hrest : Passes (p.next stop) ps last) : Passes cursor (p :: ps) last

end Loop

variable {start stop text : List Char} {cursor last : Nat} {p : Pass} {ps : List Pass}

/-- **A pass moves over a whole pair.**  The markers stand in this order at or behind the cursor,
and the cursor stops behind the second one, within the text. -/
theorem pass?_eq_some (h : pass? start stop text cursor = some p) :
    p.cursor = cursor ∧ cursor < text.length ∧ cursor ≤ p.opening ∧
      p.opening + start.length ≤ p.closing ∧ p.next stop ≤ text.length := by
  rw [pass?] at h
  split at h
  · next hcursor =>
    simp only [Option.bind_eq_bind, Option.bind_eq_some_iff, Option.pure_def,
      Option.some.injEq] at h
    obtain ⟨opening, hopening, closing, hclosing, rfl⟩ := h
    obtain ⟨a, b, ha, rfl⟩ := findFrom?_eq_some_iff.1 hopening
    obtain ⟨x, y, hx, rfl⟩ := findFrom?_eq_some_iff.1 hclosing
    have hfirst := length_of_cut? ha
    have hsecond := length_of_cut? hx
    simp only [List.length_drop] at hfirst hsecond
    refine ⟨rfl, hcursor, Nat.le_add_right _ _, Nat.le_add_right _ _, ?_⟩
    simp only [Pass.next]
    omega
  · cases h

/-- The loop is left, whatever the text, if a pair has at least one character. -/
theorem exists_passes (hpair : 0 < start.length + stop.length) (cursor : Nat) :
    ∃ ps last, Passes start stop text cursor ps last := by
  -- what lies behind the cursor gets shorter with every pass
  induction h : text.length - cursor using Nat.strongRecOn generalizing cursor with
  | ind n ih =>
    cases hpass : pass? start stop text cursor with
    | none => exact ⟨[], cursor, .leave hpass⟩
    | some p =>
      obtain ⟨-, hcursor, hopening, hclosing, hnext⟩ := pass?_eq_some hpass
      simp only [Pass.next] at hnext
      obtain ⟨ps, last, hps⟩ :=
        ih (text.length - p.next stop) (by simp only [Pass.next]; omega) (p.next stop) rfl
      exact ⟨p :: ps, last, .again hpass hps⟩

/-- With two empty markers a pass finds a pair without moving, and the loop is never left. -/
theorem not_passes_nil (h : cursor < text.length) : ¬Passes [] [] text cursor ps last := by
  have hfind : ∀ place, findFrom? [] text place = some place := fun place =>
    findFrom?_eq_some_iff.2 ⟨[], text.drop place, by cases text.drop place <;> rfl, rfl⟩
  have hpass : pass? [] [] text cursor = some ⟨cursor, cursor, cursor⟩ := by
    simp [pass?, h, hfind]
  intro hps
  induction ps with
  | nil =>
    cases hps with
    | leave hnone => rw [hpass] at hnone; cases hnone
  | cons p ps ih =>
    cases hps with
    | again hsome hrest =>
      rw [hpass] at hsome
      cases hsome
      exact ih hrest

namespace Passes

/-- The cursor moves forward only, and stays in the text. -/
lemma le_last (h : Passes start stop text cursor ps last) :
    cursor ≤ last ∧ (cursor ≤ text.length → last ≤ text.length) := by
  induction h with
  | leave => exact ⟨Nat.le_refl _, id⟩
  | again hsome _ ih =>
    obtain ⟨-, -, hopening, hclosing, hnext⟩ := pass?_eq_some hsome
    have hmove := ih.1
    simp only [Pass.next] at hmove
    exact ⟨by omega, fun _ => ih.2 hnext⟩

/-- Each pass of the loop begins with the cursor at or behind the first place, moves it over a pair,
and leaves it at or before the last place. -/
lemma bounds (h : Passes start stop text cursor ps last) :
    ∀ p ∈ ps, cursor ≤ p.cursor ∧ p.cursor ≤ p.opening ∧
      p.opening + start.length ≤ p.closing ∧ p.next stop ≤ last ∧ p.next stop ≤ text.length := by
  induction h with
  | leave => exact List.forall_mem_nil _
  | again hsome hrest ih =>
    obtain ⟨hcursor, -, hopening, hclosing, hnext⟩ := pass?_eq_some hsome
    refine List.forall_mem_cons.2
      ⟨⟨hcursor.ge, hcursor.le.trans hopening, hclosing, hrest.le_last.1, hnext⟩, fun q hq => ?_⟩
    obtain ⟨hfirst, hbounds⟩ := ih q hq
    simp only [Pass.next] at hfirst
    exact ⟨by omega, hbounds⟩

/-- Each pass begins where an earlier one stopped, or behind that. -/
lemma pairwise (h : Passes start stop text cursor ps last) :
    ps.Pairwise fun p q => p.next stop ≤ q.cursor := by
  induction h with
  | leave => exact .nil
  | again _ hrest ih => exact .cons (fun q hq => (hrest.bounds q hq).1) ih

end Passes

/-! ## The passes of a division -/

/-- What a pass finds: the chunk in front of the pair, and the source between the markers. -/
def Pass.marked (start text : List Char) (p : Pass) : Marked :=
  ⟨slice text p.cursor p.opening, slice text (p.opening + start.length) p.closing⟩

/-- What a pass finds is what is cut off the text behind the cursor. -/
lemma cutPair?_of_pass {start stop : Marker}
    (h : pass? start.chars stop.chars text cursor = some p) :
    cutPair? start stop (text.drop cursor) =
      some (p.marked start.chars text, text.drop (p.next stop.chars)) := by
  rw [pass?] at h
  split at h
  · simp only [Option.bind_eq_bind, Option.bind_eq_some_iff, Option.pure_def,
      Option.some.injEq] at h
    obtain ⟨opening, hopening, closing, hclosing, rfl⟩ := h
    obtain ⟨a, b, ha, rfl⟩ := findFrom?_eq_some_iff.1 hopening
    obtain ⟨x, y, hx, rfl⟩ := findFrom?_eq_some_iff.1 hclosing
    -- the text behind the start marker is the text behind the cursor without what was passed
    have htext := cut?_eq_some ha
    have hb : text.drop (cursor + a.length + start.chars.length) = b := by
      rw [Nat.add_assoc, ← List.drop_drop, htext, ← List.length_append, List.drop_left]
    have hrest := cut?_eq_some hx
    rw [hb] at hx hrest
    have hy : text.drop (cursor + a.length + start.chars.length + x.length +
        stop.chars.length) = y := by
      rw [Nat.add_assoc _ x.length, ← List.drop_drop, hb, hrest, ← List.length_append,
        List.drop_left]
    have hchunk : slice text cursor (cursor + a.length) = a := by
      rw [slice, htext, Nat.add_sub_cancel_left, List.append_assoc, List.take_left]
    have hsource : slice text (cursor + a.length + start.chars.length)
        (cursor + a.length + start.chars.length + x.length) = x := by
      rw [slice, hb, hrest, Nat.add_sub_cancel_left, List.append_assoc, List.take_left]
    simp only [cutPair?, ha, hx, Option.bind_eq_bind, Option.bind_some, Option.pure_def,
      Pass.marked, Pass.next, hchunk, hsource, hy]
  · cases h

/-- Where the loop is left, nothing can be cut off. -/
lemma cutPair?_of_leave {start stop : Marker}
    (h : pass? start.chars stop.chars text cursor = none) :
    cutPair? start stop (text.drop cursor) = none := by
  by_cases hcursor : cursor < text.length
  · simp only [pass?, if_pos hcursor, Option.bind_eq_bind, Option.bind_eq_none_iff,
      Option.pure_def, reduceCtorEq] at h
    simp only [cutPair?, Option.bind_eq_bind, Option.bind_eq_none_iff, Option.pure_def,
      reduceCtorEq]
    rintro ⟨a, b⟩ ha ⟨x, y⟩ hx
    have htext := cut?_eq_some ha
    have hb : text.drop (cursor + a.length + start.chars.length) = b := by
      rw [Nat.add_assoc, ← List.drop_drop, htext, ← List.length_append, List.drop_left]
    refine h _ (findFrom?_eq_some_iff.2 ⟨a, b, ha, rfl⟩) _
      (findFrom?_eq_some_iff.2 ⟨x, y, ?_, rfl⟩)
    rwa [hb]
  · rw [List.drop_eq_nil_of_le (by omega), cutPair?_eq_none_iff]
    rintro ⟨a, x, b, hnil⟩
    exact start.nonempty (List.append_eq_nil_iff.1 (List.append_eq_nil_iff.1 hnil.symm).1).2

/-- **The loop divides the text.**  Its passes find the chunks and sources of the text behind the
cursor, and where it is left the last chunk begins. -/
theorem Passes.divide {start stop : Marker}
    (h : Passes start.chars stop.chars text cursor ps last) :
    Interpolation.divide start stop (text.drop cursor) =
      ⟨ps.map (Pass.marked start.chars text), text.drop last⟩ := by
  induction h with
  | leave hnone => exact divide_of_none (cutPair?_of_leave hnone)
  | again hsome _ ih => rw [divide_of_some (cutPair?_of_pass hsome), ih]; rfl

/-! ## Both loops -/

/-- The passes over a text, each with the passes over the chunk in front of its pair, and the passes
over the chunk at the end. -/
structure Sweep where
  /-- The passes that find a primary pair. -/
  primary : List (Pass × List Pass)
  /-- The place of the chunk at the end. -/
  last : Nat
  /-- The passes over it. -/
  ending : List Pass

namespace Sweep

/-- The primary passes. -/
def passes (w : Sweep) : List Pass := w.primary.map Prod.fst

/-- The chunks by their places, with the passes over them. -/
def chunks (w : Sweep) (text : List Char) : List (Nat × List Char × List Pass) :=
  w.primary.map (fun (p, qs) => (p.cursor, slice text p.cursor p.opening, qs)) ++
    [(w.last, text.drop w.last, w.ending)]

/-- The places at which a pair begins and ends, for a pass over what stands at a place. -/
def span (stop : List Char) (place : Nat) (p : Pass) : Nat × Nat :=
  (place + p.opening, place + p.next stop)

/-- The places at which the pairs of the chunk in front of a primary pair begin and end, and then
those of the pair itself. -/
def spansOf (e e' : List Char) (x : Pass × List Pass) : List (Nat × Nat) :=
  x.2.map (span e' x.1.cursor) ++ [span e 0 x.1]

/-- The places at which all pairs begin and end, from left to right. -/
def spans (e e' : List Char) (w : Sweep) : List (Nat × Nat) :=
  w.primary.flatMap (spansOf e e') ++ w.ending.map (span e' w.last)

/-- The passes are those that the two loops make over a text. -/
structure Of (s e s' e' text : List Char) (w : Sweep) : Prop where
  primary : Passes s e text 0 w.passes w.last
  secondary : ∀ c ∈ w.chunks text, ∃ last, Passes s' e' c.2.1 0 c.2.2 last

variable {s e s' e' : List Char} {w : Sweep}

/-- The pairs in a chunk are disjoint. -/
lemma spans_chunk {chunk : List Char} (place : Nat) (h : Passes s' e' chunk 0 ps last) :
    (ps.map (span e' place)).Pairwise (fun a b => a.2 ≤ b.1) ∧
      ∀ a ∈ ps.map (span e' place), place ≤ a.1 ∧ a.1 ≤ a.2 ∧ a.2 ≤ place + chunk.length := by
  constructor
  · refine List.pairwise_map.2 (h.pairwise.imp_of_mem fun {p q} _ hq hpq => ?_)
    have := (h.bounds q hq).2.1
    simp only [span]
    omega
  · intro a ha
    obtain ⟨p, hp, rfl⟩ := List.mem_map.1 ha
    obtain ⟨-, hopening, hclosing, -, hnext⟩ := h.bounds p hp
    simp only [span, Pass.next] at hnext ⊢
    omega

/-- The pairs that are found between two places of the primary cursor are disjoint and lie between
these places: those of the chunk end before the primary pair begins. -/
lemma spans_pass {x : Pass × List Pass} (hchunk : x.1.cursor ≤ x.1.opening)
    (hpair : x.1.opening + s.length ≤ x.1.closing)
    (h : Passes s' e' (slice text x.1.cursor x.1.opening) 0 x.2 last) :
    (spansOf e e' x).Pairwise (fun a b => a.2 ≤ b.1) ∧
      ∀ a ∈ spansOf e e' x, x.1.cursor ≤ a.1 ∧ a.1 ≤ a.2 ∧ a.2 ≤ x.1.next e := by
  obtain ⟨hinner, hinside⟩ := spans_chunk x.1.cursor h
  have hslice : (slice text x.1.cursor x.1.opening).length ≤ x.1.opening - x.1.cursor :=
    List.length_take_le _ _
  refine ⟨List.pairwise_append.2 ⟨hinner, List.pairwise_singleton _ _, fun a ha b hb => ?_⟩,
    fun a ha => ?_⟩
  · have := hinside a ha
    rw [List.mem_singleton.1 hb]
    simp only [span]
    omega
  · obtain ha | ha := List.mem_append.1 ha
    · have := hinside a ha
      simp only [Pass.next]
      omega
    · rw [List.mem_singleton.1 ha]
      simp only [span, Pass.next]
      omega

/-- **The pairs of both loops are disjoint pieces of the text.** -/
theorem Of.spans (h : w.Of s e s' e' text) :
    (w.spans e e').Pairwise (fun a b => a.2 ≤ b.1) ∧
      ∀ a ∈ w.spans e e', a.1 ≤ a.2 ∧ a.2 ≤ text.length := by
  obtain ⟨hprimary, hsecondary⟩ := h
  have hpass : ∀ x ∈ w.primary, (spansOf e e' x).Pairwise (fun a b => a.2 ≤ b.1) ∧
      ∀ a ∈ spansOf e e' x,
        x.1.cursor ≤ a.1 ∧ a.1 ≤ a.2 ∧ a.2 ≤ x.1.next e ∧ x.1.next e ≤ w.last := by
    intro x hx
    obtain ⟨-, hopening, hclosing, hlast, -⟩ := hprimary.bounds x.1 (List.mem_map_of_mem hx)
    obtain ⟨n, hchunk⟩ := hsecondary _ (List.mem_append_left _ (List.mem_map_of_mem hx))
    obtain ⟨hpairwise, hbounds⟩ := spans_pass (e := e) hopening hclosing hchunk
    exact ⟨hpairwise, fun a ha => ⟨(hbounds a ha).1, (hbounds a ha).2.1, (hbounds a ha).2.2, hlast⟩⟩
  obtain ⟨n, hending⟩ := hsecondary _ (List.mem_append_right _ (List.mem_singleton_self _))
  obtain ⟨hinner, hinside⟩ := spans_chunk w.last hending
  have hlast := hprimary.le_last.2 (Nat.zero_le _)
  rw [List.length_drop] at hinside
  refine ⟨List.pairwise_append.2 ⟨List.pairwise_flatMap.2 ⟨fun x hx => (hpass x hx).1, ?_⟩, hinner,
    fun a ha b hb => ?_⟩, fun a ha => ?_⟩
  · refine (List.pairwise_map.1 hprimary.pairwise).imp_of_mem fun {x y} hx hy hxy a ha b hb => ?_
    exact ((hpass x hx).2 a ha).2.2.1.trans (hxy.trans ((hpass y hy).2 b hb).1)
  · obtain ⟨x, hx, ha⟩ := List.mem_flatMap.1 ha
    have := (hpass x hx).2 a ha
    have := hinside b hb
    omega
  · obtain ha | ha := List.mem_append.1 ha
    · obtain ⟨x, hx, ha⟩ := List.mem_flatMap.1 ha
      have := (hpass x hx).2 a ha
      omega
    · have := hinside a ha
      omega

/-- Both loops are left, if each pair has at least one character. -/
lemma exists_of (hprimary : 0 < s.length + e.length) (hsecondary : 0 < s'.length + e'.length)
    (text : List Char) : ∃ w : Sweep, w.Of s e s' e' text := by
  obtain ⟨ps, last, hps⟩ : ∃ ps last, Passes s e text 0 ps last := exists_passes hprimary 0
  have hchunk : ∀ chunk, ∃ qs n, Passes s' e' chunk 0 qs n := fun chunk =>
    exists_passes hsecondary 0
  choose inner hinner using hchunk
  refine ⟨⟨ps.map fun p => (p, inner (slice text p.cursor p.opening)), last,
    inner (text.drop last)⟩, ?_, fun c hc => ?_⟩
  · simpa [passes, Function.comp_def] using hps
  · simp only [chunks, List.map_map, List.mem_append, List.mem_map, List.mem_singleton,
      Function.comp_apply] at hc
    obtain ⟨p, -, rfl⟩ | rfl := hc
    · exact hinner _
    · exact hinner _

end Sweep

/-- **The scan comes to an end.**  Whatever was done with markers since they were accepted, and
whatever the text:

A pass of either loop leaves the loop or moves the cursor forward, by both markers at least, and not
past the end of what is scanned; the chunk in front of the pair and the source in it end no earlier
than they begin.

So both loops are left, the inner one in every chunk.  Their passes are those by which the text and
its chunks are divided, and all pairs that they move over, from the beginning of the start marker to
the end of the end marker, are disjoint pieces of the text. -/
theorem SharedDelimiters.scan_terminates (d : Delimiters) (uses : List DelimiterUse)
    (text : List Char) :
    let state := ((new d).after uses).state
    let chars (name : MarkerName) := (state.get name).toList
    let moves (start stop : List Char) := ∀ scanned cursor p,
      pass? start stop scanned cursor = some p →
        cursor < cursor + start.length + stop.length ∧
        cursor + start.length + stop.length ≤ p.next stop ∧ p.next stop ≤ scanned.length ∧
        p.cursor = cursor ∧ cursor ≤ p.opening ∧ p.opening + start.length ≤ p.closing
    let (s, e) := (chars .primaryStart, chars .primaryEnd)
    let (s', e') := (chars .secondaryStart, chars .secondaryEnd)
    moves s e ∧ moves s' e' ∧
    ∃ w : Sweep, w.Of s e s' e' text ∧ w.last ≤ text.length ∧
      divide state.delimiters.primaryStart state.delimiters.primaryEnd text =
        ⟨w.passes.map (Pass.marked s text), text.drop w.last⟩ ∧
      (∀ c ∈ w.chunks text, ∃ last ≤ c.2.1.length,
        divide state.delimiters.secondaryStart state.delimiters.secondaryEnd c.2.1 =
          ⟨c.2.2.map (Pass.marked s' c.2.1), c.2.1.drop last⟩) ∧
      (w.spans e e').Pairwise (fun a b => a.2 ≤ b.1) ∧
      ∀ a ∈ w.spans e e', a.1 ≤ a.2 ∧ a.2 ≤ text.length := by
  intro state chars moves
  have hchars : ∀ name, chars name = (state.delimiters.get name).chars := fun name =>
    String.toList_ofList
  have hpair : ∀ name other, 0 < (chars name).length + (chars other).length := fun name other => by
    have := List.length_pos_iff.2 (state.delimiters.get name).nonempty
    rw [hchars]
    omega
  have hmoves : ∀ name other, moves (chars name) (chars other) := by
    intro name other scanned cursor p hp
    obtain ⟨hcursor, -, hopening, hclosing, hnext⟩ := pass?_eq_some hp
    have := hpair name other
    refine ⟨by omega, ?_, hnext, hcursor, hopening, hclosing⟩
    simp only [Pass.next]
    omega
  refine ⟨hmoves _ _, hmoves _ _, ?_⟩
  obtain ⟨w, hw⟩ := Sweep.exists_of (hpair .primaryStart .primaryEnd)
    (hpair .secondaryStart .secondaryEnd) text
  refine ⟨w, hw, hw.primary.le_last.2 (Nat.zero_le _), ?_, fun c hc => ?_, hw.spans⟩
  · have h := hw.primary
    rw [hchars, hchars] at h
    rw [hchars]
    exact h.divide
  · obtain ⟨last, h⟩ := hw.secondary c hc
    refine ⟨last, h.le_last.2 (Nat.zero_le _), ?_⟩
    rw [hchars, hchars] at h
    rw [hchars]
    exact h.divide

end Interpolation
