import Interpolation.Proofs.Paths.Basic
import Interpolation.Proofs.Text.Ranges

/-!
# Identifiers as sources

An identifier that stands alone is read as the name that it is.  Nothing but its characters decides
that: the first one cannot begin a number, a blank or the end of a template, and none of them ends a
name, so the whole identifier is one word.  The grammar then asks only whether the word is one of
those that stand for something else.

* `tokenize_identifier` — an identifier is one word.
* `Read.Gives` — what a reader answers, and where it stops.
* `Expr.IsOrdinary` — a name that stands for what a context says.
* **`Path.writtenAs_identifier`** — such a name is a source, which is the path of no steps.
-/

namespace Interpolation

open Text Number

/-! ## Words -/

section Words

variable {c : Char} {s : List Char}

/-- Text without a carriage return has its line ends as they are. -/
lemma unifyLineEnds_eq_self (h : '\r' ∉ s) : unifyLineEnds s = s := by
  induction s with
  | nil => rfl
  | cons c s ih =>
    obtain ⟨hfirst, hrest⟩ := not_or.1 (List.mem_cons.not.1 h)
    rw [unifyLineEnds, ih hrest]
    · rintro t rfl
      exact absurd rfl hfirst
    · rintro rfl
      exact absurd rfl hfirst

lemma takeFloat?_of_digitValue? (h : digitValue? c = none) : takeFloat? (c :: s) = none := by
  have hdigit : startsWithDigit (c :: s) = false := by rw [startsWithDigit, h]; rfl
  rw [takeFloat?, hdigit]
  rfl

/-- What begins with no decimal digit is no integer. -/
lemma takeInteger?_of_digitValue? (h : digitValue? c = none) : takeInteger? (c :: s) = none := by
  have hzero : c ≠ '0' := by
    rintro rfl
    cases h
  have hmark : markedBase? (c :: s) = none := by
    rw [markedBase?]
    rintro d t hcons
    exact absurd (List.cons.inj hcons).1 hzero
  have hrange : ¬ ('1' ≤ c ∧ c ≤ '9') := by
    rintro ⟨hfirst, hlast⟩
    have hsome : (digitValue? c).isSome = true := by
      refine isSome_digitValue?_iff.2 (inRanges_iff.2 ⟨(0x30, 0x39), by decide, ?_, ?_⟩)
      · exact (Nat.le_succ 0x30).trans (UInt32.le_iff_toNat_le.1 hfirst)
      · exact UInt32.le_iff_toNat_le.1 hlast
    rw [h] at hsome
    cases hsome
  simp only [takeInteger?, hmark, if_neg hrange]

/-- No identifier begins with the closing marker of a template. -/
lemma startsWithClose_identifier (h : isIdentifierStart c = true) :
    startsWithClose (c :: s) = false := by
  have hminus : c ≠ '-' := by
    rintro rfl
    revert h
    decide +kernel
  have hbrace : c ≠ '\x7d' := by
    rintro rfl
    revert h
    decide +kernel
  rw [startsWithClose]
  · rintro t heq
    exact hminus (List.cons.inj heq).1
  · rintro t heq
    exact hbrace (List.cons.inj heq).1

/-- **An identifier is one word.** -/
theorem tokenize_identifier (h : isIdentifier s = true) :
    tokenize s = ⟨[⟨1, .name (String.ofList s)⟩], none⟩ := by
  have hall := all_isIdentifierContinue h
  have hname : ∀ c ∈ s, isNameChar c = true := fun c hc => by
    rw [isNameChar, hall c hc, Bool.or_true]
  have hreturn : '\r' ∉ s := fun hmem => by
    have hblank := isBlank_of_isIdentifierContinue (hall _ hmem)
    cases hblank
  rw [tokenize, unifyLineEnds_eq_self hreturn]
  cases s with
  | nil => cases h
  | cons c s =>
    have hstart : isIdentifierStart c = true := (Bool.and_eq_true_iff.1 h).1
    have hdigit := digitValue?_of_isIdentifierStart hstart
    have hfirst := List.mem_cons_self (a := c) (l := s)
    have hword : (c :: s).takeWhile isNameChar = c :: s := List.takeWhile_eq_self_iff.2 hname
    have hrest : (c :: s).dropWhile isNameChar = [] := List.dropWhile_eq_nil_iff.2 hname
    simp only [tokensFrom, startsWithClose_identifier hstart, Bool.and_false, Bool.false_eq_true,
      if_false, isBlank_of_isIdentifierContinue (hall c hfirst), takeFloat?_of_digitValue? hdigit,
      takeInteger?_of_digitValue? hdigit, hname c hfirst, if_true, hword, hrest, h]
    rfl

end Words

/-! ## Names -/

/-- The words that stand for values, and the sign of a negation. -/
def Expr.reservedWords : List String := ["true", "True", "false", "False", "none", "None", "not"]

/-- The name stands for what a context says: it is an identifier and no word of the language, and
not the word under which the value of an expression is kept, in other shapes. -/
structure Expr.IsOrdinary (n : String) : Prop where
  /-- It is an identifier. -/
  identifier : isIdentifier n.toList = true
  /-- It is no word of the language. -/
  unreserved : n ∉ reservedWords
  /-- It is not `result` in other shapes. -/
  unshaped : normalName n = "result" → n = "result"

namespace Expr.IsOrdinary

variable {n : String}

lemma namedLiteral?_eq_none (h : IsOrdinary n) : namedLiteral? n = none := by
  have hword := h.unreserved
  simp only [reservedWords, List.mem_cons, not_or] at hword
  simp [namedLiteral?, hword]

lemma ne_not (h : IsOrdinary n) : n ≠ "not" := by
  rintro rfl
  exact h.unreserved (by decide)

/-- Alone, the name stands in its own place. -/
lemma holder?_singleton (h : IsOrdinary n) : holder? [n] n = some n := by
  have hplace : ¬ (normalName n = "result" ∧ "result" ∉ [n]) := by
    rintro ⟨hform, hother⟩
    exact hother (List.mem_singleton.2 (h.unshaped hform).symm)
  unfold holder?
  rw [if_neg hplace, List.filter_singleton]
  cases n != "self" && normalName n == normalName n <;> rfl

end Expr.IsOrdinary

section Grammar

/-- A reader answers something, and goes on to where another cursor stands. -/
def Read.Gives {α : Type} (x : Read α) (c : Cursor) (a : α) (c' : Cursor) : Prop :=
  x.run c = .ok (a, c')

namespace Read.Gives

variable {α β : Type} {c c' c'' : Cursor} {a : α} {b : β}

protected lemma pure (a : α) (c : Cursor) : Gives (pure a) c a c := rfl

protected lemma bind {x : Read α} {f : α → Read β} (hx : Gives x c a c')
    (hf : Gives (f a) c' b c'') : Gives (x >>= f) c b c'' := by
  rw [Gives, StateT.run_bind, hx]
  exact hf

end Read.Gives

open Read

variable {n : String}

/-- A name is the only word. -/
def Cursor.ofName (n : String) : Cursor := ⟨[⟨1, .name n⟩], none, 1⟩

/-- All words are read. -/
def Cursor.done : Cursor := ⟨[], none, 1⟩

/-! Behind the last word nothing is added to an expression. -/

lemma readPostfix_done (fuel : Nat) (e : Expr) : Gives (readPostfix fuel e) .done e .done := by
  cases fuel <;> rfl

lemma readFilters_done (fuel : Nat) (e : Expr) : Gives (readFilters fuel e) .done e .done := by
  cases fuel <;> rfl

lemma readPowers_done (fuel : Nat) (e : Expr) : Gives (readPowers fuel e) .done e .done := by
  cases fuel <;> rfl

lemma readProducts_done (fuel : Nat) (e : Expr) : Gives (readProducts fuel e) .done e .done := by
  cases fuel <;> rfl

lemma readConcats_done (fuel : Nat) : Gives (readConcats fuel) .done [] .done := by
  cases fuel <;> rfl

lemma readSums_done (fuel : Nat) (e : Expr) : Gives (readSums fuel e) .done e .done := by
  cases fuel <;> rfl

lemma readCompares_done (fuel : Nat) : Gives (readCompares fuel) .done [] .done := by
  cases fuel <;> rfl

lemma readAnds_done (fuel : Nat) (e : Expr) : Gives (readAnds fuel e) .done e .done := by
  cases fuel <;> rfl

lemma readOrs_done (fuel : Nat) (e : Expr) : Gives (readOrs fuel e) .done e .done := by
  cases fuel <;> rfl

lemma readChoices_done (fuel start : Nat) (e : Expr) :
    Gives (readChoices fuel start e) .done e .done := by cases fuel <;> rfl

lemma readPrimary_name (h : Expr.IsOrdinary n) (fuel : Nat) :
    Gives (readPrimary (fuel + 1)) (.ofName n) (.name n) .done := by
  have hcurrent : Gives current (.ofName n) (some (.name n)) (.ofName n) := rfl
  have hadvance : Gives advance (.ofName n) () .done := rfl
  rw [readPrimary]
  refine hcurrent.bind (hadvance.bind ?_)
  simp only [h.namedLiteral?_eq_none]
  rfl

/-- **A name is an expression by itself**: every reader passes it on to the next one. -/
theorem readExpr_name (h : Expr.IsOrdinary n) (fuel : Nat) :
    Gives (readExpr (fuel + 11)) (.ofName n) (.name n) .done := by
  have hsign : ∀ sign, Gives (atSymbol sign) (.ofName n) false (.ofName n) := fun _ => rfl
  have hunary : Gives (readUnary (fuel + 2) true) (.ofName n) (.name n) .done :=
    (hsign _).bind <| (hsign _).bind <|
      (readPrimary_name h fuel).bind <| (readPostfix_done _ _).bind (readFilters_done _ _)
  have hpower : Gives (readPower (fuel + 3)) (.ofName n) (.name n) .done :=
    hunary.bind (readPowers_done _ _)
  have hproduct : Gives (readProduct (fuel + 4)) (.ofName n) (.name n) .done :=
    hpower.bind (readProducts_done _ _)
  have hconcat : Gives (readConcat (fuel + 5)) (.ofName n) (.name n) .done :=
    hproduct.bind ((readConcats_done _).bind (.pure _ _))
  have hsum : Gives (readSum (fuel + 6)) (.ofName n) (.name n) .done :=
    hconcat.bind (readSums_done _ _)
  have hcompare : Gives (readCompare (fuel + 7)) (.ofName n) (.name n) .done :=
    hsum.bind ((readCompares_done _).bind (.pure _ _))
  have hnot : Gives (skipName "not") (.ofName n) false (.ofName n) := by
    have hword : Gives (Read.atName "not") (.ofName n) (n == "not") (.ofName n) := rfl
    rw [beq_eq_false_iff_ne.2 h.ne_not] at hword
    exact hword.bind (.pure _ _)
  have hnegation : Gives (readNot (fuel + 8)) (.ofName n) (.name n) .done := hnot.bind hcompare
  have hand : Gives (readAnd (fuel + 9)) (.ofName n) (.name n) .done :=
    hnegation.bind (readAnds_done _ _)
  have hor : Gives (readOr (fuel + 10)) (.ofName n) (.name n) .done := hand.bind (readOrs_done _ _)
  have hline : Gives line (.ofName n) 1 (.ofName n) := rfl
  exact hline.bind (hor.bind (readChoices_done _ _ _))

lemma toExpr_name (h : Expr.IsOrdinary n) :
    TokenList.toExpr ⟨[⟨1, .name n⟩], none⟩ = .ok (.name n) := by
  have hread : Gives (do
      let e ← readExpr 48
      if (← get).rest.isEmpty then return e else refuse .leftover) (.ofName n) (.name n) .done :=
    (readExpr_name h 37).bind rfl
  exact congrArg (Except.map Prod.fst) hread

/-- **A name that stands for what a context says is a source**, of a path without steps. -/
theorem Path.writtenAs_identifier (h : Expr.IsOrdinary n) : WrittenAs ⟨n, []⟩ n := by
  refine ⟨.name n, ?_, .name n, h.holder?_singleton⟩
  rw [strip_identifier h.identifier, Expr.ofSource, tokenize_identifier h.identifier,
    String.ofList_toList, toExpr_name h]

end Grammar

end Interpolation
