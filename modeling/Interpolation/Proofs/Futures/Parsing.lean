import Interpolation.Expr.Grammar
import Interpolation.Proofs.Futures.Evaluation

/-!
# Sources have free constants

The only constants that are written in a source are texts, numbers, truth values and nothing.  So
whatever a reader of the grammar makes of the words, its constants are free in every region.  The
readers call each other, and the proof follows them: one fact for each reader, all of them together
by induction on the fuel.

* `Read.Safe` — a reader that answers something free, if it answers.
* `Read.safe_readExpr` — every expression that is read is free, and likewise for its parts.
* `Expr.freeIn_ofSource` — the expression of a source is free.
-/

namespace Interpolation

variable {R : Region}

instance : HoldsNone Lexeme := .always Lexeme

instance : HoldsNone ArgumentState := .always ArgumentState

instance : HoldsNone BinaryOp := .always BinaryOp

/-- What a reader answers, if it does not refuse the words, is free. -/
structure Read.Safe {α : Type} [HoldsValues α] (R : Region) (x : Read α) : Prop where
  /-- What is answered is free. -/
  result : ∀ c p, x.run c = .ok p → FreeIn R p.1

namespace Read

namespace Safe

variable {α β : Type} [HoldsValues α] [HoldsValues β]

protected lemma of_none {γ : Type} [HoldsNone γ] (x : Read γ) : Read.Safe R x :=
  ⟨fun _ p _ => freeIn_of_none R p.1⟩

protected lemma pure {a : α} (ha : FreeIn R a) : Read.Safe R (pure a : Read α) := by
  constructor
  intro c p hp
  cases hp
  exact ha

protected lemma throw (f : SyntaxFault) : Read.Safe R (throw f : Read α) := by
  constructor
  intro c p hp
  cases hp

protected lemma bind {x : Read α} {f : α → Read β} (hx : Read.Safe R x)
    (hf : ∀ a, FreeIn R a → Read.Safe R (f a)) : Read.Safe R (x >>= f) := by
  constructor
  intro c p hp
  rw [StateT.run_bind] at hp
  cases hrun : x.run c with
  | error e => rw [hrun] at hp; cases hp
  | ok q =>
    rw [hrun] at hp
    exact (hf q.1 (hx.result c q hrun)).result q.2 p hp

protected lemma ite {c : Prop} [Decidable c] {x y : Read α} (hx : Read.Safe R x)
    (hy : Read.Safe R y) : Read.Safe R (if c then x else y) := by
  split
  · exact hx
  · exact hy

/-- After a part that answers nothing with values, whatever it is. -/
protected lemma after {γ : Type} (x : Read γ) {f : γ → Read β} (hf : ∀ a, Read.Safe R (f a)) :
    Read.Safe R (x >>= f) := by
  constructor
  intro c p hp
  rw [StateT.run_bind] at hp
  cases hrun : x.run c with
  | error e => rw [hrun] at hp; cases hp
  | ok q =>
    rw [hrun] at hp
    exact (hf q.1).result q.2 p hp

protected lemma refuse (cause : SyntaxCause) : Read.Safe R (refuse cause : Read α) :=
  .after _ fun _ => .throw _

end Safe

end Read

open Read

lemma freeIn_nothing : FreeIn R Expr.nothing := .literal trivial

lemma freeIn_namedLiteral? (n : String) : FreeIn R (namedLiteral? n) := by
  unfold namedLiteral?
  split
  · exact trivial
  · split
    · exact trivial
    · split <;> exact trivial

lemma freeIn_inGroups {arguments : List Argument} (h : FreeIn R arguments) :
    FreeIn R (inGroups arguments) := by
  refine freeIn_append.2 ⟨?_, ?_⟩
  all_goals exact freeIn_of_subset List.filter_sublist.subset h

/-! ## The readers -/

mutual

theorem safe_readExpr : ∀ fuel, Read.Safe R (readExpr fuel)
  | 0 => .refuse _
  | fuel + 1 => .after _ fun start => (safe_readOr fuel).bind fun _ he =>
      safe_readChoices fuel start he
termination_by structural fuel => fuel

theorem safe_readChoices : ∀ fuel start {body}, FreeIn R body →
    Read.Safe R (readChoices fuel start body)
  | 0, _, _, h => .pure h
  | fuel + 1, start, body, h => by
    refine .after _ fun found => .ite ?_ (.pure h)
    refine (safe_readOr fuel).bind fun condition hcondition => ?_
    refine .after _ fun found => ?_
    extract_lets go
    have hgo : ∀ e, FreeIn R e → Read.Safe R (go e) := fun e he =>
      .after _ fun start => safe_readChoices fuel start he
    refine .ite ((safe_readExpr fuel).bind fun other hother => ?_) ?_
    · exact .bind (.pure (Expr.IsFree.choice hcondition h hother)) hgo
    · exact .bind (.pure (Expr.IsFree.guarded start hcondition h)) hgo
termination_by structural fuel => fuel

theorem safe_readOr : ∀ fuel, Read.Safe R (readOr fuel)
  | 0 => .refuse _
  | fuel + 1 => (safe_readAnd fuel).bind fun _ he => safe_readOrs fuel he
termination_by structural fuel => fuel

theorem safe_readOrs : ∀ fuel {left}, FreeIn R left → Read.Safe R (readOrs fuel left)
  | 0, _, h => .pure h
  | fuel + 1, left, h => by
    refine .after _ fun found => .ite ?_ (.pure h)
    exact (safe_readAnd fuel).bind fun right hright => safe_readOrs fuel (.or h hright)
termination_by structural fuel => fuel

theorem safe_readAnd : ∀ fuel, Read.Safe R (readAnd fuel)
  | 0 => .refuse _
  | fuel + 1 => (safe_readNot fuel).bind fun _ he => safe_readAnds fuel he
termination_by structural fuel => fuel

theorem safe_readAnds : ∀ fuel {left}, FreeIn R left → Read.Safe R (readAnds fuel left)
  | 0, _, h => .pure h
  | fuel + 1, left, h => by
    refine .after _ fun found => .ite ?_ (.pure h)
    exact (safe_readNot fuel).bind fun right hright => safe_readAnds fuel (.and h hright)
termination_by structural fuel => fuel

theorem safe_readNot : ∀ fuel, Read.Safe R (readNot fuel)
  | 0 => .refuse _
  | fuel + 1 => .after _ fun _ =>
      .ite ((safe_readNot fuel).bind fun _ he => .pure (.not he)) (safe_readCompare fuel)
termination_by structural fuel => fuel

theorem safe_readCompare : ∀ fuel, Read.Safe R (readCompare fuel)
  | 0 => .refuse _
  | fuel + 1 => by
    refine (safe_readSum fuel).bind fun first hfirst => ?_
    refine (safe_readCompares fuel).bind fun rest hrest => ?_
    split
    · exact .pure hfirst
    · exact .pure (.compare hfirst fun p hp => (hrest p hp).2)
termination_by structural fuel => fuel

theorem safe_readCompares : ∀ fuel, Read.Safe R (readCompares fuel)
  | 0 => .pure freeIn_nil
  | fuel + 1 => by
    have hcons : ∀ op : CompareOp, Read.Safe R (do
        let operand ← readSum fuel
        return (op, operand) :: (← readCompares fuel)) := by
      intro op
      refine (safe_readSum fuel).bind fun operand hoperand => ?_
      refine (safe_readCompares fuel).bind fun rest hrest => ?_
      exact .pure (freeIn_cons.2 ⟨⟨trivial, hoperand⟩, hrest⟩)
    refine .after _ fun next => ?_
    split
    · exact .after _ fun _ => hcons _
    · refine .after _ fun found => .ite (hcons _) (.after _ fun found => .ite ?_ (.pure freeIn_nil))
      refine .after _ fun next => ?_
      split
      · exact .after _ fun _ => .after _ fun _ => hcons _
      · exact .pure freeIn_nil
termination_by structural fuel => fuel

theorem safe_readSum : ∀ fuel, Read.Safe R (readSum fuel)
  | 0 => .refuse _
  | fuel + 1 => (safe_readConcat fuel).bind fun _ he => safe_readSums fuel he
termination_by structural fuel => fuel

theorem safe_readSums : ∀ fuel {left}, FreeIn R left → Read.Safe R (readSums fuel left)
  | 0, _, h => .pure h
  | fuel + 1, left, h => by
    refine .after _ fun next => ?_
    split
    · refine .after _ fun _ => (safe_readConcat fuel).bind fun right hright => ?_
      exact safe_readSums fuel (.binary _ h hright)
    · exact .pure h
termination_by structural fuel => fuel

theorem safe_readConcat : ∀ fuel, Read.Safe R (readConcat fuel)
  | 0 => .refuse _
  | fuel + 1 => by
    refine (safe_readProduct fuel).bind fun first hfirst => ?_
    refine (safe_readConcats fuel).bind fun rest hrest => ?_
    split
    · exact .pure hfirst
    · exact .pure (.concat (freeIn_cons.2 ⟨hfirst, hrest⟩))
termination_by structural fuel => fuel

theorem safe_readConcats : ∀ fuel, Read.Safe R (readConcats fuel)
  | 0 => .pure freeIn_nil
  | fuel + 1 => by
    refine .after _ fun found => .ite (.after _ fun _ => ?_) (.pure freeIn_nil)
    refine (safe_readProduct fuel).bind fun part hpart => ?_
    exact (safe_readConcats fuel).bind fun rest hrest => .pure (freeIn_cons.2 ⟨hpart, hrest⟩)
termination_by structural fuel => fuel

theorem safe_readProduct : ∀ fuel, Read.Safe R (readProduct fuel)
  | 0 => .refuse _
  | fuel + 1 => (safe_readPower fuel).bind fun _ he => safe_readProducts fuel he
termination_by structural fuel => fuel

theorem safe_readProducts : ∀ fuel {left}, FreeIn R left → Read.Safe R (readProducts fuel left)
  | 0, _, h => .pure h
  | fuel + 1, left, h => by
    refine .after _ fun next => ?_
    split
    · refine .after _ fun _ => (safe_readPower fuel).bind fun right hright => ?_
      exact safe_readProducts fuel (.binary _ h hright)
    · exact .pure h
termination_by structural fuel => fuel

theorem safe_readPower : ∀ fuel, Read.Safe R (readPower fuel)
  | 0 => .refuse _
  | fuel + 1 => (safe_readUnary fuel true).bind fun _ he => safe_readPowers fuel he
termination_by structural fuel => fuel

theorem safe_readPowers : ∀ fuel {left}, FreeIn R left → Read.Safe R (readPowers fuel left)
  | 0, _, h => .pure h
  | fuel + 1, left, h => by
    refine .after _ fun found => .ite (.after _ fun _ => ?_) (.pure h)
    exact (safe_readUnary fuel true).bind fun right hright =>
      safe_readPowers fuel (.binary _ h hright)
termination_by structural fuel => fuel

theorem safe_readUnary : ∀ fuel filters, Read.Safe R (readUnary fuel filters)
  | 0, _ => .refuse _
  | fuel + 1, filters => by
    refine .after _ fun isMinus => .after _ fun isPlus => ?_
    extract_lets go
    have hgo : ∀ e, FreeIn R e → Read.Safe R (go e) := fun e he =>
      (safe_readPostfix fuel he).bind fun e he => .ite (safe_readFilters fuel he) (.pure he)
    refine .ite (.after _ fun _ => ?_) (.ite (.after _ fun _ => ?_) ?_)
    · exact (safe_readUnary fuel false).bind fun e he => .bind (.pure (Expr.IsFree.negative he)) hgo
    · exact (safe_readUnary fuel false).bind fun e he => .bind (.pure (Expr.IsFree.positive he)) hgo
    · exact (safe_readPrimary fuel).bind hgo
termination_by structural fuel => fuel

theorem safe_readPrimary : ∀ fuel, Read.Safe R (readPrimary fuel)
  | 0 => .refuse _
  | fuel + 1 => by
    refine .after _ fun next => ?_
    split
    · refine .after _ fun _ => ?_
      split
      · next c hc => exact .pure (.literal (hc ▸ freeIn_namedLiteral? _ : FreeIn R (some c)))
      · exact .pure (.name _)
    · exact .after _ fun _ => .pure (.literal trivial)
    · exact .after _ fun _ => .pure (.literal trivial)
    · exact .after _ fun _ => .pure (.literal trivial)
    · refine .after _ fun _ => (safe_readTuple fuel true).bind fun p hp => .after _ fun _ => ?_
      split
      · next item hitem =>
        have hitem : FreeIn R [item] := hitem ▸ hp.1
        refine .pure ?_
        split
        · exact .tuple hitem
        · exact (freeIn_cons.1 hitem).1
      · exact .pure (.tuple hp.1)
    · refine .after _ fun _ => (safe_readItems fuel true).bind fun items hitems => ?_
      exact .after _ fun _ => .pure (.list hitems)
    · refine .after _ fun _ => (safe_readEntries fuel true).bind fun entries hentries => ?_
      exact .after _ fun _ => .pure (.dict (fun p hp => (hentries p hp).1) fun p hp =>
        (hentries p hp).2)
    · exact .after _ fun _ => .refuse _
termination_by structural fuel => fuel

theorem safe_readTuple : ∀ fuel first, Read.Safe R (readTuple fuel first)
  | 0, _ => .pure ⟨freeIn_nil, trivial⟩
  | fuel + 1, first => by
    unfold readTuple
    extract_lets go
    have hgo : ∀ u, Read.Safe R (go u) := by
      intro _
      refine .after _ fun next => ?_
      split
      · exact .pure ⟨freeIn_nil, trivial⟩
      · exact .pure ⟨freeIn_nil, trivial⟩
      · refine (safe_readExpr fuel).bind fun item hitem => .after _ fun found => .ite ?_ ?_
        · exact (safe_readTuple fuel false).bind fun p hp =>
            .pure ⟨freeIn_cons.2 ⟨hitem, hp.1⟩, trivial⟩
        · exact .pure ⟨freeIn_cons.2 ⟨hitem, freeIn_nil⟩, trivial⟩
    exact .ite (.after _ hgo) (hgo ())
termination_by structural fuel => fuel

theorem safe_readItems : ∀ fuel first, Read.Safe R (readItems fuel first)
  | 0, _ => .pure freeIn_nil
  | fuel + 1, first => by
    refine .after _ fun isEnd => .ite (.pure freeIn_nil) ?_
    extract_lets go
    have hgo : ∀ u, Read.Safe R (go u) := by
      intro _
      refine .after _ fun isEnd => .ite (.pure freeIn_nil) ?_
      refine (safe_readExpr fuel).bind fun item hitem => ?_
      refine (safe_readItems fuel false).bind fun items hitems => ?_
      exact .pure (freeIn_cons.2 ⟨hitem, hitems⟩)
    exact .ite (.after _ hgo) (hgo ())
termination_by structural fuel => fuel

theorem safe_readEntries : ∀ fuel first, Read.Safe R (readEntries fuel first)
  | 0, _ => .pure freeIn_nil
  | fuel + 1, first => by
    refine .after _ fun isEnd => .ite (.pure freeIn_nil) ?_
    extract_lets go
    have hgo : ∀ u, Read.Safe R (go u) := by
      intro _
      refine .after _ fun isEnd => .ite (.pure freeIn_nil) ?_
      refine (safe_readExpr fuel).bind fun key hkey => .after _ fun _ => ?_
      refine (safe_readExpr fuel).bind fun value hvalue => ?_
      refine (safe_readEntries fuel false).bind fun entries hentries => ?_
      exact .pure (freeIn_cons.2 ⟨⟨hkey, hvalue⟩, hentries⟩)
    exact .ite (.after _ hgo) (hgo ())
termination_by structural fuel => fuel

theorem safe_readPostfix : ∀ fuel {e}, FreeIn R e → Read.Safe R (readPostfix fuel e)
  | 0, _, h => .pure h
  | fuel + 1, e, h => by
    refine .after _ fun next => ?_
    split
    · refine .after _ fun _ => .after _ fun start => .after _ fun next => .after _ fun _ => ?_
      split
      · exact safe_readPostfix fuel (.attribute h _)
      · exact safe_readPostfix fuel (.item h (.literal trivial))
      · exact .throw _
    · refine .after _ fun _ => (safe_readKeys fuel true).bind fun keys hkeys => .after _ fun _ => ?_
      refine safe_readPostfix fuel ?_
      split
      · cases (freeIn_cons.1 hkeys).1 with
        | sliceKey hstart hstop hstep => exact .slice h hstart hstop hstep
      · exact .item h (freeIn_cons.1 hkeys).1
      · exact .item h (.tuple hkeys)
    · exact (safe_readArguments fuel).bind fun arguments harguments =>
        safe_readPostfix fuel (.call h harguments)
    · exact .pure h
termination_by structural fuel => fuel

theorem safe_readKeys : ∀ fuel first, Read.Safe R (readKeys fuel first)
  | 0, _ => .pure freeIn_nil
  | fuel + 1, first => by
    refine .after _ fun isEnd => .ite (.pure freeIn_nil) ?_
    extract_lets go
    have hgo : ∀ u, Read.Safe R (go u) := by
      intro _
      refine (safe_readKey fuel).bind fun key hkey => (safe_readKeys fuel false).bind fun keys hkeys => ?_
      exact .pure (freeIn_cons.2 ⟨hkey, hkeys⟩)
    exact .ite (.after _ hgo) (hgo ())
termination_by structural fuel => fuel

theorem safe_readKey : ∀ fuel, Read.Safe R (readKey fuel)
  | 0 => .refuse _
  | fuel + 1 => by
    refine .after _ fun found => .ite (.after _ fun _ => safe_readBounds fuel freeIn_nothing) ?_
    refine (safe_readExpr fuel).bind fun key hkey => .after _ fun found => ?_
    exact .ite (.after _ fun _ => safe_readBounds fuel hkey) (.pure hkey)
termination_by structural fuel => fuel

theorem safe_readBounds : ∀ fuel {start}, FreeIn R start → Read.Safe R (readBounds fuel start)
  | 0, _, _ => .refuse _
  | fuel + 1, start, h => by
    refine .after _ fun isOmitted => ?_
    extract_lets go
    have hgo : ∀ stop, FreeIn R stop → Read.Safe R (go stop) := by
      intro stop hstop
      refine .after _ fun found => .ite (.after _ fun _ => ?_) ?_
      · exact (safe_readBound fuel).bind fun step hstep => .pure (.sliceKey h hstop hstep)
      · exact .pure (.sliceKey h hstop freeIn_nothing)
    exact .ite (.bind (.pure freeIn_nothing) hgo) ((safe_readBound fuel).bind hgo)
termination_by structural fuel => fuel

theorem safe_readBound : ∀ fuel, Read.Safe R (readBound fuel)
  | 0 => .refuse _
  | fuel + 1 => .after _ fun _ => .after _ fun _ => .ite (.pure freeIn_nothing) (safe_readExpr fuel)
termination_by structural fuel => fuel

theorem safe_readArguments : ∀ fuel, Read.Safe R (readArguments fuel)
  | 0 => .refuse _
  | fuel + 1 => by
    refine .after _ fun start => .after _ fun _ => ?_
    refine (safe_readArgumentList fuel start true _).bind fun arguments h => .after _ fun _ => ?_
    exact .pure (freeIn_inGroups h)
termination_by structural fuel => fuel

theorem safe_readArgumentList : ∀ fuel start first state,
    Read.Safe R (readArgumentList fuel start first state)
  | 0, _, _, _ => .pure freeIn_nil
  | fuel + 1, start, first, state => by
    have hcons : ∀ {pack : Expr → Argument} (_ : ∀ e, FreeIn R e → FreeIn R (pack e)) state,
        Read.Safe R (do
          let e ← readExpr fuel
          return pack e :: (← readArgumentList fuel start false state)) := by
      intro pack hpack state
      refine (safe_readExpr fuel).bind fun e he => ?_
      refine (safe_readArgumentList fuel start false state).bind fun rest hrest => ?_
      exact .pure (freeIn_cons.2 ⟨hpack e he, hrest⟩)
    refine .after _ fun isEnd => .ite (.pure freeIn_nil) ?_
    extract_lets ensure go
    have hgo : ∀ u, Read.Safe R (go u) := by
      intro _
      refine .after _ fun isEnd => .ite (.pure freeIn_nil) (.after _ fun isSpread => .ite ?_ ?_)
      · exact .after _ fun _ => .after _ fun _ => hcons (fun _ => .spread) _
      · refine .after _ fun isSpread => .ite ?_ (.after _ fun next => ?_)
        · exact .after _ fun _ => .after _ fun _ => hcons (fun _ => .spreadNamed) _
        · split
          · refine .after _ fun next => ?_
            split
            · exact .after _ fun _ => .after _ fun _ => .after _ fun _ => hcons (fun _ => .named _) _
            · exact safe_readPositional fuel start state
          · exact safe_readPositional fuel start state
    exact .ite (.after _ hgo) (hgo ())
termination_by structural fuel => fuel

theorem safe_readPositional : ∀ fuel start state, Read.Safe R (readPositional fuel start state)
  | 0, _, _ => .pure freeIn_nil
  | fuel + 1, start, state => by
    unfold readPositional
    extract_lets go
    have hgo : ∀ u, Read.Safe R (go u) := by
      intro _
      refine (safe_readExpr fuel).bind fun e he => ?_
      refine (safe_readArgumentList fuel start false state).bind fun rest hrest => ?_
      exact .pure (freeIn_cons.2 ⟨.positional he, hrest⟩)
    exact .ite (.after _ hgo) (hgo ())
termination_by structural fuel => fuel

theorem safe_readFilters : ∀ fuel {e}, FreeIn R e → Read.Safe R (readFilters fuel e)
  | 0, _, h => .pure h
  | fuel + 1, e, h => by
    refine .after _ fun next => ?_
    split
    · refine .after _ fun _ => .after _ fun line => .after _ fun name => .after _ fun name => ?_
      refine .after _ fun found => ?_
      extract_lets go
      have hgo : ∀ arguments, FreeIn R arguments → Read.Safe R (go arguments) :=
        fun _ harguments => safe_readFilters fuel (.filter line h name harguments)
      exact .ite ((safe_readArguments fuel).bind hgo) (.bind (.pure freeIn_nil) hgo)
    · exact (safe_readTest fuel h).bind fun e he => safe_readFilters fuel he
    · exact (safe_readArguments fuel).bind fun arguments harguments =>
        safe_readFilters fuel (.call h harguments)
    · exact .pure h
termination_by structural fuel => fuel

theorem safe_readTest : ∀ fuel {e}, FreeIn R e → Read.Safe R (readTest fuel e)
  | 0, _, h => .pure h
  | fuel + 1, e, h => by
    refine .after _ fun line => .after _ fun _ => .after _ fun negated => ?_
    refine .after _ fun name => .after _ fun name => .after _ fun next => ?_
    extract_lets go
    have hgo : ∀ arguments, FreeIn R arguments → Read.Safe R (go arguments) := by
      intro arguments harguments
      refine .pure ?_
      split
      · exact .not (.test line h name harguments)
      · exact .test line h name harguments
    split
    · exact (safe_readArguments fuel).bind hgo
    · refine .ite (.bind (.pure freeIn_nil) hgo) (.ite (.bind (.refuse _) hgo) ?_)
      exact (safe_readTestOperand fuel).bind hgo
    · exact (safe_readTestOperand fuel).bind hgo
    · exact (safe_readTestOperand fuel).bind hgo
    · exact (safe_readTestOperand fuel).bind hgo
    · exact (safe_readTestOperand fuel).bind hgo
    · exact (safe_readTestOperand fuel).bind hgo
    · exact .bind (.pure freeIn_nil) hgo
termination_by structural fuel => fuel

theorem safe_readTestOperand : ∀ fuel, Read.Safe R (readTestOperand fuel)
  | 0 => .pure freeIn_nil
  | fuel + 1 => by
    refine (safe_readPrimary fuel).bind fun e he => (safe_readPostfix fuel he).bind fun e he => ?_
    exact .pure (freeIn_cons.2 ⟨.positional he, freeIn_nil⟩)
termination_by structural fuel => fuel

end

/-! ## Sources -/

/-- The expression that the words stand for is free. -/
lemma TokenList.freeIn_toExpr (ts : TokenList) : FreeIn R ts.toExpr := by
  refine freeIn_exceptBind_of _ fun cursor => ?_
  extract_lets read
  have hread : Read.Safe R read :=
    (safe_readExpr _).bind fun e he => .after _ fun _ => .ite (.pure he) (.refuse _)
  cases hrun : read.run cursor with
  | error _ => exact trivial
  | ok p => exact hread.result cursor p hrun

/-- **The expression of a source** has free constants. -/
theorem Expr.freeIn_ofSource (source : List Char) : FreeIn R (Expr.ofSource source) :=
  TokenList.freeIn_toExpr _

end Interpolation
