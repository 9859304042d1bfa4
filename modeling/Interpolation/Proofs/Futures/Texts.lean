import Interpolation.Eval.TextMethod
import Interpolation.Proofs.Futures.Lookups

/-!
# Methods of texts on free arguments

A method of a text answers with a text, a number or a truth value, or with texts put together in a
new cell; at most it answers with the text itself or with an argument, which are free.  A layout looks
for parts of its arguments on the way, by the same lookups without the resolving of futures.

* `Arguments.freeIn_one`, `Arguments.freeIn_between`, `Parameters.freeIn_bind` — the arguments that a
  method asks for.
* `Value.safe_fillFields` — layouts with fields.
* `safe_makeTable` — tables of characters.
* `Setting.Alike.callText` — any method of a text.
-/

namespace Interpolation

variable {R : Scope}

/-! ## Arguments -/

namespace Arguments

variable {a : Arguments}

lemma freeIn_one (ha : FreeIn R a) (callee : String) : FreeIn R (a.one callee) := by
  refine freeIn_exceptBind_of _ fun _ => ?_
  split
  · next v h => exact (freeIn_cons.1 (h ▸ ha.1 : FreeIn R [v])).1
  · exact trivial

lemma freeIn_between (ha : FreeIn R a) (owner name : String) (low high : Nat) :
    FreeIn R (a.between owner name low high) := by
  refine freeIn_exceptBind_of _ fun _ => ?_
  dsimp only
  split
  · exact trivial
  · split
    · exact trivial
    · exact ha.1

end Arguments

/-- What the parameters of a method are given is free if the arguments are. -/
lemma Parameters.freeIn_bind (p : Parameters) {a : Arguments} (ha : FreeIn R a) :
    FreeIn R (p.bind a) := by
  have hvalues : FreeIn R (p.names.zipIdx.map fun q => given a q.1 q.2) := by
    intro o ho
    obtain ⟨q, -, rfl⟩ := List.mem_map.1 ho
    exact freeIn_or (freeIn_getElem? ha.1 q.2) (freeIn_lookup ha.2 q.1)
  unfold bind
  dsimp only
  split
  · exact trivial
  · split
    · exact trivial
    · split
      · exact trivial
      · exact freeIn_exceptBind_of _ fun _ => hvalues

lemma freeIn_argumentAt {vs : List (Option Value)} (hvs : FreeIn R vs) (i : Nat) {default : Value}
    (hdefault : FreeIn R default) : FreeIn R (argumentAt vs i default) := by
  have hget := freeIn_getElem? hvs i
  unfold argumentAt
  cases hi : vs[i]? with
  | none => exact hdefault
  | some o => exact freeIn_getD (hi ▸ hget : FreeIn R (some o)) hdefault

/-- A parameter with a free default. -/
instance : HoldsValues Parameter :=
  ⟨fun R p => FreeIn R p.default, fun p => freeIn_everything p.default⟩

lemma freeIn_required (name : String) : FreeIn R (required name) := trivial

namespace Signature

variable {s : Signature} {a : Arguments}

lemma freeIn_assign {named : List (String × Value)} (hnamed : FreeIn R named)
    {parameters : List Parameter} (hparameters : FreeIn R parameters) {values : List Value}
    (hvalues : FreeIn R values) : FreeIn R (assign named parameters values) := by
  induction parameters generalizing values with
  | nil => exact freeIn_nil
  | cons p ps ih =>
    obtain ⟨hp, hps⟩ := freeIn_cons.1 hparameters
    cases values with
    | nil => exact freeIn_cons.2 ⟨⟨hp, freeIn_or (freeIn_lookup hnamed _) hp⟩, ih hps freeIn_nil⟩
    | cons v vs =>
      obtain ⟨hv, hvs⟩ := freeIn_cons.1 hvalues
      exact freeIn_cons.2 ⟨⟨hp, hv⟩, ih hps hvs⟩

/-- What the parameters are given is free if their defaults and the arguments are. -/
lemma freeIn_bind (hs : FreeIn R s.parameters) (ha : FreeIn R a) : FreeIn R (s.bind a) := by
  have hbound := freeIn_assign ha.2 hs ha.1
  refine freeIn_exceptBind_of _ fun _ => ?_
  split
  · exact trivial
  · dsimp only
    split
    · exact freeIn_filterMap hbound fun p hp => hp.2
    · exact trivial

end Signature

/-! ## Texts -/

namespace TextKind

lemma freeIn_pack (k : TextKind) (s : List Char) : FreeIn R (k.pack s) := by
  cases k <;> exact trivial

lemma freeIn_packAs (k : TextKind) {itself : Value} (h : FreeIn R itself) (s : List Char) :
    FreeIn R (k.packAs itself s) := by
  unfold packAs
  split
  · split
    · exact h
    · exact freeIn_pack _ s
  · exact freeIn_pack _ s

lemma safe_packAll (k : TextKind) {itself : Value} (h : FreeIn R itself)
    (parts : List (List Char)) : Eval.Safe R (k.packAll itself parts) := by
  unfold packAll
  split
  · exact Eval.safe_list (freeIn_cons.2 ⟨freeIn_packAs k h _, freeIn_nil⟩)
  · refine Eval.safe_list fun v hv => ?_
    obtain ⟨s, -, rfl⟩ := List.mem_map.1 hv
    exact freeIn_pack k s

end TextKind

lemma safe_partitioned (k : TextKind) {itself v : Value} (h : FreeIn R itself) (hv : FreeIn R v)
    (fromRight : Bool) (s : List Char) : Eval.Safe R (partitioned k itself fromRight s v) := by
  have hthree : ∀ {a b c : Value}, FreeIn R a → FreeIn R b → FreeIn R c → FreeIn R [a, b, c] :=
    fun ha hb hc => freeIn_cons.2 ⟨ha, freeIn_cons.2 ⟨hb, freeIn_cons.2 ⟨hc, freeIn_nil⟩⟩⟩
  refine .bind (.except_of_none _) fun m _ => ?_
  dsimp only
  split
  · exact .throw_bind _ _ _
  · refine Eval.safe_tuple ?_
    split
    · split
      · exact hthree (k.freeIn_pack _) (k.freeIn_packAs hv _) (k.freeIn_pack _)
      · exact hthree (k.freeIn_pack _) (k.freeIn_pack _) (k.freeIn_packAs h _)
    · split
      · exact hthree (k.freeIn_pack _) (k.freeIn_packAs hv _) (k.freeIn_pack _)
      · exact hthree (k.freeIn_packAs h _) (k.freeIn_pack _) (k.freeIn_pack _)

/-! ## Layouts -/

instance : HoldsNone Numbering := .always Numbering

instance : HoldsNone PathStep := .always PathStep

instance : HoldsNone Field := .always Field

lemma PathStep.safe_follow {v : Value} (hv : FreeIn R v) (step : PathStep) :
    Eval.Safe R (step.follow v) := by
  rcases step with name | key
  · exact Value.safe_attributeNamed hv _
  · refine .bind (.except_of_none _) fun place _ => ?_
    cases place with
    | some n => exact Value.safe_itemUnder hv trivial
    | none => exact Value.safe_itemUnder hv trivial

lemma safe_followPath (fuel : Nat) {v : Value} (hv : FreeIn R v) (path : List Char) :
    Eval.Safe R (followPath fuel v path) := by
  induction fuel generalizing v path with
  | zero => cases path <;> exact .pure hv
  | succ fuel ih =>
    cases path with
    | nil => exact .pure hv
    | cons c s =>
      refine .bind (.except_of_none _) fun p _ => ?_
      exact (p.1.safe_follow hv).bind fun w hw => ih hw p.2

/-- Fields that are filled with free values. -/
def Filling.IsFree (R : Scope) : Filling → Prop
  | .arguments a => FreeIn R a
  | .mapping v => FreeIn R v

instance : HoldsValues Filling where
  FreeIn := Filling.IsFree
  freeIn_everything
    | .arguments a => freeIn_everything a
    | .mapping v => freeIn_everything v

namespace Filling

variable {filling : Filling}

lemma freeIn_atPlace (h : FreeIn R filling) (escaping : Bool) (i : Nat) :
    FreeIn R (filling.atPlace escaping i) := by
  cases filling with
  | mapping v => exact trivial
  | arguments a =>
    have hget := freeIn_getElem? (And.left h : FreeIn R a.positional) i
    dsimp only [atPlace]
    split
    · next v hv => exact (hv ▸ hget : FreeIn R (some v))
    · exact trivial

lemma safe_named (h : FreeIn R filling) (name : List Char) :
    Eval.Safe R (filling.named name) := by
  cases filling with
  | mapping v => exact Value.safe_itemUnder h trivial
  | arguments a =>
    have hlookup := freeIn_lookup (And.right h : FreeIn R a.named) (String.ofList name)
    dsimp only [named]
    split
    · next v hv => exact .pure (hv ▸ hlookup : FreeIn R (some v))
    · exact .throw _

end Filling

namespace Value

variable {filling : Filling}

lemma safe_fieldArgument (h : FreeIn R filling) (name : List Char) (numbering : Numbering) :
    Eval.Safe R (fieldArgument filling name numbering) := by
  have hfollow : ∀ (i : Nat) (fuel : Nat) (path : List Char) (n : Numbering),
      Eval.Safe R (do return (← followPath fuel (← filling.atPlace false i) path, n)) :=
    fun i fuel path n => .bind (.except (Filling.freeIn_atPlace h false i)) fun v hv =>
      (safe_followPath fuel hv path).bind fun w hw => .pure ⟨hw, trivial⟩
  unfold fieldArgument
  dsimp only
  split
  · split
    · exact hfollow _ _ _ _
    · exact hfollow _ _ _ _
    · exact .throw _
  · refine .bind (.except_of_none _) fun place _ => ?_
    split
    · split
      · exact .throw _
      · exact hfollow _ _ _ _
    · exact (Filling.safe_named h _).bind fun v hv =>
        (safe_followPath _ hv _).bind fun w hw => .pure ⟨hw, trivial⟩

lemma safe_markupArgument (h : FreeIn R filling) (name : List Char) (numbering : Numbering) :
    Eval.Safe R (markupArgument filling name numbering) := by
  have hplace : ∀ i, FreeIn R (filling.atPlace true i) := Filling.freeIn_atPlace h true
  unfold markupArgument
  dsimp only
  split
  · exact .throw _
  · exact .bind (.except (hplace _)) fun v hv => .pure ⟨hv, trivial⟩
  · refine .ite (.throw_bind _ _ _) (.bind (.except_of_none _) fun place _ => ?_)
    split
    · exact .bind (.except (hplace _)) fun v hv =>
        (safe_followPath _ hv _).bind fun w hw => .pure ⟨hw, trivial⟩
    · exact (Filling.safe_named h _).bind fun v hv =>
        (safe_followPath _ hv _).bind fun w hw => .pure ⟨hw, trivial⟩

lemma safe_converted (future : FutureId → Look String) (escaping : Bool) (conversion : Option Char)
    {v : Value} (hv : FreeIn R v) : (v.converted future escaping conversion).Safe R := by
  unfold converted
  split
  · exact .pure hv
  · exact .bind (.of_none _) fun _ _ => .pure trivial
  · exact .bind (.of_none _) fun _ _ => .pure trivial
  · exact .bind (.of_none _) fun _ _ => .pure trivial
  · exact .throw _

variable (future : FutureId → Look String) (escaping : Bool)

/-- A layout from a place on; the induction is on the number of characters that are left. -/
lemma safe_fillFrom (hfilling : FreeIn R filling) (level fuel : Nat) (numbering : Numbering)
    (s : List Char) : Eval.Safe R (fillFrom future escaping filling level fuel numbering s) := by
  induction fuel generalizing level numbering s with
  | zero => exact .pure ⟨freeIn_of_none R _, trivial⟩
  | succ fuel ih =>
    cases s with
    | nil => exact .pure ⟨freeIn_of_none R _, trivial⟩
    | cons c s =>
      unfold fillFrom
      extract_lets after
      have hafter : ∀ text numbering rest, Eval.Safe R (after text numbering rest) :=
        fun text numbering rest => (ih level numbering rest).bind fun p _ =>
          .pure (freeIn_of_none R _)
      split
      · split
        · exact hafter _ _ _
        · exact .throw _
      · split
        · split
          · exact .throw _
          · exact hafter _ _ _
          · refine .bind (.except_of_none _) fun ⟨field, rest⟩ _ => ?_
            dsimp -zeta only
            extract_lets go
            have hgo : ∀ p, FreeIn R p → Eval.Safe R (go p) := by
              rintro ⟨v, numbering⟩ ⟨hv, -⟩
              refine .bind (.look (safe_converted future escaping _ hv)) fun v _ => ?_
              split
              · cases level with
                | zero => exact .throw _
                | succ level =>
                  exact (ih level _ _).bind fun p _ => .bind (.look_of_none _) fun _ _ =>
                    hafter _ _ _
              · exact .bind (.look_of_none _) fun _ _ => hafter _ _ _
            split
            · exact (safe_markupArgument hfilling _ _).bind hgo
            · exact (safe_fieldArgument hfilling _ _).bind hgo
        · exact hafter _ _ _

lemma safe_fillFields (filling : Filling) (hfilling : FreeIn R filling) (layout : String) :
    Eval.Safe R (fillFields future escaping filling layout) :=
  (safe_fillFrom future escaping hfilling _ _ _ _).bind fun _ _ => .pure trivial

end Value

/-! ## Tables of characters -/

lemma safe_translatedChar {table : Value} (htable : FreeIn R table) (c : Char) :
    Eval.Safe R (translatedChar table c) := by
  have hkey : FreeIn R (Value.int (Text.codePoint c)) := trivial
  have hfound : Eval.Safe R (some <$> table.itemUnder (.int (Text.codePoint c))) :=
    (Value.safe_itemUnder htable hkey).map fun _ hv => hv
  have hother : ∀ f : Fault, Eval.Safe R (if f.label = "KeyError" ∨ f.label = "IndexError" then
      return none else throw f : Eval (Option Value)) :=
    fun f => .ite (.pure trivial) (.throw f)
  refine (hfound.orElse hother fun _ e he after => ?_).bind fun found _ => ?_
  · cases he with
    | tooDeep activity => exact Eval.overflows_throw (.tooDeep activity) after
    | inDocument activity => exact Eval.overflows_throw (.inDocument activity) after
  · cases found with
    | some v => exact .except_of_none _
    | none => exact .pure (freeIn_of_none R _)

lemma freeIn_tableKey {k : Value} (hk : FreeIn R k) : FreeIn R (tableKey k) := by
  unfold tableKey
  split
  · exact trivial
  · exact trivial
  · exact hk
  · exact trivial

/-- A table that is made of texts holds nothing but numbers. -/
lemma freeIn_tableOfTexts (texts : List (List Char)) : FreeIn R (tableOfTexts texts) := by
  dsimp only [tableOfTexts]
  split
  · exact trivial
  · refine freeIn_append.2 ⟨?_, ?_⟩
    · intro e he
      obtain ⟨_, -, rfl⟩ := List.mem_map.1 he
      exact ⟨trivial, trivial⟩
    · intro e he
      obtain ⟨_, -, rfl⟩ := List.mem_map.1 he
      exact ⟨trivial, trivial⟩

lemma safe_tableEntries {vs : List Value} (hvs : FreeIn R vs) :
    Eval.Safe R (tableEntries vs) := by
  unfold tableEntries
  split
  · split
    · next r hr =>
      have hentries := Look.safe_entries (freeIn_of_content hr (freeIn_cons.1 hvs).1)
      refine .bind (.look hentries) fun entries hentries => .mapM hentries fun e he => ?_
      exact .bind (.except (freeIn_tableKey he.1)) fun _ hk => .pure ⟨hk, he.2⟩
    · exact .throw _
  · exact .bind (.except_of_none _) fun texts _ => .except (freeIn_tableOfTexts texts)

lemma safe_makeTable {a : Arguments} (ha : FreeIn R a) : Eval.Safe R (makeTable a) :=
  .bind (.except (a.freeIn_between ha _ _ _ _)) fun _ hvs =>
    (safe_tableEntries hvs).bind fun _ hentries =>
      .bind (.look (safe_insertEntries freeIn_nil hentries)) fun _ hentries =>
        .build (Building.safe_dict hentries)

/-! ## Methods -/

/-- The parameters of the methods of markup have free defaults. -/
lemma freeIn_markupParameters? (name : String) : FreeIn R (markupParameters? name) := by
  unfold markupParameters?
  split
  · exact freeIn_nil
  · split
    all_goals first
      | exact trivial
      | repeat (first | exact freeIn_nil | refine freeIn_cons.2 ⟨trivial, ?_⟩)

lemma freeIn_markupArguments (name : String) {ps : List Parameter} (hps : FreeIn R ps)
    {a : Arguments} (ha : FreeIn R a) : FreeIn R (markupArguments name ps a) :=
  freeIn_exceptBind_of _ fun _ => Signature.freeIn_bind hps ha

lemma safe_argumentsOf (s : Setting) (k : TextKind) (name : String) {a : Arguments}
    (ha : FreeIn R a) : (argumentsOf s k name a).Safe R := by
  have hparameters := freeIn_markupParameters? (R := R) name
  unfold argumentsOf
  split
  · next ps hps =>
    rw [hps] at hparameters
    refine .bind (.except (freeIn_markupArguments name hparameters ha)) fun vs hvs => ?_
    split
    case h_4 => exact .pure ⟨hvs, freeIn_nil⟩
    -- the width is handed on, and what is put into the room is escaped
    all_goals
      refine .bind (.of_none _) fun _ _ => .pure ⟨freeIn_cons.2 ⟨?_, ?_⟩, freeIn_nil⟩
      · exact (freeIn_cons.1 hvs).1
      · exact freeIn_cons.2 ⟨trivial, freeIn_nil⟩
  · exact .pure ha

namespace Setting.Alike

variable {s t : Setting} {a : Arguments} {v itself : Value}

lemma escaped (h : s.Alike R t) : s.escaped = t.escaped := by
  funext v
  simp only [Setting.escaped, h.display]

lemma joinTexts (h : s.Alike R t) (k : TextKind) (cs : List Char) (hv : FreeIn R v) :
    Eval.Agree R (joinTexts s k cs v) (joinTexts t k cs v) := by
  simp only [Interpolation.joinTexts, h.escaped]
  refine .bind .getStore fun store hstore => ?_
  have hsource := (Value.safe_source hv).result store hstore
  split
  · refine .bind (.except hsource) fun source hsource => ?_
    exact (h.mapSource (fun _ _ => .look_of_none _) hsource).bind fun _ _ => .pure trivial
  · exact .throw _
  · exact .throw _
  · next source hrun =>
    have hsource : FreeIn R source := (hrun ▸ hsource : FreeIn R (Except.ok source))
    refine (h.drain hsource).bind fun items hitems => ?_
    refine .bind (.mapM (freeIn_zipIdx hitems) fun p _ => ?_) fun parts _ => ?_
    · split
      · exact .pure (freeIn_of_none R _)
      · exact .throw _
    · split
      · exact .pure (TextKind.freeIn_packAs _ (freeIn_cons.1 hitems).1 _)
      · exact .pure trivial

lemma formatText (h : s.Alike R t) (k : TextKind) (layout : String) (ha : FreeIn R a) :
    Eval.Agree R (formatText s k layout a) (formatText t k layout a) := by
  rw [Interpolation.formatText, Interpolation.formatText, h.futures]
  refine (Value.safe_fillFields _ _ (.arguments a) ha layout).bind fun text _ => ?_
  split
  · next v rest _ hpositional =>
    exact .pure (k.freeIn_packAs (freeIn_cons.1 (hpositional ▸ ha.1 : FreeIn R (v :: rest))).1 _)
  · exact .pure (k.freeIn_pack _)

lemma replacedIn (h : s.Alike R t) (k : TextKind) (hitself : FreeIn R itself) (cs : List Char)
    (ha : FreeIn R a) :
    Eval.Agree R (replacedIn s k itself cs a) (replacedIn t k itself cs a) := by
  rw [Interpolation.replacedIn, Interpolation.replacedIn, h.escaped]
  refine .bind (.except (a.freeIn_between ha _ _ _ _)) fun vs _ => ?_
  extract_lets argument part
  refine .bind (.except_of_none _) fun old _ => ?_
  extract_lets go
  have hgo : ∀ new, FreeIn R new → Eval.Safe R (go new) := by
    intro new _
    refine .bind (.except_of_none _) fun limit _ => .pure ?_
    split
    · exact k.freeIn_packAs hitself _
    · exact k.freeIn_pack _
  split
  · exact .bind (.look_of_none _) hgo
  · exact .bind (.except_of_none _) hgo

/-- **A method of a text** agrees on free arguments. -/
theorem callText (h : s.Alike R t) (k : TextKind) (hitself : FreeIn R itself) (text name : String)
    (ha : FreeIn R a) :
    Eval.Agree R (callText s k itself text name a) (callText t k itself text name a) := by
  have hsame : argumentsOf s k name a = argumentsOf t k name a := by
    simp only [argumentsOf, h.escaped]
  unfold Interpolation.callText
  dsimp only
  rw [hsame]
  refine .bind (.look (safe_argumentsOf t k name ha)) fun a ha => ?_
  have hone : ∀ callee, FreeIn R (a.one callee) := a.freeIn_one ha
  split
  · exact .bind (.except_of_none _) fun _ _ => .pure trivial
  · exact .bind (.except_of_none _) fun _ _ => .pure (k.freeIn_pack _)
  · split
    · exact .bind (.except_of_none _) fun _ _ => k.safe_packAll hitself _
    · exact .bind (.except_of_none _) fun _ _ => k.safe_packAll hitself _
    · exact .bind (.except (hone _)) fun v hv => h.joinTexts k _ hv
    · exact h.replacedIn k hitself _ ha
    · exact .bind (.look_of_none _) fun _ _ => .pure trivial
    · exact .bind (.look_of_none _) fun _ _ => .pure trivial
    iterate 4
      exact .bind (.except_of_none _) fun _ _ => .bind (.except_of_none _) fun _ _ =>
        .pure trivial
    · exact .bind (.except_of_none _) fun _ _ => .pure trivial
    · exact .bind (.except_of_none _) fun _ _ => .pure (k.freeIn_packAs hitself _)
    · exact .bind (.except_of_none _) fun _ _ => .pure (k.freeIn_packAs hitself _)
    · exact .bind (.except_of_none _) fun _ _ => .pure (k.freeIn_packAs hitself _)
    · exact .bind (.except (hone _)) fun _ _ => .bind (.except_of_none _) fun _ _ =>
        .pure (k.freeIn_packAs hitself _)
    · exact .bind (.except_of_none _) fun _ _ => .pure (k.freeIn_packAs hitself _)
    · exact .bind (.except_of_none _) fun _ _ => .pure (k.freeIn_packAs hitself _)
    · exact .bind (.except_of_none _) fun _ _ => .pure (k.freeIn_packAs hitself _)
    · refine .bind (.except_of_none _) fun _ _ => ?_
      split
      · exact .pure (k.freeIn_pack _)
      · exact .pure (k.freeIn_packAs hitself _)
    · exact .bind (.except (hone _)) fun v hv => safe_partitioned k hitself hv _ _
    · exact .bind (.except (hone _)) fun v hv => safe_partitioned k hitself hv _ _
    · exact .bind (.except (hone _)) fun _ _ => .bind (.except_of_none _) fun _ _ =>
        .pure (k.freeIn_packAs hitself _)
    · exact .bind (.except (hone _)) fun _ _ => .bind (.except_of_none _) fun _ _ =>
        .pure (k.freeIn_packAs hitself _)
    · exact .bind (.except_of_none _) fun _ _ => k.safe_packAll hitself _
    · exact .bind (.except_of_none _) fun _ _ => .pure trivial
    · refine .bind (.except (hone _)) fun table htable => ?_
      refine .bind (.mapM (freeIn_of_none R _) fun c _ => safe_translatedChar htable c) fun _ _ => ?_
      exact .pure (k.freeIn_pack _)
    · exact safe_makeTable ha
    · exact h.formatText k text ha
    · rw [h.futures]
      refine .bind (.except (hone _)) fun v hv => ?_
      exact (Value.safe_fillFields _ _ (.mapping v) hv text).bind fun _ _ =>
        .pure (k.freeIn_pack _)
    · exact .bind (.except_of_none _) fun _ _ => .pure trivial
    · exact .bind (.except_of_none _) fun _ _ => .pure trivial
    · rw [h.escaped]
      exact .bind (.except (hone _)) fun _ _ => .bind (.look_of_none _) fun _ _ => .pure trivial
    · exact .bind (.except_of_none _) fun _ _ => .pure trivial
    · exact .throw _

end Setting.Alike

end Interpolation
