import Interpolation.Proofs.Paths.Evaluation

/-!
# What a path finds

`Lookup.Finds` follows the steps of a path from value to value, without any setting: `see` says what
a value counts as that is met, and a step that finds nothing is the last one.  This is enough to
know what the path comes to in every setting that settles values in this way.  The steps behind a
missing value do not matter: they refuse it at once, or they give it back until the end.

* `Find` — a value, something that is missing, or a fault, and what an expression makes of it.
* `Lookup.Finds.congr` — only the values that are met are asked what they count as.
* `Lookup.exists_finds` — something is found from every ordinary value on.
* `Lookup.Finds.mirrored` — the same is found where futures were replaced.
* **`Setting.walk_finds`** — the steps of an evaluation come to what is found.
-/

namespace Interpolation

/-! ## Finds -/

/-- What the steps of a path find: a value, something that is missing, or a fault. -/
inductive Find where
  | value (v : Value)
  | lack (m : Missing)
  | fault (f : Fault)

/-- What an expression amounts to that finds this: nothing if something is missing, unless missing
values are refused. -/
def Find.answer (strict : Bool) : Find → Except Fault Value
  | value v => .ok v
  | lack m => if strict then .error m.fault else .ok .none
  | fault f => .error f

/-- What is missing is no fault yet. -/
lemma Find.lack_ne_fault (m : Missing) (f : Fault) : lack m ≠ fault f := by
  intro h
  cases h

namespace Lookup

/-- What is raised for a fault that is met on the way along steps: they are computed as a stream is.
Without steps, a fault is met only when all is computed. -/
def raised : List Lookup → Fault → Fault
  | [], f => f
  | _ :: _, f => f.outOfStream

lemma raised_missing (ks : List Lookup) (m : Missing) : raised ks (.missing m) = .missing m := by
  cases ks <;> rfl

/-- What is missing if a step finds nothing in a value. -/
def lack (v : Value) : Lookup → Missing
  | .attr n => .attribute v.description n
  | .item (.text n) => .attribute v.description n
  | .item (.whole n _) => .element v.description (toString n)

/-- What is missing behind a key that is written out can be put into words. -/
lemma fault_lack (v : Value) (k : Lookup) : (k.lack v).fault = .missing (k.lack v) := by
  obtain n | n | n := k <;> rfl

/-- What is found by steps one after the other, if a value that is met counts as what `see` says;
with the store afterwards and the values that were met. -/
inductive Finds (see : Value → Except Fault Value) :
    Value → List Lookup → Store → Find → Store → List Value → Prop
  | failed {v ks σ f} (h : see v = .error f) : Finds see v ks σ (.fault f) σ [v]
  | arrived {v u σ} (h : see v = .ok u) : Finds see v [] σ (.value u) σ [v]
  | lost {v u k ks σ τ} (h : see v = .ok u) (hk : (k.find? u).Ends σ (.ok none) τ []) :
    Finds see v (k :: ks) σ (.lack (k.lack u)) τ [v]
  | found {v u w k ks σ σ' r τ met} (h : see v = .ok u)
    (hk : (k.find? u).Ends σ (.ok (some w)) σ' []) (hrest : Finds see w ks σ' r τ met) :
    Finds see v (k :: ks) σ r τ (v :: met)

variable {see see' : Value → Except Fault Value} {v : Value} {ks : List Lookup} {σ τ τ' : Store}
  {r r' : Find} {met met' : List Value}

namespace Finds

/-- What steps find to be missing can be put into words. -/
lemma fault_of_lack {m : Missing} (h : Finds see v ks σ r τ met) (hr : r = .lack m) :
    m.fault = .missing m := by
  induction h with
  | failed h => cases hr
  | arrived h => cases hr
  | @lost v u k ks σ τ h hk =>
    cases hr
    exact fault_lack u k
  | found h hk hrest ih => exact ih hr

/-- There is one thing to be found. -/
lemma unique (h : Finds see v ks σ r τ met) (h' : Finds see v ks σ r' τ' met') :
    r = r' ∧ τ = τ' ∧ met = met' := by
  induction h generalizing r' τ' met' with
  | failed h =>
    cases h' with
    | failed h₁ => rw [h] at h₁; cases h₁; exact ⟨rfl, rfl, rfl⟩
    | arrived h₁ | lost h₁ | found h₁ => rw [h] at h₁; cases h₁
  | arrived h =>
    cases h' with
    | failed h₁ => rw [h] at h₁; cases h₁
    | arrived h₁ => rw [h] at h₁; cases h₁; exact ⟨rfl, rfl, rfl⟩
  | lost h hk =>
    cases h' with
    | failed h₁ => rw [h] at h₁; cases h₁
    | lost h₁ hk₁ => rw [h] at h₁; cases h₁; exact ⟨rfl, (hk.unique hk₁).2.1, rfl⟩
    | found h₁ hk₁ => rw [h] at h₁; cases h₁; cases (hk.unique hk₁).1
  | found h hk _ ih =>
    cases h' with
    | failed h₁ => rw [h] at h₁; cases h₁
    | lost h₁ hk₁ => rw [h] at h₁; cases h₁; cases (hk.unique hk₁).1
    | found h₁ hk₁ hrest₁ =>
      rw [h] at h₁
      cases h₁
      obtain ⟨hw, rfl, -⟩ := hk.unique hk₁
      cases hw
      obtain ⟨rfl, rfl, rfl⟩ := ih hrest₁
      exact ⟨rfl, rfl, rfl⟩

/-- The first value is met. -/
lemma mem (h : Finds see v ks σ r τ met) : v ∈ met := by
  cases h <;> exact List.mem_cons_self

/-- **Only the values that are met are asked what they count as.** -/
lemma congr (h : Finds see v ks σ r τ met) (hsee : ∀ w ∈ met, see' w = see w) :
    Finds see' v ks σ r τ met := by
  induction h with
  | failed h => exact .failed ((hsee _ List.mem_cons_self).trans h)
  | arrived h => exact .arrived ((hsee _ List.mem_cons_self).trans h)
  | lost h hk => exact .lost ((hsee _ List.mem_cons_self).trans h) hk
  | found h hk _ ih =>
    exact .found ((hsee _ List.mem_cons_self).trans h) hk
      (ih fun w hw => hsee w (List.mem_cons_of_mem _ hw))

/-- What is found is a fault only if a value that is met is refused. -/
lemma exists_refused (h : Finds see v ks σ r τ met) {f : Fault} (hr : r = .fault f) :
    ∃ w ∈ met, see w = .error f := by
  induction h with
  | @failed v _ _ _ h =>
    cases hr
    exact ⟨v, List.mem_cons_self, h⟩
  | arrived | lost => cases hr
  | found _ _ _ ih =>
    obtain ⟨w, hw, hrefused⟩ := ih hr
    exact ⟨w, List.mem_cons_of_mem _ hw, hrefused⟩

end Finds

/-! ## Finding in ordinary values -/

/-- A value whose replacement is ordinary counts as its replacement, if it counts at all. -/
def Sees (f : Value → Value) (R : Region) (see : Value → Except Fault Value) : Prop :=
  ∀ v u, (f v).Ordinary R → see v = .ok u → u = f v

variable {f : Value → Value} {R : Region}

/-- **Something is found from every ordinary value on.** -/
lemma exists_finds (hf : Replaces f) (hsee : Sees f R see) (ks : List Lookup)
    (hv : (f v).Ordinary R) (hσ : (σ.mapValues f).Ordinary R) :
    ∃ r τ met, Finds see v ks σ r τ met ∧ ∀ w ∈ met, (f w).Ordinary R := by
  have hmet : ∀ w ∈ [v], (f w).Ordinary R := fun w hw => List.mem_singleton.1 hw ▸ hv
  induction ks generalizing v σ with
  | nil =>
    cases h : see v with
    | error e => exact ⟨_, _, _, .failed h, hmet⟩
    | ok u => exact ⟨_, _, _, .arrived h, hmet⟩
  | cons k ks ih =>
    cases h : see v with
    | error e => exact ⟨_, _, _, .failed h, hmet⟩
    | ok u =>
      cases hsee v u hv h
      obtain ⟨found, σ', hk⟩ := k.mirrored_find? hf hv hσ
      cases found with
      | none => exact ⟨_, _, _, .lost h hk.ends, hmet⟩
      | some w =>
        have hw := hk.ordinary w rfl
        obtain ⟨r, τ, met, hrest, hordinary⟩ := ih hw hk.store fun x hx =>
          List.mem_singleton.1 hx ▸ hw
        exact ⟨r, τ, v :: met, .found h hk.ends hrest, List.forall_mem_cons.2 ⟨hv, hordinary⟩⟩

end Lookup

/-! ## Steps from missing values -/

/-- The name of the step, if it has one, does not start with an underscore. -/
def Lookup.Plain : Lookup → Prop
  | .attr n | .item (.text n) => n.toList.head? ≠ some '_'
  | .item (.whole ..) => True

namespace Lookup

lemma not_special {n : String} (h : n.toList.head? ≠ some '_') :
    n ≠ "__class__" ∧ n ≠ "__html__" ∧ Value.isSpecialName n = false := by
  refine ⟨?_, ?_, ?_⟩
  · rintro rfl
    exact h rfl
  · rintro rfl
    exact h rfl
  · rw [Value.isSpecialName]
    cases hn : n.toList with
    | nil => rfl
    | cons c cs =>
      rw [hn] at h
      have hc : (c == '_') = false := beq_eq_false_iff_ne.2 fun hc => h (congrArg some hc)
      cases cs <;> simp [List.cons_beq_cons, hc]

variable {k : Lookup} {m : Missing}

/-- A missing value that chains is found in itself. -/
lemma find?_chaining (hk : k.Plain) :
    k.find? (.ofContent (.missing .chaining m)) =
      pure (some (.ofContent (.missing .chaining m))) := by
  cases k with
  | attr n =>
    obtain ⟨hclass, hhtml, hspecial⟩ := not_special hk
    have hnative : (Value.ofContent (.missing .chaining m)).native? n =
        pure (some (.ofContent (.missing .chaining m))) := by
      rw [Value.native?, if_neg hclass]
      show (if n = "__html__" then _ else if Value.isSpecialName n = true then _ else _) = _
      rw [if_neg hhtml, hspecial]
      rfl
    rw [find?, hnative, pure_bind]
  | item key =>
    cases key <;> rfl

/-- A missing value that is strict refuses every step. -/
lemma find?_strict (hk : k.Plain) :
    k.find? (.ofContent (.missing .strict m)) = throw m.fault := by
  cases k with
  | attr n =>
    obtain ⟨hclass, -, hspecial⟩ := not_special hk
    have hnative : (Value.ofContent (.missing .strict m)).native? n = throw m.fault := by
      rw [Value.native?, if_neg hclass]
      show (if Value.isSpecialName n = true then _ else _) = _
      rw [hspecial]
      rfl
    rw [find?, hnative]
    rfl
  | item key =>
    cases key <;> rfl

end Lookup

/-! ## Steps of an evaluation -/

/-- A value that is there is what an expression amounts to. -/
lemma Expression.settle_there {strict : Bool} {v : Value} (hv : v.isMissing = false) :
    settle strict v = .ok v := by
  rw [settle]
  split
  · next hm => simp [Value.isMissing, hm] at hv
  · rfl

namespace Setting

variable {s : Setting} {c : Commons} {t : Settlement} {k : Lookup} {ks : List Lookup}
  {v u w : Value} {σ σ' τ : Store} {m : Missing}

/-- What is told of a key as an index. -/
lemma run_repr_whole (s : Setting) {n : Int} (written : exceedsDigits n = false) (σ : Store) :
    (s.repr (Key.whole n written).value).run σ = .ok (toString n) := by
  show integerText n = _
  rw [integerText, written]
  rfl

lemma run_wording_whole (s : Setting) {n : Int} (written : exceedsDigits n = false) (σ : Store) :
    (s.repr (Key.whole n written).value).wording.run σ = .ok (.text (toString n)) := by
  have h := s.run_repr_whole written σ
  simp only [ReaderT.run] at h
  simp only [Look.wording, ReaderT.run, h]

/-- A step that finds nothing gives a missing value. -/
lemma missed_ends (s : Setting) (v : Value) (k : Lookup) (σ : Store) :
    (s.missed v k).Ends σ (.ok (s.missing (k.lack v))) σ [] := by
  cases k with
  | attr n => exact .pure _ σ
  | item key =>
    cases key with
    | text n => exact .pure _ σ
    | whole n written =>
      have hrepr := Eval.Ends.look (s.repr (Key.whole n written).value).wording σ
      rw [s.run_wording_whole written σ] at hrepr
      exact hrepr.andThen (.pure _ σ)

lemma plainLookup_some (hk : (k.find? v).Ends σ (.ok (some w)) τ []) :
    (s.plainLookup v k).Ends σ (.ok w) τ [] := by
  rw [plainLookup_eq]
  exact hk.andThen (.pure w τ)

lemma plainLookup_none (hk : (k.find? v).Ends σ (.ok none) τ []) :
    (s.plainLookup v k).Ends σ (.ok (s.missing (k.lack v))) τ [] := by
  rw [plainLookup_eq]
  exact hk.andThen (s.missed_ends v k τ)

/-- What the steps of a path have led to is what the path amounts to, once it is settled. -/
def conclude (s : Setting) (t : Settlement) (v : Value) : Eval Value :=
  liftM (Expression.settle s.strict v >>= t.result)

lemma missing_ne_future (s : Setting) (m : Missing) (id : FutureId) :
    (s.missing m).content ≠ .future id := by
  intro h
  cases h

/-- Whatever is no future is left alone. -/
def Settlement.Still (t : Settlement) : Prop :=
  ∀ v, (∀ id, v.content ≠ .future id) → t.result v = .ok v

lemma conclude_there (hv : v.isMissing = false) {r : Except Fault Value} (h : t.result v = r)
    (σ : Store) : (s.conclude t v).Ends σ r σ [] := by
  subst h
  rw [conclude, Expression.settle_there hv]
  exact .except _ σ

lemma conclude_missing (ht : t.Still) (m : Missing) (σ : Store) :
    (s.conclude t (s.missing m)).Ends σ ((Find.lack m).answer s.strict) σ [] := by
  rw [conclude, Find.answer, missing]
  cases s.strict with
  | true => exact .except _ σ
  | false =>
    have hnone : t.result .none = .ok .none := ht _ fun id h => by cases h
    show (liftM (t.result .none) : Eval Value).Ends σ _ σ []
    rw [hnone]
    exact .except _ σ

/-- How an evaluation ends that goes along steps: at a value that amounts to what is found, or with
the fault of a step. -/
inductive Comes (s : Setting) (t : Settlement) (ks : List Lookup) (x : Eval Value) (σ : Store)
    (r : Find) (τ : Store) : Prop
  | arrives {w told} (hx : x.Ends σ (.ok w) τ told)
    (hw : (s.conclude t w).Ends τ (r.answer s.strict) τ []) (hr : ks = [] ∨ ∀ f, r ≠ .fault f)
  | fails {f told} (hx : x.Ends σ (.error f) τ told) (hr : r.answer s.strict = .error f)
    (hks : ks ≠ [])

namespace Comes

variable {x : Eval Value} {r : Find}

/-- What comes first makes no difference. -/
lemma after {α : Type} {y : Eval α} {g : α → Eval Value} {a : α} {told : Trace}
    (hy : y.Ends σ (.ok a) σ' told) (h : Comes s t ks (g a) σ' r τ) :
    Comes s t ks (y >>= g) σ r τ := by
  cases h with
  | arrives hx hw hr => exact .arrives (hy.bind hx) hw hr
  | fails hx hr hks => exact .fails (hy.bind hx) hr hks

/-- There may be one more step before the others, unless it is this step that finds a fault. -/
lemma behind (h : Comes s t ks x σ r τ) (hr : ks = [] → ∀ f, r ≠ .fault f) (k : Lookup) :
    Comes s t (k :: ks) x σ r τ := by
  cases h with
  | arrives hx hw hfault => exact .arrives hx hw (.inr (hfault.elim hr id))
  | fails hx hanswer _ => exact .fails hx hanswer (List.cons_ne_nil k ks)

/-- What it amounts to if the steps are computed as a stream is. -/
lemma ends (h : Comes s t ks x σ r τ) (hlack : ∀ m, r = .lack m → m.fault = .missing m) :
    ∃ told, (x.inStream >>= s.conclude t).Ends σ
      ((r.answer s.strict).mapError (Lookup.raised ks)) τ told := by
  cases h with
  | arrives hx hw hr =>
    have hanswer : (r.answer s.strict).mapError (Lookup.raised ks) = r.answer s.strict := by
      cases r with
      | value v => rfl
      | lack m =>
        rw [Find.answer, hlack m rfl]
        cases s.strict with
        | true => exact congrArg Except.error (Lookup.raised_missing ks m)
        | false => rfl
      | fault f =>
        obtain rfl | hr := hr
        · rfl
        · exact absurd rfl (hr f)
    rw [hanswer]
    exact ⟨_, hx.inStream.bind hw⟩
  | @fails f _ hx hanswer hks =>
    obtain ⟨k, ks, rfl⟩ := List.exists_cons_of_ne_nil hks
    rw [hanswer]
    exact ⟨_, hx.inStream.bind_error⟩

end Comes

/-- **The steps behind a missing value do not matter**: they refuse it, or they come to it. -/
lemma walk_missing (hs : s.SettlesBy c t) (ht : t.Still) (hplain : ∀ k ∈ ks, k.Plain)
    (m : Missing) (hσ : σ.commons = c) :
    Comes s t ks (s.walk (s.missing m) ks) σ (.lack m) σ := by
  have hm : t.result (s.missing m) = .ok (s.missing m) := ht _ (s.missing_ne_future m)
  induction ks with
  | nil => exact .arrives (.pure _ σ) (conclude_missing ht m σ) (.inl rfl)
  | cons k ks ih =>
    obtain ⟨hk, hks⟩ := List.forall_mem_cons.1 hplain
    rw [walk, List.foldlM_cons]
    cases hstrict : s.strict with
    | true =>
      have hplainLookup : (s.plainLookup (s.missing m) k).Ends σ (.error m.fault) σ [] := by
        rw [plainLookup_eq, missing, hstrict]
        show (k.find? (.ofContent (.missing .strict m)) >>= _).Ends σ _ σ []
        rw [Lookup.find?_strict hk]
        exact .bind_error (.throw _ σ)
      have hanswer : (Find.lack m).answer s.strict = .error m.fault := by
        rw [hstrict]
        rfl
      exact .fails (hs.lookup_error hσ hm hplainLookup).bind_error hanswer (List.cons_ne_nil k ks)
    | false =>
      have hfind : (k.find? (s.missing m)).Ends σ (.ok (some (s.missing m))) σ [] := by
        rw [missing, hstrict]
        show (k.find? (.ofContent (.missing .chaining m))).Ends σ _ σ []
        rw [Lookup.find?_chaining hk]
        exact .pure _ σ
      have hlookup := hs.lookup_ok hσ hσ hm (plainLookup_some hfind)
      rw [hm] at hlookup
      exact .after hlookup ((ih hks).behind (fun _ => Find.lack_ne_fault m) k)

/-- The value is there, and so is what takes its place, which stays. -/
structure Settlement.Steady (t : Settlement) (v : Value) : Prop where
  there : v.isMissing = false
  stays : ∀ u, t.result v = .ok u → t.result u = .ok u ∧ u.isMissing = false

/-- An ordinary value takes the place of this one. -/
lemma Settlement.Still.steady {f : Value → Value} {R : Region} (ht : t.Still) (hf : Replaces f)
    (hv : (f v).Ordinary R) (hu : ∀ u, t.result v = .ok u → u = f v) : t.Steady v where
  there := hf.there hv
  stays := by
    rintro u h
    cases hu u h
    exact ⟨ht _ fun id hid => freeIn_of_content hid hv.free, hv.there⟩

/-- **The steps of an evaluation come to what is found.**  They may begin with any value that counts
as the one from which it is found. -/
theorem walk_finds {r : Find} {met : List Value} (hs : s.SettlesBy c t) (ht : t.Still)
    (h : Lookup.Finds t.result v ks σ r τ met) (hσ : σ.commons = c) (hmet : ∀ w ∈ met, t.Steady w)
    (hplain : ∀ k ∈ ks, k.Plain) (hu : t.result u = t.result v) (hthere : u.isMissing = false) :
    Comes s t ks (s.walk u ks) σ r τ := by
  induction h generalizing u with
  | @failed v ks σ f h =>
    rw [h] at hu
    cases ks with
    | nil => exact .arrives (.pure u σ) (conclude_there hthere hu σ) (.inl rfl)
    | cons k ks =>
      rw [walk, List.foldlM_cons]
      exact .fails (hs.lookup_refused hσ hu).bind_error rfl (List.cons_ne_nil k ks)
  | @arrived v w σ h =>
    rw [h] at hu
    exact .arrives (.pure u σ) (conclude_there hthere hu σ) (.inl rfl)
  | @lost v w k ks σ τ h hk =>
    rw [h] at hu
    obtain ⟨-, hks⟩ := List.forall_mem_cons.1 hplain
    have hm := ht _ (s.missing_ne_future (k.lack w))
    have hw := ((hmet v (List.mem_singleton_self v)).stays w h).2
    have hτ := ((k.apart_find? hw).commons_eq hk).trans hσ
    have hlookup := hs.lookup_ok hσ hτ hu (plainLookup_none hk)
    rw [hm] at hlookup
    rw [walk, List.foldlM_cons]
    exact .after hlookup
      ((walk_missing hs ht hks (k.lack w) hτ).behind (fun _ => Find.lack_ne_fault _) k)
  | @found v w x k ks σ σ' r τ met h hk hrest ih =>
    rw [h] at hu
    obtain ⟨-, hks⟩ := List.forall_mem_cons.1 hplain
    obtain ⟨hv, hmet⟩ := List.forall_mem_cons.1 hmet
    have hσ' := ((k.apart_find? (hv.stays w h).2).commons_eq hk).trans hσ
    have hlookup := hs.lookup_ok hσ hσ' hu (plainLookup_some hk)
    rw [walk, List.foldlM_cons]
    cases hx : t.result x with
    | error f =>
      -- the step itself refuses the value to which it leads
      obtain ⟨rfl, rfl, -⟩ := hrest.unique (.failed hx)
      rw [hx] at hlookup
      exact .fails hlookup.bind_error rfl (List.cons_ne_nil k ks)
    | ok y =>
      obtain ⟨hy, hythere⟩ := (hmet x hrest.mem).stays y hx
      rw [hx] at hlookup
      refine .after hlookup ((ih hσ' hmet hks (hy.trans hx.symm) hythere).behind ?_ k)
      rintro rfl f hf
      obtain ⟨rfl, -⟩ := hrest.unique (.arrived hx)
      cases hf

end Setting

/-- What is found, futures stand as before. -/
lemma Lookup.Finds.commons_eq {t : Setting.Settlement} {v : Value} {ks : List Lookup}
    {σ τ : Store} {r : Find} {met : List Value} (h : Finds t.result v ks σ r τ met)
    (hmet : ∀ w ∈ met, t.Steady w) : τ.commons = σ.commons := by
  induction h with
  | failed | arrived => rfl
  | @lost v u k ks σ τ h hk =>
    exact (k.apart_find? ((hmet v (List.mem_singleton_self v)).stays u h).2).commons_eq hk
  | @found v u w k ks σ σ' r τ met h hk _ ih =>
    obtain ⟨hv, hmet⟩ := List.forall_mem_cons.1 hmet
    exact (ih hmet).trans ((k.apart_find? (hv.stays u h).2).commons_eq hk)

/-- Environments leave alone what is no future. -/
lemma Environment.still (e : Environment) (fs : Futures) : (e.settlement fs).Still := by
  intro v hv
  rw [settlement]
  cases e.resolving with
  | true => exact fs.resolve_eq hv
  | false => rfl

end Interpolation
