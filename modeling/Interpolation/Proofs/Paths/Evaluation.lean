import Interpolation.Proofs.Evaluation.Adding
import Interpolation.Proofs.Futures.Conservative
import Interpolation.Proofs.Names.Unused
import Interpolation.Proofs.Paths.Replacing

/-!
# The evaluation of a path

A path is evaluated from left to right: the name gives a value, and each step gives the next one.
What a step finds does not depend on how missing values are taken, nor on what becomes of futures;
both come in only when it has found something, or nothing.

* `Lookup.find?` — what a step finds, and `Lookup.mirrored_find?`, that it finds the same where
  values were replaced.
* `Eval.Apart` — an evaluation that leaves alone how futures stand.
* `Setting.SettlesBy` — what a setting makes of futures, as long as they stand in one way.
* `Setting.SettlesBy.lookup_ok`, `Setting.SettlesBy.lookup_error` — one step, in terms of these.
* **`Setting.eval_selection`**, **`Setting.eval_path`** — selections and paths are folds over their
  steps.
* `Environment.settlesBy` — what an environment makes of futures.
-/

namespace Interpolation

/-! ## How futures stand -/

/-- An evaluation that leaves alone what all evaluations have in common. -/
structure Eval.Apart {α : Type} (x : Eval α) : Prop where
  commons : ∀ m, (x.outcome m).2.store.commons = m.store.commons

namespace Eval.Apart

variable {α β : Type}

protected lemma pure (a : α) : (pure a : Eval α).Apart := ⟨fun _ => rfl⟩

protected lemma look (x : Look α) : Apart (liftM x : Eval α) := ⟨fun _ => rfl⟩

protected lemma build {x : Building α} (hx : x.AddsOnly) : Apart (liftM x : Eval α) :=
  ⟨fun m => hx.commons m.store⟩

protected lemma bind {x : Eval α} {f : α → Eval β} (hx : x.Apart) (hf : ∀ a, (f a).Apart) :
    (x >>= f).Apart := by
  constructor
  intro m
  have hfirst := hx.commons m
  rw [outcome_bind]
  rcases hx : x.outcome m with ⟨e | a, m'⟩ <;> rw [hx] at hfirst
  · exact hfirst
  · exact ((hf a).commons m').trans hfirst

/-- What is left behind by an evaluation that ends. -/
lemma commons_eq {x : Eval α} {s s' : Store} {r : Except Fault α} {told : Trace} (hx : x.Apart)
    (h : x.Ends s r s' told) : s'.commons = s.commons := by
  have hcommons := hx.commons ⟨s, []⟩
  rwa [h []] at hcommons

end Eval.Apart

/-- What can be looked up in a value does not change how futures stand. -/
lemma Value.Reads.apart {v : Value} {x : Eval (Option Value)} (h : v.Reads x) : x.Apart := by
  cases h with
  | nothing | part _ => exact .pure _
  | made _ _ _ _ =>
    exact .bind (.build ((Building.addsOnly_addRow _).map _)) fun _ => .pure _
  | field _ _ | placed _ _ | named _ _ | course _ _ => exact .bind (.look _) fun _ => .pure _
  | @entry r _ k => exact .look (do lookup? k.value (← Look.entries r))

variable {R : Region} {s : Setting} {σ σ' τ : Store}

/-! ## Steps -/

namespace Lookup

/-- What a step finds in a value: an attribute looks for an item of the name when there is no such
attribute, and an item for an attribute when the key is a text. -/
def find? (k : Lookup) (v : Value) : Eval (Option Value) :=
  match k with
  | .attr n => do
    match ← v.native? n with
    | some w => return some w
    | none => v.item? (Key.text n).value
  | .item (.text n) => do
    match ← v.item? (Key.text n).value with
    | some w => return some w
    | none => v.native? n
  | .item (.whole n written) => v.item? (Key.whole n written).value

/-- **What a step finds in an ordinary value**, and what it finds where values were replaced. -/
lemma mirrored_find? (k : Lookup) {f : Value → Value} (hf : Replaces f) {v : Value}
    (hv : v.Ordinary R) (hσ : (σ.mapValues f).Ordinary R) :
    ∃ found τ, Eval.Mirrored R f (k.find? v) σ found τ := by
  have hnative := fun n {σ : Store} (hσ : (σ.mapValues f).Ordinary R) =>
    (Value.reads_native? hv.there n).ends hf hv hσ
  have hitem := fun k {σ : Store} (hσ : (σ.mapValues f).Ordinary R) =>
    (Value.reads_item? hv.there k).ends hf hv hσ
  cases k with
  | attr n =>
    obtain ⟨found, σ', h⟩ := hnative n hσ
    cases found with
    | some w =>
      exact ⟨some w, σ', h.ends.andThen (.pure _ _), h.replaced.andThen (.pure _ _), h.ordinary,
        h.store⟩
    | none =>
      obtain ⟨found, τ, h'⟩ := hitem (.text n) h.store
      exact ⟨found, τ, h.ends.andThen h'.ends, h.replaced.andThen h'.replaced, h'.ordinary,
        h'.store⟩
  | item key =>
    cases key with
    | whole n written => exact hitem (.whole n written) hσ
    | text n =>
      obtain ⟨found, σ', h⟩ := hitem (.text n) hσ
      cases found with
      | some w =>
        exact ⟨some w, σ', h.ends.andThen (.pure _ _), h.replaced.andThen (.pure _ _), h.ordinary,
          h.store⟩
      | none =>
        obtain ⟨found, τ, h'⟩ := hnative n h.store
        exact ⟨found, τ, h.ends.andThen h'.ends, h.replaced.andThen h'.replaced, h'.ordinary,
          h'.store⟩

/-- A step does not change how futures stand. -/
lemma apart_find? (k : Lookup) {v : Value} (hv : v.isMissing = false) : (k.find? v).Apart := by
  cases k with
  | attr n =>
    refine (Value.reads_native? hv n).apart.bind fun found => ?_
    cases found with
    | some w => exact .pure _
    | none => exact (Value.reads_item? hv (.text n)).apart
  | item key =>
    cases key with
    | whole n written => exact (Value.reads_item? hv (.whole n written)).apart
    | text n =>
      refine (Value.reads_item? hv (.text n)).apart.bind fun found => ?_
      cases found with
      | some w => exact .pure _
      | none => exact (Value.reads_native? hv n).apart

end Lookup

namespace Lookup

/-- What a step looks up. -/
def key : Lookup → Value
  | .attr n => .str n
  | .item k => k.value

/-- The text of what a step looks up. -/
def word : Lookup → String
  | .attr n | .item (.text n) => n
  | .item (.whole n _) => toString n

/-- A key that is written out can be shown. -/
lemma run_display_key (k : Lookup) (s : Setting) (σ : Store) :
    (s.display k.key).run σ = .ok k.word := by
  obtain n | n | ⟨n, written⟩ := k
  · rfl
  · rfl
  · show integerText n = _
    rw [integerText, written]
    rfl

end Lookup

namespace Setting

/-- A step from a value. -/
def lookup (s : Setting) (v : Value) : Lookup → Eval Value
  | .attr n => s.attributeOf v n
  | .item k => s.itemOf v k.value

/-- A step from a value, before anything becomes of futures. -/
def plainLookup (s : Setting) (v : Value) : Lookup → Eval Value
  | .attr n => s.plainAttribute v n
  | .item k => s.plainItem v k.value

/-- A step settles the value that it begins with, looks for a part of what takes its place, and
settles what it finds. -/
lemma lookup_eq (s : Setting) (v : Value) (k : Lookup) :
    s.lookup v k = (s.settled k.key v >>= fun u => s.plainLookup u k >>= s.settled k.key) := by
  cases k <;> rfl

/-- What a step gives that finds nothing. -/
def missed (s : Setting) (v : Value) : Lookup → Eval Value
  | .attr n => return s.missingAttribute v n
  | .item k => s.missingItem v k.value

/-- A step gives what it finds, and a missing value if it finds nothing. -/
lemma plainLookup_eq (s : Setting) (v : Value) (k : Lookup) :
    s.plainLookup v k = (k.find? v >>= fun
      | some w => return w
      | none => s.missed v k) := by
  cases k with
  | attr n =>
    simp only [plainLookup, plainAttribute, Lookup.find?, bind_assoc]
    refine bind_congr fun found => ?_
    cases found with
    | none => rfl
    | some w => rw [pure_bind]
  | item key =>
    cases key with
    | whole n written => rfl
    | text n =>
      simp only [plainLookup, plainItem, Lookup.find?, bind_assoc]
      refine bind_congr fun found => ?_
      cases found with
      | none => rfl
      | some w => rw [pure_bind]

/-- What a setting makes of a value, and what it tells of it. -/
structure Settlement where
  /-- What takes the place of the value. -/
  result : Value → Except Fault Value
  /-- What is told, by the text of the lookup that met the value. -/
  told : Value → String → Trace

/-- As long as futures stand in one way, the setting settles every value in this way, and leaves the
store alone; what is looked up has a text. -/
def SettlesBy (s : Setting) (c : Commons) (t : Settlement) : Prop :=
  ∀ key word v σ, σ.commons = c → (s.display key).run σ = .ok word →
    (s.settled key v).Ends σ (t.result v) σ (t.told v word)

/-- In whatever way futures stand, the setting settles every value in some way. -/
def Settles (s : Setting) : Prop := ∀ c, ∃ t, s.SettlesBy c t

namespace SettlesBy

variable {c : Commons} {t : Settlement} {k : Lookup} {v u : Value} {told : Trace}

/-- What becomes of a value that a step meets. -/
lemma ends_key (h : s.SettlesBy c t) (k : Lookup) (v : Value) (hσ : σ.commons = c) :
    (s.settled k.key v).Ends σ (t.result v) σ (t.told v k.word) :=
  h k.key k.word v σ hσ (k.run_display_key s σ)

/-- A step that gives something. -/
lemma lookup_ok (h : s.SettlesBy c t) (hσ : σ.commons = c) (hτ : τ.commons = c)
    (hv : t.result v = .ok u) {w : Value} (hplain : (s.plainLookup u k).Ends σ (.ok w) τ told) :
    (s.lookup v k).Ends σ (t.result w) τ (t.told v k.word ++ (told ++ t.told w k.word)) := by
  rw [lookup_eq]
  exact (hv ▸ h.ends_key k v hσ).bind (hplain.bind (h.ends_key k w hτ))

/-- A step that fails leaves nothing to be settled. -/
lemma lookup_error (h : s.SettlesBy c t) (hσ : σ.commons = c) (hv : t.result v = .ok u) {f : Fault}
    (hplain : (s.plainLookup u k).Ends σ (.error f) τ told) :
    (s.lookup v k).Ends σ (.error f) τ (t.told v k.word ++ told) := by
  rw [lookup_eq]
  exact (hv ▸ h.ends_key k v hσ).bind hplain.bind_error

/-- A value that is refused is refused by every step from it. -/
lemma lookup_refused (h : s.SettlesBy c t) (hσ : σ.commons = c) {f : Fault}
    (hv : t.result v = .error f) : (s.lookup v k).Ends σ (.error f) σ (t.told v k.word) := by
  rw [lookup_eq]
  exact (hv ▸ h.ends_key k v hσ).bind_error

end SettlesBy

/-! ## Paths and selections -/

/-- Steps one after the other. -/
def walk (s : Setting) (v : Value) (ks : List Lookup) : Eval Value := ks.foldlM s.lookup v

/-- A step or a slice from a value. -/
def part (s : Setting) (v : Value) : Part → Eval Value
  | .lookup k => s.lookup v k
  | .slice b => v.sliced b.start.value b.stop.value b.step.value

/-- Steps and slices one after the other. -/
def walkParts (s : Setting) (v : Value) (ks : List Part) : Eval Value := ks.foldlM s.part v

lemma walkParts_cons (s : Setting) (v : Value) (k : Part) (ks : List Part) :
    s.walkParts v (k :: ks) = (s.part v k >>= fun w => s.walkParts w ks) := List.foldlM_cons

/-- A step behind an expression is made from its value. -/
lemma eval_onto (s : Setting) (e : Expr) (k : Part) :
    s.eval (k.onto e) = (s.eval e >>= fun v => s.part v k) := by
  cases k with
  | lookup k =>
    cases k with
    | attr n => rfl
    | item k =>
      have hkey : s.eval k.expr = pure k.value := by
        cases k <;> rfl
      simp only [Part.onto, Lookup.onto, eval, hkey, pure_bind]
      rfl
  | slice b =>
    have hbound : ∀ c : Bound, s.eval c.expr = pure c.value := fun c => by
      cases c <;> rfl
    simp only [Part.onto, eval, hbound, pure_bind]
    rfl

/-- **A selection is evaluated from left to right.** -/
theorem eval_selection (s : Setting) (p : Selection) :
    s.eval p.expr =
      (((s.name p.name : Building Value) : Eval Value) >>= fun v => s.walkParts v p.parts) := by
  refine p.parts_induction (P := fun q => s.eval q.expr =
    (((s.name q.name : Building Value) : Eval Value) >>= fun v => s.walkParts v q.parts)) ?_
    fun q k ih => ?_
  · exact (bind_pure _).symm
  · rw [Selection.expr_extend, eval_onto, ih, bind_assoc]
    refine bind_congr fun v => ?_
    simp [Selection.extend, walkParts, List.foldlM_append]

/-- **So is a path.** -/
theorem eval_path (s : Setting) (p : Path) :
    s.eval p.expr =
      (((s.name p.name : Building Value) : Eval Value) >>= fun v => s.walk v p.lookups) := by
  rw [← p.expr_selection, eval_selection]
  refine bind_congr fun v => ?_
  rw [walkParts, Path.selection, List.foldlM_map]
  rfl

end Setting

/-! ## Environments -/

/-- What a lookup tells that meets a value: its own text, if the value is a future of the table. -/
def Futures.tells (fs : Futures) (v : Value) (text : String) : Trace :=
  match v.content with
  | .future id => if (fs.get? id).isSome then [.text text] else []
  | _ => []

/-- What is no future counts as itself. -/
lemma Futures.resolve_eq (fs : Futures) {v : Value} (h : ∀ id, v.content ≠ .future id) :
    fs.resolve v = .ok v := by
  rw [resolve]
  split
  · next id hid => exact absurd hid (h id)
  · rfl

/-- What has a text is told by it, whether that is wanted or not. -/
lemma Futures.announce_ends (fs : Futures) (logging : Bool) {key : Value} {word : String}
    (h : (key.display fs.shown).run σ = .ok word) :
    (fs.announce logging key).Ends σ (.ok ()) σ [.text word] := by
  have hwording : (key.display fs.shown).wording.run σ = .ok (.text word) := by
    simp only [ReaderT.run] at h
    simp only [Look.wording, ReaderT.run, h]
  have hlook := hwording ▸ Eval.Ends.look (key.display fs.shown).wording σ
  exact hlook.andThen ((Eval.Ends.record (.text word) σ).bind (.pure () σ))

lemma Futures.settling_ends (fs : Futures) (logging : Bool) {key : Value} {word : String}
    (h : (key.display fs.shown).run σ = .ok word) (v : Value) :
    (fs.settling logging key v).Ends σ ((fs.now σ).resolve v) σ ((fs.now σ).tells v word) := by
  unfold settling resolve tells
  cases v.content with
  | future id =>
    have hstore : (getThe Store : Eval Store).Ends σ (.ok σ) σ [] := Eval.Ends.build get σ
    cases hf : (fs.now σ).get? id with
    | none =>
      refine hstore.andThen ?_
      simp only [hf]
      exact .pure v σ
    | some f =>
      refine hstore.andThen ?_
      simp only [hf]
      exact (fs.announce_ends logging h).bind (.except f.resolved σ)
  | _ => exact .pure v σ

/-- What changes of futures there were, the table shows. -/
lemma Futures.now_congr (fs : Futures) (h : σ.commons = τ.commons) : fs.now σ = fs.now τ := by
  rw [now, now, h]

namespace Environment

/-- What an environment makes of futures. -/
def settlement (e : Environment) (fs : Futures) : Setting.Settlement where
  result v := if e.resolving then fs.resolve v else .ok v
  told v text := if e.resolving then fs.tells v text else []

lemma settlement_of_resolving {e : Environment} (h : e.resolving = true) (fs : Futures) :
    (e.settlement fs).result = fs.resolve := by
  funext v
  rw [settlement, h]
  rfl

lemma settlement_of_leaving {e : Environment} (h : e.resolving = false) (fs : Futures) :
    (e.settlement fs).result = .ok := by
  funext v
  rw [settlement, h]
  rfl

/-- Nothing is told of a free value. -/
lemma settlement_told (e : Environment) {fs : Futures} {v : Value} (hv : FreeIn R v)
    (text : String) : (e.settlement fs).told v text = [] := by
  have htells : fs.tells v text = [] := by
    rw [Futures.tells]
    split
    · next id hid => exact (freeIn_of_content hid hv).elim
    · rfl
  show (if e.resolving then fs.tells v text else []) = []
  rw [htells, ite_self]

lemma settlesBy (e : Environment) (fs : Futures) (σ : Store) :
    (e.setting fs).SettlesBy σ.commons (e.settlement (fs.now σ)) := by
  intro key word v τ hτ hword
  show (e.settling fs key v).Ends τ _ τ _
  rw [settling, settlement, ← fs.now_congr hτ]
  cases e.resolving with
  | true => exact fs.settling_ends e.logging hword v
  | false => exact .pure v τ

lemma settles (e : Environment) (fs : Futures) : (e.setting fs).Settles := fun c =>
  ⟨_, e.settlesBy fs { Store.empty with commons := c }⟩

end Environment

end Interpolation
