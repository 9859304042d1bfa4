import Interpolation.Proofs.CommandLine.Runs
import Interpolation.Proofs.Config.Loading

/-!
# Documents that hold no mapping

A context and a configuration are read in the same way up to a point: a document is loaded, what
counts as false is replaced by an empty mapping, and only then it matters whether there is a mapping.
The replacement is meant for the document without content.  It also reaches `false`, zero, the empty
text and the empty collections, and those are the documents without a mapping that are taken for an
empty one.  All others are refused by both readers.

A value counts as false for reasons that differ from kind to kind, and the truth of some values is a
fault.  So the kinds of values that a document can have come first.

* `Content.isLoaded` — the kinds of values that a document can have; `Yaml.isLoaded_of_load`.
* `Value.isVacant` — nothing, false, zero or empty; `Value.truth_of_isLoaded`.
* `Config.documentValue_of_vacant`, `Config.documentValue_of_not_vacant` — what is read in place of a
  document.
* `Config.place_ne_nil` — a mapping is never refused as a whole.
* **`World.mapping_or_fault`** — the two readers agree on every document.
-/

namespace Interpolation

/-! ## What documents stand for -/

/-- The kinds of values that a document can have. -/
def Content.isLoaded : Content → Bool
  | .none | .bool _ | .int _ | .float _ | .str _ | .bytes _ | .date _ | .datetime .. | .list _
  | .set _ | .dict _ => true
  | _ => false

namespace Yaml

lemma Scalar.isLoaded_of_value {tag : Tag} {text : String} {c : Content}
    (h : Scalar.value tag text = .ok c) : c.isLoaded = true := by
  have hmap : ∀ {α : Type} (x : Except YamlFault α) (f : α → Content), x.map f = .ok c →
      (∀ a, (f a).isLoaded = true) → c.isLoaded = true := by
    intro α x f hx hf
    cases x with
    | error e => cases hx
    | ok a => cases hx; exact hf a
  cases tag with
  | null => cases h; rfl
  | boolean => exact hmap _ _ h fun _ => rfl
  | integer => exact hmap _ _ h fun _ => rfl
  | float => exact hmap _ _ h fun _ => rfl
  | binary => exact hmap _ _ h fun _ => rfl
  | text => cases h; rfl
  | timestamp =>
    change Scalar.timestamp text.toList = .ok c at h
    unfold Scalar.timestamp at h
    split at h <;> cases h <;> rfl
  | _ => cases h

namespace Making

variable {α β : Type} {x : Making α} {f : α → Making β} {st st' : State} {b : β}

lemma run_bind_eq_ok (h : (x >>= f).run st = .ok (b, st')) :
    ∃ a st₁, x.run st = .ok (a, st₁) ∧ (f a).run st₁ = .ok (b, st') := by
  rw [StateT.run_bind] at h
  cases hx : x.run st with
  | error e => rw [hx] at h; cases h
  | ok p => rw [hx] at h; exact ⟨p.1, p.2, rfl, h⟩

lemma run_lift_eq_ok {r : Except YamlFault β} (h : (liftM r : Making β).run st = .ok (b, st')) :
    r = .ok b := by
  cases r with
  | error e => cases h
  | ok a => exact congrArg Except.ok (congrArg Prod.fst (Except.ok.inj h))

lemma isLoaded_of_emptyCollection {tag : Tag} {make : Building Value}
    (h : emptyCollection? tag = some make) (s : Store) : (make s).1.content.isLoaded = true := by
  cases tag <;> cases h <;> rfl

/-- What is kept has the content that it had. -/
lemma content_keep (v : Value) (s : Store) : (Building.keep v s).1.content = v.content := by
  unfold Building.keep
  cases v.identity with
  | loose => dsimp only; split <;> rfl
  | _ => rfl

/-- A value that is made for a node is of one of the kinds that a document can have. -/
lemma isLoaded_of_value {i : Nat} {v : Value} (hnew : (st.values[i]?).join = none)
    (h : (value i).run st = .ok (v, st')) : v.content.isLoaded = true := by
  obtain ⟨_, _, hget, h⟩ := run_bind_eq_ok h
  cases hget
  dsimp only at h
  rw [hnew] at h
  obtain ⟨n, _, hnode, h⟩ := run_bind_eq_ok h
  cases hnode
  split at h
  · next make hmake =>
    obtain ⟨_, _, -, h⟩ := run_bind_eq_ok h
    obtain ⟨_, _, hmade, h⟩ := run_bind_eq_ok h
    cases hmade
    cases h
    exact isLoaded_of_emptyCollection hmake _
  · split at h
    · obtain ⟨text, _, -, h⟩ := run_bind_eq_ok h
      obtain ⟨c, _, hc, h⟩ := run_bind_eq_ok h
      obtain ⟨w, _, hmade, h⟩ := run_bind_eq_ok h
      have hw : (Building.keep (.ofContent c) _).1 = w := congrArg Prod.fst (Except.ok.inj hmade)
      have hv : w = v := congrArg Prod.fst (Except.ok.inj h)
      rw [← hv, ← hw, content_keep]
      exact Scalar.isLoaded_of_value (run_lift_eq_ok hc)
    · cases h

end Making

/-- **A document stands for a value of one of these kinds.** -/
theorem isLoaded_of_load {text : List Char} {v : Value} {s : Store} (h : load text = .ok (v, s)) :
    v.content.isLoaded = true := by
  rw [load] at h
  cases hgraph : Graph.ofWords? (Words.ofText text) with
  | error e => rw [hgraph] at h; cases h
  | ok g =>
    rw [hgraph] at h
    cases g with
    | none => cases h; rfl
    | some g =>
      let start : State := ⟨g.nodes, Array.replicate g.nodes.size none, [], .empty⟩
      let make : Making Value := do
        let v ← Making.value g.root
        Making.fillAll g.nodes.size
        return v
      change (make.run start >>= fun r => .ok (r.1, r.2.store.fresh)) = .ok (v, s) at h
      cases hmake : make.run start with
      | error e => rw [hmake] at h; cases h
      | ok r =>
        rw [hmake] at h
        have hr : r.1 = v := congrArg Prod.fst (Except.ok.inj h)
        obtain ⟨w, _, hroot, hfill⟩ := Making.run_bind_eq_ok hmake
        obtain ⟨_, _, -, hreturn⟩ := Making.run_bind_eq_ok hfill
        have hw : w = r.1 := congrArg Prod.fst (Except.ok.inj hreturn)
        rw [← hr, ← hw]
        refine Making.isLoaded_of_value ?_ hroot
        -- no node has a value yet
        show ((Array.replicate g.nodes.size none)[g.root]?).join = none
        rw [Array.getElem?_replicate]
        split <;> rfl

end Yaml

/-! ## What counts as false -/

namespace Value

/-- Whether a value is nothing, false, zero or empty. -/
def isVacant (s : Store) (v : Value) : Bool :=
  match v.content with
  | .none => true
  | .bool b => !b
  | .int n => n == 0
  | .float x => x == 0
  | .str t => t == ""
  | .bytes bs => bs.isEmpty
  | .list r | .set r => (s.row r).isEmpty
  | .dict r => (s.entries r).isEmpty
  | _ => false

/-- The values of documents have a truth value, and those that count as false are the vacant
ones. -/
lemma truth_of_isLoaded {v : Value} (h : v.content.isLoaded = true) (s : Store) :
    v.truth.run s = .ok !v.isVacant s := by
  obtain ⟨c, i⟩ := v
  cases c with
  | bool b => exact congrArg Except.ok (Bool.not_not b).symm
  | none | int | float | str | bytes | date | datetime | list | set | dict => rfl
  | _ => cases h

end Value

/-! ## What is wrong with a part -/

/-- Nothing is wrong with the whole of what is checked. -/
def Checked.InParts {α : Type} (x : Checked α) : Prop :=
  ∀ is, x = .error is → ∀ i ∈ is, i.place ≠ []

namespace Checked.InParts

variable {α β : Type}

lemma ok (a : α) : InParts (.ok a) := nofun

lemma both {x : Checked α} {y : Checked β} (hx : x.InParts) (hy : y.InParts) :
    (Checked.both x y).InParts := by
  intro is h
  cases x with
  | ok a =>
    cases y with
    | ok b => cases h
    | error js => cases h; exact hy is rfl
  | error js =>
    cases y with
    | ok b => cases h; exact hx is rfl
    | error ks =>
      cases h
      exact List.forall_mem_append.2 ⟨hx js rfl, hy ks rfl⟩

lemma place (name : String) (x : Checked α) : (Checked.place name x).InParts := by
  intro is h
  cases x with
  | ok a => cases h
  | error js =>
    cases h
    exact List.forall_mem_map.2 fun i _ => List.cons_ne_nil _ _

lemma map {x : Checked α} (hx : x.InParts) (f : α → β) :
    InParts (x >>= fun a => pure (f a)) := by
  intro is h
  cases x with
  | ok a => cases h
  | error js => cases h; exact hx is rfl

end Checked.InParts

namespace Config

variable {s : Store} {v : Value} {text : List Char}

lemma inParts_readField {α : Type} (entries : List (Value × Value)) (name : String)
    (check : Value → Check α) (otherwise : α) :
    (readField entries name check otherwise s).InParts := by
  rw [readField]
  cases field? name entries with
  | none => exact .ok otherwise
  | some v => exact .place name (check v s)

/-- A mapping is never refused as a whole. -/
theorem inParts_readConfig (hv : IsMapping v) : (readConfig v s).InParts := by
  simp only [readConfig, run_readSection hv]
  have hfield := fun {α} name (check : Value → Check α) otherwise =>
    inParts_readField (s := s) (entriesOf s v) name check otherwise
  exact .map (.both (.both (hfield "description" readDescription standard.description)
    (hfield "delimiters" readDelimiters standard.delimiters))
    (.both (hfield "expressions" readExpressions standard.expressions)
      (hfield "trust" readTrust standard.trust)))
    fun p => (⟨p.1.1, p.1.2, p.2.1, p.2.2⟩ : Config)

/-- A mapping without entries describes the standard configuration. -/
lemma ofValue_of_nil (hv : IsMapping v) (hnil : entriesOf s v = []) : ofValue s v = .ok standard := by
  have hread : readConfig v s = .ok standard := by
    simp only [readConfig, run_readSection hv]
    show (Check.both _ _ s >>= _) = _
    rw [hnil]
    rfl
  rw [ofValue, hread]
  rfl

/-- Anything else is refused as a whole. -/
lemma ofValue_of_not_isMapping (hv : ¬IsMapping v) :
    ofValue s v =
      .error ⟨[⟨[], .notAMapping "StencilConfig", v.shownForReport s, v.typeName⟩]⟩ := by
  have hread : readSection "StencilConfig" v = Check.wrong v (.notAMapping "StencilConfig") := by
    unfold readSection
    split
    · next r hr => exact absurd ⟨r, hr⟩ hv
    · rfl
  have hconfig : readConfig v s =
      .error [⟨[], .notAMapping "StencilConfig", v.shownForReport s, v.typeName⟩] := by
    simp only [readConfig, hread]
    rfl
  rw [ofValue, hconfig]
  rfl

/-! ## From a document to what is read -/

/-- What is read in place of a document. -/
lemma documentValue_of_load (hload : Yaml.load text = .ok (v, s)) :
    documentValue text = .ok (if v.isVacant s then Building.dict [] s else (v, s)) := by
  have htruth := Value.truth_of_isLoaded (Yaml.isLoaded_of_load hload) s
  rw [documentValue, hload]
  dsimp only [bind, Except.bind]
  rw [htruth]
  cases v.isVacant s <;> rfl

lemma isVacant_of_isMapping (hv : IsMapping v) :
    v.isVacant s = (entriesOf s v).isEmpty := by
  obtain ⟨r, hr⟩ := hv
  rw [Value.isVacant, entriesOf, hr]

end Config

namespace CommandLine

open Config Interpolation.Text

variable {text : List Char} {v : Value} {s : Store}

/-- A context is a mapping, and there is one unless the document holds something that is neither a
mapping nor vacant. -/
lemma readContext_of_load (hload : Yaml.load text = .ok (v, s)) :
    readContext text =
      if v.isVacant s then .ok ⟨.held (Building.dict [] s).1, (Building.dict [] s).2⟩
      else if IsMapping v then .ok ⟨.held v, s⟩ else .error .notAMapping := by
  rw [readContext, documentValue_of_load hload]
  cases v.isVacant s with
  | true => rfl
  | false =>
    dsimp only [Except.mapError, bind, Except.bind]
    by_cases hv : IsMapping v
    · obtain ⟨r, hr⟩ := id hv
      simp [hr, hv]
      rfl
    · simp only [Bool.false_eq_true, if_false, if_neg hv]
      split
      · next r hr => exact absurd ⟨r, hr⟩ hv
      · rfl

/-- The text of a file that can be read. -/
lemma Command.inWorld_fileText {w : World} {path : String} {bytes : List UInt8} {cs : List Char}
    (hread : w.files.read? path = .ok bytes) (hdecode : utf8Decode bytes = .ok cs) :
    (fileText path).inWorld w = .ok (universalNewlines cs) := by
  show Task.runWith _ _ (Task.readFile path _) = _
  rw [Task.runWith, hread]
  show decode bytes = _
  rw [decode, hdecode]
  rfl

lemma Command.inWorld_fileText_bind {α : Type} {w : World} {path : String}
    (h : (fileText path).inWorld w = .ok text) (f : List Char → Except CommandFault α) :
    (fileText path >>= fun t => lift (f t)).inWorld w = f text := by
  rw [inWorld_bind, h]
  rfl

/-- What the two readers make of the same value: a context and a configuration. -/
inductive Readings (path : String) (v : Value) (s : Store) :
    Except CommandFault Loaded → Except CommandFault Config → Prop
  | vacant (h : v.isVacant s = true) : Readings path v s
      (.ok ⟨.held (Building.dict [] s).1, (Building.dict [] s).2⟩) (.ok .standard)
  | mapping (hv : IsMapping v) (h : v.isVacant s = false) : Readings path v s
      (.ok ⟨.held v, s⟩) ((ofValue s v).mapError fun f => .config (.invalid f))
  | other (hv : ¬IsMapping v) (h : v.isVacant s = false) : Readings path v s
      (.error (.context path .notAMapping))
      (.error (.config (.invalid
        ⟨[⟨[], .notAMapping "StencilConfig", v.shownForReport s, v.typeName⟩]⟩)))

lemma readings_of_load (path : String) (hload : Yaml.load text = .ok (v, s)) :
    Readings path v s ((readContext text).mapError (.context path))
      ((Config.load text).mapError .config) := by
  have hconfig : ∀ {u t}, documentValue text = .ok (u, t) →
      Config.load text = (ofValue t u).mapError .invalid := fun hu => by
    rw [Config.load, hu]
    rfl
  have hvalue := documentValue_of_load hload
  rw [readContext_of_load hload]
  cases hvacant : v.isVacant s with
  | true =>
    rw [hvacant] at hvalue
    obtain ⟨hnew, hnil⟩ := isMapping_dict_nil s
    have hstandard : Config.load text = .ok .standard := by
      rw [hconfig (u := (Building.dict [] s).1) (t := (Building.dict [] s).2) hvalue,
        ofValue_of_nil hnew hnil]
      rfl
    rw [hstandard]
    exact .vacant hvacant
  | false =>
    rw [hvacant] at hvalue
    rw [hconfig hvalue]
    by_cases hv : IsMapping v
    · rw [if_neg Bool.false_ne_true, if_pos hv]
      have hmapping : Readings path v s _ _ := .mapping hv hvacant
      cases hread : ofValue s v with
      | error f => rw [hread] at hmapping; exact hmapping
      | ok c => rw [hread] at hmapping; exact hmapping
    · rw [if_neg Bool.false_ne_true, if_neg hv, ofValue_of_not_isMapping hv]
      exact .other hv hvacant

/-- A file without a name cannot be read. -/
lemma path_ne_empty {w : World} {path : String}
    (h : (Command.fileText path).inWorld w = .ok text) : path ≠ "" := by
  rintro rfl
  have hread : w.files.read? "" = .error ⟨"", .missing⟩ := by
    have htarget : w.files.target "" = .fault .missing := by
      rw [Files.target, if_neg (by simp), if_pos rfl]
    rw [Files.read?, htarget]
  have hfile : (Command.fileText "").inWorld w = .error (.file ⟨"", .missing⟩) := by
    show Task.runWith _ _ (Task.readFile "" _) = _
    rw [Task.runWith, hread]
    rfl
  rw [hfile] at h
  cases h

/-- **A document without a mapping is refused, or vacant.**  A file holds a document that stands for
a value; one run has it as its context, another one as its configuration.

* A mapping is the context, and it is refused as a configuration only for what is wrong with its
  parts.  One without entries is replaced by a new one.
* What is neither a mapping nor vacant is refused by both readers, as a whole and as a wrong value.
* What is vacant, but no mapping, is taken for an empty mapping by both readers.

So there is no context exactly when the document as a whole is refused as a configuration. -/
theorem World.mapping_or_fault (w : World) (path : String) (a b : Arguments)
    (ha : a.context = some path) (hb : b.config = some path)
    (hfile : (Command.fileText path).inWorld w = .ok text) (hload : Yaml.load text = .ok (v, s)) :
    let context := w.context a
    let config := (Command.configOf b).inWorld w
    v.content.isLoaded = true ∧
    (IsMapping v →
      (∃ u t, context = .ok ⟨.held u, t⟩ ∧ IsMapping u ∧ entriesOf t u = entriesOf s v ∧
        (entriesOf s v ≠ [] → u = v ∧ t = s)) ∧
      ((∃ c, config = .ok c) ∨ ∃ f : ConfigFault,
        config = .error (.config (.invalid f)) ∧ ∀ i ∈ f.invalid, i.place ≠ [])) ∧
    (¬IsMapping v → v.isVacant s = false →
      (∃ f, context = .error f ∧ f.label = "ValueError" ∧
        f.message? = some ("Context file " ++ path ++ " must contain a mapping")) ∧
      ∃ f i, config = .error f ∧ f.label = "ValueError" ∧ f = .config (.invalid ⟨[i]⟩) ∧
        i.place = [] ∧ i.cause = .notAMapping "StencilConfig") ∧
    (¬IsMapping v → v.isVacant s = true →
      (∃ u t, context = .ok ⟨.held u, t⟩ ∧ IsMapping u ∧ entriesOf t u = []) ∧
      config = .ok .standard) ∧
    ((∃ f, context = .error f) ↔
      ∃ f : ConfigFault, config = .error (.config (.invalid f)) ∧ ∃ i ∈ f.invalid, i.place = []) := by
  intro context config
  have hcontext : context = (readContext text).mapError (.context path) := by
    show (Command.contextOf a).inWorld w = _
    rw [Command.contextOf, ha]
    exact Command.inWorld_fileText_bind hfile _
  have hconfig : config = (Config.load text).mapError .config := by
    have hconfigOf : Command.configOf b = (Command.fileText path >>= fun text =>
        Command.lift ((Config.load text).mapError .config)) := by
      simp [Command.configOf, hb, path_ne_empty hfile]
    show (Command.configOf b).inWorld w = _
    rw [hconfigOf]
    exact Command.inWorld_fileText_bind hfile _
  have hread := readings_of_load path hload
  rw [← hcontext, ← hconfig] at hread
  refine ⟨Yaml.isLoaded_of_load hload, ?_⟩
  generalize context = x, config = y at hread
  cases hread with
  | vacant hvacant =>
    obtain ⟨hnew, hnil⟩ := isMapping_dict_nil s
    refine ⟨fun hv => ?_, fun _ h => ?_, fun _ _ => ⟨⟨_, _, rfl, hnew, hnil⟩, rfl⟩, ?_, ?_⟩
    · have hentries : entriesOf s v = [] := by
        rwa [isVacant_of_isMapping hv, List.isEmpty_iff] at hvacant
      exact ⟨⟨_, _, rfl, hnew, hnil.trans hentries.symm, fun h => absurd hentries h⟩, .inl ⟨_, rfl⟩⟩
    · rw [hvacant] at h
      cases h
    · rintro ⟨f, hf⟩
      cases hf
    · rintro ⟨f, hf, -⟩
      cases hf
  | mapping hv hvacant =>
    have hparts : ∀ f, ofValue s v = .error f → ∀ i ∈ f.invalid, i.place ≠ [] := by
      intro f hf
      have hread := inParts_readConfig (s := s) hv
      rw [ofValue] at hf
      cases hx : readConfig v s with
      | ok c => rw [hx] at hf; cases hf
      | error is => rw [hx] at hf; cases hf; exact hread is hx
    refine ⟨fun _ => ⟨⟨v, s, rfl, hv, rfl, fun _ => ⟨rfl, rfl⟩⟩, ?_⟩, fun h => absurd hv h,
      fun h => absurd hv h, ?_, ?_⟩
    · cases hx : ofValue s v with
      | ok c => exact .inl ⟨c, rfl⟩
      | error f => exact .inr ⟨f, rfl, hparts f hx⟩
    · rintro ⟨f, hf⟩
      cases hf
    · rintro ⟨f, hf, i, hi, hplace⟩
      cases hx : ofValue s v with
      | ok c => rw [hx] at hf; cases hf
      | error g =>
        rw [hx] at hf
        cases hf
        exact absurd hplace (hparts f hx i hi)
  | other hv hvacant =>
    refine ⟨fun h => absurd h hv, fun _ _ => ⟨⟨_, rfl, rfl, rfl⟩, _, _, rfl, rfl, rfl, rfl, rfl⟩,
      fun _ h => ?_, fun _ => ⟨_, rfl, _, List.mem_singleton_self _, rfl⟩, fun _ => ⟨_, rfl⟩⟩
    rw [hvacant] at h
    cases h

/-- A world with one file. -/
lemma read?_single (content : List UInt8) : (⟨[("c", content)]⟩ : Files).read? "c" = .ok content := by
  have hsplit : "c".splitOn "/" = ["c"] := by
    rw [String.splitOn, if_neg (by decide), String.splitOnAux, if_neg (by decide),
      if_neg (by decide), String.splitOnAux, if_pos (by decide)]
    decide +kernel
  have hslash : "c".endsWith "/" = false := by
    rw [String.endsWith_eq_endsWith_toSlice, String.Slice.endsWith_string_eq_false_iff]
    decide +kernel
  have hdot : "c".endsWith "/." = false := by
    rw [String.endsWith_eq_endsWith_toSlice, String.Slice.endsWith_string_eq_false_iff]
    decide +kernel
  have htarget : (⟨[("c", content)]⟩ : Files).target "c" = .name "c" := by
    rw [Files.target, if_neg (by simp), if_neg (by decide), Files.pathParts, hsplit, hslash, hdot]
    rfl
  rw [Files.read?, htarget]
  rfl

/-- A list with an item is refused by both readers. -/
theorem World.mapping_or_fault_list :
    let w : World := ⟨⟨[("c", utf8Encode "[1]".toList)]⟩, [], ""⟩
    let a : Arguments := ⟨"t", some "c", some "c", none, false, "-"⟩
    ∃ v s, Yaml.load "[1]".toList = .ok (v, s) ∧ ¬IsMapping v ∧ v.isVacant s = false ∧
      (∃ f, w.context a = .error f ∧ f.label = "ValueError" ∧
        f.message? = some "Context file c must contain a mapping") ∧
      ∃ f, (Command.configOf a).inWorld w = .error f ∧ f.label = "ValueError" := by
  intro w a
  have hdecode : utf8Decode (utf8Encode "[1]".toList) = .ok "[1]".toList := by decide +kernel
  have hfile : (Command.fileText "c").inWorld w = .ok "[1]".toList :=
    Command.inWorld_fileText (read?_single _) hdecode
  have hcheck : (match Yaml.load "[1]".toList with
      | .ok (v, s) => decide (¬IsMapping v) && !v.isVacant s
      | .error _ => false) = true := by decide +kernel
  cases hload : Yaml.load "[1]".toList with
  | error f => rw [hload] at hcheck; cases hcheck
  | ok p =>
    obtain ⟨v, s⟩ := p
    rw [hload] at hcheck
    obtain ⟨hv, hvacant⟩ := Bool.and_eq_true_iff.1 hcheck
    replace hv := of_decide_eq_true hv
    replace hvacant := (Bool.not_eq_true' _).mp hvacant
    obtain ⟨-, -, hother, -⟩ := mapping_or_fault w "c" a a rfl rfl hfile hload
    obtain ⟨hcontext, f, -, hf, hlabel, -⟩ := hother hv hvacant
    exact ⟨v, s, rfl, hv, hvacant, hcontext, f, hf, hlabel⟩

/-- A list without items is taken for an empty mapping. -/
example : (match readContext "[]".toList, Config.load "[]".toList with
    | .ok ⟨.held u, t⟩, .ok c => decide (IsMapping u ∧ entriesOf t u = [] ∧ c = .standard)
    | _, _ => false) = true := by decide +kernel

end CommandLine

end Interpolation
