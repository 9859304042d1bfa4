import Interpolation.Config.OfValue
import Interpolation.Proofs.Delimiters.Freezing

/-!
# The leaves of a configuration

A configuration is checked leaf by leaf.  The leaves of a document are known before anything is
checked, with the places at which they stand, and each of them is valid or not by itself.  A check
therefore either has a result, and then every leaf is valid, or it reports the leaves that are not,
one after the other in the order in which a configuration declares them.  `Checked.Reads` says this
of one check, and it holds of two checks together as soon as it holds of each, which carries it from
the leaves to the whole document.

* `Leaf`, `Config.leaves` — a leaf at its place, and the leaves of a document.
* `Checked.Reads` — a result that agrees with some leaves, or a report on them.
* `Given` — what is said about a field, or what holds where nothing is said.
* **`Config.reads_config`** — a document is read leaf by leaf.
-/

namespace Interpolation

/-! ## Leaves -/

/-- The truth value that a value stands for in a configuration. -/
def Value.flag? (v : Value) : Option Bool :=
  match v.content with
  | .bool b => some b
  | .int n => if n = 0 then some false else if n = 1 then some true else Option.none
  | .float x =>
    if Config.isWholeWord x then
      if x == 0 then some false else if x == 1 then some true else Option.none
    else Option.none
  | _ => v.text?.bind fun s => Config.flagTexts.lookup s.toLower

/-- What is no truth value and no number stands for a truth value by its text. -/
lemma Value.flag?_of_text {v : Value} (hbool : ∀ b, v.content ≠ .bool b)
    (hint : ∀ n, v.content ≠ .int n) (hfloat : ∀ x, v.content ≠ .float x) :
    v.flag? = v.text?.bind fun s => Config.flagTexts.lookup s.toLower := by
  unfold flag?
  split
  · next b hv => exact absurd hv (hbool b)
  · next n hv => exact absurd hv (hint n)
  · next x hv => exact absurd hv (hfloat x)
  · rfl

/-- The kinds of leaves. -/
inductive LeafKind where
  | description
  | marker
  | flag
  /-- A resource that is allowed. -/
  | entry

/-- Whether a value is valid for a leaf. -/
def LeafKind.accepts : LeafKind → Value → Bool
  | description, v => v.isNone || v.text?.isSome
  | marker, v => v.text?.any (· ≠ "")
  | flag, v => v.flag?.isSome
  | entry, v => v.text?.isSome

/-- A leaf of a document. -/
structure Leaf where
  /-- The names and numbers on the way to the leaf. -/
  place : List String
  /-- What the leaf is for. -/
  kind : LeafKind
  /-- What the document says. -/
  value : Value

namespace Leaf

/-- The leaf is valid. -/
def isValid (l : Leaf) : Bool := l.kind.accepts l.value

/-- The leaf in a part of a document. -/
def under (name : String) (l : Leaf) : Leaf := { l with place := name :: l.place }

/-- The leaf is not written as bytes. -/
def NoBytes (l : Leaf) : Prop := ∀ bs, l.value.content ≠ .bytes bs

instance (l : Leaf) : Decidable l.NoBytes :=
  decidable_of_iff ((match l.value.content with | .bytes _ => false | _ => true) = true) (by
    unfold NoBytes
    split
    · next bs hbs => exact ⟨nofun, fun h => absurd hbs (h bs)⟩
    · next h => exact ⟨fun _ => h, fun _ => rfl⟩)

/-- What is wrong is told of this leaf. -/
structure Reported (s : Store) (l : Leaf) (i : Invalid) : Prop where
  place : i.place = l.place
  shown : i.shown = l.value.shownForReport s
  type : i.type = l.value.typeName

end Leaf

namespace Config

/-- The entries of a mapping. -/
def entriesOf (s : Store) (v : Value) : List (Value × Value) :=
  match v.content with
  | .dict r => s.entries r
  | _ => []

/-- The items of a sequence. -/
def itemsOf (s : Store) (v : Value) : List Value :=
  match v.content with
  | .list r | .tuple r => (s.row r).toList
  | _ => []

/-- The leaves of a field, if there is one of that name. -/
def fieldLeaves (name : String) (leaves : Value → List Leaf) (entries : List (Value × Value)) :
    List Leaf :=
  match field? name entries with
  | some v => (leaves v).map (Leaf.under name)
  | none => []

/-- The leaves of a list of resources, of which the first one has a number. -/
def entryLeaves : Nat → List Value → List Leaf
  | _, [] => []
  | index, v :: vs => ⟨[toString index], .entry, v⟩ :: entryLeaves (index + 1) vs

/-- The defaults of the expression engine by the names of their fields, in order. -/
def flags : List (String × (ExpressionDefaults → Bool)) :=
  [("strict_undefined", ExpressionDefaults.strict), ("resolve_async", ExpressionDefaults.resolving),
   ("log_warnings", ExpressionDefaults.logging)]

/-- The leaves of the section about delimiters. -/
def delimiterLeaves (entries : List (Value × Value)) : List Leaf :=
  MarkerName.all.flatMap fun n => fieldLeaves n.name (fun v => [⟨[], .marker, v⟩]) entries

/-- The leaves of the section about expressions. -/
def expressionLeaves (entries : List (Value × Value)) : List Leaf :=
  flags.flatMap fun f => fieldLeaves f.1 (fun v => [⟨[], .flag, v⟩]) entries

/-- The leaves of the section about trust. -/
def trustLeaves (s : Store) (entries : List (Value × Value)) : List Leaf :=
  fieldLeaves "resource_url_allowlist" (fun v => entryLeaves 0 (itemsOf s v)) entries

/-- The leaves of a document, in the order in which a configuration declares them. -/
def leaves (s : Store) (entries : List (Value × Value)) : List Leaf :=
  fieldLeaves "description" (fun v => [⟨[], .description, v⟩]) entries ++
    (fieldLeaves "delimiters" (fun v => delimiterLeaves (entriesOf s v)) entries ++
      (fieldLeaves "expressions" (fun v => expressionLeaves (entriesOf s v)) entries ++
        fieldLeaves "trust" (fun v => trustLeaves s (entriesOf s v)) entries))

end Config

/-! ## Checks -/

/-- A check agrees with some leaves: it has a result as wanted, and all leaves are valid, or it
reports those that are not, one by one. -/
inductive Checked.Reads {α : Type} (s : Store) (leaves : List Leaf) (P : α → Prop) :
    Checked α → Prop
  | valid {a} (hvalid : ∀ l ∈ leaves, l.isValid = true) (h : P a) : Reads s leaves P (.ok a)
  | invalid {is} (hinvalid : ∃ l ∈ leaves, l.isValid = false)
    (h : List.Forall₂ (Leaf.Reported s) (leaves.filter fun l => !l.isValid) is) :
    Reads s leaves P (.error is)

namespace Checked.Reads

variable {α β : Type} {s : Store} {leaves more : List Leaf} {P : α → Prop} {Q : β → Prop}

lemma filter_eq_nil (h : ∀ l ∈ leaves, l.isValid = true) :
    (leaves.filter fun l => !l.isValid) = [] :=
  List.filter_eq_nil_iff.2 fun l hl => by simp [h l hl]

/-- What agrees with no leaves is a result. -/
lemma pure {a : α} (h : P a) : Reads s [] P (.ok a) := .valid (List.forall_mem_nil _) h

lemma imp {x : Checked α} {P' : α → Prop} (hx : Reads s leaves P x) (h : ∀ a, P a → P' a) :
    Reads s leaves P' x := by
  cases hx with
  | valid hvalid ha => exact .valid hvalid (h _ ha)
  | invalid hinvalid his => exact .invalid hinvalid his

/-- What is made of a result agrees with the same leaves. -/
lemma map {x : Checked α} {f : α → β} (hx : Reads s leaves P x) (h : ∀ a, P a → Q (f a)) :
    Reads s leaves Q (x >>= fun a => Pure.pure (f a)) := by
  cases hx with
  | valid hvalid ha => exact .valid hvalid (h _ ha)
  | invalid hinvalid his => exact .invalid hinvalid his

/-- Two checks agree with the leaves of both. -/
lemma both {x : Checked α} {y : Checked β} (hx : Reads s leaves P x) (hy : Reads s more Q y) :
    Reads s (leaves ++ more) (fun p => P p.1 ∧ Q p.2) (Checked.both x y) := by
  cases hx with
  | valid hvalid ha =>
    cases hy with
    | valid hvalid' hb => exact .valid (List.forall_mem_append.2 ⟨hvalid, hvalid'⟩) ⟨ha, hb⟩
    | invalid hinvalid his =>
      obtain ⟨l, hl, hfalse⟩ := hinvalid
      refine .invalid ⟨l, List.mem_append_right _ hl, hfalse⟩ ?_
      rwa [List.filter_append, filter_eq_nil hvalid]
  | invalid hinvalid his =>
    obtain ⟨l, hl, hfalse⟩ := hinvalid
    have hexists : ∃ l ∈ leaves ++ more, l.isValid = false :=
      ⟨l, List.mem_append_left _ hl, hfalse⟩
    cases hy with
    | valid hvalid' hb =>
      refine .invalid hexists ?_
      rwa [List.filter_append, filter_eq_nil hvalid', List.append_nil]
    | invalid _ his' =>
      refine .invalid hexists ?_
      rw [List.filter_append]
      exact List.rel_append his his'

/-- A check of something that stands at a place agrees with the leaves at that place. -/
lemma place {x : Checked α} (hx : Reads s leaves P x) (name : String) :
    Reads s (leaves.map (Leaf.under name)) P (Checked.place name x) := by
  cases hx with
  | valid hvalid ha => exact .valid (List.forall_mem_map.2 hvalid) ha
  | invalid hinvalid his =>
    obtain ⟨l, hl, hfalse⟩ := hinvalid
    refine .invalid ⟨l.under name, List.mem_map_of_mem hl, hfalse⟩ ?_
    rw [List.filter_map, List.forall₂_map_left_iff]
    refine List.forall₂_map_right_iff.2 (his.imp fun l i h => ?_)
    exact ⟨congrArg (name :: ·) h.place, h.shown, h.type⟩

end Checked.Reads

/-! ## Fields -/

/-- What is said about a field, or what holds where nothing is said. -/
def Given {α : Type} (P : Value → α → Prop) (otherwise : α) (found : Option Value) (a : α) : Prop :=
  match found with
  | some v => P v a
  | none => a = otherwise

namespace Config

variable {s : Store} {v : Value} {α : Type}

/-- A value that is invalid is reported. -/
lemma reads_wrong {kind : LeafKind} {P : α → Prop} (h : kind.accepts v = false)
    (cause : InvalidCause) : Checked.Reads s [⟨[], kind, v⟩] P (Check.wrong v cause s) := by
  refine .invalid ⟨_, List.mem_singleton_self _, h⟩ ?_
  have hfilter : ([⟨[], kind, v⟩] : List Leaf).filter (fun l => !l.isValid) = [⟨[], kind, v⟩] := by
    simp [Leaf.isValid, h]
  rw [hfilter]
  exact .cons ⟨rfl, rfl, rfl⟩ .nil

lemma reads_accepted {kind : LeafKind} {P : α → Prop} {a : α} (h : kind.accepts v = true)
    (ha : P a) : Checked.Reads s [⟨[], kind, v⟩] P (.ok a) :=
  .valid (List.forall_mem_singleton.2 h) ha

/-- A text stands for a truth value, or it is reported. -/
lemma reads_flagOfText {t : String} (hflag : v.flag? = flagTexts.lookup t.toLower) :
    Checked.Reads s [⟨[], .flag, v⟩] (fun b => v.flag? = some b) (flagOfText v t s) := by
  rw [flagOfText]
  cases hlookup : flagTexts.lookup t.toLower with
  | some b =>
    rw [hlookup] at hflag
    exact reads_accepted (by simp [LeafKind.accepts, hflag]) hflag
  | none =>
    rw [hlookup] at hflag
    exact reads_wrong (by simp [LeafKind.accepts, hflag]) _

section Leaves

variable (h : ∀ bs, v.content ≠ .bytes bs)
include h

lemma run_readText : readText v s = match v.text? with
    | some t => .ok t
    | none => Check.wrong v .notText s := by
  obtain ⟨x, hx⟩ : ∃ x, readText v = x := ⟨_, rfl⟩
  rw [hx]
  unfold readText at hx
  split at hx
  · next bs hv => exact absurd hv (h bs)
  · next ht _ =>
    subst hx
    rw [ht]
    rfl
  · next ht _ =>
    subst hx
    rw [ht]

lemma reads_text {kind : LeafKind} (hkind : kind.accepts v = v.text?.isSome) :
    Checked.Reads s [⟨[], kind, v⟩] (fun t => v.text? = some t) (readText v s) := by
  rw [run_readText h]
  cases ht : v.text? with
  | some t => exact reads_accepted (by rw [hkind, ht]; rfl) rfl
  | none => exact reads_wrong (by rw [hkind, ht]; rfl) _

lemma reads_description :
    Checked.Reads s [⟨[], .description, v⟩] (fun d => d = v.text?) (readDescription v s) := by
  rw [readDescription]
  cases hnone : v.isNone with
  | true =>
    have htext : v.text? = none := by
      rw [Value.isNone] at hnone
      split at hnone
      · next hv => rw [Value.text?, hv]; rfl
      · cases hnone
    exact reads_accepted (by simp [LeafKind.accepts, hnone]) htext.symm
  | false =>
    have htext : Checked.Reads s [⟨[], .description, v⟩] (fun t => v.text? = some t)
        (readText v s) := reads_text h (by simp [LeafKind.accepts, hnone])
    exact htext.map (f := some) fun t ht => ht.symm

lemma reads_marker :
    Checked.Reads s [⟨[], .marker, v⟩] (fun m => v.text? = some m.text) (readMarker v s) := by
  rw [readMarker]
  change Checked.Reads s _ _ (readText v s >>= _)
  rw [run_readText h]
  cases ht : v.text? with
  | none => exact reads_wrong (by simp [LeafKind.accepts, ht]) _
  | some t =>
    by_cases hempty : t = ""
    · subst hempty
      exact reads_wrong (by simp [LeafKind.accepts, ht]) _
    · obtain ⟨m, hm, rfl⟩ := Marker.exists_ofString? hempty
      dsimp only [bind, Except.bind]
      rw [hm]
      exact reads_accepted (by simp [LeafKind.accepts, ht, hempty]) rfl

lemma reads_flag :
    Checked.Reads s [⟨[], .flag, v⟩] (fun b => v.flag? = some b) (readFlag v s) := by
  have haccepted : ∀ b, v.flag? = some b →
      Checked.Reads s [⟨[], .flag, v⟩] (fun b => v.flag? = some b) (.ok b) := fun b hb =>
    reads_accepted (by simp [LeafKind.accepts, hb]) hb
  have hwrong : ∀ cause, v.flag? = none →
      Checked.Reads s [⟨[], .flag, v⟩] (fun b => v.flag? = some b) (Check.wrong v cause s) :=
    fun cause hnone => reads_wrong (by simp [LeafKind.accepts, hnone]) cause
  obtain ⟨x, hx⟩ : ∃ x, readFlag v = x := ⟨_, rfl⟩
  rw [hx]
  unfold readFlag at hx
  split at hx
  · next b hv =>
    subst hx
    exact haccepted b (by rw [Value.flag?, hv])
  · next bs hv => exact absurd hv (h bs)
  · next n hv =>
    subst hx
    split
    · next hn => exact haccepted false (by simp [Value.flag?, hv, hn])
    · split
      · next hn => exact haccepted true (by simp [Value.flag?, hv, hn])
      · next hzero hone => exact hwrong _ (by simp [Value.flag?, hv, hzero, hone])
  · next x hv =>
    subst hx
    split
    · next hword => exact hwrong _ (by simp_all [Value.flag?])
    · next hword =>
      replace hword : isWholeWord x = true := by simpa using hword
      split
      · next hzero => exact haccepted false (by simp [Value.flag?, hv, hword, hzero])
      · split
        · next hzero hone => exact haccepted true (by simp [Value.flag?, hv, hword, hzero, hone])
        · next hzero hone => exact hwrong _ (by simp [Value.flag?, hv, hword, hzero, hone])
  · next t ht hbool _ hint hfloat =>
    subst hx
    refine reads_flagOfText ?_
    rw [Value.flag?_of_text hbool hint hfloat, ht]
    rfl
  · next ht hbool _ hint hfloat =>
    subst hx
    refine hwrong _ ?_
    rw [Value.flag?_of_text hbool hint hfloat, ht]
    rfl

end Leaves

/-! ## Sections -/

section Fields

variable {entries : List (Value × Value)} {name : String} {check : Value → Check α}
  {fieldOf : Value → List Leaf} {P : Value → α → Prop}

variable (check) in
/-- A field is read as its value is, at the place of its name. -/
lemma reads_field (otherwise : α) (h : ∀ v, field? name entries = some v →
    Checked.Reads s (fieldOf v) (P v) (check v s)) :
    Checked.Reads s (fieldLeaves name fieldOf entries) (Given P otherwise (field? name entries))
      (readField entries name check otherwise s) := by
  rw [readField, fieldLeaves]
  cases hfield : field? name entries with
  | none => exact .pure rfl
  | some v => exact (h v hfield).place name

lemma noBytes_of_field (h : ∀ l ∈ fieldLeaves name fieldOf entries, l.NoBytes)
    (hv : field? name entries = some v) : ∀ l ∈ fieldOf v, l.NoBytes := by
  rw [fieldLeaves, hv] at h
  exact fun l hl => h (l.under name) (List.mem_map_of_mem hl)

variable (check) in
/-- A field with a single leaf. -/
lemma reads_leaf {kind : LeafKind} (otherwise : α)
    (h : ∀ l ∈ fieldLeaves name (fun v => [⟨[], kind, v⟩]) entries, l.NoBytes)
    (hcheck : ∀ v, (∀ bs, v.content ≠ .bytes bs) →
      Checked.Reads s [⟨[], kind, v⟩] (P v) (check v s)) :
    Checked.Reads s (fieldLeaves name (fun v => [⟨[], kind, v⟩]) entries)
      (Given P otherwise (field? name entries)) (readField entries name check otherwise s) :=
  reads_field check otherwise fun v hv =>
    hcheck v (noBytes_of_field h hv _ (List.mem_singleton_self _))

end Fields

/-- What a document says about the markers, or what holds where it says nothing. -/
def HoldsMarkers (entries : List (Value × Value)) (d : Delimiters) : Prop :=
  ∀ n : MarkerName, Given (fun v m => v.text? = some m.text) (Delimiters.standard.get n)
    (field? n.name entries) (d.get n)

/-- The same for the defaults of the expression engine. -/
def HoldsFlags (entries : List (Value × Value)) (e : ExpressionDefaults) : Prop :=
  ∀ f ∈ flags, Given (fun v b => v.flag? = some b) (f.2 .standard) (field? f.1 entries) (f.2 e)

/-- The same for the resources that are allowed. -/
def HoldsTrust (s : Store) (entries : List (Value × Value)) (p : Policy) : Prop :=
  Given (fun v allowlist => (itemsOf s v).Forall₂ (fun w t => w.text? = some t) allowlist)
    Policy.standard.allowlist (field? "resource_url_allowlist" entries) p.allowlist

/-- The value is a mapping. -/
def IsMapping (v : Value) : Prop := ∃ r, v.content = .dict r

instance (v : Value) : Decidable (IsMapping v) :=
  decidable_of_iff ((match v.content with | .dict _ => true | _ => false) = true) (by
    unfold IsMapping
    split
    · next r hr => exact ⟨fun _ => ⟨r, hr⟩, fun _ => rfl⟩
    · next h => exact ⟨nofun, fun ⟨r, hr⟩ => absurd hr (h r)⟩)

/-- The value is a sequence. -/
def IsSequence (v : Value) : Prop := ∃ r, v.content = .list r ∨ v.content = .tuple r

instance (v : Value) : Decidable (IsSequence v) :=
  decidable_of_iff ((match v.content with | .list _ | .tuple _ => true | _ => false) = true) (by
    unfold IsSequence
    split
    · next r hr => exact ⟨fun _ => ⟨r, .inl hr⟩, fun _ => rfl⟩
    · next r hr => exact ⟨fun _ => ⟨r, .inr hr⟩, fun _ => rfl⟩
    · next hlist htuple =>
      exact ⟨nofun, fun ⟨r, hr⟩ => absurd hr (not_or.2 ⟨hlist r, htuple r⟩)⟩)

lemma run_readSection (hv : IsMapping v) (model : String) :
    readSection model v = fun s => .ok (entriesOf s v) := by
  obtain ⟨r, hr⟩ := hv
  funext s
  simp only [readSection, entriesOf, hr]
  rfl

lemma reads_delimiters (hv : IsMapping v)
    (h : ∀ l ∈ delimiterLeaves (entriesOf s v), l.NoBytes) :
    Checked.Reads s (delimiterLeaves (entriesOf s v)) (HoldsMarkers (entriesOf s v))
      (readDelimiters v s) := by
  have hmarker : ∀ n : MarkerName, Checked.Reads s
      (fieldLeaves n.name (fun v => [⟨[], .marker, v⟩]) (entriesOf s v))
      (Given (fun v m => v.text? = some m.text) (Delimiters.standard.get n)
        (field? n.name (entriesOf s v)))
      (readField (entriesOf s v) n.name readMarker (Delimiters.standard.get n) s) := fun n =>
    reads_leaf readMarker _ (fun l hl => h l (List.mem_flatMap.2 ⟨n, by cases n <;> decide, hl⟩))
      fun v hv => reads_marker hv
  have hboth := ((hmarker .primaryStart).both (hmarker .primaryEnd)).both
    ((hmarker .secondaryStart).both (hmarker .secondaryEnd))
  have hread := hboth.map (f := fun p => (⟨p.1.1, p.1.2, p.2.1, p.2.2⟩ : Delimiters))
    (Q := HoldsMarkers (entriesOf s v)) fun p hp n => by
      cases n with
      | primaryStart => exact hp.1.1
      | primaryEnd => exact hp.1.2
      | secondaryStart => exact hp.2.1
      | secondaryEnd => exact hp.2.2
  simp only [readDelimiters, run_readSection hv, delimiterLeaves, MarkerName.all, List.flatMap_cons,
    List.flatMap_nil, List.append_nil]
  rw [List.append_assoc] at hread
  exact hread

lemma reads_expressions (hv : IsMapping v)
    (h : ∀ l ∈ expressionLeaves (entriesOf s v), l.NoBytes) :
    Checked.Reads s (expressionLeaves (entriesOf s v)) (HoldsFlags (entriesOf s v))
      (readExpressions v s) := by
  have hflag : ∀ f ∈ flags, Checked.Reads s
      (fieldLeaves f.1 (fun v => [⟨[], .flag, v⟩]) (entriesOf s v))
      (Given (fun v b => v.flag? = some b) (f.2 .standard) (field? f.1 (entriesOf s v)))
      (readField (entriesOf s v) f.1 readFlag (f.2 .standard) s) := fun f hf =>
    reads_leaf readFlag _ (fun l hl => h l (List.mem_flatMap.2 ⟨f, hf, hl⟩)) fun v hv => reads_flag hv
  simp only [flags, List.forall_mem_cons] at hflag
  obtain ⟨hstrict, hresolving, hlogging, -⟩ := hflag
  have hread := (hstrict.both (hresolving.both hlogging)).map
    (f := fun p => (⟨p.1, p.2.1, p.2.2⟩ : ExpressionDefaults))
    (Q := HoldsFlags (entriesOf s v)) fun p hp => by
      simp only [HoldsFlags, flags, List.forall_mem_cons]
      exact ⟨hp.1, hp.2.1, hp.2.2, List.forall_mem_nil _⟩
  simp only [readExpressions, run_readSection hv, expressionLeaves, flags, List.flatMap_cons,
    List.flatMap_nil, List.append_nil]
  exact hread

lemma reads_texts (vs : List Value) : ∀ index, (∀ l ∈ entryLeaves index vs, l.NoBytes) →
    Checked.Reads s (entryLeaves index vs)
      (fun allowlist => vs.Forall₂ (fun w t => w.text? = some t) allowlist)
      (readTexts index vs s) := by
  induction vs with
  | nil => exact fun _ _ => .pure .nil
  | cons v vs ih =>
    intro index h
    obtain ⟨hfirst, hrest⟩ := List.forall_mem_cons.1 h
    have htext : Checked.Reads s [⟨[], .entry, v⟩] (fun t => v.text? = some t) (readText v s) :=
      reads_text hfirst rfl
    exact ((htext.place (toString index)).both (ih (index + 1) hrest)).map fun p hp =>
      .cons hp.1 hp.2

lemma reads_trust (hv : IsMapping v) (h : ∀ l ∈ trustLeaves s (entriesOf s v), l.NoBytes)
    (hlist : ∀ w ∈ field? "resource_url_allowlist" (entriesOf s v), IsSequence w) :
    Checked.Reads s (trustLeaves s (entriesOf s v)) (HoldsTrust s (entriesOf s v))
      (readTrust v s) := by
  have hallowlist : ∀ w, field? "resource_url_allowlist" (entriesOf s v) = some w →
      Checked.Reads s (entryLeaves 0 (itemsOf s w))
        (fun allowlist => (itemsOf s w).Forall₂ (fun w t => w.text? = some t) allowlist)
        (readAllowlist w s) := fun w hw => by
    have hread := reads_texts (s := s) (itemsOf s w) 0 (noBytes_of_field h hw)
    obtain ⟨q, hq | hq⟩ := hlist w hw
    · simp only [readAllowlist, itemsOf, hq] at hread ⊢
      exact hread
    · simp only [readAllowlist, itemsOf, hq] at hread ⊢
      exact hread
  have hread := (reads_field readAllowlist Policy.standard.allowlist hallowlist).map (f := Policy.mk) (Q := HoldsTrust s (entriesOf s v)) fun p hp => hp
  simp only [readTrust, run_readSection hv]
  exact hread

/-- What a document says holds in a configuration, and what it does not say is as in the standard
configuration. -/
structure Holds (s : Store) (entries : List (Value × Value)) (c : Config) : Prop where
  description : Given (fun v d => d = v.text?) standard.description (field? "description" entries)
    c.description
  delimiters : Given (fun v d => HoldsMarkers (entriesOf s v) d) standard.delimiters
    (field? "delimiters" entries) c.delimiters
  expressions : Given (fun v e => HoldsFlags (entriesOf s v) e) standard.expressions
    (field? "expressions" entries) c.expressions
  trust : Given (fun v p => HoldsTrust s (entriesOf s v) p) standard.trust
    (field? "trust" entries) c.trust

/-- A document is well-formed: its sections are mappings, the list of resources is a list, and no
leaf is written as bytes. -/
structure WellFormed (s : Store) (entries : List (Value × Value)) : Prop where
  sections : ∀ name ∈ ["delimiters", "expressions", "trust"], ∀ v ∈ field? name entries, IsMapping v
  allowlist : ∀ v ∈ field? "trust" entries,
    ∀ w ∈ field? "resource_url_allowlist" (entriesOf s v), IsSequence w
  noBytes : ∀ l ∈ leaves s entries, l.NoBytes

instance (s : Store) (entries : List (Value × Value)) : Decidable (WellFormed s entries) :=
  decidable_of_iff (_ ∧ _ ∧ _) ⟨fun ⟨h, h', h''⟩ => ⟨h, h', h''⟩,
    fun h => ⟨h.sections, h.allowlist, h.noBytes⟩⟩

/-- **A document is read leaf by leaf.** -/
theorem reads_config (hv : IsMapping v) (h : WellFormed s (entriesOf s v)) :
    Checked.Reads s (leaves s (entriesOf s v)) (Holds s (entriesOf s v)) (readConfig v s) := by
  obtain ⟨hnodescription, hnodelimiters, hnoexpressions, hnotrust⟩ :
      (∀ l ∈ fieldLeaves "description" (fun v => [⟨[], .description, v⟩]) (entriesOf s v),
        l.NoBytes) ∧
      (∀ l ∈ fieldLeaves "delimiters" (fun v => delimiterLeaves (entriesOf s v)) (entriesOf s v),
        l.NoBytes) ∧
      (∀ l ∈ fieldLeaves "expressions" (fun v => expressionLeaves (entriesOf s v)) (entriesOf s v),
        l.NoBytes) ∧
      ∀ l ∈ fieldLeaves "trust" (fun v => trustLeaves s (entriesOf s v)) (entriesOf s v),
        l.NoBytes := by
    simpa only [leaves, List.forall_mem_append] using h.noBytes
  have hdescription := reads_leaf (s := s) readDescription (P := fun v d => d = v.text?)
    standard.description hnodescription fun v hv => reads_description hv
  have hdelimiters := reads_field (s := s) readDelimiters standard.delimiters
    fun v hv => reads_delimiters (h.sections _ (by decide) v hv) (noBytes_of_field hnodelimiters hv)
  have hexpressions := reads_field (s := s) readExpressions standard.expressions
    fun v hv => reads_expressions (h.sections _ (by decide) v hv)
      (noBytes_of_field hnoexpressions hv)
  have htrust := reads_field (s := s) readTrust standard.trust fun v hv =>
    reads_trust (h.sections _ (by decide) v hv) (noBytes_of_field hnotrust hv)
      (h.allowlist v hv)
  have hread := ((hdescription.both hdelimiters).both (hexpressions.both htrust)).map
    (f := fun p => (⟨p.1.1, p.1.2, p.2.1, p.2.2⟩ : Config)) (Q := Holds s (entriesOf s v))
    fun p hp => ⟨hp.1.1, hp.1.2, hp.2.1, hp.2.2⟩
  rw [List.append_assoc] at hread
  simp only [readConfig, run_readSection hv]
  exact hread

end Config

end Interpolation
