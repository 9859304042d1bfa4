import Interpolation.Proofs.Scan.Segments

/-!
# The environments of an engine

An engine keeps the environments it made under the options they were made for, and what a compile
leaves open is taken from its defaults.  So a compile depends, by the way in which the engine is
written, on everything that was done with it before.  Here it is shown that it depends on nothing
but the defaults: an engine that is used for any length of time compiles like a new one.

**What a use changes.**  Environments are only ever added at the end (`Engine.made_after`), and a
default is the last value that it was given (`Engine.resolving_after`, `Engine.logging_after`).

**Where an environment is.**  `Engine.environment_spec` says what is found at the place of an
environment, and `Engine.environment_after` that this stays its place.  Hence places tell options
apart as far as they matter: `Engine.environment_eq_iff`.

* **`Engine.cache_transparent`** — the three together, for any uses in any order.
-/

namespace Interpolation

/-! ## Uses of an engine -/

/-- What can be done with an engine. -/
inductive EngineUse where
  | setResolving (value : Bool)
  | setLogging (value : Bool)
  /-- Asks for an environment. -/
  | environment (resolving logging : Bool)
  /-- Compiles a source; what is left open is taken from the defaults. -/
  | compile (source : String) (resolving logging : Option Bool)
deriving DecidableEq, Repr

namespace EngineUse

/-- The value that a use gives to the default for resolving. -/
def resolving? : EngineUse → Option Bool
  | setResolving value => some value
  | _ => none

/-- The value that a use gives to the default for telling. -/
def logging? : EngineUse → Option Bool
  | setLogging value => some value
  | _ => none

end EngineUse

namespace Engine

/-- The engine after a use. -/
def use (g : Engine) : EngineUse → Engine
  | .setResolving value => g.setResolving value
  | .setLogging value => g.setLogging value
  | .environment resolving logging => (g.environment resolving logging).2
  | .compile source resolving logging => (g.compile source resolving logging).2

/-- The engine after some uses. -/
def after (g : Engine) (uses : List EngineUse) : Engine := uses.foldl use g

variable {g : Engine}

/-! ## What uses change -/

lemma made_environment (resolving logging : Bool) :
    g.made <+: (g.environment resolving logging).2.made := by
  rw [environment]
  split
  · exact List.prefix_rfl
  · exact List.prefix_append _ _

lemma made_compile (source : String) (resolving logging : Option Bool) :
    g.made <+: (g.compile source resolving logging).2.made := by
  rw [compile]
  split
  · exact List.prefix_rfl
  · exact made_environment _ _

/-- A use keeps the environments that were made before. -/
lemma made_use (u : EngineUse) : g.made <+: (g.use u).made := by
  cases u with
  | setResolving | setLogging => exact List.prefix_rfl
  | environment resolving logging => exact made_environment resolving logging
  | compile source resolving logging => exact made_compile source resolving logging

/-- So do any number of uses. -/
lemma made_after (uses : List EngineUse) : g.made <+: (g.after uses).made := by
  induction uses generalizing g with
  | nil => exact List.prefix_rfl
  | cons u uses ih => exact (made_use u).trans ih

lemma strict_use (u : EngineUse) : (g.use u).strict = g.strict := by
  cases u with
  | setResolving | setLogging => rfl
  | environment resolving logging => exact (alike_environment resolving logging).strict.symm
  | compile source resolving logging => exact (alike_compile source resolving logging).strict.symm

/-- Whether missing values are refused was said when the engine was made. -/
lemma strict_after (uses : List EngineUse) : (g.after uses).strict = g.strict := by
  induction uses generalizing g with
  | nil => rfl
  | cons u uses ih => exact ih.trans (strict_use u)

lemma resolving_use (u : EngineUse) : (g.use u).resolving = u.resolving?.getD g.resolving := by
  cases u with
  | setResolving | setLogging => rfl
  | environment resolving logging => exact (alike_environment resolving logging).resolving.symm
  | compile source resolving logging =>
    exact (alike_compile source resolving logging).resolving.symm

lemma logging_use (u : EngineUse) : (g.use u).logging = u.logging?.getD g.logging := by
  cases u with
  | setResolving | setLogging => rfl
  | environment resolving logging => exact (alike_environment resolving logging).logging.symm
  | compile source resolving logging => exact (alike_compile source resolving logging).logging.symm

/-- A default that uses change only by giving it a value is the last value that it was given. -/
lemma default_after {default : Engine → Bool} {value? : EngineUse → Option Bool}
    (huse : ∀ g u, default (g.use u) = (value? u).getD (default g)) (uses : List EngineUse) :
    default (g.after uses) = (uses.filterMap value?).getLast?.getD (default g) := by
  induction uses generalizing g with
  | nil => rfl
  | cons u uses ih =>
    have hcons : default (g.after (u :: uses)) = default ((g.use u).after uses) := rfl
    rw [hcons, ih, huse]
    cases hu : value? u with
    | none => rw [List.filterMap_cons_none hu, Option.getD_none]
    | some b =>
      rw [List.filterMap_cons_some hu, List.getLast?_cons, Option.getD_some, Option.getD_some]

lemma resolving_after (uses : List EngineUse) :
    (g.after uses).resolving =
      (uses.filterMap EngineUse.resolving?).getLast?.getD g.resolving :=
  default_after (fun _ => resolving_use) uses

lemma logging_after (uses : List EngineUse) :
    (g.after uses).logging = (uses.filterMap EngineUse.logging?).getLast?.getD g.logging :=
  default_after (fun _ => logging_use) uses

/-! ## Where an environment is -/

/-- An environment is at the first place under its key. -/
lemma findIdx?_environment (resolving logging : Bool) :
    (g.environment resolving logging).2.made.findIdx? (·.1 == .ofOptions resolving logging) =
      some (g.environment resolving logging).1 := by
  rw [environment]
  split
  · next i h => exact h
  · next h => simp [keep, List.findIdx?_append, h]

/-- At the place of an environment is the one that is made for its options. -/
lemma environment_spec (resolving logging : Bool) :
    (g.environment resolving logging).2.made[(g.environment resolving logging).1]? =
      some (.ofOptions resolving logging, ⟨g.strict, resolving, resolving && logging⟩) := by
  obtain ⟨hlt, hkey, -⟩ :=
    List.findIdx?_eq_some_iff_getElem.1 (g.findIdx?_environment resolving logging)
  have hentry := (g.environment resolving logging).2.made_for _ (List.getElem_mem hlt)
  rw [List.getElem?_eq_getElem hlt, Option.some.injEq]
  refine Prod.ext (beq_iff_eq.1 hkey) (hentry.trans ?_)
  rw [beq_iff_eq.1 hkey, ← (alike_environment resolving logging).strict]
  rfl

/-- The place of an environment stays its place. -/
lemma environment_after (resolving logging : Bool) (uses : List EngineUse) :
    (((g.environment resolving logging).2.after uses).environment resolving logging).1 =
      (g.environment resolving logging).1 := by
  have hfind := (made_after uses).findIdx?_eq_some (g.findIdx?_environment resolving logging)
  rw [environment, hfind]

/-- What is at a place stays there, since environments are only added. -/
lemma getElem?_made {h : Engine} (hmade : g.made <+: h.made) {place : Nat}
    {entry : EnvironmentKey × Environment} (hentry : g.made[place]? = some entry) :
    h.made[place]? = some entry := by
  obtain ⟨hlt, rfl⟩ := List.getElem?_eq_some_iff.1 hentry
  exact List.prefix_iff_getElem?.1 hmade place hlt

/-- Two requests meet the same environment exactly when they have the same key, however the engine
was used in between. -/
lemma environment_eq_iff {r₁ l₁ r₂ l₂ : Bool} (between : List EngineUse) :
    (((g.environment r₁ l₁).2.after between).environment r₂ l₂).1 = (g.environment r₁ l₁).1 ↔
      EnvironmentKey.ofOptions r₁ l₁ = .ofOptions r₂ l₂ := by
  constructor
  · intro hplace
    -- the first environment is still at its place, and there the second one is found
    have hfirst := getElem?_made ((made_after between).trans (made_environment r₂ l₂))
      (g.environment_spec r₁ l₁)
    have hsecond := ((g.environment r₁ l₁).2.after between).environment_spec r₂ l₂
    rw [hplace, hfirst] at hsecond
    exact (Prod.mk.inj (Option.some.inj hsecond)).1
  · intro hkey
    rw [environment, ← hkey]
    exact environment_after r₁ l₁ between

/-! ## Compiles -/

/-- An engine that was used compiles like a new one that is given the options in effect. -/
lemma compile_eq_new (source : String) (resolving logging : Option Bool) (r l : Bool) :
    (g.compile source resolving logging).1 =
      ((new g.strict r l).compile source (some (resolving.getD g.resolving))
        (some (logging.getD g.logging))).1 := by
  rw [compile_fst, compile_fst]
  rfl

/-- A compile of a source that is not blank asks for the environment of its options, and that is
what the expression is compiled for. -/
lemma compile_snd {source : String} (hsource : Text.strip source.toList ≠ [])
    (resolving logging : Option Bool) :
    (g.compile source resolving logging).2 =
      (g.environment (resolving.getD g.resolving) (logging.getD g.logging)).2 := by
  rw [compile]
  simp only [List.isEmpty_iff, hsource, if_false]

lemma options_of_compile {source : String} {resolving logging : Option Bool} {e : Expression}
    (h : (g.compile source resolving logging).1 = .ok e) :
    e.resolving = resolving.getD g.resolving ∧ e.logging = logging.getD g.logging ∧
      e.environment = ⟨g.strict, e.resolving, e.resolving && e.logging⟩ := by
  rw [compile_fst, Expression.compile] at h
  revert h
  cases Expression.parse ⟨g.strict, resolving.getD g.resolving,
      resolving.getD g.resolving && logging.getD g.logging⟩ source.toList with
  | error f => intro h; cases h
  | ok body => intro h; cases h; exact ⟨rfl, rfl, rfl⟩

/-- The environment of an expression stays where it was made, whatever the engine is used for. -/
lemma environment_of_compile {source : String} {resolving logging : Option Bool} {e : Expression}
    (hsource : Text.strip source.toList ≠ [])
    (h : (g.compile source resolving logging).1 = .ok e) (later : List EngineUse) :
    (((g.compile source resolving logging).2.after later).environment e.resolving e.logging).1 =
        (g.environment e.resolving e.logging).1 ∧
      ((g.compile source resolving logging).2.after later).made[
          (g.environment e.resolving e.logging).1]? =
        some (.ofOptions e.resolving e.logging, e.environment) := by
  obtain ⟨hresolving, hlogging, henvironment⟩ := options_of_compile h
  rw [compile_snd hsource, ← hresolving, ← hlogging, henvironment]
  exact ⟨environment_after _ _ later, getElem?_made (made_after later) (environment_spec _ _)⟩

end Engine

/-- **The environments that an engine keeps make no difference.**  However an engine was used:

A compile gives what a new engine gives that takes missing values alike, whatever its defaults, and
is told the options in effect: those that are given, and otherwise the last values of the defaults.

Two requests for an environment, with any uses between them, meet the same one exactly when they
agree on resolving and, as far as there is something to tell, on telling.

The environment of a compiled expression is the one that its options are answered with from then on,
and it is not changed by later uses. -/
theorem Engine.cache_transparent (g : Engine) (before : List EngineUse) :
    (∀ (source : String) (resolving logging : Option Bool) (r l : Bool),
      ((g.after before).compile source resolving logging).1 =
        ((Engine.new g.strict r l).compile source
          (some (resolving.getD
            ((before.filterMap EngineUse.resolving?).getLast?.getD g.resolving)))
          (some (logging.getD
            ((before.filterMap EngineUse.logging?).getLast?.getD g.logging)))).1) ∧
    (∀ (r₁ l₁ r₂ l₂ : Bool) (between : List EngineUse),
      let first := (g.after before).environment r₁ l₁
      let second := (first.2.after between).environment r₂ l₂
      first.1 = second.1 ↔ r₁ = r₂ ∧ (r₁ && l₁) = (r₂ && l₂)) ∧
    ∀ (source : String) (resolving logging : Option Bool) (e : Expression),
      Text.strip source.toList ≠ [] →
      ((g.after before).compile source resolving logging).1 = .ok e →
      ∃ place, ∀ later : List EngineUse,
        let h := ((g.after before).compile source resolving logging).2.after later
        (h.environment e.resolving e.logging).1 = place ∧
          h.made[place]? = some (.ofOptions e.resolving e.logging, e.environment) := by
  refine ⟨fun source resolving logging r l => ?_, fun r₁ l₁ r₂ l₂ between => ?_,
    fun source resolving logging e hsource he => ⟨_, environment_of_compile hsource he⟩⟩
  · rw [compile_eq_new source resolving logging r l, strict_after, resolving_after, logging_after]
  · dsimp only
    rw [eq_comm, environment_eq_iff, EnvironmentKey.ofOptions, EnvironmentKey.ofOptions,
      EnvironmentKey.mk.injEq]

/-- An expression that is compiled between other uses, with one option given and one left open. -/
theorem Engine.cache_transparent_between :
    let g := Engine.new false false true
    let before := [.environment true true, .setResolving true, .compile "x" none none]
    let later := [.setResolving false, .compile "y" (some true) none, .setLogging false]
    ∃ e, ((g.after before).compile "x.y" none (some false)).1 = .ok e ∧
      ((Engine.new false false false).compile "x.y" (some true) (some false)).1 = .ok e ∧
      ∃ place, ((((g.after before).compile "x.y" none (some false)).2.after later).environment
          e.resolving e.logging).1 = place ∧
        (((g.after before).compile "x.y" none (some false)).2.after later).made[place]? =
          some (.ofOptions e.resolving e.logging, e.environment) := by
  intro g before later
  obtain ⟨hcompile, -, hplace⟩ := Engine.cache_transparent g before
  have hrun : ((g.after before).compile "x.y" none (some false)).1.toOption.isSome := by
    decide +kernel
  cases he : ((g.after before).compile "x.y" none (some false)).1 with
  | error f => rw [he] at hrun; cases hrun
  | ok e =>
    have hnew := (hcompile "x.y" none (some false) false false).symm.trans he
    obtain ⟨place, h⟩ := hplace "x.y" none (some false) e (by decide) he
    exact ⟨e, rfl, hnew, place, h later⟩

end Interpolation
