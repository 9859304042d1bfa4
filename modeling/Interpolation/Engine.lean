import Interpolation.Expr.Compiled

/-!
# The expression engine

The engine compiles expressions. What a compile leaves open is taken from defaults of the engine,
which can be changed at any time and have no effect on what was compiled before. Environments are
made when they are first asked for and kept under what they were made for; two requests meet the
same environment exactly when they agree on resolving and on whether that is told.

Main definitions:

* `EnvironmentKey`: what an environment is kept under.
* `Engine`: the defaults and the environments made so far.
* `Engine.environment`: the place of an environment among those made.
* `Engine.compile`: a compiled expression.
-/

namespace Interpolation

/-- What an environment is kept under. -/
structure EnvironmentKey where
  /-- Whether futures are resolved. -/
  resolving : Bool
  /-- Whether it is told when a future is met. -/
  logging : Bool
deriving DecidableEq, Repr

namespace EnvironmentKey

/-- The key for two options; without resolving there is nothing to tell. -/
def ofOptions (resolving logging : Bool) : EnvironmentKey := ⟨resolving, resolving && logging⟩

/-- The environment that is made for a key. -/
def environment (k : EnvironmentKey) (strict : Bool) : Environment :=
  ⟨strict, k.resolving, k.logging⟩

end EnvironmentKey

/-- The defaults of an engine, and the environments it made. -/
structure Engine where
  /-- Whether missing values refuse to be used. -/
  strict : Bool
  /-- Whether futures are resolved unless a compile says otherwise. -/
  resolving : Bool
  /-- Whether it is told when a future is met unless a compile says otherwise. -/
  logging : Bool
  /-- The environments in the order in which they were made, each with its key. -/
  made : List (EnvironmentKey × Environment)
  /-- Each of them is the one that is made for its key. -/
  made_for : ∀ entry ∈ made, entry.2 = entry.1.environment strict
deriving DecidableEq, Repr

namespace Engine

/-- An engine that has made no environment yet. -/
def new (strict resolving logging : Bool) : Engine :=
  ⟨strict, resolving, logging, [], List.forall_mem_nil _⟩

/-- The environment for two options: the one that is kept under their key, or else a new one. -/
def wanted (g : Engine) (resolving logging : Bool) : Environment :=
  let k := EnvironmentKey.ofOptions resolving logging
  (g.made.lookup k).getD (k.environment g.strict)

/-- The engine that keeps a new environment under a key. -/
def keep (g : Engine) (k : EnvironmentKey) : Engine :=
  { g with
    made := g.made ++ [(k, k.environment g.strict)]
    made_for := by
      intro entry h
      obtain h | h := List.mem_append.1 h
      · exact g.made_for entry h
      · rw [List.mem_singleton.1 h] }

/-- The place of the environment for two options, which is made if it is new. -/
def environment (g : Engine) (resolving logging : Bool) : Nat × Engine :=
  let k := EnvironmentKey.ofOptions resolving logging
  match g.made.findIdx? (·.1 == k) with
  | some i => (i, g)
  | none => (g.made.length, g.keep k)

/-- The expression of a source for two options. -/
def expression (g : Engine) (resolving logging : Bool) (source : String) :
    Except SyntaxFault Expression :=
  Expression.compile (g.wanted resolving logging) resolving logging source

/-- A compiled expression. A blank source needs no environment. -/
def compile (g : Engine) (source : String) (resolving logging : Option Bool) :
    Except SyntaxFault Expression × Engine :=
  let r := resolving.getD g.resolving
  let l := logging.getD g.logging
  let after := if (Text.strip source.toList).isEmpty then g else (g.environment r l).2
  (g.expression r l source, after)

/-- The engine with another default for resolving. -/
def setResolving (g : Engine) (b : Bool) : Engine := { g with resolving := b }

/-- The engine with another default for telling. -/
def setLogging (g : Engine) (b : Bool) : Engine := { g with logging := b }

/-- An environment that was kept is the one that would be made anew. -/
theorem wanted_eq (g : Engine) (resolving logging : Bool) :
    g.wanted resolving logging = ⟨g.strict, resolving, resolving && logging⟩ := by
  rw [wanted]
  cases h : g.made.lookup (.ofOptions resolving logging) with
  | none => rfl
  | some e =>
    obtain ⟨before, after, hmade, -⟩ := List.lookup_eq_some_iff.1 h
    exact g.made_for (.ofOptions resolving logging, e) (by simp [hmade])

/-- So an expression does not depend on what was made before it. -/
theorem expression_eq (g : Engine) (resolving logging : Bool) (source : String) :
    g.expression resolving logging source =
      Expression.compile ⟨g.strict, resolving, resolving && logging⟩ resolving logging source := by
  rw [expression, wanted_eq]

theorem compile_fst (g : Engine) (source : String) (resolving logging : Option Bool) :
    (g.compile source resolving logging).1 =
      Expression.compile
        ⟨g.strict, resolving.getD g.resolving, resolving.getD g.resolving && logging.getD g.logging⟩
        (resolving.getD g.resolving) (logging.getD g.logging) source := expression_eq ..

end Engine

end Interpolation
