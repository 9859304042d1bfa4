import Interpolation.Eval.FutureMethod
import Interpolation.Proofs.Futures.Walks

/-!
# Methods of futures agree

A region holds no futures, so their methods are called only where everything can be met.  There
nothing is asked of values, and what is left to show is that a method meets no futures on its way:
it asks the table how the future stands, and looks nothing up.

* `Setting.Alike.callFuture` — a method of a future agrees.
-/

namespace Interpolation

variable {α : Type} [HoldsValues α] {R : Scope}

/-! ## Where everything can be met -/

namespace Eval.Agree

/-- Any look at the store is safe where everything can be met. -/
lemma look_of_futures (hR : R.futures) (x : Look α) : Eval.Safe R (liftM x : Eval α) :=
  .look ⟨fun _ _ => freeIn_of_futures hR _⟩

/-- So is any change of it. -/
lemma build_of_futures (hR : R.futures) (x : Building α) : Eval.Safe R (liftM x : Eval α) :=
  .build ⟨fun _ _ => freeIn_of_futures hR _, fun _ _ => freeIn_of_futures hR _⟩

/-- And any computation that needs no store. -/
lemma except_of_futures (hR : R.futures) (x : Except Fault α) : Eval.Safe R (liftM x : Eval α) :=
  .except (freeIn_of_futures hR x)

end Eval.Agree

instance : HoldsNone Fault := .always Fault

/-- The result of a future is met only where everything can be. -/
instance : HoldsValues (Progress Value) := ⟨fun R _ => R.futures, fun _ => trivial⟩

namespace Setting

open Eval.Agree

section Safe

variable (hR : R.futures) (s : Setting) (id : FutureId) (a : Arguments)

include hR

lemma safe_progressOf : Eval.Safe R (s.progressOf id) :=
  .bind .getStore fun _ _ => .pure hR

/-- A future of a pool of threads is given its final state, or refuses it. -/
lemma safe_finishThread (old new : Progress Value) : Eval.Safe R (s.finishThread id old new) := by
  unfold finishThread
  split
  · exact .bind (build_of_futures hR _) fun _ _ => .pure trivial
  · exact .bind (build_of_futures hR _) fun _ _ => .pure trivial
  · exact .bind (look_of_futures hR _) fun _ _ => .throw _

lemma safe_finishLoop (old new : Progress Value) : Eval.Safe R (finishLoop id old new) := by
  unfold finishLoop
  split
  · exact .bind (build_of_futures hR _) fun _ _ => .pure trivial
  · exact .throw _

lemma safe_timeout (limit : Value) : Eval.Safe R (timeout limit) := by
  have hlast : Eval.Safe R (pure (.refused "TimeoutError" "") : Eval Fault) := .pure trivial
  exact .ite (.bind (look_of_futures hR _) fun _ _ => hlast) hlast

/-- A method of a future of a pool of threads meets no futures. -/
lemma safe_callThread (name : String) : Eval.Safe R (s.callThread id name a) := by
  refine .bind (safe_progressOf hR s id) fun progress _ => ?_
  split
  · exact .bind (except_of_futures hR _) fun _ _ => .pure trivial
  · exact .bind (except_of_futures hR _) fun _ _ => .pure trivial
  · exact .bind (except_of_futures hR _) fun _ _ => .pure trivial
  · refine .bind (except_of_futures hR _) fun _ _ => ?_
    split
    · exact .bind (build_of_futures hR _) fun _ _ => .pure trivial
    all_goals exact .pure trivial
  · refine .bind (except_of_futures hR _) fun _ _ => ?_
    split
    · exact .bind (safe_timeout hR _) fun _ _ => .throw _
    · exact .bind (safe_timeout hR _) fun _ _ => .throw _
    · exact except_of_futures hR _
  · refine .bind (except_of_futures hR _) fun _ _ => ?_
    split
    · exact .bind (safe_timeout hR _) fun _ _ => .throw _
    · exact .bind (safe_timeout hR _) fun _ _ => .throw _
    · exact except_of_futures hR _
  · refine .bind (except_of_futures hR _) fun _ _ => .bind (build_of_futures hR _) fun _ _ => ?_
    exact safe_finishThread hR s id _ _
  · refine .bind (except_of_futures hR _) fun _ _ => .bind (look_of_futures hR _) fun _ _ => ?_
    exact safe_finishThread hR s id _ _
  · refine .bind (except_of_futures hR _) fun _ _ => ?_
    split
    · exact .bind (build_of_futures hR _) fun _ _ => .pure trivial
    · exact .bind (build_of_futures hR _) fun _ _ => .pure trivial
    · exact .throw _
  · refine .bind (except_of_futures hR _) fun _ _ => ?_
    exact .bind (build_of_futures hR _) fun _ _ => .pure trivial
  · exact .throw _

/-- Nor does one of a future of an event loop. -/
lemma safe_callLoop (name : String) : Eval.Safe R (s.callLoop id name a) := by
  refine .bind (safe_progressOf hR s id) fun progress _ => ?_
  split
  · exact .bind (except_of_futures hR _) fun _ _ => .pure trivial
  · exact .bind (except_of_futures hR _) fun _ _ => .pure trivial
  · refine .bind (except_of_futures hR _) fun _ _ => ?_
    split
    · exact .bind (build_of_futures hR _) fun _ _ => .pure trivial
    · exact .pure trivial
  · exact .bind (except_of_futures hR _) fun _ _ => except_of_futures hR _
  · exact .bind (except_of_futures hR _) fun _ _ => except_of_futures hR _
  · refine .bind (except_of_futures hR _) fun _ _ => .bind (build_of_futures hR _) fun _ _ => ?_
    exact safe_finishLoop hR id _ _
  · refine .bind (except_of_futures hR _) fun _ _ => ?_
    split
    · exact .bind (except_of_futures hR _) fun _ _ => safe_finishLoop hR id _ _
    · exact safe_finishLoop hR id _ _
  · refine .bind (except_of_futures hR _) fun _ _ => ?_
    exact .bind (build_of_futures hR _) fun _ _ => .pure trivial
  · refine .bind (except_of_futures hR _) fun _ _ => .bind .getStore fun _ _ => ?_
    refine .bind (look_of_futures hR _) fun _ _ => .bind (build_of_futures hR _) fun _ _ => ?_
    exact .pure trivial
  · exact .bind (except_of_futures hR _) fun _ _ => .pure trivial
  · exact .throw _

end Safe

namespace Alike

variable {s t : Setting}

/-- **A method of a future** agrees: it depends on nothing but how the futures stand. -/
theorem callFuture (h : s.Alike R t) (hR : R.futures) (id : FutureId) (name : String)
    (a : Arguments) : Eval.Agree R (s.callFuture id name a) (t.callFuture id name a) := by
  have hsame : s.callFuture id name a = t.callFuture id name a := by
    simp only [Setting.callFuture, callThread, callLoop, finishThread, progressOf, h.futures]
  rw [hsame]
  unfold Setting.callFuture
  split
  · exact safe_callThread hR t id a name
  · exact safe_callLoop hR t id a name

end Alike

end Setting

end Interpolation
