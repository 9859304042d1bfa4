import Interpolation.Eval.TextMethod

/-!
# Methods of futures

A future tells how it stands and can be given a final state, once. The futures of a pool of threads
and those of an event loop have methods of the same names, but differ in what they are called with
and in what they refuse.

A function that waits to be called when a future has its final state is kept, but nothing calls it.
Nobody else is there to settle a future while an expression waits for it, so waiting for a result
always ends with the time for it running out.

Main definitions:

* `Setting.progressOf`: how a future stands now.
* `FutureId.result`, `FutureId.exception`: what a future that stands in some way answers.
* `Setting.callFuture`: a method of a future.
-/

namespace Interpolation

namespace FutureId

variable (id : FutureId)

/-- What is told to whoever asks for the result of a future that was cancelled. -/
def cancelledFault : Fault := .cancelled (id.runner = .loop)

/-- A future in the wrong state. -/
def invalidState (text : String) : Fault := .refused "InvalidStateError" text

/-- The result of a future; `lacking` is told if it has none yet. -/
def result (lacking : Fault) : Progress Value → Except Fault Value
  | .done v => .ok v
  | .failed label text => .error (.stored label text)
  | .cancelled | .dropped => .error id.cancelledFault
  | .pending | .running => .error lacking

/-- The error of a future, if it has one; `lacking` is told if it is not settled yet. -/
def exception (lacking : Fault) : Progress Value → Except Fault Value
  | .done _ => .ok .none
  | .failed label text => .ok (.ofContent (.failure label text))
  | .cancelled | .dropped => .error id.cancelledFault
  | .pending | .running => .error lacking

end FutureId

namespace Setting

variable (s : Setting)

/-- How a future stands now. -/
def progressOf (id : FutureId) : Eval (Progress Value) := do
  return (((s.futures.now (← getThe Store)).get? id).map Future.progress).getD .pending

/-- Waits for a future of a pool of threads until the time for it runs out. -/
def timeout (limit : Value) : Eval Fault := do
  if !limit.isNone then
    let _ ← (Value.ordered .gt limit (.int 0) : Look Bool)
  return .refused "TimeoutError" ""

/-- The state of a future that was given an error. -/
def failedBy (v : Value) : Look (Progress Value) :=
  match v.content with
  | .failure label text => return .failed label text
  | _ => do
    if ← v.truth then return .failed "TypeError" "exceptions must derive from BaseException"
    else return .done .none

/-- The name of a state that cannot be left. -/
def stateName : Progress Value → String
  | .pending => "PENDING"
  | .running => "RUNNING"
  | .cancelled => "CANCELLED"
  | .dropped => "CANCELLED_AND_NOTIFIED"
  | .done _ | .failed .. => "FINISHED"

/-- Gives a future of a pool of threads its final state. -/
def finishThread (id : FutureId) (old new : Progress Value) : Eval Value := do
  match old with
  | .pending | .running =>
    (Building.change id.place new : Building Unit)
    return .none
  | _ => throw (FutureId.invalidState (stateName old ++ ": " ++ (← s.futures.shown id)))

/-- A method of a future of a pool of threads. -/
def callThread (id : FutureId) (name : String) (a : Arguments) : Eval Value := do
  let callee := "Future." ++ name
  let takes (parameters : List Parameter) : Except Fault (List Value) :=
    Signature.bind ⟨callee, ["self"], parameters⟩ a
  let taken (name : String) : Except Fault Value := do
    return ((← takes [required name])[0]?).getD .none
  let progress ← s.progressOf id
  match name with
  | "done" => do
    let _ ← takes []
    return .bool (Future.isSettled ⟨progress⟩)
  | "running" => do
    let _ ← takes []
    return .bool (match progress with | .running => true | _ => false)
  | "cancelled" => do
    let _ ← takes []
    return .bool (match progress with | .cancelled | .dropped => true | _ => false)
  | "cancel" => do
    let _ ← takes []
    match progress with
    | .pending =>
      (Building.change id.place .cancelled : Building Unit)
      return .bool true
    | .cancelled | .dropped => return .bool true
    | .running | .done _ | .failed .. => return .bool false
  | "result" => do
    let limit := ((← takes [optional "timeout" .none])[0]?).getD .none
    match progress with
    | .pending | .running => throw (← timeout limit)
    | p => id.result (.refused "TimeoutError" "") p
  | "exception" => do
    let limit := ((← takes [optional "timeout" .none])[0]?).getD .none
    match progress with
    | .pending | .running => throw (← timeout limit)
    | p => id.exception (.refused "TimeoutError" "") p
  | "set_result" => do
    let v ← (Building.keep (← taken "result") : Building Value)
    s.finishThread id progress (.done v)
  | "set_exception" => do
    let p ← (failedBy (← taken "exception") : Look _)
    s.finishThread id progress p
  | "set_running_or_notify_cancel" => do
    let _ ← takes []
    match progress with
    | .pending =>
      (Building.change id.place .running : Building Unit)
      return .bool true
    | .cancelled =>
      (Building.change id.place .dropped : Building Unit)
      return .bool false
    | _ => throw (.refused "RuntimeError" "Future in unexpected state")
  | "add_done_callback" => do
    (Building.addWaiting id.place (← taken "fn") : Building Unit)
    return .none
  | _ => throw (.notCallable "method")

/-- The state of a future of an event loop that is given an error. -/
def failedInLoop (v : Value) : Except Fault (Progress Value) :=
  match v.content with
  | .failure "StopIteration" _ =>
    .error (.refused "TypeError"
      "StopIteration interacts badly with generators and cannot be raised into a Future")
  | .failure label text => .ok (.failed label text)
  | _ => .error (.refused "TypeError" "invalid exception object")

/-- Gives a future of an event loop its final state. -/
def finishLoop (id : FutureId) (old new : Progress Value) : Eval Value := do
  match old with
  | .pending =>
    (Building.change id.place new : Building Unit)
    return .none
  | _ => throw (FutureId.invalidState "invalid state")

/-- A method of a future of an event loop. -/
def callLoop (id : FutureId) (name : String) (a : Arguments) : Eval Value := do
  let callee := "Future." ++ name
  let progress ← s.progressOf id
  match name with
  | "done" => do
    a.nothing callee
    return .bool (Future.isSettled ⟨progress⟩)
  | "cancelled" => do
    a.nothing callee
    return .bool (match progress with | .cancelled | .dropped => true | _ => false)
  | "cancel" => do
    let _ ← Parameters.bind ⟨"cancel()", ["msg"], 1, 0⟩ a
    match progress with
    | .pending =>
      (Building.change id.place .cancelled : Building Unit)
      return .bool true
    | _ => return .bool false
  | "result" => do
    a.nothing callee
    id.result (FutureId.invalidState "Result is not set.") progress
  | "exception" => do
    a.nothing callee
    id.exception (FutureId.invalidState "Exception is not set.") progress
  | "set_result" => do
    let v ← (Building.keep (← a.one callee) : Building Value)
    finishLoop id progress (.done v)
  | "set_exception" => do
    let v ← a.one callee
    match progress with
    | .pending => finishLoop id progress (← failedInLoop v)
    | _ => finishLoop id progress .pending
  | "add_done_callback" => do
    (Building.addWaiting id.place (← a.one callee) : Building Unit)
    return .none
  | "remove_done_callback" => do
    let v ← a.one callee
    let waiting := (← getThe Store).commons.waiting
    let kept ← (waiting.filterM fun w => do return w.1 != id.place || !(← w.2.equal v) : Look _)
    (Building.putWaiting kept : Building Unit)
    return .int (waiting.length - kept.length : Nat)
  | "get_loop" => do
    a.nothing callee
    return .ofContent (.member "_UnixSelectorEventLoop" "" "")
  | _ => throw (.notCallable "builtin_function_or_method")

/-- A method of a future. -/
def callFuture (id : FutureId) (name : String) (a : Arguments) : Eval Value :=
  match id.runner with
  | .threads => s.callThread id name a
  | .loop => s.callLoop id name a

end Setting

end Interpolation
