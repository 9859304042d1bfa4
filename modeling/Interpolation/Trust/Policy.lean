import Interpolation.Eval.Environment
import Interpolation.Record
import Interpolation.Text.Escape
import Interpolation.Trust.Glob
import Interpolation.Trust.Url
import Interpolation.Value.Document

/-!
# The gate before sensitive places

A value that is destined for a sensitive place must be approved for it. Values carry approvals with
them; besides, plain text may be put into markup after escaping, and a text may name a resource if
the list of allowed resources accepts it.

Main definitions:

* `Gate`: a computation that works on the store, tells records, and may refuse a value.
* `Gate.settled`: work that leaves nothing behind but what it changed.
* `Policy`: the list of allowed resources, with `Policy.allows` and `Policy.getTrusted`.
* `Value.unwrapped`: the value without its approval.
-/

namespace Interpolation

open Interpolation.Text Interpolation.Trust

/-! ## Faults -/

/-- A refused value and where its parts are. -/
structure Refusal where
  /-- The place that the value was destined for. -/
  category : Category
  /-- The value. -/
  value : Value
  /-- The value in full. -/
  shown : String
  /-- What the expression of the value was compiled for. -/
  environment : Environment
  /-- The parts of values. -/
  store : Store

/-- Why a value may not be rendered. -/
inductive RenderFault where
  /-- The value could not be computed or written. -/
  | fault (f : Fault)
  /-- The value is not approved for the place. -/
  | untrusted (refusal : Refusal)

namespace RenderFault

/-- The kind under which a fault is reported. -/
def label : RenderFault → String
  | fault f => f.label
  | untrusted _ => "UntrustedValueError"

/-- What is told about a fault. -/
def wording : RenderFault → Wording
  | fault f => f.wording
  | untrusted r =>
    "Attempting to use an unsafe value in a safe context (" ++ r.category.name ++ "): " ++ r.shown

/-- What a report says about a fault. -/
def message (f : RenderFault) : String := f.wording.reported

/-- The fault itself, if it passes those who handle faults. -/
def passing? : RenderFault → Option Fault
  | fault f => if f.isOrdinary then none else some f
  | untrusted _ => none

/-- What is raised in the place of a report on the fault, unless it is reported: the fault itself if
it passes, or else what is in the way of its wording. -/
def raised? (f : RenderFault) : Option Fault := f.passing?.or f.wording.fault?

/-- The fault as it stands at a later time, when the values in the first cells may have other
parts. -/
def now (count : Nat) (store : Store) : RenderFault → RenderFault
  | fault f => fault f
  | untrusted r => untrusted { r with store := r.store.withFirst count store }

theorem raised?_now (count : Nat) (store : Store) (f : RenderFault) :
    (f.now count store).raised? = f.raised? := by
  cases f <;> rfl

end RenderFault

/-! ## Gates -/

/-- What a gate works on. -/
structure Work where
  /-- The parts of values. -/
  store : Store
  /-- The records told so far. -/
  records : List Record

/-- A computation that works on the store, tells records, and may refuse a value. -/
abbrev Gate (α : Type) := ExceptT RenderFault (StateM Work) α

namespace Gate

/-- Tells a record. -/
def tell (r : Record) : Gate Unit := modifyThe Work fun w => { w with records := w.records ++ [r] }

/-- The warning about a future that a lookup met, unless what was looked up has no text. -/
def warning? : Wording → Option Record
  | .text name =>
    some ⟨.warning, "stencil.jinja",
      "Pending value found in expression `" ++ name ++ "`; unwrapping it"⟩
  | .unwritten _ => none

/-- The warnings about the futures that lookups met. -/
def warnings (t : Trace) : List Record := t.filterMap warning?

/-- Runs a computation, telling of the futures that its lookups met if that is wanted. -/
def ofEval {α : Type} (logging : Bool) (x : Eval α) : Gate α := fun w =>
  let (result, trace, store) := x.runOn w.store
  (result.mapError .fault, ⟨store, w.records ++ if logging then warnings trace else []⟩)

/-- A look at the store. -/
def look {α : Type} (x : Look α) : Gate α := fun w => ((x.run w.store).mapError .fault, w)

/-- Adds cells to the store. -/
def build {α : Type} (x : Building α) : Gate α := fun w =>
  let (a, store) := x w.store
  (.ok a, { w with store := store })

/-- Some work on which another one follows. Once both are done the store is what it was before
them, unless the second one gave other content to a cell that it found. -/
def settled {α : Type} (begin : Gate Unit) (x : Gate α) : Gate α := fun w =>
  match (begin.run { w with store := w.store.fresh }).run with
  | (.error f, begun) => (.error f, { begun with store := w.store })
  | (.ok (), begun) =>
    let (result, done) := (x.run begun).run
    (result, { done with store := w.store.settled begun.store.cells.size done.store })

/-- Writes a value as text. -/
def write (e : Environment) (futures : Futures) (v : Value) : Gate String :=
  ofEval e.logging ((e.setting futures).coerce v)

end Gate

/-- The value without its approval. -/
def Value.unwrapped (v : Value) : Look Value :=
  match v.content with
  | .trusted _ r => Look.itemAt r 0
  | _ => return v

/-! ## Policies -/

/-- The resources that are allowed: patterns, and the word for the host of the page itself. -/
structure Policy where
  /-- The list of allowed resources. -/
  allowlist : List String
deriving DecidableEq, Repr

namespace Policy

/-- The entry that stands for the host of the page itself. -/
def self : String := "self"

/-- Only resources of the host itself are allowed. -/
def standard : Policy := ⟨[self]⟩

/-- The policy with one more entry. -/
def allow (p : Policy) (entry : String) : Policy := ⟨p.allowlist ++ [entry]⟩

/-- Whether an entry accepts a URL. -/
def entryAccepts (entry url : String) : Except AuthorityFault Bool :=
  if entry = self then do return (← Url.ofText url.toList).isRelative
  else .ok (globMatches entry url)

/-- Whether one of the entries accepts a URL; the first one that does ends the search, and so does
the first one that cannot tell. -/
def someAccepts (url : String) : List String → Except AuthorityFault Bool
  | [] => .ok false
  | entry :: entries => do
    if ← entryAccepts entry url then return true else someAccepts url entries

/-- Whether the list accepts a URL. -/
def allows (p : Policy) (url : String) : Except AuthorityFault Bool := someAccepts url p.allowlist

section Approval

variable (e : Environment) (futures : Futures)

/-- The value in full. -/
def shown (v : Value) : Gate String := Gate.look ((e.setting futures).repr v)

/-- Refuses a value that is not approved. -/
def refuse {α : Type} (c : Category) (v : Value) : Gate α := do
  let text ← shown e futures v
  throw (.untrusted ⟨c, v, text, e, (← getThe Work).store⟩)

/-- The value of a text that names a resource. -/
def getResource (p : Policy) (v : Value) (url : String) : Gate Value := do
  match p.allows url with
  | .error f => throw (.fault (.authority f.message))
  | .ok true => return v
  | .ok false => do
    Gate.tell ⟨.debug, "stencil.trust", "Blocked resource URL " ++ (← shown e futures v)⟩
    refuse e futures .resourceUrl v

/-- The value as it may be used in a place: nothing and the empty text always, an approved value
without its approval, text that can be escaped or is allowed. -/
def getTrusted (p : Policy) (c : Category) (v : Value) : Gate Value := do
  match v.content, v.text? with
  | .none, _ | _, some "" => return v
  | .trusted approved _, _ =>
    if approved.admits c then Gate.look v.unwrapped else refuse e futures c v
  | content, text =>
    match c, content, text with
    | .html, .markup _, _ => return v
    | .html, .category d, _ => return .markup (escapeHtml d.text)
    | .html, _, some s => return .markup (escapeHtml s)
    | .html, _, none => do return .markup (escapeHtml (← Gate.write e futures v))
    | .resourceUrl, _, some url => p.getResource e futures v url
    | c, _, _ => refuse e futures c v

end Approval

end Policy

end Interpolation
