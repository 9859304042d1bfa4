import Interpolation.Value.Order
import Interpolation.Value.Shown

/-!
# Futures

A future stands for a value that may not be there yet. Expressions hold references to futures; the
table of futures says how each of them stands at the moment.

Main definitions:

* `Future`, `Futures`: a future and the table of all of them.
* `Futures.now`: the table with the changes that evaluations made.
* `Future.settle`: what a future can still become.
* `Futures.resolve`: the value that a settled future stands for.
* `Futures.shown`: the text of a future.
-/

namespace Interpolation

open Interpolation.Text

/-- A future. -/
structure Future where
  /-- How it stands. -/
  progress : Progress Value

namespace Future

/-- Whether the future has its final state. -/
def isSettled (f : Future) : Bool :=
  match f.progress with
  | .pending | .running => false
  | _ => true

/-- The future with a final state, unless it has one already; what is running cannot be cancelled. -/
def settle (f : Future) (p : Progress Value) : Option Future :=
  match f.progress, p with
  | .running, .cancelled => none
  | .pending, _ | .running, _ => some { f with progress := p }
  | _, _ => none

/-- What a resolving lookup puts in the place of the future: its value once it is done, nothing
while it is pending or when it was cancelled, and its error when it failed. -/
def resolved (f : Future) : Except Fault Value :=
  match f.progress with
  | .pending | .running | .cancelled | .dropped => .ok .none
  | .done v => .ok v
  | .failed label text => .error (.stored label text)

end Future

/-- The table of futures; a reference is a place in it. -/
structure Futures where
  /-- The futures in the order in which they were made. -/
  cells : List Future

namespace Futures

/-- No futures. -/
def empty : Futures := ⟨[]⟩

/-- The future that a reference stands for. -/
def get? (fs : Futures) (id : FutureId) : Option Future := fs.cells[id.place]?

/-- Makes a future; its place is the number of futures made before. -/
def add (fs : Futures) (runner : Runner) (f : Future) : FutureId × Futures :=
  (⟨fs.cells.length, runner⟩, ⟨fs.cells ++ [f]⟩)

/-- The table with the changes that evaluations made. -/
def now (fs : Futures) (s : Store) : Futures :=
  ⟨fs.cells.mapIdx fun place f => ((s.commons.changes.lookup place).map Future.mk).getD f⟩

/-- Puts a future into a place of the table. -/
def set (fs : Futures) (id : FutureId) (f : Future) : Futures := ⟨fs.cells.set id.place f⟩

/-- Replaces a future by what it stands for; other values stay, and so does a reference to no future
of the table. -/
def resolve (fs : Futures) (v : Value) : Except Fault Value :=
  match v.content with
  | .future id =>
    match fs.get? id with
    | some f => f.resolved
    | none => .ok v
  | _ => .ok v

end Futures

/-! ## The text of a future

A future of an event loop is shown with its result, in an abridged form: long texts, long
containers and deep nesting are cut, and the members of sets and mappings are put in order if there
is one. -/

namespace Value

/-- A text cut in the middle to at most `width` characters. -/
def abridgeText (width : Nat) (s : String) : String :=
  let cs := s.toList
  if cs.length ≤ width then s
  else
    let head := (width - 3) / 2
    let tail := width - 3 - head
    String.ofList (cs.take head) ++ "..." ++ String.ofList (cs.drop (cs.length - tail))

/-- An abridged container: its first parts, as many as `count`. -/
def abridgeParts (opening closing : String) (count total : Nat) (parts : List String) : String :=
  bracketed opening closing (parts ++ if total > count then ["..."] else [])

/-- A long text in full with its middle cut. -/
def abridgeQuoted (s : String) : String :=
  let cs := s.toList
  let whole := quote (String.ofList (cs.take 30))
  if whole.length ≤ 30 then whole
  else
    let out := (quote (String.ofList (cs.take 13 ++ cs.drop (cs.length - 14)))).toList
    String.ofList (out.take 13) ++ "..." ++ String.ofList (out.drop (out.length - 14))

/-- Values in order, or as they are if they have no order. -/
def possiblySorted {α : Type} (key : α → Value) (xs : List α) : Look (List α) := fun s =>
  match (sortBy (fun x y => ordered .lt (key x) (key y)) xs).run s with
  | .ok sorted => .ok sorted
  | .error _ => .ok xs

variable (future : FutureId → Look String)

/-- A value in full with long parts cut, down to a number of levels. -/
def abridged : (level : Nat) → Value → Look String
  | level, v =>
    match v.content, level with
    | .tuple r, level + 1 => do
      let items ← Look.items r
      let parts ← (items.take 6).mapM (abridged level)
      if items.length = 1 then return "(" ++ String.intercalate ", " parts ++ ",)"
      else return abridgeParts "(" ")" 6 items.length parts
    | .tuple r, 0 => do return if (← Look.row r).isEmpty then "()" else "(...)"
    | .list r, level + 1 => do
      let items ← Look.items r
      return abridgeParts "[" "]" 6 items.length (← (items.take 6).mapM (abridged level))
    | .list r, 0 => do return if (← Look.row r).isEmpty then "[]" else "[...]"
    | .set r, level => do
      let items ← possiblySorted id (← Look.items r)
      if items.isEmpty then return "set()"
      match level with
      | 0 => return "\x7b...\x7d"
      | level + 1 =>
        return abridgeParts "\x7b" "\x7d" 6 items.length (← (items.take 6).mapM (abridged level))
    | .dict r, level => do
      let entries ← possiblySorted Prod.fst (← Look.entries r)
      if entries.isEmpty then return "\x7b\x7d"
      match level with
      | 0 => return "\x7b...\x7d"
      | level + 1 => do
        let parts ← (entries.take 4).mapM fun (k, w) => do
          let key ← abridged level k
          return key ++ ": " ++ (← abridged level w)
        return abridgeParts "\x7b" "\x7d" 4 entries.length parts
    | .str s, _ => return abridgeQuoted s
    | .int n, _ => do return abridgeText 40 (← integerText n)
    | _, _ => do return abridgeText 30 (← v.repr future)

end Value

namespace Futures

/-- The text of a future; the results of futures nested in it are followed to a depth, and a future
inside of itself is not shown again. -/
def shownInside (fs : Futures) : (depth : Nat) → (path : List FutureId) → FutureId → Look String
  | 0, _, _ => return "..."
  | depth + 1, path, id =>
    if path.contains id then return "..."
    else
      match fs.get? id with
      | none => return "<Future>"
      | some f => do
        let state ← match f.progress with
          | .pending => pure "pending"
          | .running => pure "running"
          | .cancelled | .dropped => pure "cancelled"
          | .done v =>
            match id.runner with
            | .threads => pure ("finished returned " ++ v.typeName)
            | .loop => do
              pure ("finished result=" ++ (← v.abridged (shownInside fs depth (id :: path)) 6))
          | .failed label text =>
            match id.runner, text with
            | .threads, _ => pure ("finished raised " ++ label)
            | .loop, .text t =>
              pure ("finished exception=" ++ showCall label [if t = "" then "''" else quote t])
            | .loop, .unwritten why => throw why.fault
        match id.runner with
        | .threads => return "<Future state=" ++ state ++ ">"
        | .loop => return "<Future " ++ state ++ ">"

/-- The text of a future. -/
def shown (fs : Futures) (id : FutureId) : Look String := do
  let fs := fs.now (← read)
  fs.shownInside (fs.cells.length + 1) [] id

end Futures

end Interpolation
