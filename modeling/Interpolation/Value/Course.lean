import Interpolation.Value.Basic

/-!
# The course of a stream

A stream computes its items one by one, each when it is asked for. Between two items it remembers
how far it came: what it does with each item of a source, and where the source stands. What a stream
has to find out before its first item, it finds out when it is first asked.

Main definitions:

* `Arguments`: the arguments of a call.
* `Source`: where items come from, and how far they were walked.
* `Job`, `Stage`: what a stream was asked to do, and what it does with each item.
* `Course`: how a stream stands.
-/

namespace Interpolation

/-- The arguments of a call. -/
structure Arguments where
  /-- The positional arguments in order. -/
  positional : List Value
  /-- The named arguments in order. -/
  named : List (String × Value)
deriving Inhabited

/-- No arguments. -/
def Arguments.none : Arguments := ⟨[], []⟩

/-- Where items come from, and how far they were walked. A walk along a list or a mapping looks at
it anew for every item. -/
inductive Source where
  /-- Items that cannot change. -/
  | items (rest : List Value)
  /-- The items of a list from a place on. -/
  | row (r : Ref) (next : Nat)
  /-- The items of a list before a place, the last one first. -/
  | rowBack (r : Ref) (left : Nat)
  /-- What a mapping of a size holds, from a place on. -/
  | entries (kind : ViewKind) (r : Ref) (size next : Nat)
  /-- What a mapping of a size holds before a place, the last one first. -/
  | entriesBack (kind : ViewKind) (r : Ref) (size left : Nat)
  /-- So many numbers, each a step after the one before. -/
  | numbers (next step : Int) (left : Nat)
  /-- The items of a stream. -/
  | stream (r : Ref)
  /-- The future of an event loop, which is waited for once. -/
  | future (id : FutureId) (asked : Bool)
  /-- The blocks of a template, looked up by their places; there are none. -/
  | blocks
deriving Inhabited

/-- A source without items. -/
def Source.nothing : Source := .items []

/-- What a stream was asked to do. -/
inductive Job where
  /-- An attribute of each item, or what a filter makes of it. -/
  | map (a : Arguments)
  /-- The items that answer a question in the wanted way. -/
  | select (wanted : Bool) (a : Arguments)
  /-- The items of which an attribute answers a question in the wanted way. -/
  | selectBy (wanted : Bool) (a : Arguments)
  /-- The items whose key did not come before. -/
  | unique (caseSensitive selector : Value)
  /-- Groups of items. -/
  | batch (size fill : Value)
  /-- A number of groups of about the same size. -/
  | slice (count fill : Value)
  /-- The entries of a mapping as pairs. -/
  | pairs

/-- What a stream does with each item. -/
inductive Stage where
  /-- It follows a way to an attribute; a default takes the place of what is not found. -/
  | attribute (path : List Value) (default : Value)
  /-- It applies the filter that a value names. -/
  | filter (name : Value) (a : Arguments)
  | select (wanted : Bool) (a : Arguments)
  | selectBy (wanted : Bool) (path : List Value) (a : Arguments)
  /-- It compares the key of the item with those that came before. -/
  | unique (path : List Value) (sensitive : Bool) (seen : List Value)
  /-- It puts the item into the present group. -/
  | batch (size fill : Value) (group : List Value)
  /-- It gives the group of a number: so many items, and one more in the first groups, or a value in
  its place in the others. -/
  | slice (items : List Value) (per extra : Nat) (fill : Value)
  /-- It gives the item on. -/
  | pass

/-- How a stream stands. -/
inductive Course where
  /-- There are no more items. -/
  | ended
  /-- An item is being computed. -/
  | running
  /-- The stream was not asked for an item yet. -/
  | waiting (job : Job) (subject : Value)
  /-- The stream walks along a source and does something with each item. -/
  | working (stage : Stage) (source : Source)
  /-- The stream gives the items of a source on, and computes nothing. -/
  | plain (source : Source)
deriving Inhabited

end Interpolation
