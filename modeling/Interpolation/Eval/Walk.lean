import Interpolation.Eval.Setting
import Interpolation.Text.Cut

/-!
# Walking through values

Everything that can be walked through gives its items one by one. Between two items anything may
happen to what is walked through: a list may grow, a mapping that grows or shrinks ends the walk,
and a stream gives each of its items only once, to whoever asks first.

Main definitions:

* `Value.source`: the beginning of the walk through a value.
* `Setting.pull`: the next item of a source.
* `Setting.fold`, `Setting.items`: a walk to its end, or until it is not needed any more.
* `Value.size`, `Value.backwards?`, `Setting.contains`: length, the way back, membership.
-/

namespace Interpolation

/-- The numbers of a range as a source. -/
def rangeSource (start stop step : Int) : Source :=
  .numbers start step (rangeSize start stop step)

namespace Value

/-- The characters of a text as texts. -/
def characters (s : String) : List Value := s.toList.map fun c => .str (String.singleton c)

/-- The bytes as integers. -/
def byteItems (bs : List UInt8) : List Value := bs.map fun b => .int b.toNat

/-- The beginning of the walk through a value. -/
def source (v : Value) : Look Source :=
  match v.content with
  | .str s | .markup s => return .items (characters s)
  | .category c => return .items (characters c.name)
  | .bytes bs => return .items (byteItems bs)
  | .list r => return .row r 0
  | .tuple r | .set r => do return .items (← Look.items r)
  | .dict r | .proxy r => do return .entries .keys r (← Look.entries r).length 0
  | .view kind r => do return .entries kind r (← Look.entries r).length 0
  | .range a b s => return rangeSource a b s
  | .missing .strict m => throw m.fault
  | .missing _ _ => return .nothing
  | .stream _ r => return .stream r
  | .future ⟨place, .loop⟩ => return .future ⟨place, .loop⟩ false
  | .selfReference => return .blocks
  | _ => throw (.notIterable v.typeWord)

/-- The number of items, for the values that know it. -/
def size (v : Value) : Look Nat :=
  match v.content with
  | .str s | .markup s => return s.length
  | .category c => return c.name.length
  | .bytes bs => return bs.length
  | .list r | .tuple r | .set r => do return (← Look.row r).size
  | .dict r | .view _ r | .proxy r => do return (← Look.entries r).length
  | .range a b s => return rangeSize a b s
  | .missing .strict m => throw m.fault
  | .missing _ _ => return 0
  | _ => throw (.noLength v.typeWord)

/-- The way back through a value, with the type of the stream that walks it, for the values that
have one. -/
def backwards? (v : Value) : Look (Option (String × Source)) :=
  match v.content with
  | .str s | .markup s => return some ("reversed", .items (characters s).reverse)
  | .category c => return some ("reversed", .items (characters c.name).reverse)
  | .bytes bs => return some ("reversed", .items (byteItems bs).reverse)
  | .list r => do return some ("list_reverseiterator", .rowBack r (← Look.row r).size)
  | .tuple r => do return some ("reversed", .items (← Look.items r).reverse)
  | .dict r | .proxy r => do
    let size := (← Look.entries r).length
    return some ("dict_reversekeyiterator", .entriesBack .keys r size size)
  | .view kind r => do
    let size := (← Look.entries r).length
    let name := match kind with
      | .keys => "dict_reversekeyiterator"
      | .values => "dict_reversevalueiterator"
      | .items => "dict_reverseitemiterator"
    return some (name, .entriesBack kind r size size)
  | .range a b s =>
    let size := rangeSize a b s
    return some ("range_iterator", .numbers (a + s * ((size : Int) - 1)) (-s) size)
  | .missing .strict m => throw m.fault
  | .missing _ _ => return some ("reversed", .nothing)
  | .selfReference => throw (.noLength v.typeWord)
  | _ => return Option.none

end Value

/-- What an entry of a mapping is in a view. -/
def viewItem (kind : ViewKind) (entry : Value × Value) : Eval Value :=
  match kind with
  | .keys => return entry.1
  | .values => return entry.2
  | .items => Eval.tuple [entry.1, entry.2]

/-- An entry of a mapping that must have kept its size. -/
def entryAt (r : Ref) (size place : Nat) : Look (Option (Value × Value)) := do
  let entries ← Look.entries r
  if entries.length ≠ size then throw .resized else return entries[place]?

/-- The next item of the future of an event loop: a settled one has no items, and a pending one has
itself as its only item and then refuses to be waited for. -/
def pullFuture (futures : Futures) (id : FutureId) (asked : Bool) :
    Except Fault (Option (Value × Source)) :=
  match (futures.get? id).map Future.progress with
  | some .pending | some .running =>
    if asked then .error (.stored "RuntimeError" "await wasn't used with future")
    else .ok (some (.ofContent (.future id), .future id true))
  | some (.failed label text) => .error (.stored label text)
  | some .cancelled | some .dropped => .error (.cancelled true)
  | some (.done _) | none => .ok none

/-- More steps than a walk ever has. -/
def walkLimit : Nat := 2 ^ 62

namespace Setting

variable (s : Setting)

/-- The next item of a source, and the source behind it. -/
def pull (source : Source) : Eval (Option (Value × Source)) :=
  match source with
  | .items [] => return none
  | .items (v :: rest) => return some (v, .items rest)
  | .row r i => do return (← Look.row r)[i]?.map fun v => (v, .row r (i + 1))
  | .rowBack _ 0 => return none
  | .rowBack r (i + 1) => do return (← Look.row r)[i]?.map fun v => (v, .rowBack r i)
  | .entries kind r size i => do
    match ← entryAt r size i with
    | some entry => return some (← viewItem kind entry, .entries kind r size (i + 1))
    | none => return none
  | .entriesBack kind r size left => do
    match left, ← entryAt r size (left - 1) with
    | left + 1, some entry => return some (← viewItem kind entry, .entriesBack kind r size left)
    | _, _ => return none
  | .numbers _ _ 0 => return none
  | .numbers n step (left + 1) => return some (.int n, .numbers (n + step) step left)
  | .stream r => do return (← s.next r).map fun v => (v, .stream r)
  | .future id asked => do pullFuture (s.futures.now (← getThe Store)) id asked
  | .blocks => throw (.noKey "0")

/-- A walk on which every item changes a state and says whether to go on. -/
def foldFrom {σ : Type} (f : σ → Value → Eval (Bool × σ)) :
    (fuel : Nat) → Source → σ → Eval σ
  | 0, _, state => return state
  | fuel + 1, source, state => do
    match ← s.pull source with
    | none => return state
    | some (v, source) =>
      let (go, state) ← f state v
      if go then foldFrom f fuel source state else return state

/-- A walk through a source on which every item changes a state. -/
def foldSource {σ : Type} (f : σ → Value → Eval σ) (source : Source) (state : σ) : Eval σ :=
  s.foldFrom (fun state v => do return (true, ← f state v)) walkLimit source state

/-- The items of a source, each changed by a function. -/
def mapSource {α : Type} (f : Value → Eval α) (source : Source) : Eval (List α) := do
  let found ← s.foldSource (fun found v => do return (← f v) :: found) source []
  return found.reverse

/-- The items of a source. -/
def drain (source : Source) : Eval (List Value) := s.mapSource pure source

/-- All items of a value. -/
def items (v : Value) : Eval (List Value) := do s.drain (← v.source)

/-- The first item of a value, which is walked no further. -/
def firstItem? (v : Value) : Eval (Option Value) := do
  return (← s.pull (← v.source)).map Prod.fst

/-- Walks until an item is the given value or equal to it. -/
def findsAmong (v : Value) (source : Source) : Eval Bool :=
  s.foldFrom (fun _ w => do
    let found ← (Value.fits Value.equal w v : Look Bool)
    return (!found, found)) walkLimit source false

/-- Whether a container holds a value: a text holds its parts, a mapping its keys. -/
def contains (container v : Value) : Eval Bool :=
  match container.content with
  | .str t | .markup t =>
    match v.content, v.text? with
    | .missing .strict m, _ => throw m.fault
    | _, some part => return Text.occurs part.toList t.toList
    | _, none => throw (.notText v.typeWord)
  | .category c =>
    match v.text? with
    | some part => return Text.occurs part.toList c.name.toList
    | none => throw (.notText v.typeWord)
  | .dict r | .view .keys r | .proxy r => do
    (v.requireKey : Look Unit)
    return (← (lookup? v (← Look.entries r) : Look _)).isSome
  | .view .items r => do (Value.Collection.pairs (← Look.entries r)).holds Value.equal v
  | .set r => do
    match v.content with
    | .set _ => memberOf v (← Look.items r)
    | _ => do
      (v.requireKey : Look Unit)
      memberOf v (← Look.items r)
  | .bytes bs =>
    match v.content, v.int? with
    | .bytes part, _ => return (List.range (bs.length + 1)).any fun i => part.isPrefixOf (bs.drop i)
    | _, some n =>
      if 0 ≤ n ∧ n < 256 then return bs.contains (UInt8.ofNat n.toNat) else throw .byteRange
    | _, none => throw (.notBytes v.typeWord)
  | .range a b step =>
    match v.int? with
    | some n =>
      return (if step > 0 then a ≤ n && n < b else b < n && n ≤ a) && (n - a) % step == 0
    | none => s.findsAmong v (rangeSource a b step)
  | _ => do
    match (container.source.run (← getThe Store)) with
    | .ok source => s.findsAmong v source
    | .error (.notIterable t) => throw (.notAContainer t)
    | .error f => throw f

end Setting

end Interpolation
