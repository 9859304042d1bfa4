import Interpolation.Eval.BytesMethod
import Interpolation.Eval.CollectionMethod
import Interpolation.Eval.DateMethod
import Interpolation.Eval.Helper

/-!
# Calls

What can be called are the methods that values have by their types, and the names that every context
has, with what they make. All else refuses to be called.

A list can be sorted by a function of its items, which is called with one item at a time. As sorting
takes no such arguments itself, calls do not go deeper than that.

Main definitions:

* `Setting.entriesOf`: the entries of a mapping made from a value.
* `Setting.callList`, `Setting.callDict`: methods that look at a collection or change it.
* `Setting.callMethod`: a method of any value.
* `Setting.call`: a call of a value.
-/

namespace Interpolation

open Interpolation.Text

/-- The range that a call makes. -/
def makeRange (a : Arguments) : Except Fault Value := do
  if !a.named.isEmpty then throw (.arity (.unnamed "range"))
  match a.positional with
  | [] => throw (.arity (.expected "range" "at least " 1 0))
  | [stop] => return .ofContent (.range 0 (← stop.requireInt) 1)
  | [start, stop] => return .ofContent (.range (← start.requireInt) (← stop.requireInt) 1)
  | [start, stop, step] =>
    let (start, stop, step) := (← start.requireInt, ← stop.requireInt, ← step.requireInt)
    if step = 0 then throw .zeroRangeStep
    return .ofContent (.range start stop step)
  | vs => throw (.arity (.expected "range" "at most " 3 vs.length))

/-- The place that an argument names among so many items; places below zero are counted from the
end. -/
def Value.placeFrom (size : Int) (v : Value) : Except Fault Nat :=
  match v.int? with
  | some n => .ok (if n < 0 then max 0 (n + size) else n).toNat
  | Option.none => .error .placeBounds

/-- The entries without the one of a key. -/
def removeEntry (key : Value) (entries : List (Value × Value)) : Look (List (Value × Value)) :=
  entries.filterM fun e => do return !(← Value.fits Value.equal e.1 key)

namespace Setting

variable (s : Setting)

/-! ## Mappings -/

/-- A pair as an entry of a mapping; `index` is its place among the pairs. -/
def entryOf (index : Nat) (v : Value) : Eval (Value × Value) := do
  match v.source.run (← getThe Store) with
  | .error f => throw (if f.label = "TypeError" then .entryNotASequence index else f)
  | .ok source =>
    match ← s.drain source with
    | [k, w] => return (k, w)
    | items => throw (.entryLength index items.length)

/-- Entries with the pairs of a source added one after the other. -/
def addPairs (entries : List (Value × Value)) (source : Source) : Eval (List (Value × Value)) := do
  let (_, entries) ← s.foldSource (fun (index, entries) v => do
    let entry ← s.entryOf index v
    return (index + 1, ← (insertEntries entries [entry] : Look _))) source ((0 : Nat), entries)
  return entries

/-- Entries with those of a value added: of a mapping, or of the pairs of a sequence. -/
def addEntriesOf (entries : List (Value × Value)) (v : Value) : Eval (List (Value × Value)) :=
  match v.content with
  | .dict r | .proxy r => do (insertEntries entries (← Look.entries r) : Look _)
  | .missing _ m => throw m.fault
  | _ => do s.addPairs entries (← v.source)

/-- The entries of a mapping made from a value. -/
def entriesOf (v : Value) : Eval (List (Value × Value)) :=
  match v.content with
  | .dict r | .proxy r => do return ← Look.entries r
  | _ => s.addEntriesOf [] v

/-- The entries that a call with at most one positional argument adds to others. -/
def addArguments (callee : String) (entries : List (Value × Value)) (a : Arguments) :
    Eval (List (Value × Value)) := do
  let start ← match a.positional with
    | [] => pure entries
    | [v] => s.addEntriesOf entries v
    | vs => throw (.arity (.expected callee "at most " 1 vs.length))
  (insertEntries start (a.named.map fun (n, v) => (.str n, v)) : Look _)

/-- A mapping with the items of a value as keys, all with one value. -/
def fromKeys (a : Arguments) : Eval Value := do
  let vs ← a.between "dict." "fromkeys" 1 2
  let source ← (((vs[0]?).getD Value.none).source : Look _)
  let v ← Eval.keep ((vs[1]?).getD Value.none)
  let entries ← s.foldSource (fun entries k => (insertEntries entries [(k, v)] : Look _)) source []
  (Building.dict entries : Building _)

/-- Refuses a value that cannot be looked for in a mapping; what is to be taken out of an empty one is
not looked for. -/
def requireSoughtKey (name : String) (entries : List (Value × Value)) (key : Value) : Look Unit :=
  if name = "pop" ∧ entries.isEmpty then return () else key.requireKey

/-- A method of a mapping; `owner` is the type that has the method. -/
def callDict (owner : String) (r : Ref) (name : String) (a : Arguments) : Eval Value := do
  let entries ← (Look.entries r : Look _)
  match name with
  | "keys" => do a.nothing (owner ++ name); return .ofContent (.view .keys r)
  | "values" => do a.nothing (owner ++ name); return .ofContent (.view .values r)
  | "items" => do a.nothing (owner ++ name); return .ofContent (.view .items r)
  | "copy" => do a.nothing (owner ++ name); (Building.dict entries : Building _)
  | "fromkeys" => s.fromKeys a
  | "clear" => do
    a.nothing "dict.clear"
    (Building.putEntries r [] : Building _)
    return .none
  | "update" => do
    let after ← s.addArguments "update" entries a
    (Building.putEntries r after : Building _)
    return .none
  | "popitem" => do
    a.nothing "dict.popitem"
    match entries.getLast? with
    | some (k, v) => do
      (Building.putEntries r entries.dropLast : Building _)
      Eval.tuple [k, v]
    | none => throw (.noKey (quote "popitem(): dictionary is empty"))
  | "get" | "pop" | "setdefault" => do
    let vs ← a.between owner name 1 2
    let key := (vs[0]?).getD .none
    (requireSoughtKey name entries key : Look _)
    match ← (lookup? key entries : Look _), vs[1]? with
    | some v, _ => do
      if name = "pop" then
        (Building.putEntries r (← (removeEntry key entries : Look _)) : Building _)
      return v
    | none, other => do
      match name, other with
      | "pop", none => throw (.noKey (← ((s.repr key).wording : Look _)))
      | "setdefault", other => do
        let v ← Eval.keep (other.getD .none)
        (Building.putEntries r (entries ++ [(key, v)]) : Building _)
        return v
      | _, other => return other.getD .none
  | _ => throw (.notCallable "builtin_function_or_method")

/-! ## Lists -/

/-- A method that looks an item up in a sequence. -/
def callIndex (type : String) (items : List Value) (a : Arguments) : Look Value := do
  let vs ← a.between (type ++ ".") "index" 1 3
  let first ← match vs[1]? with
    | some v => v.placeFrom items.length
    | none => pure 0
  let last ← match vs[2]? with
    | some v => v.placeFrom items.length
    | none => pure items.length
  let v := (vs[0]?).getD .none
  match ← placeAmong v items first last with
  | some i => return .int i
  | none =>
    if type = "tuple" then throw .notInTuple else throw (.notInList (← s.repr v))

/-- Takes an item out of a list. -/
def popItem (r : Ref) (items : List Value) (a : Arguments) : Eval Value := do
  let vs ← a.between "list." "pop" 0 1
  let n ← ((vs[0]?).getD (Value.int (-1))).requireSize
  if items.isEmpty then throw .emptyList
  match Value.place? items.length n with
  | some i => do
    (Building.putRow r (items.eraseIdx i) : Building _)
    return (items[i]?).getD .none
  | none => throw .popIndex

/-- Puts the items of a value behind those of a list. -/
def extend (r : Ref) (v : Value) : Eval Value := do
  match v.content with
  | .list other => (← (Look.items other : Look _)).forM fun w => (Building.append r w : Building _)
  | _ => s.foldSource (fun _ w => (Building.append r w : Building _)) (← v.source) ()
  return .none

/-- A method of a list; `apply` calls the function of the items by which it is sorted. -/
def callList (apply : Value → Arguments → Eval Value) (r : Ref) (name : String) (a : Arguments) :
    Eval Value := do
  let items ← (Look.items r : Look _)
  let put (after : List Value) : Eval Value := do
    (Building.putRow r after : Building _)
    return .none
  match name with
  | "append" => do
    (Building.append r (← a.one "list.append") : Building _)
    return .none
  | "index" => do return ← (s.callIndex "list" items a : Look _)
  | "count" => do return .int (← (countAmong (← a.one "list.count") items : Look _))
  | "copy" => do a.nothing "list.copy"; Eval.list items
  | "clear" => do a.nothing "list.clear"; put []
  | "reverse" => do a.nothing "list.reverse"; put items.reverse
  | "pop" => popItem r items a
  | "sort" => sortRow apply r a
  | "extend" => do s.extend r (← a.one "list.extend")
  | "insert" => do
    let vs ← a.between "list." "insert" 2 2
    let n ← ((vs[0]?).getD Value.none).requireSize
    let place ← (Value.int n).placeFrom items.length
    put (items.take place ++ (vs[1]?).getD Value.none :: items.drop place)
  | "remove" => do
    match ← (placeAmong (← a.one "list.remove") items 0 items.length : Look _) with
    | some i => put (items.eraseIdx i)
    | none => throw .notInThisList
  | _ => throw (.notCallable "builtin_function_or_method")

/-! ## Everything that can be called -/

/-- A method of a tuple. -/
def callTuple (items : List Value) (name : String) (a : Arguments) : Look Value :=
  match name with
  | "index" => s.callIndex "tuple" items a
  | "count" => do return .int (← countAmong (← a.one "tuple.count") items)
  | _ => throw (.notCallable "builtin_function_or_method")

/-- What a type answers with the types that it consists of. -/
def typeOrder (itself : Value) (a : Arguments) : Eval Value := do
  a.nothing "type.mro"
  Eval.list [itself, .ofContent (.typeNamed "object")]

/-- A method of an error. -/
def faultMethod (name : String) (a : Arguments) : Except Fault Answer := do
  let v ← a.one ("BaseException." ++ name)
  if name = "add_note" then
    if v.text?.isSome then return .nothing
    else throw (.refused "TypeError" ("note must be a str, not " ++ quote v.typeWord))
  else if v.isNone then return .itself
  else throw (.refused "TypeError" "__traceback__ must be a traceback or None")

/-- What the methods answer that look at their receiver and their arguments only. -/
def answerTo (receiver : Value) (name : String) (a : Arguments) : Look Answer := do
  match receiver.content with
  | .int n => integerMethod n false name a
  | .bool b => integerMethod (if b then 1 else 0) true name a
  | .float x => floatMethod x name a
  | .complex re im => complexMethod re im name a
  | .decimal d => decimalMethod d name a
  | .bytes bs => bytesMethod (ofBytes bs) name a
  | .range start stop step => rangeMethod start stop step s.repr name a
  | .slice r => sliceMethod r a
  | .failure .. => faultMethod name a
  | .date d => dateMethod d name a
  | .datetime d c => momentMethod (d, c) name a
  | .time c => clockMethod c name a
  | .zone n => zoneMethod n name a
  | .duration d => durationMethod d name a
  | c => throw (.notCallable c.methodType)

/-- A method that asks the clock. -/
def callClock (type : String) (receiver : Value) (name : String) (a : Arguments) : Eval Value := do
  let micros ← (Building.readClock : Building Nat)
  let answer ← clockAnswer type name micros a
  (answer.build receiver : Building _)

/-- A method of a value; `apply` calls a function. -/
def callMethod (apply : Value → Arguments → Eval Value) (receiver : Value) (name : String)
    (a : Arguments) : Eval Value := do
  match receiver.content, name with
  | .str t, _ => callText s .plain receiver t name a
  | .markup t, _ => callText s .markup receiver t name a
  | .bytes bs, "join" => do s.joinBytes (ofBytes bs) (← a.one "bytes.join")
  | .int _, "from_bytes" => s.intFromBytes false a
  | .bool _, "from_bytes" => s.intFromBytes true a
  | .dict r, _ => s.callDict "dict." r name a
  | .proxy r, _ => s.callDict "mappingproxy." r name a
  | .view kind _, _ => do
    let type := (Content.view kind ⟨0⟩).typeName
    return .bool (← s.areDisjoint receiver (← a.one (type ++ "." ++ name)))
  | .set r, _ => s.callSet receiver r name a
  | .list r, _ => s.callList apply r name a
  | .tuple r, _ => do return ← (s.callTuple (← Look.items r) name a : Look _)
  | .future id, _ => s.callFuture id name a
  | .stream _ r, _ => callStream s r name a
  | .cycler r, _ => callCycler r name a
  | .global .dict, "fromkeys" => s.fromKeys a
  | .global _, "mro" => typeOrder receiver a
  | .missing .chaining _, _ => return .markup ""
  | .date _, "today" => callClock "date" receiver name a
  | .datetime _ _, "today" | .datetime _ _, "now" | .datetime _ _, "utcnow" =>
    callClock "datetime" receiver name a
  | _, _ => do
    let answer ← (s.answerTo receiver name a : Look _)
    (answer.build receiver : Building _)

/-- A call of a value; `apply` calls a function that is handed over. -/
def callWith (apply : Value → Arguments → Eval Value) (callee : Value) (a : Arguments) :
    Eval Value := do
  match callee.content with
  | .method _ r name => do s.callMethod apply (← Look.itemAt r 0) name a
  | .global .range => makeRange a
  | .global .dict => do
    let entries ← s.addArguments "dict" [] a
    (Building.dict entries : Building _)
  | .global .namespaceType => do
    let entries ← s.addArguments "dict" [] a
    let named := entries.filterMap fun (k, v) => k.text?.map fun n => (n, v)
    return .ofContent (.bag (← (Building.addAttributes named : Building _)))
  | .global .lipsum => s.callLipsum a
  | .global .cycler => makeCycler a
  | .global .joiner => makeJoiner a
  | .joiner r => callJoiner r a
  | .missing _ m => throw m.fault
  | _ => throw (.notCallable callee.typeWord)

/-- A call of a value. -/
def call (callee : Value) (a : Arguments) : Eval Value :=
  s.callWith (s.callWith fun _ _ => throw (.tooDeep "")) callee a

end Setting

end Interpolation
