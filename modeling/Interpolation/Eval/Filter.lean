import Interpolation.Eval.LayoutFilter

/-!
# Filters

A filter takes a value and further arguments and answers with a value. The filters that do something
with every item of a sequence answer with streams, which do it when they are asked for the item.

Main definitions:

* `Setting.filter`: the answer of a filter.
-/

namespace Interpolation

open Interpolation.Text Interpolation.Number

namespace Setting

variable (s : Setting)

/-! ## Filters of single values -/

/-- The default in the place of a missing value, and of one that does not count as true if that is
asked for. -/
def orDefault (v default ofFalse : Value) : Look Value := do
  if v.isMissing then return default
  else if (← ofFalse.truth) && !(← v.truth) then return default
  else return v

/-- Whether a conversion that ends with a fault is given up for another one. -/
def isRefusal (f : Fault) : Bool := f.label == "TypeError" || f.label == "ValueError"

/-- The integer of a value; a text is read in a base. -/
def directInteger (v base : Value) : Except Fault Int :=
  match v.text?, base.int? with
  | some t, some b =>
    if b = 0 ∨ (2 ≤ b ∧ b ≤ 36) then Value.readInteger b.toNat t else .error .invalidBase
  | some _, none =>
    .error (match base.content with
      | .missing _ m => m.fault
      | _ => .notAnInteger base.typeWord)
  | none, _ => v.toInteger

/-- An integer, or a default for what is none. -/
def wholeOr (v default base : Value) : Except Fault Value :=
  match v.content, directInteger v base with
  | .int _, .ok _ => .ok v
  | _, .ok n => .ok (.int n)
  | _, .error f =>
    if isRefusal f then
      match v.toFloat.bind Value.truncated with
      | .ok n => .ok (.int n)
      | .error f =>
        if isRefusal f || f.label == "OverflowError" then .ok default else .error f
    else .error f

/-- A float, or a default for what is none. -/
def floatOr (v default : Value) : Except Fault Value :=
  match v.content, v.toFloat with
  | .float _, _ => .ok v
  | _, .ok x => .ok (.float x)
  | _, .error f => if isRefusal f then .ok default else .error f

/-- A decimal with a number of places; a tie goes to the even side. -/
def decimalWithPlaces (d : Decimal) (places : Value) : Except Fault Value :=
  match places.int? with
  | some n =>
    if -2 ^ 63 ≤ n ∧ n < 2 ^ 63 then
      (ofDecimalResult (d.quantize (-n))).map Value.ofContent
    else .error (.excess (.machineInteger "ssize_t"))
  | none => .error .placesType

/-- A number rounded to the nearest one with a number of places, or to an integer without one; a tie
goes to the even side. -/
def nearestTo (v places : Value) : Except Fault Value := do
  match v.content, v.int? with
  | _, some n =>
    let whole := match v.content with
      | .int _ => v
      | _ => .int n
    if places.isNone then return whole
    else
      let p ← places.requireInt
      return if p ≥ 0 then whole else .int (roundToTens n p.natAbs)
  | .float x, none =>
    if places.isNone then return .int (← Value.truncated ((roundToPlaces? x 0).getD x))
    else
      match roundToPlaces? x (← places.requireInt) with
      | some y => return .float y
      | none => throw (.excess .rounded)
  | .decimal d, none =>
    if places.isNone then return .int (← Value.wholeDecimal Decimal.round? d)
    else decimalWithPlaces d places
  | _, none => throw (.noRounding v.typeWord)

/-- The integer next to a number, above or below. -/
def nextWhole (up : Bool) (v : Value) : Except Fault Int :=
  match v.content, v.int? with
  | _, some n => .ok n
  | .float x, none =>
    match Binary.ofFloat x with
    | .notANumber => .error .notANumberAsInteger
    | .infinite _ => .error (.excess .infinityAsInteger)
    | b => .ok ((if up then b.ceiling? else b.floor?).getD 0)
  | .decimal d, none => Value.wholeDecimal (if up then Decimal.ceiling? else Decimal.floor?) d
  | _, none => .error (.mustBeReal v.typeWord)

/-- A number rounded down or up to a number of places. -/
def roundedTowards (up : Bool) (v places : Value) : Eval Value := do
  let scale ← Value.power (.int 10) places
  let whole ← nextWhole up (← v.multiply scale)
  Value.divide (.int whole) scale

/-- A rounded number. -/
def rounded (v places method : Value) : Eval Value := do
  if !method.isSet then (method.requireKey : Look Unit)
  match method.text? with
  | some "common" => nearestTo v places
  | some "floor" => roundedTowards false v places
  | some "ceil" => roundedTowards true v places
  | _ => throw (.filterArgument "method must be common, ceil or floor")

/-- An attribute of a value that has it; items are not looked at. -/
def attributeOnly (v name : Value) : Eval Value := do
  (name.requireKey : Look Unit)
  match name.text? with
  | none => throw (.attributeNameType name.typeWord)
  | some n =>
    match ← v.native? n with
    | some _ => s.attributeOf v n
    | none => return s.missing (.attribute (v.description) n)

/-- A text without the given characters at its ends. -/
def trimmed (v characters : Value) : Look Value := do
  s.softChange (fun t =>
    if characters.isNone then .ok (strip t)
    else
      match characters.text? with
      | some cs => .ok (stripBy (fun c => cs.toList.contains c) t)
      | none => .error (.textOrNone "strip")) v

/-- A value as a text of its own, unless it is a plain text. -/
def plainly (v : Value) : Look Value :=
  match v.content with
  | .str _ => return v
  | _ => do return .str (← s.display v)

/-- A value shown with every part of a text replaced. -/
def replaced (v old new count : Value) : Eval Value := do
  let t ← (s.plainly v : Look Value)
  let old ← (s.plainly old : Look Value)
  let new ← (s.plainly new : Look Value)
  let count := if count.isNone then Value.int (-1) else count
  replacedIn s .plain t t.chars ⟨[old, new, count], []⟩

/-- A text as a layout for the arguments. -/
def formatted (v : Value) (a : Arguments) : Eval Value := do
  if !a.positional.isEmpty && !a.named.isEmpty then
    throw (.filterArgument "can't handle positional and keyword arguments at the same time")
  let layout ← (s.softly v : Look Value)
  let values ←
    if a.named.isEmpty then Eval.tuple a.positional
    else (Building.dict (a.named.map fun (n, w) => (.str n, w)) : Building Value)
  (s.modulo layout values : Look Value)

/-- The last item of a value that can be walked from its end. -/
def lastItem (v : Value) : Eval Value := do
  match ← (v.backwards? : Look _) with
  | none => throw (.notReversible v.typeWord)
  | some (_, source) => return ((← s.pull source).map Prod.fst).getD (s.missing .lastItem)

/-- The first item of a value. -/
def firstItem (v : Value) : Eval Value := do
  return (← s.firstItem? v).getD (s.missing .firstItem)

/-- An item of a value that knows its size, drawn by chance. -/
def randomItem (v : Value) : Eval Value := do
  let size ← (v.size : Look Nat)
  if size = 0 then return s.missing .randomItem
  else
    let place := Value.int (← (Building.draw size : Building Nat))
    match ← v.item? place, v.content with
    | some w, _ => return w
    | none, .dict _ | none, .proxy _ => do throw (.noKey (← (s.repr place : Look String)))
    | none, _ => throw (.notSubscriptable v.typeWord)

/-! ## Filters by name -/

/-- A stream that was asked for nothing yet. -/
def streamOf (job : Job) (v : Value) : Eval Value :=
  (Building.stream "generator" (.waiting job v) : Building Value)

/-- The answer of a filter that changes texts; `arg` are the arguments by their places. -/
def textFilter? (f : FilterName) (v : Value) (arg : Nat → Value) : Option (Look Value) :=
  match f with
  | .capitalize => some (s.softMap capitalize v)
  | .lower => some (s.softMap lower v)
  | .upper => some (s.softMap upper v)
  | .title => some (s.titled v)
  | .center => some (s.softChange (fun t => do
      return center (← (arg 0).requireSize).toNat ' ' t) v)
  | .trim => some (s.trimmed v (arg 0))
  | .string => some (s.softly v)
  | .safe => some do return .markup (← s.display v)
  | .escape => some do return .markup (String.ofList (← s.escaped v))
  | .forceEscape => some do return .markup (escapeHtml (← s.display v))
  | .stripTags => some do return .ofChars (stripTags (← s.display v).toList)
  | .wordCount => some do return .int (wordCount (← s.softly v).chars)
  | .default => some (orDefault v (arg 0) (arg 1))
  | .length => some do return .int (← v.size)
  | .fileSizeFormat => some (sizeText v (arg 0))
  | .pprint => some do return .str (← v.pretty s.futures.shown)
  | _ => none

/-- The answer of a filter with arguments for all its parameters. -/
def appliedFilter (f : FilterName) (v : Value) (arguments : List Value) : Eval Value :=
  let arg (i : Nat) : Value := (arguments[i]?).getD .none
  match f with
  | .abs => v.magnitude
  | .attr => s.attributeOnly v (arg 0)
  | .batch => streamOf (.batch (arg 0) (arg 1)) v
  | .dictsort => s.entriesSorted v (arg 0) (arg 1) (arg 2)
  | .first => s.firstItem v
  | .float => floatOr v (arg 0)
  | .groupBy => s.grouped v (arg 0) (arg 1) (arg 2)
  | .indent => s.indented v arguments
  | .int => wholeOr v (arg 0) (arg 1)
  | .items => streamOf .pairs v
  | .join => s.joined v (arg 0) (arg 1)
  | .last => s.lastItem v
  | .list => do Eval.list (← s.items v)
  | .max => s.extreme .gt v (arg 0) (arg 1)
  | .min => s.extreme .lt v (arg 0) (arg 1)
  | .random => s.randomItem v
  | .replace => s.replaced v (arg 0) (arg 1) (arg 2)
  | .reverse => s.reversed v
  | .round => rounded v (arg 0) (arg 1)
  | .slice => streamOf (.slice (arg 0) (arg 1)) v
  | .sort => s.sorted v (arg 0) (arg 1) (arg 2)
  | .sum => s.summed v (arg 0) (arg 1)
  | .toJson => script v (arg 0)
  | .truncate => s.truncated v arguments
  | .unique => streamOf (.unique (arg 0) (arg 1)) v
  | .urlEncode => s.urlEncoded v
  | .urlize => s.linkText v arguments
  | .wordWrap => s.wrapped v arguments
  | .xmlAttr => s.attributesText v (arg 0)
  | f =>
    match s.textFilter? f v arg with
    | some answer => answer
    | none => return v

/-- The answer of a filter. -/
def filter (f : FilterName) (v : Value) (a : Arguments) : Eval Value := do
  let arguments ← f.bind a
  match f with
  | .format => s.formatted v a
  | .map => streamOf (.map a) v
  | .select => streamOf (.select true a) v
  | .reject => streamOf (.select false a) v
  | .selectAttr => streamOf (.selectBy true a) v
  | .rejectAttr => streamOf (.selectBy false a) v
  | f => s.appliedFilter f v arguments

end Setting

end Interpolation
