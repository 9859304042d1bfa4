import Interpolation.Eval.Walk
import Interpolation.Layout.Percent
import Interpolation.Text.Escape
import Interpolation.Value.Arithmetic

/-!
# Operators

The operators of the expression language on all values: numbers are computed with, sequences are put
together and repeated, markup absorbs text by escaping it, a text may be a layout for values, and
views of mappings lose members. A sequence to which nothing is added is its own result.

Main definitions:

* `Value.add`, `multiply`, `divide`, `floorDivide`, `power`: operators on two values.
* `Setting.subtract`: the difference of numbers, or members without others.
* `Setting.modulo`: the remainder of numbers, or a layout with its values.
* `Value.negate`, `Value.plus`, `Value.magnitude`: the signs and the absolute value.
-/

namespace Interpolation

open Interpolation.Number Interpolation.Text

namespace Value

/-- The fault of an operator on two values that it is not defined on: a missing side is told
first. -/
def undefinedOn (symbol : String) (a b : Value) : Fault :=
  match a.content, b.content with
  | .missing _ m, _ => m.fault
  | _, .missing _ m => m.fault
  | _, _ => .operands symbol a.typeWord b.typeWord

/-- A result of an operator on contents, or else the fault that it is not defined. -/
def computed (symbol : String) (a b : Value) (r : Option (Except Fault Content)) :
    Except Fault Value :=
  match r with
  | some c => c.map ofContent
  | Option.none => .error (undefinedOn symbol a b)

/-- The text of a value as it is put into markup. -/
def intoMarkup? (v : Value) : Option String :=
  match v.content with
  | .markup s => some s
  | .str s => some (escapeHtml s)
  | .category c => some (escapeHtml c.text)
  | .missing .chaining _ => some ""
  | _ => Option.none

/-- A plain text, if the value is one and nothing more. -/
def plainText? (v : Value) : Option String :=
  match v.content with
  | .str s => some s
  | _ => Option.none

/-- One text behind another; an empty one leaves the other as it is. -/
def addTexts (a b : Value) (s t : String) : Value :=
  if t = "" ∧ a.plainText?.isSome then a
  else if s = "" ∧ b.plainText?.isSome then b
  else .str (s ++ t)

/-- Bytes behind bytes; empty ones leave the others as they are. -/
def addBytes (a b : Value) (x y : List UInt8) : Value :=
  if x.isEmpty then b else if y.isEmpty then a else .ofContent (.bytes (x ++ y))

/-- A tuple behind a tuple; an empty one leaves the other as it is. -/
def addTuples (a b : Value) (xs ys : List Value) : Eval Value :=
  if xs.isEmpty then return b else if ys.isEmpty then return a else Eval.tuple (xs ++ ys)

/-- One sequence behind another of its type. -/
def addSequences (a b : Value) : Eval Value :=
  match a.content, b.content with
  | .missing _ m, _ => throw m.fault
  | .markup s, _ =>
    match b.intoMarkup? with
    | some t => return .markup (s ++ t)
    | Option.none => throw (undefinedOn "+" a b)
  | c, .markup t =>
    match a.intoMarkup?, c with
    | some s, _ => return .markup (s ++ t)
    | Option.none, .list _ => throw (.concatenation "list" "Markup")
    | Option.none, .tuple _ => throw (.concatenation "tuple" "Markup")
    | Option.none, _ => throw (undefinedOn "+" a b)
  | _, .missing _ m => throw m.fault
  | .list r, .list r' => do Eval.list ((← Look.items r) ++ (← Look.items r'))
  | .list _, _ => throw (.concatenation "list" b.typeWord)
  | .tuple r, .tuple r' => do addTuples a b (← Look.items r) (← Look.items r')
  | .tuple _, _ => throw (.concatenation "tuple" b.typeWord)
  | .bytes x, .bytes y => return addBytes a b x y
  | .bytes _, _ => throw (.byteConcatenation b.typeWord)
  | _, _ =>
    match a.text?, b.text? with
    | some s, some t => return addTexts a b s t
    | some _, Option.none => throw (.concatenation "str" b.typeWord)
    | _, _ => throw (undefinedOn "+" a b)

/-- The sum of numbers, or one sequence behind another of its type. -/
def add (a b : Value) : Eval Value :=
  match a.content.sum? b.content with
  | some c => do return ofContent (← c)
  | Option.none => addSequences a b

/-- Whether a value is a view that is compared as a set. -/
def isSetView (v : Value) : Bool :=
  match v.content with
  | .view .keys _ | .view .items _ => true
  | _ => false

/-- Whether a value is a set. -/
def isSet (v : Value) : Bool :=
  match v.content with
  | .set _ => true
  | _ => false

/-- The number of bits of a count of items. -/
def countBits : Nat := 63

/-- Whether an integer can count items. -/
def countable (n : Int) : Bool := -2 ^ countBits ≤ n && n < 2 ^ countBits

/-- Whether the value can be repeated. -/
def isRepeatable (v : Value) : Bool :=
  match v.content with
  | .str _ | .markup _ | .category _ | .bytes _ | .list _ | .tuple _ => true
  | _ => false

/-- A sequence repeated; a count below one gives the empty sequence, and once a text, bytes or a
tuple is the sequence itself. -/
def repeated (v : Value) (n : Int) : Eval Value :=
  let copies {α : Type} (xs : List α) : List α := (List.replicate n.toNat xs).flatten
  match v.content with
  | .str s => return if n = 1 then v else .ofChars (copies s.toList)
  | .markup s => return .markup (String.ofList (copies s.toList))
  | .category c => return .ofChars (copies c.name.toList)
  | .bytes bs => return if n = 1 then v else .ofContent (.bytes (copies bs))
  | .list r => do Eval.list (copies (← Look.items r))
  | .tuple r => do if n = 1 then return v else Eval.tuple (copies (← Look.items r))
  | _ => return v

/-- A sequence repeated as often as an integer says, when these are the two values. -/
def repetition? (v count : Value) : Option (Eval Value) :=
  match v.isRepeatable, count.int? with
  | true, some n => some (if countable n then v.repeated n else throw (.excess .count))
  | _, _ => Option.none

/-- The product of numbers, or a sequence repeated. -/
def multiply (a b : Value) : Eval Value :=
  match a.content.product? b.content with
  | some c => do return ofContent (← c)
  | Option.none =>
    match a.content, b.content with
    | .missing _ m, _ => throw m.fault
    | _, .missing _ m => throw m.fault
    | c, _ =>
      match repetition? a b, repetition? b a with
      | some r, _ => r
      | Option.none, some r => r
      | Option.none, Option.none =>
        match c with
        | .markup _ => throw (undefinedOn "*" a b)
        | _ =>
          if a.isRepeatable then throw (.repetition b.typeWord)
          else if b.isRepeatable then throw (.repetition a.typeWord)
          else throw (undefinedOn "*" a b)

/-- The quotient. -/
def divide (a b : Value) : Except Fault Value :=
  computed "/" a b (a.content.quotient? b.content)

/-- The greatest whole number not above the quotient. -/
def floorDivide (a b : Value) : Except Fault Value :=
  computed "//" a b (a.content.floorQuotient? b.content)

/-- The power. -/
def power (a b : Value) : Except Fault Value :=
  computed "** or pow()" a b (a.content.power? b.content)

/-- The result of a sign, or else the fault that there is none. -/
def signed (name : String) (v : Value) (r : Option (Except Fault Content)) : Except Fault Value :=
  match r, v.content with
  | some c, _ => c.map ofContent
  | Option.none, .missing _ m => .error m.fault
  | Option.none, _ => .error (.operand name v.typeWord)

/-- The number with the other sign. -/
def negate (v : Value) : Except Fault Value := signed "unary -" v v.content.negative?

/-- Whether a value is an integer or a float, and no truth value. -/
def isPlainNumber (v : Value) : Bool :=
  match v.content with
  | .int _ | .float _ => true
  | _ => false

/-- The number itself. -/
def plus (v : Value) : Except Fault Value :=
  if v.isPlainNumber then .ok v else signed "unary +" v v.content.positive?

/-- The absolute value of a number. -/
def magnitude (v : Value) : Except Fault Value :=
  match v.content, v.content.magnitude? with
  | .int n, some c => if 0 ≤ n then .ok v else c.map ofContent
  | .missing .., Option.none => .error (.operand "abs()" v.typeWord)
  | _, r => signed "abs()" v r

end Value

namespace Setting

variable (s : Setting)

/-- The members of a set made from a value, each once. -/
def members (v : Value) : Eval (List Value) := do
  s.foldSource (fun found w => do
    (w.requireKey : Look Unit)
    return if ← (memberOf w found : Look Bool) then found else found ++ [w]) (← v.source) []

/-- The members that no item of a value is equal to. -/
def withoutItems (found : List Value) (v : Value) : Eval (List Value) := do
  s.foldSource (fun found w => do
    (w.requireKey : Look Unit)
    (found.filterM fun x => do return !(← Value.fits Value.equal x w) : Look (List Value)))
    (← v.source) found

/-- The difference of two numbers or moments, or the members of a set without those of another; if
one side is a view of a mapping, the other may be everything that has items. -/
def subtract (a b : Value) : Eval Value := do
  match a.content.difference? b.content with
  | some c => return .ofContent (← c)
  | none =>
    match a.content with
    | .missing _ m => throw m.fault
    | _ =>
      if a.isSetView || b.isSetView || (a.isSet && b.isSet) then do
        let found ← s.withoutItems (← s.members a) b
        (Building.set found : Building Value)
      else throw (Value.undefinedOn "-" a b)

/-- The only value of a layout, unless it has several. -/
def soleValue? (b : Value) : Look (Option Value) :=
  match b.content with
  | .tuple r => do
    match ← Look.items r with
    | [v] => return some v
    | _ => return none
  | _ => return some b

/-- A text as a layout for values; a plain text alone is itself. -/
def laidOut (layout : String) (b : Value) : Look Value := do
  let t ← Value.layOut s.futures.shown false layout b
  match layout == "%s", ← soleValue? b with
  | true, some v => return if v.plainText? = some t then v else .str t
  | _, _ => return .str t

/-- The remainder of two numbers; for a text, its directives filled with values. -/
def modulo (a b : Value) : Look Value :=
  match a.content with
  | .str f => s.laidOut f b
  | .markup f => do return .markup (← Value.layOut s.futures.shown true f b)
  | .category c => s.laidOut c.name b
  | _ => Value.computed "%" a b (a.content.rest? b.content)

end Setting

end Interpolation
