import Interpolation.Eval.Stream
import Interpolation.Expr.Syntax
import Interpolation.Text.NormalForm
import Interpolation.Value.Loading

/-!
# The value of an expression

The value of an expression in a setting: operands from left to right, the second side of `and` and
`or` and the branches of a choice only when they are needed. Futures are resolved nowhere but in the
look-ups of attributes and items, so two settings that differ only in whether they resolve futures
differ nowhere else.

Main definitions:

* `Setting.name`: what a name stands for.
* `Setting.eval`: the value of an expression.
-/

namespace Interpolation

open Interpolation.Text

/-- What every context has besides its own names. -/
def globalNames : List (String × Global) :=
  [("range", .range), ("dict", .dict), ("lipsum", .lipsum), ("cycler", .cycler),
   ("joiner", .joiner), ("namespace", .namespaceType)]

/-- The words that have a meaning of their own where arguments are named; with one of them among the
names of a call, a later argument of a name takes the place of an earlier one. -/
def reservedWords : List String :=
  ["False", "None", "True", "and", "as", "assert", "async", "await", "break", "class", "continue",
   "def", "del", "elif", "else", "except", "finally", "for", "from", "global", "if", "import", "in",
   "is", "lambda", "nonlocal", "not", "or", "pass", "raise", "return", "try", "while", "with",
   "yield"]

/-- Whether one of the arguments is named by a reserved word. -/
def namesReserved (arguments : List Argument) : Bool :=
  arguments.any fun
    | .named n _ => reservedWords.contains n
    | _ => false

/-- Named values with one more, in the place of the one of its name if there is one. -/
def putNamed (n : String) (v : Value) : List (String × Value) → List (String × Value)
  | [] => [(n, v)]
  | (m, w) :: named => if m = n then (m, v) :: named else (m, w) :: putNamed n v named

/-- Entries as named arguments: every key must be a text. -/
def namedEntries (entries : List (Value × Value)) : Except Fault (List (String × Value)) :=
  entries.mapM fun (k, v) =>
    match k.text? with
    | some n => .ok (n, v)
    | none => .error .namesMustBeText

/-- The name under which reports tell of the spread arguments of a call. -/
def callCallee : String := "jinja2.runtime.Context.call"

/-- The name under which reports tell of the spread arguments of a filter. -/
def filterCallee (name : String) : String :=
  match FilterName.ofName? name with
  | none => name
  | some f =>
    let callee := f.signature.callee
    if callee = "abs" ∨ callee = "len" then callee
    else if callee = "escape" ∨ callee = "soft_str" then "markupsafe." ++ callee
    else "jinja2.filters." ++ callee

/-- The name under which reports tell of the spread arguments of a test. -/
def testCallee (name : String) : String :=
  match TestName.ofName? name with
  | none => name
  | some .callable => "callable"
  | some t =>
    match t with
    | .equal | .unequal | .ordered .. => "_operator." ++ t.callee
    | t => "jinja2.tests." ++ t.callee

/-- The names of what a call is given besides the arguments. -/
def takenNames : List String := ["_Context__self", "_Context__obj"]

/-- The named arguments that a call keeps for itself. -/
def unpassedNames : List String := ["_loop_vars", "_block_vars"]

/-- The arguments that a call passes on. -/
def Arguments.passed (a : Arguments) : Except Fault Arguments :=
  match a.named.find? fun (n, _) => takenNames.contains n with
  | some (n, _) => .error (.arity (.twice "Context.call" n))
  | Option.none => .ok { a with named := a.named.filter fun (n, _) => !unpassedNames.contains n }

/-- The value of a constant of the expression. -/
def Eval.ofConstant (d : Datum) : Eval Value :=
  match d.unspelled? with
  | some word => throw (.unknownName word)
  | none => (d.literal : Building Value)

namespace Setting

variable (s : Setting)

/-- What is told of a name for which there is no value; nobody asks whether `self` has one. -/
def unbound (n : String) : Value :=
  if n = "self" then .ofContent (.member "MissingType" "" "") else s.missing (.name n)

/-- What a name stands for in whose place another one stands. -/
def nameAs (n other : String) : Building Value := do
  if other = "self" then return .ofContent .selfReference
  else
    match (← get).bound.lookup other, globalNames.lookup other with
    | some v, _ => return v
    | none, some g => return .ofContent (.global g)
    | none, none => return s.unbound n

/-- What a name stands for. -/
def name (n : String) : Building Value := s.nameAs n n

/-- The value of an operator between two values. -/
def binary (op : BinaryOp) (a b : Value) : Eval Value :=
  match op with
  | .add => a.add b
  | .subtract => s.subtract a b
  | .multiply => a.multiply b
  | .divide => a.divide b
  | .floorDivide => a.floorDivide b
  | .remainder => (s.modulo a b : Look Value)
  | .power => a.power b

/-- Whether a comparison holds. -/
def holds (op : CompareOp) (a b : Value) : Eval Bool :=
  match op with
  | .equal => (a.equal b : Look Bool)
  | .unequal => do return !(← (a.equal b : Look Bool))
  | .ordered c => (Value.ordered c a b : Look Bool)
  | .within => s.contains b a
  | .without => do return !(← s.contains b a)

/-- The items of a value that is spread over positional arguments. -/
def spread (v : Value) : Eval (List Value) := do
  match v.source.run (← getThe Store) with
  | .error (.notIterable t) => throw (.notASpread t)
  | .error f => throw f
  | .ok source => s.drain source

/-- The entries of a mapping that is spread over named arguments. -/
def spreadNamed (callee : String) (v : Value) : Eval (List (Value × Value)) := do
  match v.content with
  | .dict r | .proxy r => return ← Look.entries r
  | .missing _ m => throw m.fault
  | _ =>
    match ← v.native? "keys" with
    | some keys => do
      let _ ← s.call keys Arguments.none
      return []
    | none => throw (.notAMapping callee v.typeWord)

/-- Named arguments with the entries of a mapping; where none of them may take the place of another,
it is refused. -/
def mergeNamed (merging : Bool) (callee : String) (named : List (String × Value))
    (entries : List (Value × Value)) : Except Fault (List (String × Value)) := do
  let repeated? := entries.findSome? fun (k, _) => k.text?.filter fun n => (named.lookup n).isSome
  match merging, repeated? with
  | false, some n => throw (.repeatedName callee n)
  | _, _ => return (← namedEntries entries).foldl (fun named (n, v) => putNamed n v named) named

/-- What a call is answered; an answer is missing where the call says that there are no more
items. -/
def answer (f : Value) (a : Arguments) : Eval Value :=
  Eval.orElse (s.call f a) fun e => if e.endsStream then return s.missing .answer else throw e

mutual

/-- The value of an expression. -/
def eval : Expr → Eval Value
  | .literal d => Eval.ofConstant d
  | .name n => (s.name n : Building Value)
  | .alias n none => return s.missing (.name n)
  | .alias n (some other) => (s.nameAs n other : Building Value)
  | .list items => do Eval.list (← evalAll items)
  | .tuple items => do Eval.tuple (← evalAll items)
  | .dict entries => do
    let pairs ← evalEntries entries
    let entries ← (insertEntries [] pairs : Look _)
    (Building.dict entries : Building Value)
  | .attribute e n => do s.attributeOf (← eval e) n
  | .item e key => do
    let v ← eval e
    s.itemOf v (← eval key)
  | .slice e start stop step => do
    let v ← eval e
    let first ← eval start
    let last ← eval stop
    v.sliced first last (← eval step)
  | .sliceKey start stop step => do
    let first ← eval start
    let last ← eval stop
    let stride ← eval step
    (Building.slice first last stride : Building Value)
  | .call callee arguments => do
    let f ← eval callee
    let a ← evalArguments callCallee (namesReserved arguments) Arguments.none arguments
    s.answer f (← a.passed)
  | .filter _ e n arguments => do
    let v ← Eval.keep (← eval e)
    let a ← evalArguments (filterCallee n) (namesReserved arguments) Arguments.none arguments
    match FilterName.ofName? n with
    | some f => s.filter f v a
    | none => throw (.notApplicable "filter" (quote n) false none)
  | .test _ e n arguments => do
    let v ← Eval.keep (← eval e)
    let a ← evalArguments (testCallee n) (namesReserved arguments) Arguments.none arguments
    match TestName.ofName? n with
    | some t => s.test t v (← t.bind a)
    | none => throw (.notApplicable "test" (quote n) false none)
  | .negative e => do (← eval e).negate
  | .positive e => do (← eval e).plus
  | .binary op left right => do
    let a ← eval left
    s.binary op a (← eval right)
  | .concat parts => do
    let texts ← (← evalAll parts).mapM fun v => (s.display v : Look String)
    return .str (String.join texts)
  | .compare first rest => do
    let v ← eval first
    evalChain v rest
  | .and left right => do
    let a ← eval left
    if ← (a.truth : Look Bool) then eval right else return a
  | .or left right => do
    let a ← eval left
    if ← (a.truth : Look Bool) then return a else eval right
  | .not e => do return .bool !(← ((← eval e).truth : Look Bool))
  | .choice condition body other => do
    if ← ((← eval condition).truth : Look Bool) then eval body else eval other
  | .guarded line condition body => do
    if ← ((← eval condition).truth : Look Bool) then eval body
    else return .ofContent (.missing .plain (.otherBranch line))

/-- The values of several expressions. -/
def evalAll : List Expr → Eval (List Value)
  | [] => return []
  | e :: es => do
    let v ← eval e
    return v :: (← evalAll es)

/-- The values of the entries of a mapping. -/
def evalEntries : List (Expr × Expr) → Eval (List (Value × Value))
  | [] => return []
  | (k, e) :: entries => do
    let key ← eval k
    let v ← eval e
    return (key, v) :: (← evalEntries entries)

/-- The value of a chain of comparisons; the first one that does not hold ends it. -/
def evalChain (left : Value) : List (CompareOp × Expr) → Eval Value
  | [] => return .bool true
  | (op, e) :: rest => do
    let right ← eval e
    if ← s.holds op left right then evalChain right rest else return .bool false

/-- The arguments of a call behind the ones that are known, from left to right; `merging` says that
a later argument of a name takes the place of an earlier one. Otherwise the names count in their
normal form. -/
def evalArguments (callee : String) (merging : Bool) : Arguments → List Argument → Eval Arguments
  | a, [] => return a
  | a, .positional e :: rest => do
    let v ← Eval.keep (← eval e)
    evalArguments callee merging { a with positional := a.positional ++ [v] } rest
  | a, .spread e :: rest => do
    let vs ← (← s.spread (← eval e)).mapM Eval.keep
    evalArguments callee merging { a with positional := a.positional ++ vs } rest
  | a, .named n e :: rest => do
    let v ← Eval.keep (← eval e)
    let n := if merging then n else normalName n
    evalArguments callee merging { a with named := putNamed n v a.named } rest
  | a, .spreadNamed e :: rest => do
    let entries ← s.spreadNamed (if merging then "dict" else callee) (← eval e)
    let named ← mergeNamed merging callee a.named entries
    evalArguments callee merging { a with named := named } rest

end

end Setting

end Interpolation
