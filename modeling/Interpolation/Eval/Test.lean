import Interpolation.Eval.Call
import Interpolation.Eval.FilterName
import Interpolation.Eval.Operator

/-!
# Tests

A test asks a question about a value, some with one more argument. Tests are found by name; the
comparing ones also by their symbols.

Main definitions:

* `TestName`: the tests, with `TestName.ofName?`.
* `Setting.test`: the answer of a test.
-/

namespace Interpolation

open Interpolation.Text

/-- The tests. -/
inductive TestName where
  | boolean | callable | defined | divisible | equal | escaped | even | isFalse | filter | float
  | ordered (c : Comparison) (callee : String)
  | within | integer | iterable | lower | mapping | unequal | isNone | number | odd | sameAs
  | sequence | string | test | isTrue | undefined | upper
deriving DecidableEq, Repr

namespace TestName

/-- The tests by their names. -/
def names : List (String × TestName) :=
  [("boolean", .boolean), ("callable", .callable), ("defined", .defined),
   ("divisibleby", .divisible), ("eq", .equal), ("equalto", .equal), ("==", .equal),
   ("escaped", .escaped), ("even", .even), ("false", .isFalse), ("filter", .filter),
   ("float", .float), ("ge", .ordered .ge "ge"), (">=", .ordered .ge "ge"),
   ("gt", .ordered .gt "gt"), ("greaterthan", .ordered .gt "gt"), (">", .ordered .gt "gt"),
   ("in", .within), ("integer", .integer), ("iterable", .iterable), ("le", .ordered .le "le"),
   ("<=", .ordered .le "le"), ("lower", .lower), ("lt", .ordered .lt "lt"),
   ("lessthan", .ordered .lt "lt"), ("<", .ordered .lt "lt"), ("mapping", .mapping),
   ("ne", .unequal), ("!=", .unequal), ("none", .isNone), ("number", .number), ("odd", .odd),
   ("sameas", .sameAs), ("sequence", .sequence), ("string", .string), ("test", .test),
   ("true", .isTrue), ("undefined", .undefined), ("upper", .upper)]

/-- The test with a name. -/
def ofName? (name : String) : Option TestName := names.lookup name

/-- The name that reports call a test by. -/
def callee : TestName → String
  | .boolean => "test_boolean"
  | .callable => "callable"
  | .defined => "test_defined"
  | .divisible => "test_divisibleby"
  | .equal => "eq"
  | .escaped => "test_escaped"
  | .even => "test_even"
  | .isFalse => "test_false"
  | .filter => "test_filter"
  | .float => "test_float"
  | .ordered _ callee => callee
  | .within => "test_in"
  | .integer => "test_integer"
  | .iterable => "test_iterable"
  | .lower => "test_lower"
  | .mapping => "test_mapping"
  | .unequal => "ne"
  | .isNone => "test_none"
  | .number => "test_number"
  | .odd => "test_odd"
  | .sameAs => "test_sameas"
  | .sequence => "test_sequence"
  | .string => "test_string"
  | .test => "test_test"
  | .isTrue => "test_true"
  | .undefined => "test_undefined"
  | .upper => "test_upper"

/-- The arguments of a test besides the value, in order. -/
def bind (t : TestName) (a : Arguments) : Except Fault (List Value) :=
  match t with
  | .callable => do
    if !a.named.isEmpty then throw (.arity (.unnamed "callable"))
    if !a.positional.isEmpty then
      throw (.arity (.one "callable" (a.positional.length + 1)))
    return []
  | .equal | .unequal | .ordered .. => do
    if !a.named.isEmpty then throw (.arity (.unnamed t.callee))
    if a.positional.length ≠ 1 then
      throw (.arity (.expected t.callee "" 2 (a.positional.length + 1)))
    return a.positional
  | .divisible => Signature.bind ⟨t.callee, ["value"], [required "num"]⟩ a
  | .within => Signature.bind ⟨t.callee, ["value"], [required "seq"]⟩ a
  | .sameAs => Signature.bind ⟨t.callee, ["value"], [required "other"]⟩ a
  | .filter | .test => Signature.bind ⟨t.callee, ["env", "value"], []⟩ a
  | _ => Signature.bind ⟨t.callee, ["value"], []⟩ a

end TestName

namespace Setting

variable (s : Setting)

/-- Whether a name is one of several. -/
def isNamed (names : List String) (v : Value) : Look Bool := do
  v.requireKey
  match v.text? with
  | some n => return names.contains n
  | none => return false

/-- Whether a value can be looked into by places or keys and knows its size. -/
def isSequence (v : Value) : Bool :=
  match v.content with
  | .str _ | .markup _ | .category _ | .bytes _ | .list _ | .tuple _ | .dict _ | .proxy _
  | .range .. | .missing .chaining _ | .missing .plain _ => true
  | _ => false

/-- Whether a value can be called. -/
def isCallable (v : Value) : Bool :=
  match v.content with
  | .method .. | .global _ | .typeNamed _ | .missing .. | .generic _ | .joiner _ => true
  | .member sort _ _ => sort == "method_descriptor" || sort == "function"
  | _ => false

/-- Whether a value can be walked through; a strict missing value refuses the question. -/
def isIterable (v : Value) : Look Bool := fun store =>
  match v.source.run store with
  | .ok _ => .ok true
  | .error f => if f.label = "TypeError" then .ok false else .error f

/-- Whether a value has a remainder by another. -/
def hasRest (v divisor : Value) (rest : Int) : Look Bool := do
  (← s.modulo v divisor).equal (.int rest)

/-- Whether a value is of a kind that one of the tests asks for. -/
def isOfKind (t : TestName) (v : Value) : Bool :=
  match t, v.content with
  | .boolean, .bool _ | .isFalse, .bool false | .isTrue, .bool true | .escaped, .markup _
  | .escaped, .missing .chaining _ | .float, .float _ | .integer, .int _ | .mapping, .dict _
  | .mapping, .proxy _ | .isNone, .none | .number, .bool _ | .number, .int _ | .number, .float _
  | .number, .complex .. | .number, .decimal _ | .undefined, .missing .. => true
  | .defined, c => match c with
    | .missing .. => false
    | _ => true
  | .callable, _ => isCallable v
  | .sequence, _ => isSequence v
  | .string, _ => v.text?.isSome
  | _, _ => false

/-- The answer of a test, which may be any value. -/
def test (t : TestName) (v : Value) (arguments : List Value) : Eval Value := do
  let other := (arguments[0]?).getD .none
  match t with
  | .divisible => return .bool (← (s.hasRest v other 0 : Look Bool))
  | .even => return .bool (← (s.hasRest v (.int 2) 0 : Look Bool))
  | .odd => return .bool (← (s.hasRest v (.int 2) 1 : Look Bool))
  | .equal => return .bool (← v.equal other)
  | .unequal => return .bool !(← v.equal other)
  | .ordered c _ => return .bool (← Value.ordered c v other)
  | .within => return .bool (← s.contains other v)
  | .filter => return .bool (← isNamed (FilterName.names.map Prod.fst) v)
  | .test => return .bool (← isNamed (TestName.names.map Prod.fst) v)
  | .iterable => return .bool (← isIterable v)
  | .lower => return .bool (isAllCase isLower (← (s.display v : Look String)).toList)
  | .upper => return .bool (isAllCase isUpper (← (s.display v : Look String)).toList)
  | .sameAs => return .bool (v.same other)
  | _ => return .bool (isOfKind t v)

end Setting

end Interpolation
