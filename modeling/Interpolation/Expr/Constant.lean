import Interpolation.Eval.Environment
import Interpolation.Eval.Evaluate

/-!
# Constant parts

A part of an expression that needs no context is computed once, when the expression is compiled, in
the environment that it is compiled for, and a constant takes its place. Names, calls and the
filters that are handed the context are never computed ahead, and neither is what has no value or has
one that cannot be written down. What a choice, `and` or `or` does not need may be anything. A few
parts are found out to have no value in any context and refuse the whole expression.

Main definitions:

* `Value.datum?`: a value as a constant.
* `Setting.constantly`: the value of an expression that needs no context.
* `Expr.folded`: an expression with constants in the place of its constant parts.
-/

namespace Interpolation

/-- The value of a content as a constant, unless it cannot be written down. -/
def Content.datum? (c : Content) : Option Datum :=
  match c with
  | .none | .bool _ | .int _ | .float _ | .complex .. | .str _ | .markup _ | .range .. =>
    some (.atom c)
  | _ => Option.none

/-- A value as a constant, down to a number of levels, unless it cannot be written down. -/
def Value.datumTo? : (fuel : Nat) → Value → Look (Option Datum)
  | 0, _ => return Option.none
  | fuel + 1, v => do
    let all (r : Ref) : Look (Option (List Datum)) := do
      return (← (← Look.items r).mapM (datumTo? fuel)).mapM fun d => d
    match v.content, v.record? with
    | .list r, _ => return (← all r).map .list
    | .tuple r, Option.none => return (← all r).map .tuple
    | .set r, _ => return (← all r).map .set
    | .dict r, _ => do
      let entries ← (← Look.entries r).mapM fun (k, w) => do
        match ← datumTo? fuel k, ← datumTo? fuel w with
        | some key, some d => return some (key, d)
        | _, _ => return Option.none
      return (entries.mapM (fun e => e)).map Datum.dict
    | c, _ => return c.datum?

/-- A value as a constant, unless it cannot be written down. -/
def Value.datum? (v : Value) : Look (Option Datum) := do
  v.datumTo? ((← read).cells.size + 1)

/-- A computation of which a fault means that there is no constant. -/
def Eval.perhaps {α : Type} (x : Eval (Option α)) : Eval (Option α) :=
  Eval.orElse x fun _ => return none

namespace Setting

variable (s : Setting)

/-- Whether a filter is handed the context: it applies other filters or tests, or draws by
chance. -/
def needsContext (f : FilterName) : Bool :=
  match f with
  | .map | .select | .reject | .selectAttr | .rejectAttr | .random => true
  | _ => false

/-- Entries of a mapping as named arguments that take the place of earlier ones. -/
def mergeConstants (named : List (String × Value)) (v : Value) :
    Eval (List (String × Value)) := do
  let entries ← s.addEntriesOf [] v
  return (← namedEntries entries).foldl (fun named (n, w) => putNamed n w named) named

mutual

/-- The value of an expression, if it needs no context. -/
def constantly : Expr → Eval (Option Value)
  | .literal d => do return some (← (d.load : Building Value))
  | .name _ | .alias .. | .call .. => return none
  | .list items => do
    match ← constants items with
    | some vs => return some (← Eval.list vs)
    | none => return none
  | .tuple items => do
    match ← constants items with
    | some vs => return some (← Eval.tuple vs)
    | none => return none
  | .dict entries => do
    match ← constantEntries [] entries with
    | some entries => return some (← (Building.dict entries : Building Value))
    | none => return none
  | .attribute e n => Eval.perhaps do
    match ← constantly e with
    | some v => return some (← s.attributeOf v n)
    | none => return none
  | .item e key => Eval.perhaps do
    match ← constantly e, ← constantly key with
    | some v, some k => return some (← s.itemOf v k)
    | _, _ => return none
  | .slice e start stop step => Eval.perhaps do
    match ← constantly e, ← constantly start, ← constantly stop, ← constantly step with
    | some v, some a, some b, some c =>
      return some (← s.itemOf v (← (Building.slice a b c : Building Value)))
    | _, _, _, _ => return none
  | .sliceKey start stop step => do
    match ← constantly start, ← constantly stop, ← constantly step with
    | some a, some b, some c => return some (← (Building.slice a b c : Building Value))
    | _, _, _ => return none
  | .filter _ e n arguments =>
    match FilterName.ofName? n with
    | none => return none
    | some f =>
      if needsContext f then return none
      else Eval.perhaps do
        match ← constantArguments Arguments.none arguments, ← constantly e with
        | some a, some v => return some (← s.filter f v a)
        | _, _ => return none
  | .test _ e n arguments =>
    match TestName.ofName? n with
    | none => return none
    | some t => Eval.perhaps do
      match ← constantArguments Arguments.none arguments, ← constantly e with
      | some a, some v => return some (← s.test t v (← t.bind a))
      | _, _ => return none
  | .negative e => Eval.perhaps do
    match ← constantly e with
    | some v => return some (← v.negate)
    | none => return none
  | .positive e => Eval.perhaps do
    match ← constantly e with
    | some v => return some (← v.plus)
    | none => return none
  | .not e => Eval.perhaps do
    match ← constantly e with
    | some v => return some (.bool !(← (v.truth : Look Bool)))
    | none => return none
  | .binary op left right => Eval.perhaps do
    match ← constantly left, ← constantly right with
    | some a, some b => return some (← s.binary op a b)
    | _, _ => return none
  | .concat parts => constantText [] parts
  | .compare first rest => Eval.perhaps do
    match ← constantly first with
    | some v => constantChain v rest
    | none => return none
  | .and left right => do
    match ← constantly left with
    | some a => if ← (a.truth : Look Bool) then constantly right else return some a
    | none => return none
  | .or left right => do
    match ← constantly left with
    | some a => if ← (a.truth : Look Bool) then return some a else constantly right
    | none => return none
  | .choice condition body other => do
    match ← constantly condition with
    | some c => if ← (c.truth : Look Bool) then constantly body else constantly other
    | none => return none
  | .guarded _ condition body => do
    match ← constantly condition with
    | some c => if ← (c.truth : Look Bool) then constantly body else return none
    | none => return none

/-- The values of several expressions, if none of them needs a context. -/
def constants : List Expr → Eval (Option (List Value))
  | [] => return some []
  | e :: es => do
    match ← constantly e with
    | none => return none
    | some v => return (← constants es).map fun vs => v :: vs

/-- The entries of a mapping behind some others; each key must be one that a mapping can have. -/
def constantEntries (known : List (Value × Value)) :
    List (Expr × Expr) → Eval (Option (List (Value × Value)))
  | [] => return some known
  | (k, e) :: entries => do
    match ← constantly k with
    | none => return none
    | some key =>
      match ← constantly e with
      | none => return none
      | some v => constantEntries (← (insertEntries known [(key, v)] : Look _)) entries

/-- A text put together from the texts of several expressions. -/
def constantText (texts : List String) : List Expr → Eval (Option Value)
  | [] => return some (.str (String.join texts.reverse))
  | e :: es => do
    match ← constantly e with
    | none => return none
    | some v => constantText ((← (s.display v : Look String)) :: texts) es

/-- The answer of a chain of comparisons; what follows one that does not hold is not needed. -/
def constantChain (left : Value) : List (CompareOp × Expr) → Eval (Option Value)
  | [] => return some (.bool true)
  | (op, e) :: rest => do
    match ← constantly e with
    | none => return none
    | some right =>
      if ← s.holds op left right then constantChain right rest else return some (.bool false)

/-- The arguments of a filter or test behind some others, positional ones first. -/
def constantArguments : Arguments → List Argument → Eval (Option Arguments)
  | a, [] => return some a
  | a, .positional e :: rest => do
    match ← constantly e with
    | none => return none
    | some v => constantArguments { a with positional := a.positional ++ [v] } rest
  | a, .named n e :: rest => do
    match ← constantly e with
    | none => return none
    | some v => constantArguments { a with named := putNamed n v a.named } rest
  | a, .spread e :: rest => do
    match ← constantly e with
    | none => return none
    | some v => constantArguments { a with positional := a.positional ++ (← s.items v) } rest
  | a, .spreadNamed e :: rest => do
    match ← constantly e with
    | none => return none
    | some v => constantArguments { a with named := ← s.mergeConstants a.named v } rest

end

end Setting

namespace Expr

/-- The constant that an expression amounts to, if there is one that can be written down. -/
def constant? (environment : Environment) (e : Expr) : Except Fault (Option Datum) :=
  let s := environment.setting Futures.empty
  (Eval.runOn (do
    match ← s.constantly e with
    | some v => (v.datum? : Look (Option Datum))
    | none => return none) Store.empty).1

/-- A constant in the place of an expression that amounts to one. -/
def reduced (environment : Environment) (e : Expr) : Except Fault Expr := do
  match ← e.constant? environment with
  | some d => return .literal d
  | none => return e

mutual

/-- The expression with constants in the place of its constant parts. -/
def folded (environment : Environment) : Expr → Except Fault Expr
  | .literal d => return .literal d
  | .name n => return .name n
  | .alias n other => return .alias n other
  | .list items => do reduced environment (.list (← foldedAll environment items))
  | .tuple items => do reduced environment (.tuple (← foldedAll environment items))
  | .dict entries => do reduced environment (.dict (← foldedEntries environment entries))
  | .attribute e n => do reduced environment (.attribute (← folded environment e) n)
  | .item e key => do
    let e ← folded environment e
    reduced environment (.item e (← folded environment key))
  | .slice e start stop step => do
    let e ← folded environment e
    let start ← folded environment start
    let stop ← folded environment stop
    reduced environment (.slice e start stop (← folded environment step))
  | .sliceKey start stop step => do
    let start ← folded environment start
    let stop ← folded environment stop
    return .sliceKey start stop (← folded environment step)
  | .call callee arguments => do
    let callee ← folded environment callee
    return .call callee (← foldedArguments environment arguments)
  | .filter line e n arguments => do
    let e ← folded environment e
    reduced environment (.filter line e n (← foldedArguments environment arguments))
  | .test line e n arguments => do
    let e ← folded environment e
    reduced environment (.test line e n (← foldedArguments environment arguments))
  | .negative e => do reduced environment (.negative (← folded environment e))
  | .positive e => do reduced environment (.positive (← folded environment e))
  | .not e => do reduced environment (.not (← folded environment e))
  | .binary op left right => do
    let left ← folded environment left
    reduced environment (.binary op left (← folded environment right))
  | .concat parts => do reduced environment (.concat (← foldedAll environment parts))
  | .compare first rest => do
    let first ← folded environment first
    reduced environment (.compare first (← foldedChain environment rest))
  | .and left right => do
    let left ← folded environment left
    reduced environment (.and left (← folded environment right))
  | .or left right => do
    let left ← folded environment left
    reduced environment (.or left (← folded environment right))
  | .choice condition body other => do
    let condition ← folded environment condition
    let body ← folded environment body
    reduced environment (.choice condition body (← folded environment other))
  | .guarded line condition body => do
    let condition ← folded environment condition
    let body ← folded environment body
    reduced environment (.guarded line condition body)

/-- Several expressions with constants in the place of their constant parts. -/
def foldedAll (environment : Environment) : List Expr → Except Fault (List Expr)
  | [] => return []
  | e :: es => do
    let e ← folded environment e
    return e :: (← foldedAll environment es)

/-- Entries with constants in the place of their constant parts. -/
def foldedEntries (environment : Environment) :
    List (Expr × Expr) → Except Fault (List (Expr × Expr))
  | [] => return []
  | (k, e) :: entries => do
    let k ← folded environment k
    let e ← folded environment e
    return (k, e) :: (← foldedEntries environment entries)

/-- The operands of a chain with constants in the place of their constant parts. -/
def foldedChain (environment : Environment) :
    List (CompareOp × Expr) → Except Fault (List (CompareOp × Expr))
  | [] => return []
  | (op, e) :: rest => do
    let e ← folded environment e
    return (op, e) :: (← foldedChain environment rest)

/-- Arguments with constants in the place of their constant parts. -/
def foldedArguments (environment : Environment) : List Argument → Except Fault (List Argument)
  | [] => return []
  | .positional e :: rest => do
    let e ← folded environment e
    return .positional e :: (← foldedArguments environment rest)
  | .named n e :: rest => do
    let e ← folded environment e
    return .named n e :: (← foldedArguments environment rest)
  | .spread e :: rest => do
    let e ← folded environment e
    return .spread e :: (← foldedArguments environment rest)
  | .spreadNamed e :: rest => do
    let e ← folded environment e
    return .spreadNamed e :: (← foldedArguments environment rest)

end

end Expr

end Interpolation
