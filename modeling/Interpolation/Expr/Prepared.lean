import Interpolation.Expr.Constant

/-!
# Prepared expressions

Before an expression is evaluated it is prepared: its constant parts are computed, and it is refused
if it uses a filter or a test that does not exist, has a constant with too many digits, puts a slice
among several keys, or gives an argument twice by the same name. Inside of a choice a filter or test
that does not exist is found out only when it is applied. A filter is looked at before the value
that it is applied to.

The values of names are kept in places, and names of one normal form have the same place. Which of
them stands there is found out from all names that occur in the expression as it was written.

Main definitions:

* `Expr.names`: the names that occur in an expression.
* `Expr.inPlace`: the name that stands in the place of a name.
* `Expr.prepared`: the prepared expression.
-/

namespace Interpolation

open Interpolation.Text (normalName)

namespace Datum

mutual

/-- Whether a constant holds an integer with more digits than are written. -/
def hasLongInteger : Datum → Bool
  | .held v =>
    match v.content with
    | .int n => exceedsDigits n
    | .range a b s => exceedsDigits a || exceedsDigits b || exceedsDigits s
    | _ => false
  | .list items | .tuple items | .set items => anyLongInteger items
  | .dict entries => entriesHaveLongInteger entries
  | _ => false

/-- Whether one of several constants holds such an integer. -/
def anyLongInteger : List Datum → Bool
  | [] => false
  | d :: ds => hasLongInteger d || anyLongInteger ds

/-- Whether an entry holds such an integer. -/
def entriesHaveLongInteger : List (Datum × Datum) → Bool
  | [] => false
  | (k, d) :: entries => hasLongInteger k || hasLongInteger d || entriesHaveLongInteger entries

end

/-- The positive constant of which a number below zero is written as the negative. -/
def negated? : Datum → Option Datum
  | .held v =>
    match v.content with
    | .int n => if n < 0 then some (.atom (.int (-n))) else none
    | .float x =>
      if x < 0 || x.toBits == (-0.0 : Float).toBits then some (.atom (.float (-x))) else none
    | .complex re im =>
      if re.toBits == (0.0 : Float).toBits && (im < 0 || im.toBits == (-0.0 : Float).toBits) then
        some (.atom (.complex 0.0 (-im)))
      else none
    | _ => none
  | _ => none

end Datum

namespace Expr

/-! ## Looking through an expression -/

section Walk

variable {α : Type} (f : α → Expr → α)

mutual

/-- Goes through all parts of an expression, each before its own parts, from left to right. -/
def fold (a : α) (e : Expr) : α :=
  match e with
  | .literal d => f a (.literal d)
  | .name n => f a (.name n)
  | .alias n other => f a (.alias n other)
  | .list items => foldAll (f a (.list items)) items
  | .tuple items => foldAll (f a (.tuple items)) items
  | .concat parts => foldAll (f a (.concat parts)) parts
  | .dict entries => foldEntries (f a (.dict entries)) entries
  | .attribute e n => fold (f a (.attribute e n)) e
  | .item e key => fold (fold (f a (.item e key)) e) key
  | .slice e start stop step =>
    fold (fold (fold (fold (f a (.slice e start stop step)) e) start) stop) step
  | .sliceKey start stop step =>
    fold (fold (fold (f a (.sliceKey start stop step)) start) stop) step
  | .call callee arguments => foldArguments (fold (f a (.call callee arguments)) callee) arguments
  | .filter line e n arguments =>
    foldArguments (fold (f a (.filter line e n arguments)) e) arguments
  | .test line e n arguments => foldArguments (fold (f a (.test line e n arguments)) e) arguments
  | .negative e => fold (f a (.negative e)) e
  | .positive e => fold (f a (.positive e)) e
  | .not e => fold (f a (.not e)) e
  | .binary op left right => fold (fold (f a (.binary op left right)) left) right
  | .compare first rest => foldChain (fold (f a (.compare first rest)) first) rest
  | .and left right => fold (fold (f a (.and left right)) left) right
  | .or left right => fold (fold (f a (.or left right)) left) right
  | .choice condition body other =>
    fold (fold (fold (f a (.choice condition body other)) condition) body) other
  | .guarded line condition body => fold (fold (f a (.guarded line condition body)) condition) body

/-- Goes through several expressions. -/
def foldAll (a : α) : List Expr → α
  | [] => a
  | e :: es => foldAll (fold a e) es

/-- Goes through the entries of a mapping. -/
def foldEntries (a : α) : List (Expr × Expr) → α
  | [] => a
  | (k, e) :: entries => foldEntries (fold (fold a k) e) entries

/-- Goes through the operands of a chain. -/
def foldChain (a : α) : List (CompareOp × Expr) → α
  | [] => a
  | (_, e) :: rest => foldChain (fold a e) rest

/-- Goes through arguments. -/
def foldArguments (a : α) : List Argument → α
  | [] => a
  | .positional e :: rest | .named _ e :: rest | .spread e :: rest | .spreadNamed e :: rest =>
    foldArguments (fold a e) rest

end

end Walk

/-- A list with one more item behind the others, unless it is one of them. -/
def insertName (names : List String) (n : String) : List String :=
  if names.contains n then names else names ++ [n]

/-- The names that occur in an expression, each once. -/
def names (e : Expr) : List String :=
  e.fold (fun names part =>
    match part with
    | .name n | .alias _ (some n) => insertName names n
    | _ => names) []

/-- The filters that occur in an expression, each once. -/
def filters (e : Expr) : List String :=
  e.fold (fun names part =>
    match part with
    | .filter _ _ n _ => insertName names n
    | _ => names) []

/-- The tests that occur in an expression, each once. -/
def tests (e : Expr) : List String :=
  e.fold (fun names part =>
    match part with
    | .test _ _ n _ => insertName names n
    | _ => names) []

/-- The line at which a report on the form of a prepared expression places it: behind eleven lines,
one for each name and one for the result, and six for each filter and test. -/
def preparedLine (e : Expr) : Nat :=
  let names := insertName e.names "result"
  11 + names.length + 6 * (e.filters.length + e.tests.length)

/-! ## What refuses an expression -/

/-- Whether a slice stands among several keys. -/
def hasSliceKey (e : Expr) : Bool :=
  e.fold (fun found part =>
    match part with
    | .sliceKey .. => true
    | _ => found) false

/-- What is wrong with the names of arguments: one that nothing can be assigned to, or one that comes
again. -/
def nameFault? : List Argument → Option SyntaxCause
  | [] => none
  | .named n _ :: rest =>
    let n := normalName n
    if n = "__debug__" then some (.fixedArgument n)
    else if rest.any fun
      | .named m _ => normalName m == n
      | _ => false
    then some (.repeatedArgument n) else nameFault? rest
  | _ :: rest => nameFault? rest

/-- What is wrong with the names of arguments in a call, a filter or a test. -/
def argumentFault? (e : Expr) : Option SyntaxCause :=
  e.fold (fun found part =>
    found.or (match part with
      | .call _ arguments | .filter _ _ _ arguments | .test _ _ _ arguments =>
        if namesReserved arguments then none else nameFault? arguments
      | _ => none)) none

/-- Refuses an expression of a form that cannot be prepared. -/
def requireForm (line : Nat) (e : Expr) : Except SyntaxFault Unit :=
  if e.hasSliceKey then .error ⟨line, .sliceAmongKeys⟩
  else
    match e.argumentFault? with
    | some cause => .error ⟨line, cause⟩
    | none => .ok ()

/-- Refuses a filter that does not exist, unless that is found out later. -/
def requireFilter (later : Bool) (line : Nat) (name : String) : Except SyntaxFault Unit :=
  if later || (FilterName.ofName? name).isSome then .ok () else .error ⟨line, .noFilter name⟩

/-- Refuses a test that does not exist, unless that is found out later. -/
def requireTest (later : Bool) (line : Nat) (name : String) : Except SyntaxFault Unit :=
  if later || (TestName.ofName? name).isSome then .ok () else .error ⟨line, .noTest name⟩

/-- Refuses a constant with too many digits. -/
def requireWritten (d : Datum) : Except SyntaxFault Unit :=
  if d.hasLongInteger then .error ⟨1, .constant .digitLimit⟩ else .ok ()

/-- A fault of a constant part as one of the expression. -/
def ofConstant {α : Type} (r : Except Fault α) : Except SyntaxFault α :=
  r.mapError fun f => ⟨1, .constant f⟩

/-- The power of two expressions; the sign of a constant base stands before the whole power. -/
def power (base exponent : Expr) : Expr :=
  match base with
  | .literal d =>
    match d.negated? with
    | some d => .negative (.binary .power (.literal d) exponent)
    | none => .binary .power base exponent
  | _ => .binary .power base exponent

/-! ## Places -/

/-- The name that stands in the place of a name if these names occur, unless nothing does. The last
one of a normal form takes the place, and `self` leaves it to any other. The answer of an expression
is kept in the place of `result`, which is emptied beforehand unless that very name occurs. -/
def holder? (names : List String) (n : String) : Option String :=
  let form := normalName n
  if form = "result" ∧ "result" ∉ names then none
  else some (((names.filter fun m => m != "self" && normalName m == form).getLast?).getD n)

/-- A name with what stands in its place if these names occur. -/
def inPlace (names : List String) (n : String) : Expr :=
  if holder? names n = some n then .name n else .alias n (holder? names n)

/-! ## Preparing -/

/-- Whether an argument is given by its place: a positional one or a spread sequence. -/
def isPlaced : Argument → Bool
  | .positional _ | .spread _ => true
  | _ => false

/-- Arguments in the order in which a call computes them: a spread sequence comes before the named
ones. -/
def inCallOrder (arguments : List Argument) : List Argument :=
  arguments.filter isPlaced ++ arguments.filter fun a => !isPlaced a

section Settling

variable (names : List String)

mutual

/-- The folded expression as it is evaluated; `later` says that it is part of a choice. -/
def settled (later : Bool) : Expr → Except SyntaxFault Expr
  | .literal d => do
    requireWritten d
    return .literal d
  | .name n => return inPlace names n
  | .alias n other => return .alias n other
  | .list items => do return .list (← settledAll later items)
  | .tuple items => do return .tuple (← settledAll later items)
  | .concat parts => do return .concat (← settledAll later parts)
  | .dict entries => do return .dict (← settledEntries later entries)
  | .attribute e n => do return .attribute (← settled later e) n
  | .item e key => do
    let e ← settled later e
    return .item e (← settled later key)
  | .slice e start stop step => do
    let e ← settled later e
    let start ← settled later start
    let stop ← settled later stop
    return .slice e start stop (← settled later step)
  | .sliceKey start stop step => do
    let start ← settled later start
    let stop ← settled later stop
    return .sliceKey start stop (← settled later step)
  | .call callee arguments => do
    let callee ← settled later callee
    return .call callee (inCallOrder (← settledArguments later arguments))
  | .filter line e n arguments => do
    requireFilter later line n
    let e ← settled later e
    return .filter line e n (inCallOrder (← settledArguments later arguments))
  | .test line e n arguments => do
    requireTest later line n
    let e ← settled later e
    return .test line e n (inCallOrder (← settledArguments later arguments))
  | .negative e => do return .negative (← settled later e)
  | .positive e => do return .positive (← settled later e)
  | .not e => do return .not (← settled later e)
  | .binary .power left right => do
    let left ← settled later left
    return power left (← settled later right)
  | .binary op left right => do
    let left ← settled later left
    return .binary op left (← settled later right)
  | .compare first rest => do
    let first ← settled later first
    return .compare first (← settledChain later rest)
  | .and left right => do
    let left ← settled later left
    return .and left (← settled later right)
  | .or left right => do
    let left ← settled later left
    return .or left (← settled later right)
  | .choice condition body other => do
    let body ← settled true body
    let condition ← settled true condition
    return .choice condition body (← settled true other)
  | .guarded line condition body => do
    let body ← settled true body
    return .guarded line (← settled true condition) body

/-- Several folded expressions as they are evaluated. -/
def settledAll (later : Bool) : List Expr → Except SyntaxFault (List Expr)
  | [] => return []
  | e :: es => do
    let e ← settled later e
    return e :: (← settledAll later es)

/-- Folded entries as they are evaluated. -/
def settledEntries (later : Bool) : List (Expr × Expr) → Except SyntaxFault (List (Expr × Expr))
  | [] => return []
  | (k, e) :: entries => do
    let k ← settled later k
    let e ← settled later e
    return (k, e) :: (← settledEntries later entries)

/-- A folded chain as it is evaluated. -/
def settledChain (later : Bool) :
    List (CompareOp × Expr) → Except SyntaxFault (List (CompareOp × Expr))
  | [] => return []
  | (op, e) :: rest => do
    let e ← settled later e
    return (op, e) :: (← settledChain later rest)

/-- Folded arguments as they are evaluated. -/
def settledArguments (later : Bool) : List Argument → Except SyntaxFault (List Argument)
  | [] => return []
  | .positional e :: rest => do
    let e ← settled later e
    return .positional e :: (← settledArguments later rest)
  | .named n e :: rest => do
    let e ← settled later e
    return .named n e :: (← settledArguments later rest)
  | .spread e :: rest => do
    let e ← settled later e
    return .spread e :: (← settledArguments later rest)
  | .spreadNamed e :: rest => do
    let e ← settled later e
    return .spreadNamed e :: (← settledArguments later rest)

end

mutual

/-- The expression with its constant parts computed; a list, a tuple or a mapping that is not part
of anything else is made anew from its items. -/
def assembled (environment : Environment) : Expr → Except SyntaxFault Expr
  | .literal d => settled names false (.literal d)
  | .list items => do return .list (← assembledAll environment items)
  | .tuple items => do return .tuple (← assembledAll environment items)
  | .dict entries => do return .dict (← assembledEntries environment entries)
  | e => do settled names false (← ofConstant (e.folded environment))

/-- Several expressions with their constant parts computed. -/
def assembledAll (environment : Environment) : List Expr → Except SyntaxFault (List Expr)
  | [] => return []
  | e :: es => do
    let e ← assembled environment e
    return e :: (← assembledAll environment es)

/-- Entries with their constant parts computed. -/
def assembledEntries (environment : Environment) :
    List (Expr × Expr) → Except SyntaxFault (List (Expr × Expr))
  | [] => return []
  | (k, e) :: entries => do
    let k ← assembled environment k
    let e ← assembled environment e
    return (k, e) :: (← assembledEntries environment entries)

end

end Settling

/-- The prepared expression. -/
def prepared (environment : Environment) (e : Expr) : Except SyntaxFault Expr := do
  let p ← e.assembled e.names environment
  requireForm e.preparedLine p
  return p

end Expr

end Interpolation
