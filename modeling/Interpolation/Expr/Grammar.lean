import Interpolation.Expr.Token
import Interpolation.Text.Letter

/-!
# The grammar of expressions

An expression is read from its words from left to right. From weak to strong the operators are: the
choice `a if c else b`, `or`, `and`, `not`, the comparisons, `+` and `-`, `~`, the products, `**`,
the signs, and what follows an operand: attributes, items, calls, filters and tests. All operators
between two operands group to the left.

The readers call each other with a fuel that is computed from the number of words; each word is
passed by a bounded number of calls, so the fuel never runs out.

Main definitions:

* `Expr.ofSource`: the expression that a source stands for, or what is wrong with the source.
-/

namespace Interpolation

/-- What is left to read: the words, the fault behind them, and the line of the last word. -/
structure Cursor where
  /-- The words that are left. -/
  rest : List Token
  /-- The fault behind the last word. -/
  failure : Option SyntaxFault
  /-- The line of the word that was read last. -/
  line : Nat

/-- A reader of words. -/
abbrev Read (α : Type) := StateT Cursor (Except SyntaxFault) α

namespace Read

/-- Ends with the fault behind the words when there is one and no word is left. -/
def settle (c : Cursor) : Except SyntaxFault Cursor :=
  match c.rest, c.failure with
  | [], some f => .error f
  | _, _ => .ok c

/-- The next word, which is not passed. -/
def current : Read (Option Lexeme) := do
  return (← get).rest.head?.map Token.lexeme

/-- The line of the next word, or of the last one at the end. -/
def line : Read Nat := do
  let c ← get
  return (c.rest.head?.map Token.line).getD c.line

/-- Passes the next word. -/
def advance : Read Unit := do
  let c ← get
  match c.rest with
  | [] => return ()
  | t :: rest => set (← settle { c with rest := rest, line := t.line })

/-- The word behind the next one. -/
def ahead : Read (Option Lexeme) := do
  let c ← get
  match c.rest with
  | [_] =>
    match c.failure with
    | some f => throw f
    | none => return none
  | _ :: t :: _ => return some t.lexeme
  | [] => return none

/-- Ends with a fault on the line of the next word. -/
def refuse {α : Type} (cause : SyntaxCause) : Read α := do
  throw ⟨← line, cause⟩

/-- Whether the next word is a symbol. -/
def atSymbol (s : Symbol) : Read Bool := do
  match ← current with
  | some (.symbol t) => return t == s
  | _ => return false

/-- Whether the next word is a given name. -/
def atName (n : String) : Read Bool := do
  match ← current with
  | some (.name m) => return m == n
  | _ => return false

/-- Passes the next word if it is a given name. -/
def skipName (n : String) : Read Bool := do
  if ← atName n then
    advance
    return true
  else return false

/-- How the next word is described. -/
def describe : Read String := do
  match ← current with
  | some l => return l.describe
  | none => return "end of template"

/-- Refuses the next word where something else is expected. -/
def expected {α : Type} (what : String) : Read α := do
  match ← current with
  | none => refuse (.ended what)
  | some l => refuse (.expected what l.describe)

/-- Passes a symbol that has to be there. -/
def expect (s : Symbol) : Read Unit := do
  if ← atSymbol s then advance else expected s.text

/-- Passes a name that has to be there. -/
def expectName : Read String := do
  match ← current with
  | some (.name n) =>
    advance
    return n
  | _ => expected "name"

end Read

open Read

/-- The operator of a sum. -/
def sumOperator? : Lexeme → Option BinaryOp
  | .symbol .add => some .add
  | .symbol .subtract => some .subtract
  | _ => none

/-- The operator of a product. -/
def productOperator? : Lexeme → Option BinaryOp
  | .symbol .multiply => some .multiply
  | .symbol .divide => some .divide
  | .symbol .floorDivide => some .floorDivide
  | .symbol .remainder => some .remainder
  | _ => none

/-- The operator of a comparison that is a symbol. -/
def compareOperator? : Lexeme → Option CompareOp
  | .symbol .equal => some .equal
  | .symbol .unequal => some .unequal
  | .symbol .less => some (.ordered .lt)
  | .symbol .lessEqual => some (.ordered .le)
  | .symbol .greater => some (.ordered .gt)
  | .symbol .greaterEqual => some (.ordered .ge)
  | _ => none

/-- The value that a name stands for by itself. -/
def namedLiteral? (n : String) : Option Content :=
  if n = "true" ∨ n = "True" then some (.bool true)
  else if n = "false" ∨ n = "False" then some (.bool false)
  else if n = "none" ∨ n = "None" then some .none
  else none

/-- Whether an argument is not spread. -/
def Argument.isSingle : Argument → Bool
  | .positional _ | .named .. => true
  | _ => false

/-- Arguments in groups: the positional ones, the named ones, a spread sequence, and a spread
mapping. -/
def inGroups (arguments : List Argument) : List Argument :=
  arguments.filter Argument.isSingle ++ arguments.filter fun a => !a.isSingle

/-- Which kinds of arguments were read so far. -/
structure ArgumentState where
  /-- A named argument was read. -/
  named : Bool
  /-- A spread sequence was read. -/
  spread : Bool
  /-- A spread mapping was read. -/
  spreadNamed : Bool

/-- Texts that follow each other are one text. -/
def readTexts : (fuel : Nat) → Read (List String)
  | 0 => return []
  | fuel + 1 => do
    match ← current with
    | some (.text s) =>
      advance
      return s :: (← readTexts fuel)
    | _ => return []

/-- The rest of a name with dots. -/
def readDotted : (fuel : Nat) → String → Read String
  | 0, name => return name
  | fuel + 1, name => do
    if ← atSymbol .dot then
      advance
      readDotted fuel (name ++ "." ++ (← expectName))
    else return name

mutual

/-- A whole expression: a choice or anything that binds stronger. -/
def readExpr : (fuel : Nat) → Read Expr
  | 0 => refuse .leftover
  | fuel + 1 => do
    let start ← line
    readChoices fuel start (← readOr fuel)

/-- The choices that follow an expression. -/
def readChoices : (fuel start : Nat) → Expr → Read Expr
  | 0, _, body => return body
  | fuel + 1, start, body => do
    if ← skipName "if" then
      let condition ← readOr fuel
      let choice ← if ← skipName "else" then do
          pure (Expr.choice condition body (← readExpr fuel))
        else pure (Expr.guarded start condition body)
      readChoices fuel (← line) choice
    else return body

/-- Alternatives. -/
def readOr : (fuel : Nat) → Read Expr
  | 0 => refuse .leftover
  | fuel + 1 => do readOrs fuel (← readAnd fuel)

/-- The alternatives that follow the first one. -/
def readOrs : (fuel : Nat) → Expr → Read Expr
  | 0, left => return left
  | fuel + 1, left => do
    if ← skipName "or" then readOrs fuel (.or left (← readAnd fuel)) else return left

/-- Conjunctions. -/
def readAnd : (fuel : Nat) → Read Expr
  | 0 => refuse .leftover
  | fuel + 1 => do readAnds fuel (← readNot fuel)

/-- The parts of a conjunction that follow the first one. -/
def readAnds : (fuel : Nat) → Expr → Read Expr
  | 0, left => return left
  | fuel + 1, left => do
    if ← skipName "and" then readAnds fuel (.and left (← readNot fuel)) else return left

/-- Negations. -/
def readNot : (fuel : Nat) → Read Expr
  | 0 => refuse .leftover
  | fuel + 1 => do
    if ← skipName "not" then return .not (← readNot fuel) else readCompare fuel

/-- Chains of comparisons. -/
def readCompare : (fuel : Nat) → Read Expr
  | 0 => refuse .leftover
  | fuel + 1 => do
    let first ← readSum fuel
    match ← readCompares fuel with
    | [] => return first
    | rest => return .compare first rest

/-- The comparisons that follow the first operand. -/
def readCompares : (fuel : Nat) → Read (List (CompareOp × Expr))
  | 0 => return []
  | fuel + 1 => do
    match (← current).bind compareOperator? with
    | some op =>
      advance
      let operand ← readSum fuel
      return (op, operand) :: (← readCompares fuel)
    | none =>
      if ← skipName "in" then
        let operand ← readSum fuel
        return (.within, operand) :: (← readCompares fuel)
      else if ← atName "not" then
        match ← ahead with
        | some (.name "in") =>
          advance
          advance
          let operand ← readSum fuel
          return (.without, operand) :: (← readCompares fuel)
        | _ => return []
      else return []

/-- Sums. -/
def readSum : (fuel : Nat) → Read Expr
  | 0 => refuse .leftover
  | fuel + 1 => do readSums fuel (← readConcat fuel)

/-- The terms of a sum that follow the first one. -/
def readSums : (fuel : Nat) → Expr → Read Expr
  | 0, left => return left
  | fuel + 1, left => do
    match (← current).bind sumOperator? with
    | some op =>
      advance
      readSums fuel (.binary op left (← readConcat fuel))
    | none => return left

/-- Texts put together. -/
def readConcat : (fuel : Nat) → Read Expr
  | 0 => refuse .leftover
  | fuel + 1 => do
    let first ← readProduct fuel
    match ← readConcats fuel with
    | [] => return first
    | rest => return .concat (first :: rest)

/-- The parts of a text that follow the first one. -/
def readConcats : (fuel : Nat) → Read (List Expr)
  | 0 => return []
  | fuel + 1 => do
    if ← atSymbol .tilde then
      advance
      let part ← readProduct fuel
      return part :: (← readConcats fuel)
    else return []

/-- Products. -/
def readProduct : (fuel : Nat) → Read Expr
  | 0 => refuse .leftover
  | fuel + 1 => do readProducts fuel (← readPower fuel)

/-- The factors of a product that follow the first one. -/
def readProducts : (fuel : Nat) → Expr → Read Expr
  | 0, left => return left
  | fuel + 1, left => do
    match (← current).bind productOperator? with
    | some op =>
      advance
      readProducts fuel (.binary op left (← readPower fuel))
    | none => return left

/-- Powers. -/
def readPower : (fuel : Nat) → Read Expr
  | 0 => refuse .leftover
  | fuel + 1 => do readPowers fuel (← readUnary fuel true)

/-- The exponents that follow the first operand. -/
def readPowers : (fuel : Nat) → Expr → Read Expr
  | 0, left => return left
  | fuel + 1, left => do
    if ← atSymbol .power then
      advance
      readPowers fuel (.binary .power left (← readUnary fuel true))
    else return left

/-- Signs and operands, with the filters and tests that follow when these are allowed. -/
def readUnary : (fuel : Nat) → (filters : Bool) → Read Expr
  | 0, _ => refuse .leftover
  | fuel + 1, filters => do
    let operand ← if ← atSymbol .subtract then do
        advance
        pure (Expr.negative (← readUnary fuel false))
      else if ← atSymbol .add then do
        advance
        pure (Expr.positive (← readUnary fuel false))
      else readPrimary fuel
    let operand ← readPostfix fuel operand
    if filters then readFilters fuel operand else return operand

/-- An operand by itself. -/
def readPrimary : (fuel : Nat) → Read Expr
  | 0 => refuse .leftover
  | fuel + 1 => do
    match ← current with
    | some (.name n) =>
      advance
      match namedLiteral? n with
      | some c => return .literal (.atom c)
      | none => return .name n
    | some (.text _) => return .literal (.atom (.str (String.join (← readTexts fuel))))
    | some (.integer n) =>
      advance
      return .literal (.atom (.int n))
    | some (.float x) =>
      advance
      return .literal (.atom (.float x))
    | some (.symbol .leftParenthesis) =>
      advance
      let (items, isTuple) ← readTuple fuel true
      expect .rightParenthesis
      match items with
      | [item] => return if isTuple then .tuple [item] else item
      | items => return .tuple items
    | some (.symbol .leftBracket) =>
      advance
      let items ← readItems fuel true
      expect .rightBracket
      return .list items
    | some (.symbol .leftBrace) =>
      advance
      let entries ← readEntries fuel true
      expect .rightBrace
      return .dict entries
    | _ => refuse (.unexpected (← describe))

/-- The items of a tuple, and whether a comma was among them. -/
def readTuple : (fuel : Nat) → (first : Bool) → Read (List Expr × Bool)
  | 0, _ => return ([], false)
  | fuel + 1, first => do
    if !first then expect .comma
    match ← current with
    | some (.symbol .rightParenthesis) | some .close => return ([], !first)
    | _ =>
      let item ← readExpr fuel
      if ← atSymbol .comma then
        let (items, _) ← readTuple fuel false
        return (item :: items, true)
      else return ([item], false)

/-- The items of a list. -/
def readItems : (fuel : Nat) → (first : Bool) → Read (List Expr)
  | 0, _ => return []
  | fuel + 1, first => do
    if ← atSymbol .rightBracket then return []
    if !first then expect .comma
    if ← atSymbol .rightBracket then return []
    let item ← readExpr fuel
    return item :: (← readItems fuel false)

/-- The entries of a mapping. -/
def readEntries : (fuel : Nat) → (first : Bool) → Read (List (Expr × Expr))
  | 0, _ => return []
  | fuel + 1, first => do
    if ← atSymbol .rightBrace then return []
    if !first then expect .comma
    if ← atSymbol .rightBrace then return []
    let key ← readExpr fuel
    expect .colon
    let value ← readExpr fuel
    return (key, value) :: (← readEntries fuel false)

/-- The attributes, items and calls that follow an operand. -/
def readPostfix : (fuel : Nat) → Expr → Read Expr
  | 0, e => return e
  | fuel + 1, e => do
    match ← current with
    | some (.symbol .dot) =>
      advance
      let start ← line
      let next ← current
      advance
      match next with
      | some (.name n) => readPostfix fuel (.attribute e n)
      | some (.integer n) => readPostfix fuel (.item e (.literal (.atom (.int n))))
      | _ => throw ⟨start, .nameOrNumber⟩
    | some (.symbol .leftBracket) =>
      advance
      let keys ← readKeys fuel true
      expect .rightBracket
      readPostfix fuel (match keys with
        | [.sliceKey a b c] => .slice e a b c
        | [key] => .item e key
        | keys => .item e (.tuple keys))
    | some (.symbol .leftParenthesis) => readPostfix fuel (.call e (← readArguments fuel))
    | _ => return e

/-- The keys between brackets. -/
def readKeys : (fuel : Nat) → (first : Bool) → Read (List Expr)
  | 0, _ => return []
  | fuel + 1, first => do
    if ← atSymbol .rightBracket then return []
    if !first then expect .comma
    let key ← readKey fuel
    return key :: (← readKeys fuel false)

/-- One key: an expression, or the bounds of a slice. -/
def readKey : (fuel : Nat) → Read Expr
  | 0 => refuse .leftover
  | fuel + 1 => do
    if ← atSymbol .colon then
      advance
      readBounds fuel Expr.nothing
    else
      let key ← readExpr fuel
      if ← atSymbol .colon then
        advance
        readBounds fuel key
      else return key

/-- The bounds of a slice behind the first one. -/
def readBounds : (fuel : Nat) → (start : Expr) → Read Expr
  | 0, _ => refuse .leftover
  | fuel + 1, start => do
    let stop ← if ← atSymbol .colon then pure (Expr.nothing) else readBound fuel
    if ← atSymbol .colon then
      advance
      return .sliceKey start stop (← readBound fuel)
    else return .sliceKey start stop Expr.nothing

/-- One bound of a slice, which may be left out. -/
def readBound : (fuel : Nat) → Read Expr
  | 0 => refuse .leftover
  | fuel + 1 => do
    if (← atSymbol .rightBracket) || (← atSymbol .comma) then return Expr.nothing
    else readExpr fuel

/-- The arguments of a call with their parentheses. -/
def readArguments : (fuel : Nat) → Read (List Argument)
  | 0 => refuse .leftover
  | fuel + 1 => do
    let start ← line
    expect .leftParenthesis
    let arguments ← readArgumentList fuel start true ⟨false, false, false⟩
    expect .rightParenthesis
    return inGroups arguments

/-- The arguments up to the closing parenthesis. -/
def readArgumentList :
    (fuel start : Nat) → (first : Bool) → ArgumentState → Read (List Argument)
  | 0, _, _, _ => return []
  | fuel + 1, start, first, state => do
    if ← atSymbol .rightParenthesis then return []
    if !first then expect .comma
    if ← atSymbol .rightParenthesis then return []
    let ensure (allowed : Bool) : Read Unit :=
      if allowed then return () else throw ⟨start, .callForm⟩
    if ← atSymbol .multiply then
      ensure (!state.spread && !state.spreadNamed)
      advance
      let e ← readExpr fuel
      return .spread e :: (← readArgumentList fuel start false { state with spread := true })
    else if ← atSymbol .power then
      ensure (!state.spreadNamed)
      advance
      let e ← readExpr fuel
      return .spreadNamed e ::
        (← readArgumentList fuel start false { state with spreadNamed := true })
    else
      match ← current with
      | some (.name n) =>
        match ← ahead with
        | some (.symbol .assign) =>
          ensure (!state.spreadNamed)
          advance
          advance
          let e ← readExpr fuel
          return .named n e :: (← readArgumentList fuel start false { state with named := true })
        | _ => readPositional fuel start state
      | _ => readPositional fuel start state

/-- A positional argument and the arguments that follow it. -/
def readPositional : (fuel start : Nat) → ArgumentState → Read (List Argument)
  | 0, _, _ => return []
  | fuel + 1, start, state => do
    if state.spread || state.spreadNamed || state.named then throw ⟨start, .callForm⟩
    let e ← readExpr fuel
    return .positional e :: (← readArgumentList fuel start false state)

/-- The filters, tests and calls that follow an operand. -/
def readFilters : (fuel : Nat) → Expr → Read Expr
  | 0, e => return e
  | fuel + 1, e => do
    match ← current with
    | some (.symbol .pipe) =>
      advance
      let start ← line
      let name ← readDotted fuel (← expectName)
      let arguments ← if ← atSymbol .leftParenthesis then readArguments fuel else pure []
      readFilters fuel (.filter start e name arguments)
    | some (.name "is") => readFilters fuel (← readTest fuel e)
    | some (.symbol .leftParenthesis) => readFilters fuel (.call e (← readArguments fuel))
    | _ => return e

/-- A test of an operand. -/
def readTest : (fuel : Nat) → Expr → Read Expr
  | 0, e => return e
  | fuel + 1, e => do
    let start ← line
    advance
    let negated ← skipName "not"
    let name ← readDotted fuel (← expectName)
    let arguments ← match ← current with
      | some (.symbol .leftParenthesis) => readArguments fuel
      | some (.name n) =>
        if n = "else" ∨ n = "or" ∨ n = "and" then pure []
        else if n = "is" then refuse .chainedTests
        else readTestOperand fuel
      | some (.text _) | some (.integer _) | some (.float _) | some (.symbol .leftBracket)
      | some (.symbol .leftBrace) => readTestOperand fuel
      | _ => pure []
    let test := Expr.test start e name arguments
    return if negated then .not test else test

/-- The argument of a test without parentheses. -/
def readTestOperand : (fuel : Nat) → Read (List Argument)
  | 0 => return []
  | fuel + 1 => do return [.positional (← readPostfix fuel (← readPrimary fuel))]

end

/-- The expression that the words of a source stand for. -/
def TokenList.toExpr (ts : TokenList) : Except SyntaxFault Expr := do
  let cursor ← settle ⟨ts.tokens, ts.failure, 1⟩
  let read : Read Expr := do
    let e ← readExpr (24 * (ts.tokens.length + 1))
    if (← get).rest.isEmpty then return e else refuse .leftover
  return (← read.run cursor).1

/-- The expression that a source stands for. -/
def Expr.ofSource (source : List Char) : Except SyntaxFault Expr :=
  (tokenize source).toExpr

end Interpolation
