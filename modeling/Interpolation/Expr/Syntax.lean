import Interpolation.Value.Datum
import Interpolation.Value.Order

/-!
# Expressions

The abstract syntax of expressions, and the ways in which a source fails to be one.

Main definitions:

* `Expr`, `Argument`: expressions and the arguments of calls, filters and tests.
* `SyntaxFault`: a line of the source and what is wrong there.
-/

namespace Interpolation

/-- An operator between two numbers or sequences. -/
inductive BinaryOp where
  | add
  | subtract
  | multiply
  | divide
  | floorDivide
  | remainder
  | power
deriving DecidableEq, Repr

/-- A comparison in a chain. -/
inductive CompareOp where
  | equal
  | unequal
  | ordered (c : Comparison)
  | within
  | without
deriving DecidableEq, Repr

mutual

/-- An expression. -/
inductive Expr where
  /-- A constant with all its parts. -/
  | literal (d : Datum)
  | name (n : String)
  /-- A name in whose place another name stands, or nothing, whatever the context holds. -/
  | alias (n : String) (other : Option String)
  | list (items : List Expr)
  | tuple (items : List Expr)
  | dict (entries : List (Expr × Expr))
  | attribute (e : Expr) (name : String)
  | item (e key : Expr)
  /-- A slice of a sequence. -/
  | slice (e start stop step : Expr)
  /-- A slice that is part of a key. -/
  | sliceKey (start stop step : Expr)
  | call (callee : Expr) (arguments : List Argument)
  | filter (line : Nat) (e : Expr) (name : String) (arguments : List Argument)
  | test (line : Nat) (e : Expr) (name : String) (arguments : List Argument)
  | negative (e : Expr)
  | positive (e : Expr)
  | binary (op : BinaryOp) (left right : Expr)
  | concat (parts : List Expr)
  | compare (first : Expr) (rest : List (CompareOp × Expr))
  | and (left right : Expr)
  | or (left right : Expr)
  | not (e : Expr)
  | choice (condition body other : Expr)
  /-- A choice without the other branch. -/
  | guarded (line : Nat) (condition body : Expr)

/-- An argument of a call, a filter or a test. -/
inductive Argument where
  | positional (e : Expr)
  | named (name : String) (e : Expr)
  /-- The items of a value as positional arguments. -/
  | spread (e : Expr)
  /-- The entries of a mapping as named arguments. -/
  | spreadNamed (e : Expr)

end

/-- The constant nothing. -/
def Expr.nothing : Expr := .literal (.atom .none)

instance : Inhabited Expr := ⟨.nothing⟩

/-- What is wrong with a source. -/
inductive SyntaxCause where
  | unexpectedChar (c : Char) (position : Nat)
  /-- A closing bracket without an opening one. -/
  | unopened (bracket : Char)
  /-- A closing bracket of another kind than the opening one. -/
  | mismatched (bracket wanted : Char)
  | invalidIdentifier
  | badEscape (what : String)
  | unexpected (what : String)
  | expected (what got : String)
  /-- The source ends where something is expected. -/
  | ended (wanted : String)
  /-- Something follows the expression. -/
  | leftover
  | nameOrNumber
  | callForm
  | chainedTests
  | noFilter (name : String)
  | noTest (name : String)
  /-- A constant that cannot be computed, or not be written. -/
  | constant (f : Fault)
  /-- A slice among several keys. -/
  | sliceAmongKeys
  /-- An argument that a call gives by the same name twice. -/
  | repeatedArgument (name : String)
  /-- An argument of a name that nothing can be assigned to. -/
  | fixedArgument (name : String)
deriving DecidableEq, Repr

/-- A line of a source and what is wrong there. -/
structure SyntaxFault where
  /-- The line, counted from one. -/
  line : Nat
  /-- What is wrong. -/
  cause : SyntaxCause
deriving DecidableEq, Repr

namespace SyntaxFault

open Interpolation.Text (quote)

/-- The kind under which the fault is reported. -/
def label (f : SyntaxFault) : String :=
  match f.cause with
  | .noFilter _ | .noTest _ => "TemplateAssertionError"
  | .constant f => f.label
  | .sliceAmongKeys | .repeatedArgument _ | .fixedArgument _ => "SyntaxError"
  | _ => "TemplateSyntaxError"

/-- The line that is told besides the kind and the wording; some faults tell it in the wording or
not at all. -/
def lineTold? (f : SyntaxFault) : Option Nat :=
  match f.cause with
  | .constant _ | .sliceAmongKeys | .repeatedArgument _ | .fixedArgument _ => none
  | _ => some f.line

/-- The wording of a fault that tells where in a prepared expression it is. -/
def placed (what : String) (line : Nat) : String :=
  what ++ " (<template>, line " ++ toString line ++ ")"

/-- What is told about the fault. -/
def message (f : SyntaxFault) : String :=
  match f.cause with
  | .unexpectedChar c position =>
    "unexpected char " ++ quote (String.singleton c) ++ " at " ++ toString position
  | .unopened b => "unexpected '" ++ String.singleton b ++ "'"
  | .mismatched b wanted =>
    "unexpected '" ++ String.singleton b ++ "', expected '" ++ String.singleton wanted ++ "'"
  | .invalidIdentifier => "Invalid character in identifier"
  | .badEscape what => what
  | .unexpected what => "unexpected " ++ quote what
  | .expected what got => "expected token " ++ quote what ++ ", got " ++ quote got
  | .ended wanted => "unexpected end of template, expected " ++ quote wanted ++ "."
  | .leftover => "chunk after expression"
  | .nameOrNumber => "expected name or number"
  | .callForm => "invalid syntax for function call expression"
  | .chainedTests => "You cannot chain multiple tests with is"
  | .noFilter n => "No filter named " ++ quote n ++ "."
  | .noTest n => "No test named " ++ quote n ++ "."
  | .constant f => f.message
  | .sliceAmongKeys => placed "invalid syntax" f.line
  | .repeatedArgument n => placed ("keyword argument repeated: " ++ n) f.line
  | .fixedArgument n => placed ("cannot assign to " ++ n) f.line

end SyntaxFault

end Interpolation
