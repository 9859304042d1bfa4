import Interpolation.Eval.Memory
import Interpolation.Eval.TextMethod

/-!
# Answers of methods that compute

Most methods of the common types compute something from their receiver and their arguments. What they
answer is made of numbers, texts and the like; nothing of it stood in the store before, unless it is
the receiver itself.

Main definitions:

* `Atom`: values without parts.
* `Answer`: what such a method answers, with `Answer.build` for the value.
-/

namespace Interpolation

open Interpolation.Text Interpolation.Number Interpolation.Calendar

/-- The values without parts that methods answer with. -/
inductive Atom where
  | none
  | bool (b : Bool)
  | int (n : Int)
  | float (x : Float)
  | complex (re im : Float)
  | text (s : List Char)
  | bytes (bs : List UInt8)
  | decimal (d : Decimal)
  | date (d : Date)
  | datetime (d : Date) (c : Clock)
  | time (c : Clock)
  | duration (d : Duration)
  | zone (seconds : Int)

/-- The content of a value without parts. -/
def Atom.content : Atom → Content
  | none => .none
  | bool b => .bool b
  | int n => .int n
  | float x => .float x
  | complex re im => .complex re im
  | text s => .str (String.ofList s)
  | bytes bs => .bytes bs
  | decimal d => .decimal d
  | date d => .date d
  | datetime d c => .datetime d c
  | time c => .time c
  | duration d => .duration d
  | zone n => .zone n

/-- What a method answers that computes. -/
inductive Answer where
  /-- The receiver. -/
  | itself
  | atom (a : Atom)
  | list (items : List Answer)
  | tuple (items : List Answer)
  /-- A tuple whose items have names. -/
  | record (type : RecordType) (items : List Answer)

namespace Answer

/-- An integer. -/
def int (n : Int) : Answer := atom (.int n)

/-- A truth value. -/
def bool (b : Bool) : Answer := atom (.bool b)

/-- A text. -/
def text (s : String) : Answer := atom (.text s.toList)

/-- Nothing. -/
def nothing : Answer := atom .none

/-- Integers as a tuple. -/
def integers (ns : List Int) : Answer := tuple (ns.map int)

mutual

/-- The value of an answer; `receiver` is the value that the method belongs to. -/
def build (receiver : Value) : Answer → Building Value
  | itself => return receiver
  | atom a => return .ofContent a.content
  | list items => do Building.list (← buildAll receiver items)
  | tuple items => do Building.tuple (← buildAll receiver items)
  | record type items => do
    return ⟨.tuple (← Building.addRow (← buildAll receiver items)), .named type⟩

/-- The values of several answers. -/
def buildAll (receiver : Value) : List Answer → Building (List Value)
  | [] => return []
  | a :: rest => do
    let v ← build receiver a
    return v :: (← buildAll receiver rest)

end

end Answer

end Interpolation
