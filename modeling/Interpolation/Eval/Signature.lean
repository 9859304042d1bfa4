import Interpolation.Value.Course

/-!
# Parameters and arguments

A call hands positional and named arguments over; a signature tells which parameters they are for
and refuses the calls that leave a parameter out, give one twice, or give too much.

Main definitions:

* `Signature`: the parameters of what is called.
* `Signature.bind`: one value for each parameter.
* `Parameters`: the same for the methods of the common types, whose reports are worded in another
  way. `Parameters.bind` looks only at how many arguments there are and at their names, and
  `Parameters.read` at the values as well, one parameter after the other.
-/

namespace Interpolation

open Interpolation.Text (quote)

/-- A parameter: its name, and the value it has without an argument. -/
structure Parameter where
  /-- The name. -/
  name : String
  /-- The value without an argument; a parameter without one is required. -/
  default : Option Value

/-- The parameters of something that is called. -/
structure Signature where
  /-- The name in reports. -/
  callee : String
  /-- The parameters before the given ones, whose arguments are supplied unseen. -/
  unseen : List String
  /-- The parameters. -/
  parameters : List Parameter

/-- A required parameter. -/
def required (name : String) : Parameter := ⟨name, none⟩

/-- A parameter with a default. -/
def optional (name : String) (v : Value) : Parameter := ⟨name, some v⟩

namespace Signature

/-- Values for the parameters from the arguments, positional ones first. -/
def assign (named : List (String × Value)) :
    List Parameter → List Value → List (Parameter × Option Value)
  | [], _ => []
  | p :: ps, v :: vs => (p, some v) :: assign named ps vs
  | p :: ps, [] =>
    (p, (named.lookup p.name).or p.default) :: assign named ps []

/-- Refuses a named argument for a parameter that has one already, and one for no parameter. -/
def requireNames (s : Signature) (known taken : List String) (a : Arguments) : Except Fault Unit :=
  let isTaken (n : String) : Bool := s.unseen.contains n || taken.contains n
  match a.named.find? fun (n, _) => isTaken n || !known.contains n with
  | some (n, _) =>
    .error (.arity (if isTaken n then .twice s.callee n else .unexpected s.callee n))
  | Option.none => .ok ()

/-- Refuses a named argument for a parameter whose argument is supplied unseen; all others are
welcome. -/
def requireUnseen (s : Signature) (a : Arguments) : Except Fault Unit :=
  match a.named.find? fun (n, _) => s.unseen.contains n with
  | some (n, _) => .error (.arity (.twice s.callee n))
  | Option.none => .ok ()

/-- One value for each parameter. -/
def bind (s : Signature) (a : Arguments) : Except Fault (List Value) := do
  let given := a.positional.length
  let known := s.parameters.map Parameter.name
  s.requireNames known (known.take given) a
  if given > s.parameters.length then
    let low := (s.parameters.filter fun p => p.default.isNone).length
    let unseen := s.unseen.length
    throw (.arity (.tooMany s.callee (unseen + low) (unseen + s.parameters.length)
      (unseen + given)))
  else
    let bound := assign a.named s.parameters a.positional
    match bound.filter fun (_, v) => v.isNone with
    | [] => return bound.filterMap Prod.snd
    | lacking => throw (.arity (.lacking s.callee (lacking.map fun (p, _) => p.name)))

end Signature

/-! ## Parameters -/

/-- The parameters of a method that is called with arguments in their places or by their names. -/
structure Parameters where
  /-- How the method is called in reports. -/
  callee : String
  /-- The names, in order. -/
  names : List String
  /-- How many of them may be given by their places. -/
  placed : Nat
  /-- How many of them must be given. -/
  needed : Nat

namespace Parameters

/-- The parameters of a method that says nothing about itself; the last ones may be missing. -/
def unnamed (names : List String) (needed : Nat) : Parameters :=
  ⟨"function", names, names.length, needed⟩

/-- More arguments than are taken. -/
def surplus (p : Parameters) (bound kind : String) (count given : Nat) : Fault :=
  .refused "TypeError" (p.callee ++ " takes " ++ bound ++ " " ++ toString count ++ " " ++ kind
    ++ "argument" ++ (if count = 1 then "" else "s") ++ " (" ++ toString given ++ " given)")

/-- A parameter without an argument. -/
def lacking (p : Parameters) (name : String) (i : Nat) : Fault :=
  .refused "TypeError" (p.callee ++ " missing required argument " ++ quote name ++ " (pos "
    ++ toString (i + 1) ++ ")")

/-- The argument of the parameter of a name, which has the given place. -/
def given (a : Arguments) (name : String) (i : Nat) : Option Value :=
  (a.positional[i]?).or (a.named.lookup name)

/-- Refuses an argument that is given twice, and one for no parameter. -/
def requireNames (p : Parameters) (a : Arguments) : Except Fault Unit :=
  match (p.names.zipIdx.take a.positional.length).find? fun (n, _) =>
      (a.named.lookup n).isSome with
  | some (n, i) =>
    .error (.refused "TypeError" ("argument for " ++ p.callee ++ " given by name (" ++ quote n
      ++ ") and position (" ++ toString (i + 1) ++ ")"))
  | none =>
    match a.named.find? fun (n, _) => !p.names.contains n with
    | some (n, _) =>
      .error (.refused "TypeError" (quote n ++ " is an invalid keyword argument for "
        ++ (if p.callee = "function" then "this function" else p.callee)))
    | none => .ok ()

/-- The arguments in the order of the parameters, as far as they are given. -/
def bind (p : Parameters) (a : Arguments) : Except Fault (List (Option Value)) := do
  let count := a.positional.length
  let all := count + a.named.length
  let bound := if p.needed < p.names.length then "at most" else "exactly"
  if all > p.names.length then
    throw (p.surplus bound (if count = 0 then "keyword " else "") p.names.length all)
  if count > p.placed then throw (p.surplus bound "positional " p.placed count)
  match (p.names.zipIdx.take p.needed).find? fun (n, i) => (given a n i).isNone with
  | some (n, i) => throw (p.lacking n i)
  | none => pure ()
  p.requireNames a
  return p.names.zipIdx.map fun (n, i) => given a n i

/-- The same for a method that looks at the values of its arguments, in the order of its parameters,
before it asks what else it was given. -/
def read (p : Parameters) (check : Nat → Value → Except Fault Unit) (a : Arguments) :
    Except Fault (List (Option Value)) := do
  let count := a.positional.length
  let all := count + a.named.length
  if all > p.names.length then
    throw (p.surplus "at most" (if count = 0 then "keyword " else "") p.names.length all)
  let look (n : String) (i : Nat) : Except Fault Unit :=
    match given a n i with
    | some v => check i v
    | none => if i < p.needed then .error (p.lacking n i) else .ok ()
  (p.names.zipIdx.take p.placed).forM fun (n, i) => look n i
  if count > p.placed then throw (p.surplus "at most" "positional " p.placed count)
  (p.names.zipIdx.drop p.placed).forM fun (n, i) => look n i
  p.requireNames a
  return p.names.zipIdx.map fun (n, i) => given a n i

end Parameters

/-- The argument of a parameter, or its default. -/
def argumentAt (vs : List (Option Value)) (i : Nat) (default : Value) : Value :=
  ((vs[i]?).join).getD default

/-- The text of an argument that is named. -/
def Value.namedText (v : Value) (callee name : String) : Except Fault (List Char) :=
  match v.text? with
  | some s => .ok s.toList
  | Option.none =>
    .error (.refused "TypeError" (callee ++ " argument " ++ quote name ++ " must be str, not "
      ++ givenType v.typeWord))

end Interpolation
