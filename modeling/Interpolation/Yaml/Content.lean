import Interpolation.Number.Binary
import Interpolation.Number.Reading
import Interpolation.Value.Equality
import Interpolation.Value.Shown
import Interpolation.Yaml.Node

/-!
# The content of a document

A node stands for a value: a scalar for what its tag makes of its text, a sequence for a list, a
mapping for a mapping. A node that stands in several places stands for the same value in all of
them, which may thus hold itself. A mapping may take over the entries of others, which come before
its own.

The collections inside of a collection get their content after everything that stands in it
directly; so of several faults the one nearest to the root of the document is told, and of two that
are equally near the first one.

Main definitions:

* `Scalar.value`: the value of a scalar.
* `Making.flatten`: the entries of a mapping with those that it takes over.
* `Making.value`, `Making.fill`: the value of a node, and the content of a collection.
* `load`: the value of a document, with its parts.
-/

namespace Interpolation.Yaml

open Interpolation.Text Interpolation.Calendar

/-! ## Scalars -/

namespace Scalar

/-- A number without its low lines and its sign. -/
def unsigned (s : List Char) : Except YamlFault (Bool × List Char) :=
  match s.filter (· ≠ '_') with
  | [] => .error .noDigits
  | c :: s => if c = '-' ∨ c = '+' then .ok (c = '-', s) else .ok (false, c :: s)

/-- A number of digits to a base. -/
def digits (base : Nat) (s : List Char) : Except YamlFault Int :=
  let count := Number.convertedDigits base s
  if count > digitLimit then .error (.tooManyDigits count)
  else
    match Number.readInt? base s with
    | some n => .ok n
    | none => .error (.invalidInteger base (quote (String.ofList s)))

/-- The integer of a text: a mark or a zero in front tells the base, and colons separate places to
the base sixty. -/
def integer (s : List Char) : Except YamlFault Int := do
  let (negative, s) ← unsigned s
  let n ← match s with
    | [] => throw .noDigits
    | ['0'] => pure 0
    | '0' :: 'b' :: s => digits 2 s
    | '0' :: 'x' :: s => digits 16 s
    | '0' :: _ => digits 8 s
    | s =>
      let parts ← (Tag.places s).mapM (digits 10)
      pure (parts.foldl (fun n part => n * 60 + part) 0)
  return if negative then -n else n

/-- A float in decimal notation, with the other sign if it is turned. -/
def decimal (turned : Bool) (s : List Char) : Except YamlFault Float :=
  let (negative, rest) := Number.splitSign (strip s)
  match Number.readUnsignedFloat? (negative != turned) rest with
  | some x => .ok x
  | none => .error (.invalidFloat (quote (String.ofList s)))

/-- The sum of the places of a number to the base sixty, the last one first. -/
def sumPlaces (base total : Float) : List Float → Float
  | [] => total
  | x :: xs => sumPlaces (base * 60) (total + x * base) xs

/-- The float of a text: in decimal notation, in places to the base sixty, or a word. -/
def float (s : List Char) : Except YamlFault Float := do
  let (negative, s) ← unsigned (s.map Char.toLower)
  match String.ofList s with
  | ".inf" => return Number.Binary.infinity negative
  | ".nan" => return Number.Binary.nan
  | _ =>
    match Tag.places s with
    | [s] => decimal negative s
    | parts =>
      let sum := sumPlaces 1 0 (← parts.mapM (decimal false)).reverse
      return if negative then -1 * sum else sum

/-- The value of a digit to the base sixty-four. -/
def base64Digit? (c : Char) : Option Nat :=
  if 'A' ≤ c ∧ c ≤ 'Z' then some (c.toNat - 'A'.toNat)
  else if 'a' ≤ c ∧ c ≤ 'z' then some (c.toNat - 'a'.toNat + 26)
  else if c.isDigit then some (c.toNat - '0'.toNat + 52)
  else if c = '+' then some 62
  else if c = '/' then some 63
  else none

/-- The bytes of digits to the base sixty-four, four digits for three bytes; other characters do not
count, and enough padding ends the text. -/
def base64Bytes : (pending left padding : Nat) → List Char → Option (List UInt8)
  | pending, _, _, [] => if pending = 0 then some [] else none
  | pending, left, padding, c :: s =>
    if c = '=' then
      if pending ≥ 2 ∧ pending + padding + 1 ≥ 4 then some []
      else base64Bytes pending left (if pending ≥ 2 then padding + 1 else padding) s
    else
      match base64Digit? c with
      | none => base64Bytes pending left padding s
      | some d =>
        let byte (n : Nat) := UInt8.ofNat (n % 256)
        match pending with
        | 0 => base64Bytes 1 d 0 s
        | 1 => (base64Bytes 2 (d % 16) 0 s).map (byte (left * 4 + d / 16) :: ·)
        | 2 => (base64Bytes 3 (d % 4) 0 s).map (byte (left * 16 + d / 4) :: ·)
        | _ => (base64Bytes 0 0 0 s).map (byte (left * 64 + d) :: ·)

/-- The bytes of a text. -/
def binary (s : List Char) : Except YamlFault (List UInt8) :=
  if s.all fun c => c.toNat < 128 then
    match base64Bytes 0 0 0 s with
    | some bs => .ok bs
    | none => .error .unconstructible
  else .error .unconstructible

/-- The date of a text, or the date and the time of day. -/
def timestamp (s : List Char) : Except YamlFault Content :=
  match readMoment s with
  | none => .error .notAMoment
  | some (.error e) => .error (.part e)
  | some (.ok (d, none)) => .ok (.date d)
  | some (.ok (d, some c)) => .ok (.datetime d c)

/-- The truth value of a text. -/
def boolean (text : String) : Except YamlFault Bool :=
  match Tag.booleanTexts.lookup text.toLower with
  | some b => .ok b
  | none => .error (.notABoolean (quote text.toLower))

/-- Whether values of a kind are made from the text of a scalar. -/
def isTextual : Tag → Bool
  | .null | .boolean | .integer | .float | .binary | .timestamp | .text => true
  | _ => false

/-- The value that a tag makes of a text. -/
def value (tag : Tag) (text : String) : Except YamlFault Content :=
  match tag with
  | .null => .ok .none
  | .boolean => (boolean text).map .bool
  | .integer => (integer text.toList).map .int
  | .float => (float text.toList).map .float
  | .binary => (binary text.toList).map .bytes
  | .timestamp => timestamp text.toList
  | .text => .ok (.str text)
  | _ => .error .unconstructible

end Scalar

/-! ## Making values -/

/-- What is known while values are made. -/
structure State where
  /-- The nodes by their numbers. -/
  nodes : Array Node
  /-- The values of the nodes that have one. -/
  values : Array (Option Value)
  /-- The collections that have no content yet, the last one first. -/
  waiting : List Nat
  /-- The parts of the values. -/
  store : Store

/-- A step of making values. -/
abbrev Making (α : Type) := StateT State (Except YamlFault) α

/-- More steps than are ever taken. -/
def stepLimit : Nat := 2 ^ 62

namespace Making

/-- A node. -/
def node (i : Nat) : Making Node := do return (← get).nodes[i]?.getD .empty

/-- Changes a node. -/
def change (i : Nat) (f : Node → Node) : Making Unit :=
  modify fun s => { s with nodes := s.nodes.modify i f }

/-- Adds cells to the store. -/
def build {α : Type} (x : Building α) : Making α :=
  modifyGet fun s =>
    let (a, store) := x s.store
    (a, { s with store := store })

/-! ### Entries that are taken over -/

/-- The entries of a mapping. -/
def entries (i : Nat) : Making (List (Nat × Nat)) := do
  match ← node i with
  | .mapping _ entries => return entries
  | _ => return []

/-- Gives a mapping other entries. -/
def setEntries (i : Nat) (entries : List (Nat × Nat)) : Making Unit :=
  change i fun n => .mapping n.tag entries

mutual

/-- Puts the entries that a mapping takes over in front of its own ones, and makes the key of the
standard value a text. -/
def flatten : (fuel : Nat) → (i : Nat) → Making Unit
  | 0, _ => return ()
  | fuel + 1, i => do
    match ← takenFrom fuel i 0 [] with
    | [] => return ()
    | taken => setEntries i (taken ++ (← entries i))

/-- The entries that a mapping takes over, from a place on, behind some others; their keys leave the
mapping. -/
def takenFrom : (fuel : Nat) → (i place : Nat) → List (Nat × Nat) → Making (List (Nat × Nat))
  | 0, _, _, taken => return taken
  | fuel + 1, i, place, taken => do
    let own ← entries i
    match own[place]? with
    | none => return taken
    | some (k, v) =>
      match (← node k).tag with
      | .merge => do
        setEntries i (own.eraseIdx place)
        takenFrom fuel i place (taken ++ (← source fuel v))
      | .standard => do
        change k (Node.retag .text)
        takenFrom fuel i (place + 1) taken
      | _ => takenFrom fuel i (place + 1) taken

/-- The entries of a mapping, or those of several mappings, the last one first. -/
def source : (fuel : Nat) → (i : Nat) → Making (List (Nat × Nat))
  | 0, _ => return []
  | fuel + 1, i => do
    match ← node i with
    | .mapping .. => do
      flatten fuel i
      entries i
    | .sequence _ items => do return (← sources fuel items).reverse.flatten
    | .scalar .. => throw .unconstructible

/-- The entries of several mappings. -/
def sources : (fuel : Nat) → List Nat → Making (List (List (Nat × Nat)))
  | 0, _ => return []
  | _ + 1, [] => return []
  | fuel + 1, i :: rest => do
    match ← node i with
    | .mapping .. => do
      flatten fuel i
      let taken ← entries i
      return taken :: (← sources fuel rest)
    | _ => throw .unconstructible

end

/-! ### Values -/

/-- The text that a node stands for where a scalar is expected: a mapping may have a standard
value. -/
def scalarText : (fuel : Nat) → (i : Nat) → Making String
  | 0, _ => throw .unconstructible
  | fuel + 1, i => do
    match ← node i with
    | .scalar _ text => return text
    | .sequence .. => throw .unconstructible
    | .mapping _ entries => do
      let standard? ← entries.findM? fun (k, _) => do return (← node k).tag = .standard
      match standard? with
      | some (_, v) => scalarText fuel v
      | none => throw .unconstructible

/-- A collection without content, for the tags of collections. -/
def emptyCollection? : Tag → Option (Building Value)
  | .sequence | .orderedMapping | .pairs => some (Building.list [])
  | .mapping => some (Building.dict [])
  | .set => some (Building.set [])
  | _ => none

/-- The value of a node, which is made only once; a collection gets its content later. -/
def value (i : Nat) : Making Value := do
  let s ← get
  match (s.values[i]?).join with
  | some v => return v
  | none => do
    let n ← node i
    let v ← match emptyCollection? n.tag with
      | some make => do
        modify fun s => { s with waiting := i :: s.waiting }
        build make
      | none =>
        if Scalar.isTextual n.tag then do
          let text ← scalarText s.nodes.size i
          build (Building.keep (.ofContent (← Scalar.value n.tag text)))
        else throw .unconstructible
    modify fun s => { s with values := s.values.setIfInBounds i (some v) }
    return v

/-- The items of a sequence. -/
def items (i : Nat) : Making (List Nat) := do
  match ← node i with
  | .sequence _ items => return items
  | _ => throw .unconstructible

/-- The entries of a mapping as values; a collection cannot be a key. -/
def mappingEntries (i : Nat) : Making (List (Value × Value)) := do
  match ← node i with
  | .mapping .. => do
    flatten stepLimit i
    let pairs ← (← entries i).mapM fun (k, v) => do
      let key ← value k
      if key.content.isCell then throw .unconstructible
      return (key, ← value v)
    match (insertEntries [] pairs).run (← get).store with
    | .ok entries => return entries
    | .error _ => throw .unconstructible
  | _ => throw .unconstructible

/-- The only entry of a mapping as a pair. -/
def pair (i : Nat) : Making Value := do
  match ← node i with
  | .mapping _ [(k, v)] => do
    let key ← value k
    let v ← value v
    build (Building.tuple [key, v])
  | _ => throw .unconstructible

/-- Gives a collection its content. -/
def fill (i : Nat) : Making Unit := do
  let v ← value i
  match (← node i).tag, v.content with
  | .sequence, .list r => do build (Building.putRow r (← (← items i).mapM value))
  | .mapping, .dict r => do build (Building.putEntries r (← mappingEntries i))
  | .set, .set r => do build (Building.putRow r ((← mappingEntries i).map Prod.fst))
  | _, .list r => do build (Building.putRow r (← (← items i).mapM pair))
  | _, _ => return ()

/-- Gives all collections their content, those that stand in one of them after all of the others. -/
def fillAll : (fuel : Nat) → Making Unit
  | 0 => return ()
  | fuel + 1 => do
    match (← get).waiting.reverse with
    | [] => return ()
    | waiting => do
      modify fun s => { s with waiting := [] }
      waiting.forM fill
      fillAll fuel

end Making

/-- The value of a document; an empty one stands for nothing. The store holds its parts. -/
def load (text : List Char) : Except YamlFault (Value × Store) := do
  match ← Graph.ofWords? (Words.ofText text) with
  | none => return (.none, .empty)
  | some g => do
    let start : State := ⟨g.nodes, Array.replicate g.nodes.size none, [], .empty⟩
    let (v, s) ← (do
      let v ← Making.value g.root
      Making.fillAll g.nodes.size
      return v : Making Value).run start
    return (v, s.store.fresh)

end Interpolation.Yaml
