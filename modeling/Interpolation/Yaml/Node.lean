import Interpolation.Yaml.Tag
import Interpolation.Yaml.Token

/-!
# The nodes of a document

The words of a document form nodes: scalars, and collections of nodes. A node may be named by an
anchor and stand in other places by that name, also inside of itself; so the nodes of a document are
numbered, and collections hold the numbers of their parts.

Main definitions:

* `Node`: the nodes.
* `Graph.ofWords?`: the nodes that words form, and the number of the one that holds the others.
-/

namespace Interpolation.Yaml

/-- A node of a document; its parts are told by their numbers. -/
inductive Node where
  | scalar (tag : Tag) (text : String)
  | sequence (tag : Tag) (items : List Nat)
  | mapping (tag : Tag) (entries : List (Nat × Nat))

namespace Node

/-- The node that stands where there is no word for one. -/
def empty : Node := .scalar .null ""

/-- The tag of a node. -/
def tag : Node → Tag
  | scalar t _ => t
  | sequence t _ => t
  | mapping t _ => t

/-- The node with another tag. -/
def retag (t : Tag) : Node → Node
  | scalar _ text => scalar t text
  | sequence _ items => sequence t items
  | mapping _ entries => mapping t entries

end Node

/-- The nodes of a document. -/
structure Graph where
  /-- The nodes by their numbers. -/
  nodes : Array Node
  /-- The number of the node that holds the others. -/
  root : Nat

/-- What is known while nodes are formed. -/
structure Formation where
  /-- The words that are left. -/
  tokens : List Token
  /-- What stands behind the last word. -/
  fault : Option YamlFault
  /-- The short names for the beginnings of tags. -/
  handles : List (String × String)
  /-- The nodes that were formed. -/
  nodes : Array Node
  /-- The numbers of the nodes with a name. -/
  anchors : List (String × Nat)

/-- A step of forming nodes. -/
abbrev Form (α : Type) := StateT Formation (Except YamlFault) α

namespace Form

/-- The next word. -/
def peek : Form Token := do
  let s ← get
  match s.tokens with
  | t :: _ => return t
  | [] => throw (s.fault.getD .ungrammatical)

/-- Leaves the next word behind. -/
def skip : Form Unit := do
  let _ ← peek
  modify fun s => { s with tokens := s.tokens.tail }

/-- Leaves the next word behind if it is the given one, and says whether it was. -/
def skipIf (t : Token) : Form Bool := do
  if (← peek) = t then
    skip
    return true
  return false

/-- Leaves the given word behind; any other one is refused. -/
def expect (t : Token) : Form Unit := do if !(← skipIf t) then throw .ungrammatical

/-- The words that no node begins with where the value of a key may be left out. -/
def endsEntry (t : Token) : Bool := t = .key || t = .value || t = .blockEnd

/-! ## Properties -/

/-- The name and the tag in front of a node. -/
structure Properties where
  /-- The name. -/
  anchor : Option String
  /-- The tag in full; an exclamation mark leaves it open. -/
  tag : Option String

/-- An anchor, if it comes next. -/
def anchor? : Form (Option String) := do
  match ← peek with
  | .anchor n => do
    skip
    return some n
  | _ => return none

/-- A tag, if it comes next. -/
def tag? : Form (Option (Option String × String)) := do
  match ← peek with
  | .tag handle suffix => do
    skip
    return some (handle, suffix)
  | _ => return none

/-- The name and the tag in front of a node, in any order. -/
def properties : Form Properties := do
  let first ← anchor?
  let tag ← tag?
  let anchor ← match first, tag with
    | none, some _ => anchor?
    | first, _ => pure first
  match tag with
  | none => return ⟨anchor, none⟩
  | some (none, suffix) => return ⟨anchor, some suffix⟩
  | some (some handle, suffix) =>
    match (← get).handles.lookup handle with
    | some start => return ⟨anchor, some (start ++ suffix)⟩
    | none => throw .ungrammatical

/-- The tag of a scalar. -/
def Properties.scalarTag (p : Properties) (text : String) (plain : Bool) : Tag :=
  match p.tag with
  | some "!" => .ofPlain text.toList
  | some uri => .ofUri uri
  | none => if plain then .ofPlain text.toList else .text

/-- The tag of a collection. -/
def Properties.collectionTag (p : Properties) (usual : Tag) : Tag :=
  match p.tag with
  | none | some "!" => usual
  | some uri => .ofUri uri

/-- A further node. -/
def add (n : Node) : Form Nat :=
  modifyGet fun s => (s.nodes.size, { s with nodes := s.nodes.push n })

/-- A further node without content. -/
def bareNode : Form Nat := add .empty

/-- Gives a name to a node; each name can be given once. -/
def name (p : Properties) (i : Nat) : Form Unit := do
  match p.anchor with
  | none => return
  | some n =>
    if ((← get).anchors.lookup n).isSome then throw .unconnected
    modify fun s => { s with anchors := (n, i) :: s.anchors }

/-- A further scalar. -/
def scalar (p : Properties) (text : String) (plain : Bool) : Form Nat := do
  let i ← add (.scalar (p.scalarTag text plain) text)
  name p i
  return i

/-- A further collection, which has its name before it has its parts. -/
def collection {α : Type} (p : Properties) (parts : Form α) (node : α → Node) : Form Nat := do
  let i ← add .empty
  name p i
  let found ← parts
  modify fun s => { s with nodes := s.nodes.setIfInBounds i (node found) }
  return i

/-- A further sequence. -/
def sequence (p : Properties) (items : Form (List Nat)) : Form Nat :=
  collection p items (.sequence (p.collectionTag .sequence))

/-- A further mapping. -/
def mapping (p : Properties) (entries : Form (List (Nat × Nat))) : Form Nat :=
  collection p entries (.mapping (p.collectionTag .mapping))

/-- The node that a name stands for. -/
def named (n : String) : Form Nat := do
  match (← get).anchors.lookup n with
  | some i => return i
  | none => throw .unconnected

/-! ## Nodes -/

mutual

/-- A node. Blocks may begin only where `block` allows it, and a sequence without an indentation of
its own only where `indentless` does. -/
def node : (fuel : Nat) → (block indentless : Bool) → Form Nat
  | 0, _, _ => throw .ungrammatical
  | fuel + 1, block, indentless => do
    if let .alias n ← peek then
      skip
      return ← named n
    let p ← properties
    match ← peek with
    | .scalar text plain =>
      skip
      scalar p text plain
    | .blockEntry =>
      if !indentless then return ← bare p
      sequence p (hyphens fuel)
    | .flowSequenceStart =>
      sequence p (do skip; flowItems fuel true)
    | .flowMappingStart =>
      mapping p (do skip; flowEntries fuel true)
    | .blockSequenceStart =>
      if !block then return ← bare p
      sequence p (do skip; blockItems fuel)
    | .blockMappingStart =>
      if !block then return ← bare p
      mapping p (do skip; blockEntries fuel)
    | _ => bare p
where
  /-- A node without content; only a name or a tag allows it. -/
  bare (p : Properties) : Form Nat := do
    if p.anchor.isNone ∧ p.tag.isNone then throw .ungrammatical
    scalar p "" true

/-- The items of a sequence up to the end of its block. -/
def blockItems : (fuel : Nat) → Form (List Nat)
  | 0 => throw .ungrammatical
  | fuel + 1 => do
    if ← skipIf .blockEntry then
      let t ← peek
      let item ← if t = .blockEntry || t = .blockEnd then bareNode else node fuel true false
      return item :: (← blockItems fuel)
    expect .blockEnd
    return []

/-- The items of a sequence without an indentation of its own. -/
def hyphens : (fuel : Nat) → Form (List Nat)
  | 0 => throw .ungrammatical
  | fuel + 1 => do
    if ← skipIf .blockEntry then
      let t ← peek
      let item ← if t = .blockEntry || endsEntry t then bareNode else node fuel true false
      return item :: (← hyphens fuel)
    return []

/-- The entries of a mapping up to the end of its block. -/
def blockEntries : (fuel : Nat) → Form (List (Nat × Nat))
  | 0 => throw .ungrammatical
  | fuel + 1 => do
    if ← skipIf .key then
      let key ← if endsEntry (← peek) then bareNode else node fuel true true
      let value ←
        if ← skipIf .value then
          if endsEntry (← peek) then bareNode else node fuel true true
        else bareNode
      return (key, value) :: (← blockEntries fuel)
    expect .blockEnd
    return []

/-- The items of a sequence between brackets; a comma stands before each but the first. An item may
be a mapping with one entry. -/
def flowItems : (fuel : Nat) → (first : Bool) → Form (List Nat)
  | 0, _ => throw .ungrammatical
  | fuel + 1, first => do
    if ← skipIf .flowSequenceEnd then return []
    if !first then expect .flowEntry
    if ← skipIf .key then
      let entry ← flowEntry fuel .flowSequenceEnd
      let item ← add (.mapping .mapping [entry])
      return item :: (← flowItems fuel false)
    if ← skipIf .flowSequenceEnd then return []
    let item ← node fuel false false
    return item :: (← flowItems fuel false)

/-- The entries of a mapping between brackets; a comma stands before each but the first. A node
alone is a key without a value. -/
def flowEntries : (fuel : Nat) → (first : Bool) → Form (List (Nat × Nat))
  | 0, _ => throw .ungrammatical
  | fuel + 1, first => do
    if ← skipIf .flowMappingEnd then return []
    if !first then expect .flowEntry
    if ← skipIf .key then
      let entry ← flowEntry fuel .flowMappingEnd
      return entry :: (← flowEntries fuel false)
    if ← skipIf .flowMappingEnd then return []
    let key ← node fuel false false
    return (key, ← bareNode) :: (← flowEntries fuel false)

/-- An entry between brackets, behind the word that announces its key. -/
def flowEntry : (fuel : Nat) → (closing : Token) → Form (Nat × Nat)
  | 0, _ => throw .ungrammatical
  | fuel + 1, closing => do
    let t ← peek
    let key ←
      if t = .value || t = .flowEntry || t = closing then bareNode else node fuel false false
    if ← skipIf .value then
      let t ← peek
      let value ← if t = .flowEntry || t = closing then bareNode else node fuel false false
      return (key, value)
    return (key, ← bareNode)

end

/-! ## Documents -/

/-- The short names that every document has. -/
def commonHandles : List (String × String) := [("!", "!"), ("!!", Tag.commonStart)]

/-- Reads the directives in front of a document: at most one version, and each short name once. -/
def directives : (fuel : Nat) → (versions : Nat) → List (String × String) →
    Form (List (String × String))
  | 0, _, _ => throw .ungrammatical
  | fuel + 1, versions, handles => do
    match ← peek with
    | .directive d =>
      skip
      match d with
      | .version major =>
        if versions ≠ 0 ∨ major ≠ 1 then throw .ungrammatical
        directives fuel 1 handles
      | .shorthand handle start =>
        if (handles.lookup handle).isSome then throw .ungrammatical
        directives fuel versions (handles ++ [(handle, start)])
      | .other => directives fuel versions handles
    | _ => return handles

/-- Leaves the ends of documents behind. -/
def skipEnds : (fuel : Nat) → Form Unit
  | 0 => throw .ungrammatical
  | fuel + 1 => do if ← skipIf .documentEnd then skipEnds fuel

/-- Reads the beginning of a document that is announced; its short names go before the common
ones. -/
def announced (fuel : Nat) : Form Unit := do
  let handles ← directives fuel 0 []
  expect .documentStart
  modify fun s => { s with handles := handles ++ commonHandles }

/-- The content of a document behind its announcement. -/
def content (fuel : Nat) : Form Nat := do
  match ← peek with
  | .directive _ | .documentStart | .documentEnd | .streamEnd => bareNode
  | _ => node fuel true false

/-- The first document, if there is one. -/
def document? (fuel : Nat) : Form (Option Nat) := do
  match ← peek with
  | .directive _ | .documentStart =>
    announced fuel
    return some (← content fuel)
  | .streamEnd => return none
  | _ => return some (← node fuel true false)

/-- The only document, if there is one. -/
def single? (fuel : Nat) : Form (Option Nat) := do
  let root ← document? fuel
  skipEnds fuel
  if (← peek) ≠ .streamEnd then
    announced fuel
    throw .unconnected
  return root

end Form

/-- The nodes that words form, if there is one. -/
def Graph.ofWords? (words : Words) : Except YamlFault (Option Graph) := do
  let fuel := 2 * words.tokens.length + 4
  let (root, s) ← Form.single? fuel ⟨words.tokens, words.fault, Form.commonHandles, #[], []⟩
  return root.map fun i => ⟨s.nodes, i⟩

end Interpolation.Yaml
