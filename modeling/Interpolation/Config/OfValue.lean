import Interpolation.Config.Basic
import Interpolation.Config.Invalid
import Interpolation.Value.Loading
import Interpolation.Yaml.Content

/-!
# Reading a configuration

A configuration is read from a mapping of mappings. What a mapping does not hold is taken from the
standard configuration, and names that mean nothing are ignored. All leaves are checked, so that a
report on an invalid configuration is complete.

Main definitions:

* `Checked`, `Check`: a result, or all that is wrong.
* `Config.ofValue`: the configuration that a value describes.
* `Config.load`: the configuration in a document.
-/

namespace Interpolation

open Interpolation.Text

/-- A result, or all that is wrong. -/
abbrev Checked (α : Type) := Except (List Invalid) α

/-- A check of values whose parts are in a store. -/
abbrev Check (α : Type) := ReaderT Store Checked α

namespace Checked

/-- Two results together; what is wrong with the first one comes first. -/
def both {α β : Type} : Checked α → Checked β → Checked (α × β)
  | .ok a, .ok b => .ok (a, b)
  | .ok _, .error e => .error e
  | .error e, .ok _ => .error e
  | .error e, .error f => .error (e ++ f)

/-- A result of something that stands at a place. -/
def place {α : Type} (name : String) (c : Checked α) : Checked α :=
  c.mapError fun is => is.map fun i => { i with place := name :: i.place }

end Checked

namespace Check

variable {α β : Type}

/-- Two checks, both of which are made. -/
def both (x : Check α) (y : Check β) : Check (α × β) := fun s => Checked.both (x s) (y s)

/-- A check of something that stands at a place. -/
def place (name : String) (x : Check α) : Check α := fun s => Checked.place name (x s)

/-- Something wrong with a value. -/
def wrong (v : Value) (cause : InvalidCause) : Check α := fun s =>
  .error [⟨[], cause, v.shownForReport s, v.typeName⟩]

end Check

namespace Config

/-! ## Leaves -/

/-- A text. -/
def readText (v : Value) : Check String :=
  match v.content, v.text? with
  | .bytes bs, _ =>
    match utf8Decode bs with
    | .ok s => return String.ofList s
    | .error _ => .wrong v .notUnicode
  | _, some s => return s
  | _, none => .wrong v .notText

/-- A text, or nothing. -/
def readDescription (v : Value) : Check (Option String) :=
  if v.isNone then return none else some <$> readText v

/-- A delimiter. -/
def readMarker (v : Value) : Check Marker := do
  let s ← readText v
  match Marker.ofString? s with
  | some m => return m
  | none => .wrong v .emptyDelimiter

/-- The texts that stand for truth values, in small letters. -/
def flagTexts : List (String × Bool) :=
  [("0", false), ("f", false), ("n", false), ("no", false), ("off", false), ("false", false),
   ("1", true), ("t", true), ("y", true), ("yes", true), ("on", true), ("true", true)]

/-- The truth value that a text stands for, in small or capital letters. -/
def flagOfText (v : Value) (s : String) : Check Bool :=
  match flagTexts.lookup s.toLower with
  | some b => return b
  | none => .wrong v .unclearFlag

/-- Whether an integer can be stored in eight bytes. -/
def isWord (n : Int) : Bool := -2 ^ 63 ≤ n && n < 2 ^ 63

/-- Whether a float is an integer that can be stored in eight bytes. -/
def isWholeWord (x : Float) : Bool :=
  (Number.Binary.ofFloat x).isInteger && -9223372036854775808.0 < x && x < 9223372036854775808.0

/-- A truth value: itself, zero or one, or one of a few texts. -/
def readFlag (v : Value) : Check Bool :=
  match v.content, v.text? with
  | .bool b, _ => return b
  | .bytes bs, _ =>
    match utf8Decode bs with
    | .ok s => flagOfText v (String.ofList s)
    | .error _ => .wrong v .unclearFlag
  | .int n, _ =>
    if n = 0 then return false else if n = 1 then return true
    else .wrong v (if isWord n then .unclearFlag else .notAFlag)
  | .float x, _ =>
    if !isWholeWord x then .wrong v .notAFlag
    else if x == 0 then return false else if x == 1 then return true else .wrong v .unclearFlag
  | _, some s => flagOfText v s
  | _, none => .wrong v .notAFlag

/-- The texts of a list, each at the place of its number. -/
def readTexts (index : Nat) : List Value → Check (List String)
  | [] => return []
  | v :: vs => do
    let (s, rest) ← Check.both ((readText v).place (toString index)) (readTexts (index + 1) vs)
    return s :: rest

/-- A list of texts. -/
def readAllowlist (v : Value) : Check (List String) := do
  match v.content with
  | .list r | .tuple r | .set r => readTexts 0 ((← read).row r).toList
  | _ => .wrong v .notAList

/-! ## Sections -/

/-- The entries of a mapping that describes something. -/
def readSection (model : String) (v : Value) : Check (List (Value × Value)) := do
  match v.content with
  | .dict r => return (← read).entries r
  | _ => .wrong v (.notAMapping model)

/-- The value that a mapping holds for a name. -/
def field? (name : String) (entries : List (Value × Value)) : Option Value :=
  (entries.find? fun (k, _) => k.text? = some name).map Prod.snd

/-- What a mapping says about a name, or what holds where it says nothing. -/
def readField {α : Type} (entries : List (Value × Value)) (name : String) (check : Value → Check α)
    (otherwise : α) : Check α :=
  match field? name entries with
  | some v => (check v).place name
  | none => return otherwise

/-- The section about delimiters. -/
def readDelimiters (v : Value) : Check Delimiters := do
  let entries ← readSection "DelimiterConfig" v
  let marker (n : MarkerName) := readField entries n.name readMarker (Delimiters.standard.get n)
  let ((ps, pe), (ss, se)) ← Check.both
    (Check.both (marker .primaryStart) (marker .primaryEnd))
    (Check.both (marker .secondaryStart) (marker .secondaryEnd))
  return ⟨ps, pe, ss, se⟩

/-- The section about expressions. -/
def readExpressions (v : Value) : Check ExpressionDefaults := do
  let entries ← readSection "ExpressionConfig" v
  let flag (name : String) (otherwise : Bool) := readField entries name readFlag otherwise
  let standard := ExpressionDefaults.standard
  let (strict, (resolving, logging)) ← Check.both (flag "strict_undefined" standard.strict)
    (Check.both (flag "resolve_async" standard.resolving) (flag "log_warnings" standard.logging))
  return ⟨strict, resolving, logging⟩

/-- The section about trust. -/
def readTrust (v : Value) : Check Policy := do
  let entries ← readSection "TrustConfig" v
  let allowlist ←
    readField entries "resource_url_allowlist" readAllowlist Policy.standard.allowlist
  return ⟨allowlist⟩

/-- The configuration that a mapping describes. -/
def readConfig (v : Value) : Check Config := do
  let entries ← readSection "StencilConfig" v
  let ((description, delimiters), (expressions, trust)) ← Check.both
    (Check.both (readField entries "description" readDescription standard.description)
      (readField entries "delimiters" readDelimiters standard.delimiters))
    (Check.both (readField entries "expressions" readExpressions standard.expressions)
      (readField entries "trust" readTrust standard.trust))
  return ⟨description, delimiters, expressions, trust⟩

/-- The configuration that a value describes, whose parts are in a store. -/
def ofValue (store : Store) (v : Value) : Except ConfigFault Config :=
  (readConfig v store).mapError fun is => ⟨is⟩

/-- The configuration that a datum describes. -/
def ofDatum (d : Datum) : Except ConfigFault Config :=
  let (v, store) := d.load Store.empty
  ofValue store v

/-! ## Documents -/

/-- Why a document holds no configuration. -/
inductive LoadFault where
  /-- The document has no value. -/
  | document (f : YamlFault)
  /-- The value describes no configuration. -/
  | invalid (f : ConfigFault)

namespace LoadFault

/-- The kind under which a fault is reported. -/
def label : LoadFault → String
  | document f => f.label
  | invalid _ => "ValueError"

/-- What is told about a fault, unless its kind says it all. -/
def message? : LoadFault → Option String
  | document f => f.message?
  | invalid f => f.message

end LoadFault

/-- The value of a document; a value that counts as false is an empty mapping. -/
def documentValue (text : List Char) : Except YamlFault (Value × Store) := do
  let (v, store) ← Yaml.load text
  match v.truth.run store with
  | .ok false => return (Building.dict []) store
  | _ => return (v, store)

/-- The configuration in a document. -/
def load (text : List Char) : Except LoadFault Config := do
  let (v, store) ← (documentValue text).mapError .document
  (ofValue store v).mapError .invalid

end Config

end Interpolation
