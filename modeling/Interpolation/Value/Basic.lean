import Interpolation.Fault
import Interpolation.Trust.Category
import Interpolation.Number.Decimal
import Interpolation.Calendar.Moment

/-!
# Values

What a context holds and what an expression yields. A value without parts is told by its content
alone; a value with parts is a reference to a cell of the store, where the parts are, so that a
change to them is seen by everyone who holds the value. A future is a reference into the table of
futures.

Two values with equal contents may still be told apart: each value that is kept somewhere has an
identity of its own. A few contents exist only once, and constants of an expression are shared.

Main definitions:

* `Content`, `Identity`, `Value`: the values.
* `Value.same`: whether two values are one and the same.
* `Value.typeName`, `Value.typeWord`, `Value.description`: how the type of a value is named in
  reports.
* `Value.text?`, `Value.int?`: the characters of a value that counts as text, the integer of one
  that counts as an integer.
-/

namespace Interpolation

open Interpolation.Trust Interpolation.Calendar Interpolation.Number

/-- How a missing value takes being used: the chaining one yields itself for every look-up and
counts as an empty text, the strict one refuses every use, and the plain one refuses look-ups. -/
inductive Tolerance where
  | chaining
  | strict
  | plain
deriving DecidableEq, Repr

/-- The name of the type of a missing value. -/
def Tolerance.typeName : Tolerance → String
  | .chaining => "ChainableUndefined"
  | .strict => "StrictUndefined"
  | .plain => "Undefined"

/-- The three views of a mapping. -/
inductive ViewKind where
  | keys
  | values
  | items
deriving DecidableEq, Repr

/-- The names that every context has in addition to its own. -/
inductive Global where
  | range
  | dict
  | lipsum
  | cycler
  | joiner
  | namespaceType
deriving DecidableEq, Repr

/-- The name with the module that it belongs to, unless that is the one of the common types. -/
def Global.path : Global → String
  | .range => "range"
  | .dict => "dict"
  | .lipsum => "jinja2.utils.generate_lorem_ipsum"
  | .cycler => "jinja2.utils.Cycler"
  | .joiner => "jinja2.utils.Joiner"
  | .namespaceType => "jinja2.utils.Namespace"

/-- What runs a future. -/
inductive Runner where
  /-- A pool of threads. -/
  | threads
  /-- An event loop. -/
  | loop
deriving DecidableEq, Repr

/-- The identity of a future: its place in the table of futures, and what runs it. -/
structure FutureId where
  /-- The place in the table of futures. -/
  place : Nat
  /-- What runs the future. -/
  runner : Runner
deriving DecidableEq, Repr


/-- A reference to a cell of the store. -/
structure Ref where
  /-- The place of the cell. -/
  place : Nat
deriving DecidableEq, Repr

/-- What a value is, apart from its identity. The parts of a value stand in the store. -/
inductive Content where
  | none
  | bool (b : Bool)
  | int (n : Int)
  | float (x : Float)
  /-- A number with a real and an imaginary part. -/
  | complex (re im : Float)
  | str (s : String)
  /-- Text that is known to be safe markup. -/
  | markup (s : String)
  | bytes (bs : List UInt8)
  /-- A category itself, which counts as text. -/
  | category (c : Category)
  | future (id : FutureId)
  /-- An error: its kind and its text. -/
  | failure (label : String) (text : Wording)
  | date (d : Date)
  | datetime (d : Date) (c : Clock)
  | time (c : Clock)
  | duration (d : Duration)
  /-- A distance to universal time in seconds. -/
  | zone (seconds : Int)
  | decimal (d : Decimal)
  | missing (tolerance : Tolerance) (what : Missing)
  | range (start stop step : Int)
  | global (g : Global)
  /-- A type, by its name. -/
  | typeNamed (name : String)
  /-- What a type holds under a name that only its instances fill; `sort` is the type of such
  things. -/
  | member (sort owner name : String)
  /-- The reference of a template to itself. -/
  | selfReference
  | list (r : Ref)
  | tuple (r : Ref)
  | set (r : Ref)
  /-- A mapping in the order of insertion. -/
  | dict (r : Ref)
  /-- A value approved for a category. -/
  | trusted (category : Category) (r : Ref)
  /-- An object that is known only by its attributes. -/
  | object (r : Ref)
  /-- An object without attributes of its own, shown as a text. -/
  | token (r : Ref)
  /-- A record of two fields. -/
  | point (r : Ref)
  /-- The bounds and the step of a part of a sequence. -/
  | slice (r : Ref)
  /-- Items that are computed one by one. -/
  | stream (type : String) (r : Ref)
  /-- What a mapping holds, seen through the mapping. -/
  | view (kind : ViewKind) (r : Ref)
  /-- A mapping that cannot be changed through this value. -/
  | proxy (r : Ref)
  /-- A bag of named values. -/
  | bag (r : Ref)
  /-- The type of mappings, with the types that they are told to hold. -/
  | generic (r : Ref)
  /-- Values that are given one after the other, again and again. -/
  | cycler (r : Ref)
  /-- A text that is given every time but the first. -/
  | joiner (r : Ref)
  /-- A method bound to its receiver, which stands in the store; `type` is the type of methods of
  this sort. -/
  | method (type : String) (r : Ref) (name : String)
deriving BEq, Inhabited

/-- The types of tuples whose items have names. -/
inductive RecordType where
  /-- Items with what they have in common. -/
  | group
  /-- A day of a numbered week. -/
  | week
  /-- The parts of a moment. -/
  | moment
  /-- The parts of a decimal. -/
  | digits
deriving DecidableEq, Repr

namespace RecordType

/-- The name of the type. -/
def name : RecordType → String
  | group => "_GroupTuple"
  | week => "IsoCalendarDate"
  | moment => "struct_time"
  | digits => "DecimalTuple"

/-- The module that the type belongs to. -/
def module : RecordType → String
  | group => "jinja2.filters"
  | week => "datetime"
  | moment => "time"
  | digits => "decimal"

/-- The names of the items. -/
def fields : RecordType → List String
  | group => ["grouper", "list"]
  | week => ["year", "week", "weekday"]
  | moment =>
    ["tm_year", "tm_mon", "tm_mday", "tm_hour", "tm_min", "tm_sec", "tm_wday", "tm_yday",
     "tm_isdst"]
  | digits => ["sign", "digits", "exponent"]

/-- How the type is told where a tuple of it is shown in full; the items of a group are shown
without their names. -/
def shownAs? : RecordType → Option String
  | group => none
  | week => some "datetime.IsoCalendarDate"
  | moment => some "time.struct_time"
  | digits => some "DecimalTuple"

end RecordType

/-- What tells a value apart from others with the same content. -/
inductive Identity where
  /-- Nothing: the value was made and is kept nowhere. -/
  | loose
  /-- The value was kept under a number of its own. -/
  | kept (n : Nat)
  /-- Equal contents of this identity are the same value: constants, and names of names. -/
  | shared
  /-- The value is a tuple whose items have names. -/
  | named (type : RecordType)
deriving DecidableEq, Repr, Inhabited

/-- The values of the expression language. -/
structure Value where
  /-- What the value is. -/
  content : Content
  /-- What tells it apart from other values with this content. -/
  identity : Identity
deriving Inhabited

namespace Content

/-- Whether two contents are equal to the last bit. -/
def identical : Content → Content → Bool
  | .float x, .float y => x.toBits == y.toBits
  | .complex a b, .complex c d => a.toBits == c.toBits && b.toBits == d.toBits
  | a, b => a == b

/-- Whether there is only one value of the content: nothing, the truth values, small integers, texts
of at most one simple character, categories, futures, errors and the names that every context
has. -/
def isUnique : Content → Bool
  | .none | .bool _ | .category _ | .future _ | .failure .. | .global _ | .typeNamed _ | .member ..
  | .selfReference => true
  | .zone seconds => seconds == 0
  | .int n => -5 ≤ n && n ≤ 256
  | .str s =>
    match s.toList with
    | [] => true
    | [c] => c.toNat < 256
    | _ => false
  | .bytes bs => bs.length ≤ 1
  | _ => false

/-- Whether the content is a reference to a cell that makes up the value. -/
def isCell : Content → Bool
  | .list _ | .tuple _ | .set _ | .dict _ | .trusted .. | .object _ | .token _ | .point _ | .slice _
  | .stream .. | .bag _ | .generic _ | .cycler _ | .joiner _ => true
  | _ => false

/-- Whether the content is one that constants of an expression have. -/
def isConstant : Content → Bool
  | .none | .bool _ | .int _ | .float _ | .complex .. | .str _ | .bytes _ => true
  | _ => false

/-- The characters of a content that counts as text. -/
def text? : Content → Option String
  | .str s | .markup s => some s
  | .category c => some c.name
  | _ => Option.none

/-- The integer of a content that counts as one. -/
def int? : Content → Option Int
  | .int n => some n
  | .bool b => some (if b then 1 else 0)
  | _ => Option.none

/-- The name of the type of methods of a value. -/
def methodType : Content → String
  | .markup _ | .object _ | .trusted .. | .missing .. | .cycler _ | .joiner _ => "method"
  | .future id => if id.runner = .threads then "method" else "builtin_function_or_method"
  | _ => "builtin_function_or_method"

/-- The name of a type. -/
def typeName : Content → String
  | .none => "NoneType"
  | .bool _ => "bool"
  | .int _ => "int"
  | .float _ => "float"
  | .complex .. => "complex"
  | .str _ => "str"
  | .markup _ => "Markup"
  | .bytes _ => "bytes"
  | .list _ => "list"
  | .tuple _ => "tuple"
  | .set _ => "set"
  | .dict _ => "dict"
  | .trusted .. => "TrustedValue"
  | .category _ => "TrustCategory"
  | .future _ => "Future"
  | .failure label _ => label
  | .object _ => "Obj"
  | .token _ => "Token"
  | .point _ => "Point"
  | .date _ => "date"
  | .datetime .. => "datetime"
  | .time _ => "time"
  | .duration _ => "timedelta"
  | .zone _ => "timezone"
  | .decimal _ => "Decimal"
  | .missing t _ => t.typeName
  | .range .. => "range"
  | .slice _ => "slice"
  | .stream t _ => t
  | .view .keys _ => "dict_keys"
  | .view .values _ => "dict_values"
  | .view .items _ => "dict_items"
  | .bag _ => "Namespace"
  | .proxy _ => "mappingproxy"
  | .generic _ => "GenericAlias"
  | .cycler _ => "Cycler"
  | .joiner _ => "Joiner"
  | .method type _ _ => type
  | .member sort _ _ => sort
  | .global .lipsum => "function"
  | .global _ => "type"
  | .typeNamed _ => "type"
  | .selfReference => "TemplateReference"

/-- The module that a type belongs to, unless it is one of the common types. -/
def typeModule? : Content → Option String
  | .markup _ => some "markupsafe"
  | .trusted .. | .category _ => some "stencil.trust"
  | .future id =>
    match id.runner with
    | .threads => some "concurrent.futures._base"
    | .loop => some "_asyncio"
  | .date _ | .datetime .. | .time _ | .duration _ | .zone _ => some "datetime"
  | .decimal _ => some "decimal"
  | .missing .. | .selfReference => some "jinja2.runtime"
  | .bag _ | .cycler _ | .joiner _ | .member "MissingType" _ _ => some "jinja2.utils"
  | .generic _ => some "types"
  | _ => Option.none

end Content

namespace Value

/-! ## Values without parts -/

/-- A value that is kept nowhere. -/
def ofContent (c : Content) : Value := ⟨c, .loose⟩

/-- Nothing. -/
def none : Value := ofContent .none

/-- A truth value. -/
def bool (b : Bool) : Value := ofContent (.bool b)

/-- An integer. -/
def int (n : Int) : Value := ofContent (.int n)

/-- A float. -/
def float (x : Float) : Value := ofContent (.float x)

/-- A text. -/
def str (s : String) : Value := ofContent (.str s)

/-- A text of characters. -/
def ofChars (s : List Char) : Value := str (String.ofList s)

/-- Safe markup. -/
def markup (s : String) : Value := ofContent (.markup s)

/-- A constant. -/
def constant (c : Content) : Value := ⟨c, .shared⟩

/-- Whether two values are one and the same. -/
def same (a b : Value) : Bool :=
  if a.content.isUnique || a.content.isCell then a.content.identical b.content
  else
    match a.identity, b.identity with
    | .kept m, .kept n => m == n
    | .shared, .shared => a.content.identical b.content
    | _, _ => false

/-! ## Kinds of values -/

/-- The characters of a value that counts as text. -/
def text? (v : Value) : Option String := v.content.text?

/-- The integer of a value that counts as one. -/
def int? (v : Value) : Option Int := v.content.int?

/-- Whether the value is missing. -/
def isMissing (v : Value) : Bool :=
  match v.content with
  | .missing .. => true
  | _ => false

/-- Whether the value is nothing. -/
def isNone (v : Value) : Bool :=
  match v.content with
  | .none => true
  | _ => false

/-- Whether the value is markup. -/
def isMarkup (v : Value) : Bool :=
  match v.content with
  | .markup _ => true
  | _ => false

/-- The type of a tuple whose items have names. -/
def record? (v : Value) : Option RecordType :=
  match v.identity with
  | .named type => some type
  | _ => Option.none

/-- The name of the type of a value. -/
def typeName (v : Value) : String := (v.record?.map RecordType.name).getD v.content.typeName

/-- The module that the type of a value belongs to, unless it is one of the common types. -/
def typeModule? (v : Value) : Option String :=
  (v.record?.map RecordType.module).or v.content.typeModule?

/-- The name of the type of a value with the module that the type belongs to. -/
def typePath (v : Value) : String :=
  match v.typeModule? with
  | some m => m ++ "." ++ v.typeName
  | Option.none => v.typeName

/-- How a value is described where it lacks something. -/
def description (v : Value) : String :=
  match v.content with
  | .none => "None"
  | _ => v.typePath ++ " object"

/-- The name of the type of a value in reports of operations that refuse it: some types carry their
module in it. -/
def typeWord (v : Value) : String :=
  match v.content with
  | .date _ | .datetime .. | .time _ | .duration _ | .zone _ => "datetime." ++ v.typeName
  | .decimal _ => "decimal." ++ v.typeName
  | .generic _ => "types." ++ v.typeName
  | .tuple _ =>
    match v.record? with
    | some .week | some .moment => v.typePath
    | _ => v.typeName
  | .future ⟨_, .loop⟩ => "_asyncio." ++ v.typeName
  | _ => v.typeName

end Value

end Interpolation
