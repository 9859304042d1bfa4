import Interpolation.Value.Store

/-!
# What values have by their types

A type says which names its values have: methods, and parts that are computed from the value itself.
The names are the public ones; a table for each type tells them, and whoever looks a name up does so
in the table of the type of the value.

Main definitions:

* `TypeMembers`: the names that a type gives to its values.
* `Content.members`: those of the type of a value.
* `Value.ownParts`: the parts of a value that are computed from the value itself.
* `Value.fields?`: the cell in which other parts of a value stand.
-/

namespace Interpolation

open Interpolation.Calendar Interpolation.Number

/-- The names that a type gives to its values. -/
structure TypeMembers where
  /-- The methods of each value. -/
  methods : List String
  /-- The methods of the type, which its values have as well. -/
  shared : List String

namespace TypeMembers

/-- No methods. -/
def none : TypeMembers := ⟨[], []⟩

/-- All names of methods that a value has. -/
def all (m : TypeMembers) : List String := m.methods ++ m.shared

/-- The methods of texts. -/
def text : TypeMembers :=
  ⟨["capitalize", "casefold", "center", "count", "encode", "endswith", "expandtabs", "find",
    "format", "format_map", "index", "isalnum", "isalpha", "isascii", "isdecimal", "isdigit",
    "isidentifier", "islower", "isnumeric", "isprintable", "isspace", "istitle", "isupper", "join",
    "ljust", "lower", "lstrip", "partition", "removeprefix", "removesuffix", "replace", "rfind",
    "rindex", "rjust", "rpartition", "rsplit", "rstrip", "split", "splitlines", "startswith",
    "strip", "swapcase", "title", "translate", "upper", "zfill"],
   ["maketrans"]⟩

/-- The methods of markup. -/
def markup : TypeMembers :=
  ⟨["__html__", "striptags", "unescape"] ++ text.methods, "escape" :: text.shared⟩

/-- The methods of bytes. -/
def bytes : TypeMembers :=
  ⟨["capitalize", "center", "count", "decode", "endswith", "expandtabs", "find", "hex", "index",
    "isalnum", "isalpha", "isascii", "isdigit", "islower", "isspace", "istitle", "isupper", "join",
    "ljust", "lower", "lstrip", "partition", "removeprefix", "removesuffix", "replace", "rfind",
    "rindex", "rjust", "rpartition", "rsplit", "rstrip", "split", "splitlines", "startswith",
    "strip", "swapcase", "title", "translate", "upper", "zfill"],
   ["fromhex", "maketrans"]⟩

/-- The methods of integers. -/
def integer : TypeMembers :=
  ⟨["as_integer_ratio", "bit_count", "bit_length", "conjugate", "to_bytes"], ["from_bytes"]⟩

/-- The methods of floats. -/
def float : TypeMembers := ⟨["as_integer_ratio", "conjugate", "hex", "is_integer"], ["fromhex"]⟩

/-- The methods of decimals. -/
def decimal : TypeMembers :=
  ⟨["adjusted", "as_integer_ratio", "as_tuple", "canonical", "compare", "compare_signal",
    "compare_total", "compare_total_mag", "conjugate", "copy_abs", "copy_negate", "copy_sign",
    "exp", "fma", "is_canonical", "is_finite", "is_infinite", "is_nan", "is_normal", "is_qnan",
    "is_signed", "is_snan", "is_subnormal", "is_zero", "ln", "log10", "logb", "logical_and",
    "logical_invert", "logical_or", "logical_xor", "max", "max_mag", "min", "min_mag",
    "next_minus", "next_plus", "next_toward", "normalize", "number_class", "quantize", "radix",
    "remainder_near", "rotate", "same_quantum", "scaleb", "shift", "sqrt", "to_eng_string",
    "to_integral", "to_integral_exact", "to_integral_value"],
   ["from_float"]⟩

/-- The methods of lists. -/
def list : TypeMembers :=
  ⟨["append", "clear", "copy", "count", "extend", "index", "insert", "pop", "remove", "reverse",
    "sort"], []⟩

/-- The methods of sequences that cannot change. -/
def sequence : TypeMembers := ⟨["count", "index"], []⟩

/-- The methods of sets. -/
def set : TypeMembers :=
  ⟨["add", "clear", "copy", "difference", "difference_update", "discard", "intersection",
    "intersection_update", "isdisjoint", "issubset", "issuperset", "pop", "remove",
    "symmetric_difference", "symmetric_difference_update", "union", "update"], []⟩

/-- The methods of mappings. -/
def dict : TypeMembers :=
  ⟨["clear", "copy", "get", "items", "keys", "pop", "popitem", "setdefault", "update", "values"],
   ["fromkeys"]⟩

/-- The methods of mappings that cannot be changed. -/
def proxy : TypeMembers := ⟨["copy", "get", "items", "keys", "values"], []⟩

/-- The methods of the views of mappings. -/
def view : ViewKind → TypeMembers
  | .keys | .items => ⟨["isdisjoint"], []⟩
  | .values => none

/-- The methods of dates. -/
def date : TypeMembers :=
  ⟨["ctime", "isocalendar", "isoformat", "isoweekday", "replace", "strftime", "timetuple",
    "toordinal", "weekday"],
   ["fromisocalendar", "fromisoformat", "fromordinal", "fromtimestamp", "today"]⟩

/-- The methods of moments. -/
def datetime : TypeMembers :=
  ⟨date.methods ++ ["astimezone", "date", "dst", "time", "timestamp", "timetz", "tzname",
    "utcoffset", "utctimetuple"],
   date.shared ++ ["combine", "now", "strptime", "utcfromtimestamp", "utcnow"]⟩

/-- The methods of times of day. -/
def time : TypeMembers :=
  ⟨["dst", "isoformat", "replace", "strftime", "tzname", "utcoffset"], ["fromisoformat"]⟩

/-- The methods of distances to universal time. -/
def zone : TypeMembers := ⟨["dst", "fromutc", "tzname", "utcoffset"], []⟩

/-- The methods of futures that do not depend on what runs them. -/
def commonFuture : List String :=
  ["add_done_callback", "cancel", "cancelled", "done", "exception", "result", "set_exception",
   "set_result"]

/-- The methods of futures. -/
def future : Runner → TypeMembers
  | .threads => ⟨commonFuture ++ ["running", "set_running_or_notify_cancel"], []⟩
  | .loop => ⟨commonFuture ++ ["get_loop", "remove_done_callback"], []⟩

/-- The methods of streams: those that are computed on demand can be stopped, and be told a value or
a fault. -/
def stream (type : String) : TypeMembers :=
  if type = "generator" then ⟨["close", "send", "throw"], []⟩ else none

/-- The methods of a type that every context has. -/
def type : Global → List String
  | .lipsum => []
  | .dict => "mro" :: dict.shared
  | _ => ["mro"]

end TypeMembers

namespace Content

/-- The methods that a value has by its type. -/
def members : Content → TypeMembers
  | .str _ => .text
  | .markup _ => .markup
  | .category _ => .text
  | .bytes _ => .bytes
  | .int _ | .bool _ => .integer
  | .float _ => .float
  | .complex .. => ⟨["conjugate"], []⟩
  | .decimal _ => .decimal
  | .list _ => .list
  | .tuple _ | .range .. => .sequence
  | .set _ => .set
  | .dict _ => .dict
  | .proxy _ => .proxy
  | .view kind _ => .view kind
  | .slice _ => ⟨["indices"], []⟩
  | .date _ => .date
  | .datetime .. => .datetime
  | .time _ => .time
  | .duration _ => ⟨["total_seconds"], []⟩
  | .zone _ => .zone
  | .future id => .future id.runner
  | .failure .. => ⟨["add_note", "with_traceback"], []⟩
  | .stream type _ => .stream type
  | .cycler _ => ⟨["next", "reset"], []⟩
  | .global g => ⟨[], TypeMembers.type g⟩
  | .generic _ => ⟨[], TypeMembers.type .dict⟩
  | _ => .none

end Content

namespace Value

/-- The cell in which attributes of a value stand, with their names in the order of the cell. -/
def fields? (v : Value) : Option (Ref × List String) :=
  match v.content with
  | .trusted _ r => some (r, ["value"])
  | .point r => some (r, ["x", "y"])
  | .token r => some (r, ["t"])
  | .slice r => some (r, ["start", "stop", "step"])
  | .cycler r => some (r, ["items", "pos", "current"])
  | .joiner r => some (r, ["sep", "used"])
  | .tuple r => v.record?.map fun type => (r, type.fields)
  | _ => Option.none

/-- The value to which the methods of a value are bound. -/
def receiver (v : Value) : Value :=
  match v.content with
  | .category c => .constant (.str c.name)
  | .generic _ => .ofContent (.global .dict)
  | _ => v

/-! ## Parts that are computed -/

/-- The parts of an integer; it is its own real part unless it is a truth value. -/
def integerParts (itself : Value) (n : Int) : List (String × Value) :=
  let whole := match itself.content with
    | .int _ => itself
    | _ => .int n
  [("real", whole), ("numerator", whole), ("imag", .int 0), ("denominator", .int 1)]

/-- The least and the greatest value of a type and the least distance between two of them. -/
def boundParts (least greatest : Content) (distance : Duration) : List (String × Value) :=
  [("min", .ofContent least), ("max", .ofContent greatest),
   ("resolution", .ofContent (.duration distance))]

/-- The parts of a date. -/
def dateNumbers (d : Date) : List (String × Value) :=
  [("year", .int d.year), ("month", .int d.month), ("day", .int d.day)]

/-- The parts of a time of day. -/
def clockNumbers (c : Clock) : List (String × Value) :=
  [("hour", .int c.hour), ("minute", .int c.minute), ("second", .int c.second),
   ("microsecond", .int c.micro), ("fold", .int 0),
   ("tzinfo", match c.offset with
    | some n => .ofContent (.zone n)
    | Option.none => .none)]

/-- The greatest distance to universal time in seconds that has a name. -/
def furthestZone : Int := 86340

/-- What a type has under names that its values fill; `sort` is the type of such things. -/
def ofType (sort owner : String) (names : List String) : List (String × Value) :=
  names.map fun n => (n, .ofContent (.member sort owner n))

/-- The parts of a type that every context has. -/
def typeParts : Global → List (String × Value)
  | .dict => ofType "method_descriptor" "dict" TypeMembers.dict.methods
  | .range =>
    ofType "method_descriptor" "range" TypeMembers.sequence.methods
      ++ ofType "member_descriptor" "range" ["start", "stop", "step"]
  | .cycler => ofType "function" "Cycler" ["next", "reset"] ++ ofType "property" "Cycler" ["current"]
  | _ => []

/-- What a tuple with named items has besides its items. -/
def recordParts : RecordType → List (String × Value)
  | .moment =>
    [("tm_zone", .none), ("tm_gmtoff", .none), ("n_fields", .int 11),
     ("n_sequence_fields", .int 9), ("n_unnamed_fields", .int 0)]
  | _ => []

/-- The parts of a value that are computed from the value itself. -/
def ownParts (v : Value) : List (String × Value) :=
  match v.content with
  | .category c =>
    [("name", .constant (.str c.label)), ("value", .constant (.str c.name))]
      ++ Trust.Category.all.map fun d => (d.label, .ofContent (.category d))
  | .trusted c _ => [("category", .ofContent (.category c))]
  | .int n => integerParts v n
  | .bool b => integerParts v (if b then 1 else 0)
  | .float _ => [("real", v), ("imag", .float 0.0)]
  | .complex re im => [("real", .float re), ("imag", .float im)]
  | .decimal _ => [("real", v), ("imag", .ofContent (.decimal (.finite false 0 0)))]
  | .date d =>
    dateNumbers d ++ boundParts (.date .first) (.date .last) ⟨86400000000⟩
  | .datetime d c =>
    dateNumbers d ++ clockNumbers c
      ++ boundParts (.datetime .first .first) (.datetime .last .last) ⟨1⟩
  | .time c => clockNumbers c ++ boundParts (.time .first) (.time .last) ⟨1⟩
  | .duration d =>
    let (days, seconds, micros) := d.parts
    [("days", .int days), ("seconds", .int seconds), ("microseconds", .int micros)]
      ++ boundParts (.duration .least) (.duration .greatest) ⟨1⟩
  | .zone _ =>
    [("utc", .ofContent (.zone 0)), ("min", .ofContent (.zone (-furthestZone))),
     ("max", .ofContent (.zone furthestZone))]
  | .range a b s => [("start", .int a), ("stop", .int b), ("step", .int s)]
  | .tuple _ => (v.record?.map recordParts).getD []
  | .view _ r => [("mapping", .ofContent (.proxy r))]
  | .global g => typeParts g
  | .generic _ => typeParts .dict
  | _ => []

/-- What a stream that is computed on demand tells of itself. -/
def courseParts (c : Course) : List (String × Value) :=
  let frame : Value := match c with
    | .ended => .none
    | _ => .ofContent (.member "frame" "" "")
  let running := match c with
    | .running => true
    | _ => false
  let suspended := match c with
    | .working .. => true
    | _ => false
  [("gi_code", .ofContent (.member "code" "" "")), ("gi_frame", frame),
   ("gi_running", .bool running), ("gi_suspended", .bool suspended), ("gi_yieldfrom", .none)]

end Value

end Interpolation
