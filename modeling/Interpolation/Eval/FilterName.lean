import Interpolation.Eval.Signature

/-!
# The filters and their parameters

Main definitions:

* `FilterName`: the filters, with `FilterName.ofName?`; several names may stand for one filter.
* `FilterName.bind`: the arguments of a filter besides the value, one for each parameter.
-/

namespace Interpolation

/-- The filters. -/
inductive FilterName where
  | abs | attr | batch | capitalize | center | default | dictsort | escape | fileSizeFormat | first
  | float | forceEscape | format | groupBy | indent | int | items | join | last | length | list
  | lower | map | max | min | pprint | random | reject | rejectAttr | replace | reverse | round
  | safe | select | selectAttr | slice | sort | string | stripTags | sum | title | toJson | trim
  | truncate | unique | upper | urlEncode | urlize | wordCount | wordWrap | xmlAttr
deriving DecidableEq, Repr

namespace FilterName

/-- The filters by their names. -/
def names : List (String × FilterName) :=
  [("abs", .abs), ("attr", .attr), ("batch", .batch), ("capitalize", .capitalize),
   ("center", .center), ("count", .length), ("d", .default), ("default", .default),
   ("dictsort", .dictsort), ("e", .escape), ("escape", .escape),
   ("filesizeformat", .fileSizeFormat), ("first", .first), ("float", .float),
   ("forceescape", .forceEscape), ("format", .format), ("groupby", .groupBy),
   ("indent", .indent), ("int", .int), ("items", .items), ("join", .join), ("last", .last),
   ("length", .length), ("list", .list), ("lower", .lower), ("map", .map), ("max", .max),
   ("min", .min), ("pprint", .pprint), ("random", .random), ("reject", .reject),
   ("rejectattr", .rejectAttr), ("replace", .replace), ("reverse", .reverse), ("round", .round),
   ("safe", .safe), ("select", .select), ("selectattr", .selectAttr), ("slice", .slice),
   ("sort", .sort), ("string", .string), ("striptags", .stripTags), ("sum", .sum),
   ("title", .title), ("tojson", .toJson), ("trim", .trim), ("truncate", .truncate),
   ("unique", .unique), ("upper", .upper), ("urlencode", .urlEncode), ("urlize", .urlize),
   ("wordcount", .wordCount), ("wordwrap", .wordWrap), ("xmlattr", .xmlAttr)]

/-- The filter with a name. -/
def ofName? (name : String) : Option FilterName := names.lookup name

/-- The name that reports call a filter by, the parameters whose arguments are supplied unseen, and
the other ones. -/
def signature (f : FilterName) : Signature :=
  let (no, yes) : Value × Value := (.bool false, .bool true)
  match f with
  | .abs => ⟨"abs", [], []⟩
  | .attr => ⟨"do_attr", ["environment", "obj"], [required "name"]⟩
  | .batch => ⟨"do_batch", ["value"], [required "linecount", optional "fill_with" .none]⟩
  | .capitalize => ⟨"do_capitalize", ["s"], []⟩
  | .center => ⟨"do_center", ["value"], [optional "width" (.int 80)]⟩
  | .default =>
    ⟨"do_default", ["value"], [optional "default_value" (.str ""), optional "boolean" no]⟩
  | .dictsort =>
    ⟨"do_dictsort", ["value"], [optional "case_sensitive" no, optional "by" (.str "key"),
      optional "reverse" no]⟩
  | .escape => ⟨"escape", [], []⟩
  | .fileSizeFormat => ⟨"do_filesizeformat", ["value"], [optional "binary" no]⟩
  | .first => ⟨"sync_do_first", ["environment", "seq"], []⟩
  | .float => ⟨"do_float", ["value"], [optional "default" (.constant (.float 0.0))]⟩
  | .forceEscape => ⟨"do_forceescape", ["value"], []⟩
  | .format => ⟨"do_format", ["value"], []⟩
  | .groupBy =>
    ⟨"sync_do_groupby", ["environment", "value"],
      [required "attribute", optional "default" .none, optional "case_sensitive" no]⟩
  | .indent =>
    ⟨"do_indent", ["s"], [optional "width" (.int 4), optional "first" no, optional "blank" no]⟩
  | .int => ⟨"do_int", ["value"], [optional "default" (.int 0), optional "base" (.int 10)]⟩
  | .items => ⟨"do_items", ["value"], []⟩
  | .join =>
    ⟨"sync_do_join", ["eval_ctx", "value"], [optional "d" (.str ""), optional "attribute" .none]⟩
  | .last => ⟨"do_last", ["environment", "seq"], []⟩
  | .length => ⟨"len", [], []⟩
  | .list => ⟨"sync_do_list", ["value"], []⟩
  | .lower => ⟨"do_lower", ["s"], []⟩
  | .map => ⟨"sync_do_map", ["context", "value"], []⟩
  | .max =>
    ⟨"do_max", ["environment", "value"], [optional "case_sensitive" no, optional "attribute" .none]⟩
  | .min =>
    ⟨"do_min", ["environment", "value"], [optional "case_sensitive" no, optional "attribute" .none]⟩
  | .pprint => ⟨"do_pprint", ["value"], []⟩
  | .random => ⟨"do_random", ["context", "seq"], []⟩
  | .reject => ⟨"sync_do_reject", ["context", "value"], []⟩
  | .rejectAttr => ⟨"sync_do_rejectattr", ["context", "value"], []⟩
  | .replace =>
    ⟨"do_replace", ["eval_ctx", "s"], [required "old", required "new", optional "count" .none]⟩
  | .reverse => ⟨"do_reverse", ["value"], []⟩
  | .round =>
    ⟨"do_round", ["value"], [optional "precision" (.int 0), optional "method" (.str "common")]⟩
  | .safe => ⟨"do_mark_safe", ["value"], []⟩
  | .select => ⟨"sync_do_select", ["context", "value"], []⟩
  | .selectAttr => ⟨"sync_do_selectattr", ["context", "value"], []⟩
  | .slice => ⟨"sync_do_slice", ["value"], [required "slices", optional "fill_with" .none]⟩
  | .sort =>
    ⟨"do_sort", ["environment", "value"], [optional "reverse" no, optional "case_sensitive" no,
      optional "attribute" .none]⟩
  | .string => ⟨"soft_str", [], []⟩
  | .stripTags => ⟨"do_striptags", ["value"], []⟩
  | .sum =>
    ⟨"sync_do_sum", ["environment", "iterable"],
      [optional "attribute" .none, optional "start" (.int 0)]⟩
  | .title => ⟨"do_title", ["s"], []⟩
  | .toJson => ⟨"do_tojson", ["eval_ctx", "value"], [optional "indent" .none]⟩
  | .trim => ⟨"do_trim", ["value"], [optional "chars" .none]⟩
  | .truncate =>
    ⟨"do_truncate", ["env", "s"], [optional "length" (.int 255), optional "killwords" no,
      optional "end" (.str "..."), optional "leeway" .none]⟩
  | .unique =>
    ⟨"do_unique", ["environment", "value"],
      [optional "case_sensitive" no, optional "attribute" .none]⟩
  | .upper => ⟨"do_upper", ["s"], []⟩
  | .urlEncode => ⟨"do_urlencode", ["value"], []⟩
  | .urlize =>
    ⟨"do_urlize", ["eval_ctx", "value"], [optional "trim_url_limit" .none, optional "nofollow" no,
      optional "target" .none, optional "rel" .none, optional "extra_schemes" .none]⟩
  | .wordCount => ⟨"do_wordcount", ["s"], []⟩
  | .wordWrap =>
    ⟨"do_wordwrap", ["environment", "s"], [optional "width" (.int 79),
      optional "break_long_words" yes, optional "wrapstring" .none,
      optional "break_on_hyphens" yes]⟩
  | .xmlAttr => ⟨"do_xmlattr", ["eval_ctx", "d"], [optional "autospace" yes]⟩

/-- Refuses more arguments than the value itself. -/
def requireOne (f : FilterName) (a : Arguments) : Except Fault Unit := do
  if !a.named.isEmpty then throw (.arity (.unnamed f.signature.callee))
  if !a.positional.isEmpty then
    throw (.arity (.one f.signature.callee (a.positional.length + 1)))

/-- Refuses named arguments, and all others than the value itself; the value has a name that cannot
be used. -/
def requirePlaced (f : FilterName) (hidden : String) (a : Arguments) : Except Fault Unit := do
  if (a.named.lookup hidden).isSome then
    throw (.arity (.placedOnly f.signature.callee hidden))
  let _ ← Signature.bind ⟨f.signature.callee, [hidden], []⟩ a

/-- The arguments of a filter besides the value, in the order of its parameters. -/
def bind (f : FilterName) (a : Arguments) : Except Fault (List Value) :=
  match f with
  | .abs | .length => do
    f.requireOne a
    return []
  | .escape | .string => do
    f.requirePlaced "s" a
    return []
  | .format | .map | .reject | .rejectAttr | .select | .selectAttr => do
    f.signature.requireUnseen a
    return []
  | f => f.signature.bind a

end FilterName

end Interpolation
