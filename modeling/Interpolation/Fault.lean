import Interpolation.Calendar.Span
import Interpolation.Number.Precision
import Interpolation.Text.Quoted

/-!
# What can go wrong in an expression

A fault is the cause for which the evaluation of an expression, or the writing of its value as text,
ends without a value. Each cause keeps what its report names; the wording is in one place.

A few wordings contain a value in full, and are put together only when someone asks for them. A
value may have no text, so such a wording may turn out to be impossible.

Main definitions:

* `Wording`: a text that is put together when it is asked for.
* `Missing`: what was looked for and not found.
* `Arity`: how the arguments of a call miss the parameters of what is called.
* `Fault`: the causes, with `Fault.label` for the kind and `Fault.wording` for the wording.
* `Fault.isOrdinary`: whether those who handle faults handle this one.
* `Fault.outOfStream`: a fault as it leaves a stream.
-/

namespace Interpolation

open Interpolation.Text (quote)

/-- Why a value has no text. -/
inductive Unwritten where
  /-- An integer in it has more digits than are written. -/
  | digitLimit
  /-- It has more levels than can be followed; `activity` tells what was being done. -/
  | tooDeep (activity : String)
  /-- It refuses with an error of its own: a kind and a text. -/
  | refused (label text : String)
deriving DecidableEq, Repr

/-- The kind under which it is reported that a value has no text. -/
def Unwritten.label : Unwritten → String
  | .digitLimit => "ValueError"
  | .tooDeep _ => "RecursionError"
  | .refused label _ => label

/-- What is told about a value that has no text. -/
def Unwritten.message : Unwritten → String
  | .digitLimit =>
    "Exceeds the limit (4300 digits) for integer string conversion; "
      ++ "use sys.set_int_max_str_digits() to increase the limit"
  | .tooDeep activity => "maximum recursion depth exceeded" ++ activity
  | .refused _ text => text

/-- A text that is put together when it is asked for. -/
inductive Wording where
  | text (s : String)
  /-- Something in it has no text. -/
  | unwritten (why : Unwritten)
deriving DecidableEq, Repr

namespace Wording

instance : Coe String Wording := ⟨text⟩

/-- A wording inside of a longer one. -/
def map (f : String → String) : Wording → Wording
  | text s => text (f s)
  | unwritten why => unwritten why

/-- The text, or else what is told about the value that has none. -/
def told : Wording → String
  | text s => s
  | unwritten why => why.message

/-- The text as it stands in a report that is written in any case. -/
def reported : Wording → String
  | text s => s
  | unwritten _ => "<exception str() failed>"

end Wording

/-- What was looked for and not found. -/
inductive Missing where
  /-- A name that is bound nowhere. -/
  | name (name : String)
  /-- An attribute of a value, whose type is described by `owner`. -/
  | attribute (owner name : String)
  /-- An element of a value, for the index shown as `index`. -/
  | element (owner : String) (index : Wording)
  /-- The first item of an empty sequence. -/
  | firstItem
  /-- The last item of an empty sequence. -/
  | lastItem
  /-- The least or greatest item of an empty sequence. -/
  | extremeItem
  /-- An item of an empty sequence that is drawn by chance. -/
  | randomItem
  /-- The other branch of a condition that has none, on a line of the source. -/
  | otherBranch (line : Nat)
  /-- The answer of a call that ended as a stream without further items does. -/
  | answer
deriving DecidableEq, Repr

/-- What is told about something missing. -/
def Missing.wording : Missing → Wording
  | .name n => quote n ++ " is undefined"
  | .attribute owner n => quote owner ++ " has no attribute " ++ quote n
  | .element owner index => index.map fun index => owner ++ " has no element " ++ index
  | .firstItem => "No first item, sequence was empty."
  | .lastItem => "No last item, sequence was empty."
  | .extremeItem => "No aggregated item, sequence was empty."
  | .randomItem => "No random item, sequence was empty."
  | .otherBranch line => "the inline if-expression on line " ++ toString line
      ++ " evaluated to false and no else section was defined."
  | .answer => "value was undefined because a callable raised a StopIteration exception"

/-- How the arguments of a call miss the parameters. -/
inductive Arity where
  /-- More positional arguments than parameters; `low` of the parameters are required. -/
  | tooMany (callee : String) (low high given : Nat)
  /-- Required parameters without an argument. -/
  | lacking (callee : String) (names : List String)
  /-- A named argument that no parameter has the name of. -/
  | unexpected (callee name : String)
  /-- A parameter with a positional and a named argument. -/
  | twice (callee name : String)
  /-- Arguments where none are taken. -/
  | none (callee : String) (given : Nat)
  /-- Not the one argument that is taken. -/
  | one (callee : String) (given : Nat)
  /-- Fewer or more arguments than expected. -/
  | expected (callee bound : String) (count got : Nat)
  /-- Fewer or more arguments than taken. -/
  | taken (callee bound : String) (count given : Nat)
  /-- Named arguments where none are taken. -/
  | unnamed (callee : String)
  /-- An argument given by its name and by its place. -/
  | placedAndNamed (callee name : String) (place : Nat)
  /-- An argument given by name that can only be given by its place. -/
  | placedOnly (callee name : String)
  /-- A named argument that is not among the known ones. -/
  | invalidName (callee name : String)
deriving DecidableEq, Repr

/-- The plural of a noun behind a count. -/
def plural (count : Nat) (noun : String) : String :=
  toString count ++ " " ++ noun ++ (if count = 1 then "" else "s")

/-- Quoted names in a list: `'a'`, `'a' and 'b'`, `'a', 'b', and 'c'`. -/
def nameList : List String → String
  | [] => ""
  | [a] => quote a
  | [a, b] => quote a ++ " and " ++ quote b
  | names =>
    String.intercalate ", " (names.dropLast.map quote) ++ ", and "
      ++ quote (names.getLast?.getD "")

/-- What is told about a call with the wrong arguments. -/
def Arity.message : Arity → String
  | .tooMany f low high given =>
    f ++ "() takes "
      ++ (if low = high then plural high "positional argument"
          else "from " ++ toString low ++ " to " ++ toString high ++ " positional arguments")
      ++ " but " ++ toString given ++ (if given = 1 then " was given" else " were given")
  | .lacking f names =>
    f ++ "() missing " ++ plural names.length "required positional argument" ++ ": "
      ++ nameList names
  | .unexpected f n => f ++ "() got an unexpected keyword argument " ++ quote n
  | .twice f n => f ++ "() got multiple values for argument " ++ quote n
  | .none f given => f ++ "() takes no arguments (" ++ toString given ++ " given)"
  | .one f given => f ++ "() takes exactly one argument (" ++ toString given ++ " given)"
  | .expected f bound count got =>
    f ++ " expected " ++ bound ++ plural count "argument" ++ ", got " ++ toString got
  | .taken f bound count given =>
    f ++ "() takes " ++ bound ++ " " ++ plural count "argument" ++ " (" ++ toString given
      ++ " given)"
  | .unnamed f => f ++ "() takes no keyword arguments"
  | .placedAndNamed f n place =>
    "argument for " ++ f ++ "() given by name (" ++ quote n ++ ") and position ("
      ++ toString place ++ ")"
  | .placedOnly f n =>
    f ++ "() got some positional-only arguments passed as keyword arguments: " ++ quote n
  | .invalidName f n => quote n ++ " is an invalid keyword argument for " ++ f ++ "()"

/-- The operations that have no value for a zero divisor. -/
inductive ZeroDivisor where
  | quotient
  | floatQuotient
  | complexQuotient
  | floorQuotient
  | floatFloorQuotient
  | remainder
  | floatRemainder
  | power
deriving DecidableEq, Repr

/-- What is told about a zero divisor. -/
def ZeroDivisor.message : ZeroDivisor → String
  | .quotient => "division by zero"
  | .floatQuotient => "float division by zero"
  | .complexQuotient => "complex division by zero"
  | .floorQuotient => "integer division or modulo by zero"
  | .floatFloorQuotient => "float floor division by zero"
  | .remainder => "integer modulo by zero"
  | .floatRemainder => "float modulo"
  | .power => "0.0 cannot be raised to a negative power"

/-- The results that are beyond what can be represented. -/
inductive Excess where
  | integerAsFloat
  | quotientAsFloat
  | power
  | infinityAsInteger
  | rounded
  | count
  /-- A machine integer, with the name of its type. -/
  | machineInteger (type : String)
deriving DecidableEq, Repr

/-- What is told about a result that is beyond what can be represented. -/
def Excess.message : Excess → String
  | .integerAsFloat => "int too large to convert to float"
  | .quotientAsFloat => "integer division result too large for a float"
  | .power => "(34, 'Numerical result out of range')"
  | .rounded => "rounded value too large to represent"
  | .infinityAsInteger => "cannot convert float infinity to integer"
  | .machineInteger type => "Python int too large to convert to C " ++ type
  | .count => "cannot fit 'int' into an index-sized integer"

/-- Faults of a text that describes how values are laid out. -/
inductive LayoutFault where
  | tooFewValues
  | tooManyValues
  | needsMapping
  /-- A width or a precision that is taken from the values and is no integer. -/
  | starType
  /-- A width, or a precision, that is too great. -/
  | amountRange (isWidth : Bool)
  | notReal (directive : Char) (type : String)
  | notWhole (directive : Char) (type : String)
  | notCharacter
  | characterRange
  | unknownDirective (c : Char) (position : Nat)
  | incomplete
  | incompleteKey
  | loneBrace (brace : Char)
  | unclosedField
  | unclosedSpecifier
  | conversionEnd
  | conversionTail
  /-- A letter for no form; `asItIs` says that it is told whatever it is. -/
  | unknownConversion (c : Char) (asItIs : Bool)
  | emptyAttribute
  | tooDeep
  | noField (index : Nat)
  /-- Fields with places in a layout that is filled from a mapping. -/
  | hasPlaces
  | mixedNumbering (toAutomatic : Bool)
  | unsupported (type : String)
  | unknownCode (code : Char) (type : String)
  | invalidSpecifier (specifier type : String)
  | precisionOfInteger
  | missingPrecision
  | signOfText
  | blankOfText
  | alternateOfText
  | alignmentOfText
  | signOfCharacter
  | alternateOfCharacter
  /-- A number that is too great for a width or a place. -/
  | tooManyDigits
  | zeroOf (kind : String)
  | groupingOf (mark code : Char)
  | twoGroupings
  /-- A specifier for markup. -/
  | specifierOfMarkup (specifier type : String)
  | braceInName
  | unclosedIndex
  | afterIndex
deriving DecidableEq, Repr

/-- The kind under which a fault of a layout is reported. -/
def LayoutFault.label : LayoutFault → String
  | .tooFewValues | .tooManyValues | .needsMapping | .starType | .notReal .. | .notWhole ..
  | .notCharacter | .unsupported _ => "TypeError"
  | .characterRange => "OverflowError"
  | .noField _ => "IndexError"
  | _ => "ValueError"

/-- What is told about a fault of a layout. -/
def LayoutFault.message : LayoutFault → String
  | .tooFewValues => "not enough arguments for format string"
  | .tooManyValues => "not all arguments converted during string formatting"
  | .needsMapping => "format requires a mapping"
  | .starType => "* wants int"
  | .amountRange isWidth => (if isWidth then "width" else "precision") ++ " too big"
  | .notReal d type =>
    "%" ++ String.singleton d ++ " format: a real number is required, not " ++ type
  | .notWhole d type =>
    "%" ++ String.singleton d ++ " format: an integer is required, not " ++ type
  | .notCharacter => "%c requires int or char"
  | .characterRange => "%c arg not in range(0x110000)"
  | .unknownDirective c position =>
    let shown := if 31 ≤ c.toNat ∧ c.toNat ≤ 126 then c else '?'
    "unsupported format character '" ++ String.singleton shown ++ "' (0x"
      ++ String.ofList (Nat.toDigits 16 c.toNat) ++ ") at index " ++ toString position
  | .incomplete => "incomplete format"
  | .incompleteKey => "incomplete format key"
  | .loneBrace b => "Single '" ++ String.singleton b ++ "' encountered in format string"
  | .unclosedField => "expected '\x7d' before end of string"
  | .unclosedSpecifier => "unmatched '\x7b' in format spec"
  | .conversionEnd => "end of string while looking for conversion specifier"
  | .conversionTail => "expected ':' after conversion specifier"
  | .unknownConversion c asItIs =>
    let plain := asItIs || (32 < c.toNat && c.toNat < 127)
    "Unknown conversion specifier " ++ (if plain then String.singleton c
      else "\\x" ++ String.ofList (Nat.toDigits 16 c.toNat))
  | .specifierOfMarkup specifier type =>
    "Format specifier " ++ specifier ++ " given, but <class '" ++ type
      ++ "'> does not define __html_format__. A class that defines __html__ must define "
      ++ "__html_format__ to work with format specifiers."
  | .emptyAttribute => "Empty attribute in format string"
  | .tooDeep => "Max string recursion exceeded"
  | .noField index =>
    "Replacement index " ++ toString index ++ " out of range for positional args tuple"
  | .hasPlaces => "Format string contains positional fields"
  | .mixedNumbering toAutomatic =>
    if toAutomatic then
      "cannot switch from manual field specification to automatic field numbering"
    else "cannot switch from automatic field numbering to manual field specification"
  | .unsupported type => "unsupported format string passed to " ++ type ++ ".__format__"
  | .unknownCode c type =>
    "Unknown format code '" ++ String.singleton c ++ "' for object of type '" ++ type ++ "'"
  | .invalidSpecifier specifier type =>
    "Invalid format specifier '" ++ specifier ++ "' for object of type '" ++ type ++ "'"
  | .precisionOfInteger => "Precision not allowed in integer format specifier"
  | .missingPrecision => "Format specifier missing precision"
  | .signOfText => "Sign not allowed in string format specifier"
  | .blankOfText => "Space not allowed in string format specifier"
  | .alternateOfText => "Alternate form (#) not allowed in string format specifier"
  | .signOfCharacter => "Sign not allowed with integer format specifier 'c'"
  | .alternateOfCharacter => "Alternate form (#) not allowed with integer format specifier 'c'"
  | .tooManyDigits => "Too many decimal digits in format string"
  | .zeroOf kind => "Negative zero coercion (z) not allowed in " ++ kind ++ " format specifier"
  | .alignmentOfText => "'=' alignment not allowed in string format specifier"
  | .groupingOf mark code =>
    "Cannot specify '" ++ String.singleton mark ++ "' with '" ++ String.singleton code ++ "'."
  | .twoGroupings => "Cannot specify both ',' and '_'."
  | .braceInName => "unexpected '\x7b' in field name"
  | .unclosedIndex => "Missing ']' in format string"
  | .afterIndex => "Only '.' or '[' may follow ']' in format field specifier"

/-- The causes for which the evaluation of an expression ends without a value. -/
inductive Fault where
  /-- A missing value was used as if it were there; `Missing.fault` is what is raised for it. -/
  | missing (what : Missing)
  /-- The error stored in a failed future: its kind and its text. -/
  | stored (label : String) (text : Wording)
  /-- A cancelled future was asked for its result; `byLoop` says that an event loop runs it. -/
  | cancelled (byLoop : Bool)
  /-- An operator that is not defined on the two types. -/
  | operands (symbol left right : String)
  /-- An operator that is not defined on the type. -/
  | operand (symbol type : String)
  /-- Two values of which one cannot be appended to the other. -/
  | concatenation (left right : String)
  /-- Bytes and something else. -/
  | byteConcatenation (right : String)
  /-- A sequence repeated by something that is no integer. -/
  | repetition (type : String)
  /-- Two types without an order between them. -/
  | ordering (symbol left right : String)
  | zeroDivisor (what : ZeroDivisor)
  | excess (what : Excess)
  | notANumberAsInteger
  | notIterable (type : String)
  | notAContainer (type : String)
  | notText (type : String)
  | notBytes (type : String)
  | byteRange
  | notCallable (type : String)
  | notSubscriptable (type : String)
  | noLength (type : String)
  | notReversible (type : String)
  | noItems
  | cannotSumTexts
  | cannotUnpack (type : String)
  | noRounding (type : String)
  | unhashable (type : String)
  | notAnInteger (type : String)
  /-- An index of the wrong type for a sequence of type `owner`. -/
  | indexType (owner type : String)
  | sliceBounds
  | zeroSliceStep
  | zeroRangeStep
  | arity (how : Arity)
  /-- A mapping spread over named arguments with a key that is no text. -/
  | namesMustBeText
  /-- Something other than a mapping spread over named arguments. -/
  | notAMapping (callee type : String)
  /-- Something that cannot be spread over positional arguments. -/
  | notASpread (type : String)
  /-- An argument given by name twice. -/
  | repeatedName (callee name : String)
  | argumentType (callee : String) (position : Nat) (expected type : String)
  | mustBeText (type : String)
  | onlyArgument (callee type : String)
  | mustBeTextOrNone (type : String)
  | textOrTexts (callee type : String)
  | textOrNone (callee : String)
  | affixTuple (callee type : String)
  | fillLength
  | fillType (type : String)
  | emptySeparator
  | joinItem (index : Nat) (expected type : String)
  | onlyIterable
  | noSubstring
  | notInList (shown : String)
  | notInTuple
  /-- Nothing to be removed from a list. -/
  | notInThisList
  | emptyList
  | popIndex
  | placeBounds
  | noAttribute (type name : String)
  | attributeNameType (type : String)
  | noKey (shown : Wording)
  | noIndex (owner : String)
  | entryNotASequence (index : Nat)
  | entryLength (index length : Nat)
  | pairLength (expected got : Nat)
  | invalidInteger (base : Nat) (shown : String)
  | invalidBase
  | invalidFloat (shown : String)
  /-- A value that is neither a number nor the text of one. -/
  | notConvertible (toFloat : Bool) (type : String)
  | mustBeReal (type : String)
  | layout (what : LayoutFault)
  | notSerializable (type : String)
  | keyNotSerializable (type : String)
  /-- A container that holds itself. -/
  | endless
  /-- A shortened text that would be no longer than its ending. -/
  | tooShort (least : Nat) (given : String)
  /-- A leeway below zero. -/
  | noLeeway (given : String)
  /-- A filter called with arguments that it cannot use. -/
  | filterArgument (text : String)
  /-- A filter or test that does not exist, found out while it was applied; when it was named by a
  value, the value may itself be missing. -/
  | notApplicable (what shown : String) (named : Bool) (absent : Option Missing)
  /-- Bytes that are no text. -/
  | undecodable (text : String)
  /-- A text that has no bytes. -/
  | unencodable (f : Text.EncodeFault)
  /-- A value that cannot be written as a JSON document. -/
  | unwritable (reason : String)
  /-- A URL whose authority cannot be taken apart. -/
  | authority (reason : String)
  /-- Bytes where a sum begins. -/
  | cannotSumBytes
  /-- A stream that is asked for an item while it computes one. -/
  | alreadyRunning
  /-- A mapping that grew or shrank while it was walked through. -/
  | resized
  /-- More levels than can be followed; `activity` tells what was being done. -/
  | tooDeep (activity : String)
  /-- A word in the place of a number that has no spelling. -/
  | unknownName (name : String)
  /-- An integer with more digits than are written. -/
  | digitLimit
  /-- An operation that refuses with an error of its own: a kind and a text. -/
  | refused (label text : String)
  /-- A text with more digits than are read as an integer. -/
  | digitsRead (count : Nat)
  | calendar (f : Calendar.CalendarFault)
  | signal (s : Number.DecimalSignal)
  /-- A decimal that is no number, or an infinite one, as an integer. -/
  | decimalAsInteger (infinite : Bool)
  /-- A signal as a float. -/
  | signalAsFloat
  /-- A signal as a key. -/
  | signalAsKey
  /-- A count of places that is no integer. -/
  | placesType
deriving DecidableEq, Repr

/-- The type of an argument where another one was expected; nothing is named by its value. -/
def givenType (t : String) : String := if t = "NoneType" then "None" else t

namespace Fault

/-- The kind under which a fault is reported. -/
def label : Fault → String
  | missing _ => "UndefinedError"
  | stored l _ | refused l _ => l
  | cancelled _ => "CancelledError"
  | zeroDivisor _ => "ZeroDivisionError"
  | excess _ => "OverflowError"
  | notANumberAsInteger | zeroSliceStep | zeroRangeStep | emptySeparator | noSubstring
  | notInList _ | notInTuple | byteRange | entryLength .. | pairLength .. | invalidInteger ..
  | invalidBase | invalidFloat _ | endless | authority _ => "ValueError"
  | noAttribute .. => "AttributeError"
  | noKey _ => "KeyError"
  | noIndex _ => "IndexError"
  | layout w => w.label
  | tooShort .. | noLeeway _ => "AssertionError"
  | filterArgument _ => "FilterArgumentError"
  | notApplicable .. => "TemplateRuntimeError"
  | undecodable _ => "UnicodeDecodeError"
  | unencodable _ => "UnicodeEncodeError"
  | unwritable _ => "PydanticSerializationError"
  | alreadyRunning | digitLimit | digitsRead _ | signalAsFloat | notInThisList => "ValueError"
  | emptyList | popIndex => "IndexError"
  | resized => "RuntimeError"
  | tooDeep _ => "RecursionError"
  | unknownName _ => "NameError"
  | calendar f => f.label
  | signal s => s.label
  | decimalAsInteger infinite => if infinite then "OverflowError" else "ValueError"
  | _ => "TypeError"

/-- What is told about a fault. -/
def wording : Fault → Wording
  | missing w => w.wording
  | stored l text => if l = "KeyError" then text.map quote else text
  | cancelled _ => ""
  | operands symbol l r =>
    "unsupported operand type(s) for " ++ symbol ++ ": '" ++ l ++ "' and '" ++ r ++ "'"
  | operand symbol t => "bad operand type for " ++ symbol ++ ": '" ++ t ++ "'"
  | concatenation l r => "can only concatenate " ++ l ++ " (not \"" ++ r ++ "\") to " ++ l
  | byteConcatenation r => "can't concat " ++ r ++ " to bytes"
  | repetition t => "can't multiply sequence by non-int of type '" ++ t ++ "'"
  | ordering symbol l r =>
    "'" ++ symbol ++ "' not supported between instances of '" ++ l ++ "' and '" ++ r ++ "'"
  | zeroDivisor w => w.message
  | excess w => w.message
  | notANumberAsInteger => "cannot convert float NaN to integer"
  | notIterable t => "'" ++ t ++ "' object is not iterable"
  | notAContainer t => "argument of type '" ++ t ++ "' is not iterable"
  | notBytes t => "a bytes-like object is required, not '" ++ t ++ "'"
  | byteRange => "byte must be in range(0, 256)"
  | notText t => "'in <string>' requires string as left operand, not " ++ t
  | notCallable t => "'" ++ t ++ "' object is not callable"
  | notSubscriptable t => "'" ++ t ++ "' object is not subscriptable"
  | noLength t => "object of type '" ++ t ++ "' has no len()"
  | notReversible t => "'" ++ t ++ "' object is not reversible"
  | noItems => "Can only get item pairs from a mapping."
  | cannotSumTexts => "sum() can't sum strings [use ''.join(seq) instead]"
  | cannotUnpack t => "cannot unpack non-iterable " ++ t ++ " object"
  | noRounding t => "type " ++ t ++ " doesn't define __round__ method"
  | unhashable t => "unhashable type: '" ++ t ++ "'"
  | notAnInteger t => "'" ++ t ++ "' object cannot be interpreted as an integer"
  | indexType owner t =>
    if owner = "str" then "string indices must be integers, not '" ++ t ++ "'"
    else owner ++ " indices must be integers or slices, not " ++ t
  | sliceBounds => "slice indices must be integers or None or have an __index__ method"
  | zeroSliceStep => "slice step cannot be zero"
  | zeroRangeStep => "range() arg 3 must not be zero"
  | arity how => how.message
  | namesMustBeText => "keywords must be strings"
  | notAMapping f t => f ++ "() argument after ** must be a mapping, not " ++ t
  | notASpread t => "Value after * must be an iterable, not " ++ t
  | repeatedName f n => f ++ "() got multiple values for keyword argument " ++ quote n
  | argumentType f position expected t =>
    f ++ "() argument " ++ toString position ++ " must be " ++ expected ++ ", not "
      ++ givenType t
  | onlyArgument f t => f ++ "() argument must be str, not " ++ givenType t
  | mustBeText t => "must be str, not " ++ t
  | mustBeTextOrNone t => "must be str or None, not " ++ t
  | textOrTexts f t => f ++ " first arg must be str or a tuple of str, not " ++ t
  | textOrNone f => f ++ " arg must be None or str"
  | affixTuple f t => "tuple for " ++ f ++ " must only contain str, not " ++ t
  | fillLength => "The fill character must be exactly one character long"
  | fillType t => "The fill character must be a unicode character, not " ++ t
  | emptySeparator => "empty separator"
  | joinItem index expected t =>
    "sequence item " ++ toString index ++ ": expected " ++ expected ++ " instance, " ++ t
      ++ " found"
  | onlyIterable => "can only join an iterable"
  | noSubstring => "substring not found"
  | notInList shown => shown ++ " is not in list"
  | notInTuple => "tuple.index(x): x not in tuple"
  | notInThisList => "list.remove(x): x not in list"
  | emptyList => "pop from empty list"
  | popIndex => "pop index out of range"
  | placeBounds => "slice indices must be integers or have an __index__ method"
  | noAttribute t n => "'" ++ t ++ "' object has no attribute " ++ quote n
  | attributeNameType t => "attribute name must be string, not '" ++ t ++ "'"
  | noKey shown => shown
  | noIndex owner => (if owner = "" then "" else owner ++ " ") ++ "index out of range"
  | entryNotASequence i =>
    "cannot convert dictionary update sequence element #" ++ toString i ++ " to a sequence"
  | entryLength i n =>
    "dictionary update sequence element #" ++ toString i ++ " has length " ++ toString n
      ++ "; 2 is required"
  | pairLength expected got =>
    if got < expected then
      "not enough values to unpack (expected " ++ toString expected ++ ", got " ++ toString got
        ++ ")"
    else "too many values to unpack (expected " ++ toString expected ++ ")"
  | invalidInteger base shown =>
    "invalid literal for int() with base " ++ toString base ++ ": " ++ shown
  | invalidBase => "int() base must be >= 2 and <= 36, or 0"
  | invalidFloat shown => "could not convert string to float: " ++ shown
  | notConvertible toFloat t =>
    (if toFloat then "float() argument must be a string or a real number"
      else "int() argument must be a string, a bytes-like object or a real number")
      ++ ", not '" ++ t ++ "'"
  | mustBeReal t => "must be real number, not " ++ t
  | layout w => w.message
  | notSerializable t => "Object of type " ++ t ++ " is not JSON serializable"
  | keyNotSerializable t => "keys must be str, int, float, bool or None, not " ++ t
  | endless => "Circular reference detected"
  | tooShort least given => "expected length >= " ++ toString least ++ ", got " ++ given
  | noLeeway given => "expected leeway >= 0, got " ++ given
  | filterArgument text => text
  | notApplicable what shown named absent =>
    let guess := match absent with
      | some m => " (" ++ m.wording.told ++ "; did you forget to quote the callable name?)"
      | none => ""
    .text ("No " ++ what ++ " named " ++ shown ++ (if named then "." else " found.") ++ guess)
  | undecodable text => text
  | unencodable f => f.message
  | unwritable reason => "Error serializing to JSON: " ++ reason
  | authority reason => reason
  | cannotSumBytes => "sum() can't sum bytes [use b''.join(seq) instead]"
  | alreadyRunning => "generator already executing"
  | resized => "dictionary changed size during iteration"
  | tooDeep activity => (Unwritten.tooDeep activity).message
  | unknownName n => "name " ++ quote n ++ " is not defined"
  | digitLimit => Unwritten.digitLimit.message
  | refused _ text => text
  | digitsRead count =>
    "Exceeds the limit (4300 digits) for integer string conversion: value has " ++ toString count
      ++ " digits; use sys.set_int_max_str_digits() to increase the limit"
  | calendar f => f.message
  | signal s => "[<class 'decimal." ++ s.condition ++ "'>]"
  | decimalAsInteger infinite =>
    "cannot convert " ++ (if infinite then "Infinity" else "NaN") ++ " to integer"
  | signalAsFloat => "cannot convert signaling NaN to float"
  | signalAsKey => "Cannot hash a signaling NaN value"
  | placesType => "optional arg must be an integer"

/-- What a report says about a fault. -/
def message (f : Fault) : String := f.wording.reported

/-- The kinds of errors that pass those who handle errors. -/
def extraordinary : List String :=
  ["BaseException", "GeneratorExit", "KeyboardInterrupt", "SystemExit"]

/-- Whether the fault tells whoever walks through something that there are no more items. -/
def endsStream (f : Fault) : Bool := f.label = "StopIteration"

/-- The fault as it leaves a stream that met it: a stream cannot end in that way. -/
def outOfStream (f : Fault) : Fault :=
  if f.endsStream then refused "RuntimeError" "generator raised StopIteration" else f

/-- Whether those who handle errors handle the fault. -/
def isOrdinary : Fault → Bool
  | cancelled byLoop => !byLoop
  | stored l _ | refused l _ => !extraordinary.contains l
  | _ => true

end Fault

/-- What is raised when a value has no text. -/
def Unwritten.fault : Unwritten → Fault
  | .digitLimit => .digitLimit
  | .tooDeep activity => .tooDeep activity
  | .refused label text => .refused label text

/-- The text of a wording that must have one. -/
def Wording.require : Wording → Except Fault String
  | .text s => .ok s
  | .unwritten why => .error why.fault

/-- Why a value has no text, by what was raised. -/
def Fault.unwritten : Fault → Unwritten
  | .digitLimit => .digitLimit
  | .tooDeep activity => .tooDeep activity
  | f => .refused f.label f.message

/-- What is raised when a wording is asked for that is impossible. -/
def Wording.fault? : Wording → Option Fault
  | text _ => none
  | unwritten why => some why.fault

/-- What is raised for a missing value: to tell what is missing, it is put into words first. -/
def Missing.fault (m : Missing) : Fault :=
  match m.wording with
  | .text _ => .missing m
  | .unwritten why => why.fault

end Interpolation
