import Interpolation.Fault
import Interpolation.Text.Quoted

/-!
# What can go wrong in a YAML document

A document can fail at every stage of reading it: in its characters, in the words they form, in the
grammar of the words, in the references between its nodes, and in the values of the nodes.

Main definitions:

* `YamlFault`: the causes, with `YamlFault.label` for the kind and `YamlFault.message?` for the
  wording, which only some of them have.
-/

namespace Interpolation

open Interpolation.Text

/-- Why a document has no value. -/
inductive YamlFault where
  /-- A character that may not stand in a document. -/
  | unprintable
  /-- Characters that form no word. -/
  | malformed
  /-- A number that stands for no character. -/
  | characterRange
  /-- Words that form no node. -/
  | ungrammatical
  /-- A reference without a target, a name used twice, or a second document. -/
  | unconnected
  /-- A node that has no value of its kind. -/
  | unconstructible
  | invalidInteger (base : Nat) (shown : String)
  /-- An integer with more digits than are read. -/
  | tooManyDigits (count : Nat)
  | invalidFloat (shown : String)
  /-- A number without any character. -/
  | noDigits
  | notABoolean (shown : String)
  | notAMoment
  /-- A date or time with a part out of its range. -/
  | part (error : Calendar.PartError)
deriving DecidableEq, Repr

namespace YamlFault

/-- The kind under which a fault is reported. -/
def label : YamlFault → String
  | unprintable => "ReaderError"
  | malformed => "ScannerError"
  | ungrammatical => "ParserError"
  | unconnected => "ComposerError"
  | unconstructible => "ConstructorError"
  | characterRange | invalidInteger .. | tooManyDigits _ | invalidFloat _ | part _ => "ValueError"
  | noDigits => "IndexError"
  | notABoolean _ => "KeyError"
  | notAMoment => "AttributeError"

/-- What is told about a fault, unless its kind says it all. -/
def message? : YamlFault → Option String
  | unprintable | malformed | ungrammatical | unconnected | unconstructible => none
  | characterRange => "chr() arg not in range(0x110000)"
  | invalidInteger base shown =>
    "invalid literal for int() with base " ++ toString base ++ ": " ++ shown
  | tooManyDigits count => (Fault.digitsRead count).message
  | invalidFloat shown => "could not convert string to float: " ++ shown
  | noDigits => "string index out of range"
  | notABoolean shown => shown
  | notAMoment => "'NoneType' object has no attribute 'groupdict'"
  | part error => error.message

end YamlFault

end Interpolation
