import Interpolation.CommandLine.Arguments
import Interpolation.CommandLine.Task
import Interpolation.Config.OfValue
import Interpolation.Text.Newlines

/-!
# Running the command line

The command line reads a configuration, a template and a context, in this order, and writes the text
of the template. The context is read only if there is a template, and nothing is written before the
text is complete; a fault on the way leaves the output as it was. Only that a text has no bytes is
found out later, when a file that it was destined for is empty already.

Main definitions:

* `readContext`: the context in a document.
* `Command.plan`: what the arguments ask for, as a task.
* `World.run`: the command line at work on a collection of files.
-/

namespace Interpolation.CommandLine

open Interpolation.Text

/-! ## Contexts -/

/-- Why a document holds no context. -/
inductive ContextFault where
  | document (f : YamlFault)
  /-- The document holds something else than a mapping. -/
  | notAMapping
deriving DecidableEq, Repr

/-- A context and the store that holds its parts. -/
structure Loaded where
  /-- The context. -/
  context : Datum
  /-- The parts of its values. -/
  store : Store

/-- The context without names. -/
def Loaded.empty : Loaded := ⟨.dict [], .empty⟩

/-- The context in a document; a document whose value counts as false holds an empty one. -/
def readContext (text : List Char) : Except ContextFault Loaded := do
  let (v, store) ← (Config.documentValue text).mapError .document
  match v.content with
  | .dict _ => return ⟨.held v, store⟩
  | _ => throw .notAMapping

/-! ## Commands -/

/-- Why a command ends without a status. -/
inductive CommandFault where
  | file (f : FileFault)
  /-- A file that holds no text. -/
  | undecodable (f : Utf8Fault)
  | config (f : Config.LoadFault)
  /-- The file of the context and what is wrong with it. -/
  | context (path : String) (f : ContextFault)
  | compile (f : CompileFault)
  /-- The fault that a rendering raised. -/
  | raised (f : Fault)
  /-- A text that has no bytes. -/
  | unencodable (f : EncodeFault)

namespace CommandFault

/-- The kind under which a fault is reported. -/
def label : CommandFault → String
  | file f => f.label
  | undecodable _ => "UnicodeDecodeError"
  | config f => f.label
  | context _ (.document f) => f.label
  | context _ .notAMapping => "ValueError"
  | compile f => f.label
  | raised f => f.label
  | unencodable _ => "UnicodeEncodeError"

/-- What is told about a fault, unless its kind says it all. -/
def message? : CommandFault → Option String
  | file f => f.message
  | undecodable f => f.message
  | config f => f.message?
  | context _ (.document f) => f.message?
  | context path .notAMapping => "Context file " ++ path ++ " must contain a mapping"
  | compile f => f.message
  | raised f => f.message
  | unencodable f => f.message

/-- A fault as it is told to whoever runs the program. -/
def report (f : CommandFault) : String :=
  f.label ++ (match f.message? with
    | some m => ": " ++ m
    | none => "")

end CommandFault

/-- The text that a command writes, unless it has none, with its status and its records. -/
structure Report where
  /-- The text. -/
  text : Option String
  /-- The status, or the fault that takes its place. -/
  status : Except Fault Nat
  /-- The records. -/
  records : List Record

/-- A task that may end with a fault. -/
abbrev Command (α : Type) := ExceptT CommandFault Task α

namespace Command

/-- A result that may be a fault. -/
def lift {α : Type} (r : Except CommandFault α) : Command α := ExceptT.mk (pure r)

/-- The text of a file with its line ends made equal. -/
def decode (bs : List UInt8) : Except CommandFault (List Char) :=
  ((utf8Decode bs).mapError .undecodable).map universalNewlines

/-- The text of a file. -/
def fileText (path : String) : Command (List Char) := do
  let content ← ExceptT.mk ((·.mapError .file) <$> Task.file path)
  lift (decode content)

/-- The text of the standard input. -/
def inputText : Command (List Char) := do
  let content ← ExceptT.mk (Except.ok <$> Task.input)
  lift (decode content)

/-- The configuration; without a file it is the standard one. -/
def configOf (a : Arguments) : Command Config :=
  match a.config with
  | none | some "" => return .standard
  | some path => do lift ((Config.load (← fileText path)).mapError .config)

/-- The context; without a file it is empty. -/
def contextOf (a : Arguments) : Command Loaded :=
  match a.context with
  | none => return .empty
  | some path => do lift ((readContext (← fileText path)).mapError (.context path))

/-- The status that tells of a rendering. -/
def statusOf : Rendered → Except Fault Nat
  | .text _ => .ok 0
  | .nothing => .ok 1
  | .raised f => .error f

/-- What the arguments ask for. A template that is of no use is written as it is, with the status
two; one that has no text gives the status one. -/
def plan (a : Arguments) : Command Report := do
  let config ← configOf a
  let text ← if a.template = "-" then inputText else fileText a.template
  let request : CompileRequest :=
    ⟨String.ofList text, a.mustHaveExpression, a.place.map Trust.Category.name⟩
  let (result, i, told) := config.interpolator.compile request
  match ← lift (result.mapError .compile) with
  | none => return ⟨some (String.ofList text), .ok 2, told⟩
  | some t =>
    let loaded ← contextOf a
    let (rendered, _, after) :=
      t.renderTo .logging ⟨i.policy, .empty⟩ loaded.context loaded.store
    return ⟨rendered, statusOf rendered, told ++ after.records⟩

end Command

/-! ## The world -/

/-- How a run of the command line ends. -/
inductive Ending where
  /-- With a status. -/
  | status (n : Nat)
  /-- With the help. -/
  | help
  /-- With a report on the arguments. -/
  | refused (f : ArgumentFault)
  /-- With a fault. -/
  | failed (f : CommandFault)

/-- How a run ends whose report was delivered. -/
def Report.ending (r : Report) : Ending :=
  match r.status with
  | .ok n => .status n
  | .error f => .failed (.raised f)

/-- What the command line works on. -/
structure World where
  /-- The files of the working directory. -/
  files : Files
  /-- The standard input. -/
  input : List UInt8
  /-- What was written to the standard output. -/
  output : String

namespace World

/-- Writes a text that has these bytes to a destination, after which the run ends. -/
def write (w : World) (destination text : String) (bytes : List UInt8) (ending : Ending) :
    World × Ending :=
  if destination = "-" then ({ w with output := w.output ++ text }, ending)
  else
    match w.files.write destination bytes with
    | .ok files => ({ w with files := files }, ending)
    | .error f => (w, .failed (.file f))

/-- Writes the text of a report to its destination. A file is opened, and so emptied, before it is
found out whether the text has bytes. -/
def deliver (w : World) (destination : String) (r : Report) : World × Ending :=
  match r.text with
  | none => (w, r.ending)
  | some text =>
    match encode text.toList with
    | .ok bytes => w.write destination text bytes r.ending
    | .error f => w.write destination "" [] (.failed (.unencodable f))

/-- The world after a run of the command line, how the run ended, and the records. -/
def run (w : World) (words : List String) : World × Ending × List Record :=
  match Request.ofList words with
  | .error f => (w, .refused f, [])
  | .ok .help => ({ w with output := w.output ++ help }, .help, [])
  | .ok (.run a) =>
    match (Command.plan a).run.runWith w.files.read? w.input with
    | .error f => (w, .failed f, [])
    | .ok r =>
      let (after, ending) := w.deliver a.output r
      (after, ending, r.records)

end World

end Interpolation.CommandLine
