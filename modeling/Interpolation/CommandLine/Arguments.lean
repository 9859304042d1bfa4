import Interpolation.Text.Quoted
import Interpolation.Trust.Category

/-!
# The arguments of the command line

The command line takes the file of a template, perhaps a file with the context, and some options.
Options may stand anywhere before two hyphens that stand alone; their names may be shortened as long
as that is clear, and a one-letter option may be followed by its argument without a space.

Positional arguments are taken in runs: the first run that holds one gives the template, and the
context too if it holds a second one; what is left over is not recognized.

Main definitions:

* `Arguments`: what the command line asks for.
* `Arguments.ofList`: the arguments that words stand for.
-/

namespace Interpolation.CommandLine

open Interpolation.Text Interpolation.Trust

/-- The options. -/
inductive Switch where
  | help
  | config
  | trusted
  | mustHave
  | output
deriving DecidableEq, Repr

namespace Switch

/-- The ways in which an option is written, the short one first. -/
def spellings : Switch → List String
  | help => ["-h", "--help"]
  | config => ["-c", "--config"]
  | trusted => ["-t", "--trusted-context"]
  | mustHave => ["--must-have-expression"]
  | output => ["-o", "--output"]

/-- Whether the option is followed by an argument. -/
def takesArgument : Switch → Bool
  | help | mustHave => false
  | config | trusted | output => true

/-- All options with their spellings, in order. -/
def table : List (String × Switch) :=
  [help, config, trusted, mustHave, output].flatMap fun s => s.spellings.map fun n => (n, s)

/-- The name of the option in reports. -/
def name (s : Switch) : String := String.intercalate "/" s.spellings

end Switch

/-- Why the words are no arguments. -/
inductive ArgumentFault where
  /-- A shortened option that several options begin with. -/
  | ambiguous (word : String) (spellings : List String)
  /-- An option without its argument. -/
  | expectsArgument (s : Switch)
  /-- An argument of an option that takes none. -/
  | ignoredArgument (s : Switch) (argument : String)
  /-- There is no category of that name. -/
  | invalidCategory (name : String)
  /-- No file of a template is given. -/
  | noTemplate
  /-- Words that stand for nothing. -/
  | unrecognized (words : List String)
deriving DecidableEq, Repr

/-- What is told about words that are no arguments. -/
def ArgumentFault.message : ArgumentFault → String
  | ambiguous word spellings =>
    "ambiguous option: " ++ word ++ " could match " ++ String.intercalate ", " spellings
  | expectsArgument s => "argument " ++ s.name ++ ": expected one argument"
  | ignoredArgument s argument =>
    "argument " ++ s.name ++ ": ignored explicit argument " ++ quote argument
  | invalidCategory name =>
    "argument " ++ Switch.trusted.name ++ ": invalid choice: " ++ quote name ++ " (choose from "
      ++ String.intercalate ", " (Category.all.map fun c => quote c.name) ++ ")"
  | noTemplate => "the following arguments are required: template"
  | unrecognized words => "unrecognized arguments: " ++ String.intercalate " " words

/-! ## Words -/

/-- A word of the command line. -/
inductive Word where
  | positional (text : String)
  /-- An option as it was written, and an argument that was written with it: behind an equals sign,
  or at once behind a letter. -/
  | option (s : Switch) (spelling : String) (argument : Option (Bool × String))
  /-- A word that looks like an option, but is none. -/
  | unknown (text : String)
  /-- The two hyphens behind which there are no options. -/
  | separator
deriving DecidableEq, Repr

/-- Whether the word stands where an option may stand. -/
def Word.isOption : Word → Bool
  | option .. | unknown _ => true
  | _ => false

/-- The text of a word that is not an option. -/
def Word.text : Word → String
  | positional t | unknown t => t
  | option _ spelling _ => spelling
  | separator => "--"

/-- The text before an equals sign and the text behind it. -/
def cutEquals (s : List Char) : List Char × Option String :=
  let name := s.takeWhile (· ≠ '=')
  match s.drop name.length with
  | _ :: argument => (name, some (String.ofList argument))
  | [] => (name, none)

/-- The options that a shortened or joined word may stand for. -/
def candidates (s : List Char) : List Word :=
  match s with
  | '-' :: '-' :: _ =>
    let (name, argument) := cutEquals s
    (Switch.table.filter fun (n, _) => name.isPrefixOf n.toList).map fun (n, w) =>
      .option w n (argument.map fun a => (true, a))
  | _ =>
    let short := String.ofList (s.take 2)
    Switch.table.filterMap fun (n, w) =>
      if n = short then some (.option w n (some (false, String.ofList (s.drop 2))))
      else if s.isPrefixOf n.toList then some (.option w n none)
      else none

/-- Whether a text is a number with a minus sign. -/
def isNegativeNumber (s : List Char) : Bool :=
  match s with
  | '-' :: rest =>
    let whole := rest.takeWhile isDecimalDigit
    match rest.drop whole.length with
    | [] => !whole.isEmpty
    | '.' :: fraction => !fraction.isEmpty && fraction.all isDecimalDigit
    | _ => false
  | _ => false
where
  /-- Whether a character is a decimal digit of any script. -/
  isDecimalDigit (c : Char) : Bool := (digitValue? c).isSome

/-- The meaning of a word before the separator. -/
def readWord (text : String) : Except ArgumentFault Word :=
  let s := text.toList
  if s.head? ≠ some '-' then .ok (.positional text)
  else
    match Switch.table.lookup text with
    | some w => .ok (.option w text none)
    | none =>
      if s.length = 1 then .ok (.positional text)
      else
        let (name, argument) := cutEquals s
        match Switch.table.lookup (String.ofList name), argument with
        | some w, some a => .ok (.option w (String.ofList name) (some (true, a)))
        | _, _ =>
          match candidates s with
          | [w] => .ok w
          | [] =>
            if isNegativeNumber s || s.contains ' ' then .ok (.positional text)
            else .ok (.unknown text)
          | ws => .error (.ambiguous text (ws.map Word.text))

/-- The meanings of words; behind the separator all are positional. -/
def readWords : List String → Except ArgumentFault (List Word)
  | [] => .ok []
  | t :: ts =>
    if t = "--" then .ok (.separator :: ts.map .positional)
    else do
      let w ← readWord t
      return w :: (← readWords ts)

/-! ## Arguments -/

/-- What the command line asks for. -/
structure Arguments where
  /-- The file of the template. -/
  template : String
  /-- The file of the context. -/
  context : Option String
  /-- The file of the configuration. -/
  config : Option String
  /-- The sensitive place that the output is for. -/
  place : Option Category
  /-- Whether a template without expressions is of no use. -/
  mustHaveExpression : Bool
  /-- The file for the output. -/
  output : String
deriving DecidableEq, Repr

/-- What is known while words are taken. -/
structure Taking where
  /-- The file of the template. -/
  template : Option String
  /-- The file of the context. -/
  context : Option String
  /-- The file of the configuration. -/
  config : Option String
  /-- The sensitive place that the output is for. -/
  place : Option Category
  /-- Whether a template without expressions is of no use. -/
  mustHaveExpression : Bool
  /-- The file for the output. -/
  output : String
  /-- Words that stand for nothing. -/
  extras : List String
deriving DecidableEq, Repr

/-- Nothing is taken yet. -/
def Taking.start : Taking := ⟨none, none, none, none, false, "-", []⟩

/-- What becomes of the words of a command line. -/
inductive Request where
  | run (a : Arguments)
  /-- The help is asked for. -/
  | help
deriving DecidableEq, Repr

namespace Taking

/-- The words without a separator in front. -/
def skipSeparator : List Word → List Word
  | .separator :: ws => ws
  | ws => ws

/-- Takes the template and the context from the positional words that come next, and leaves the
rest. Once a template was taken no more words are. -/
def takePositionals (t : Taking) (ws : List Word) : Taking × List Word :=
  if t.template.isSome then (t, ws)
  else
    match skipSeparator ws with
    | .positional template :: ws =>
      match skipSeparator ws with
      | .positional context :: ws =>
        let context := if context = "--" then none else some context
        ({ t with template := some template, context := context }, skipSeparator ws)
      | ws => ({ t with template := some template }, ws)
    | _ => (t, ws)

/-- An option with its argument. -/
def apply (t : Taking) (s : Switch) (argument : String) : Except ArgumentFault Taking :=
  match s with
  | .config => .ok { t with config := some argument }
  | .output => .ok { t with output := argument }
  | .trusted =>
    match Category.ofName? argument with
    | some c => .ok { t with place := some c }
    | none => .error (.invalidCategory argument)
  | .mustHave => .ok { t with mustHaveExpression := true }
  | .help => .ok t

/-- Checks the letters behind the letter that asks for help: each may be another option, and the
last one must get its argument; an unknown letter ends the check. -/
def checkLetters (last : Switch) (next : Option Word) : List Char → Except ArgumentFault Unit
  | [] =>
    match last.takesArgument, next with
    | true, some (.positional _) | false, _ => .ok ()
    | true, _ => .error (.expectsArgument last)
  | c :: s =>
    if last.takesArgument then .ok ()
    else if c = '-' then .error (.ignoredArgument last (String.ofList (c :: s)))
    else
      match Switch.table.lookup (String.ofList ['-', c]), s with
      | none, _ => .ok ()
      | some w, '=' :: s =>
        if w.takesArgument then .ok () else .error (.ignoredArgument w (String.ofList s))
      | some w, s => checkLetters w next s

/-- Whether an option asks for help, and the words behind it and its argument. -/
def takeOption (t : Taking) (s : Switch) (spelling : String) (argument : Option (Bool × String))
    (ws : List Word) : Except ArgumentFault (Bool × Taking × List Word) := do
  match s.takesArgument, argument with
  | true, some (_, a) => return (false, ← t.apply s a, ws)
  | true, none =>
    match ws with
    | .positional a :: ws => return (false, ← t.apply s a, ws)
    | _ => throw (.expectsArgument s)
  | false, some (equals, a) =>
    if equals || a = "" || spelling.startsWith "--" then throw (.ignoredArgument s a)
    checkLetters s ws.head? a.toList
    return (true, t, ws)
  | false, none => return (s = .help, ← t.apply s "", ws)

/-- Takes words until there are none, or until help is asked for. Between the options positional
words are taken, and those that are not taken stand for nothing. -/
def takeAll : (fuel : Nat) → Taking → List Word → Except ArgumentFault (Option Taking)
  | 0, t, _ => .ok (some t)
  | fuel + 1, t, ws => do
    match ws with
    | .option s spelling argument :: ws =>
      let (help, t, ws) ← t.takeOption s spelling argument ws
      if help then return none
      takeAll fuel t ws
    | .unknown text :: ws => takeAll fuel { t with extras := t.extras ++ [text] } ws
    | ws =>
      let (t, rest) := t.takePositionals ws
      if rest.length < ws.length ∧ rest.any Word.isOption then takeAll fuel t rest
      else
        let left := rest.takeWhile (!·.isOption)
        let t := { t with extras := t.extras ++ left.map Word.text }
        match rest.drop left.length with
        | [] => return some t
        | ws => takeAll fuel t ws

end Taking

/-- What becomes of the words of a command line. -/
def Request.ofList (words : List String) : Except ArgumentFault Request := do
  let ws ← readWords words
  match ← Taking.start.takeAll (2 * ws.length + 1) ws with
  | none => return .help
  | some t =>
    match t.template with
    | none => throw .noTemplate
    | some template =>
      if !t.extras.isEmpty then throw (.unrecognized t.extras)
      return .run ⟨template, t.context, t.config, t.place, t.mustHaveExpression, t.output⟩

/-! ## Help -/

/-- Lines, each with its end. -/
def joinLines (lines : List String) : String := String.join (lines.map (· ++ "\n"))

/-- The names of the categories, one of which is to be chosen. -/
def categoryChoice : String :=
  "\x7b" ++ String.intercalate "," (Category.all.map Category.name) ++ "\x7d"

/-- How the program is called. -/
def usage : String := joinLines [
  "usage: stencil [-h] [-c CONFIG] [-t " ++ categoryChoice ++ "]",
  "               [--must-have-expression] [-o OUTPUT]",
  "               template [context]"]

/-- What the program tells when it is asked for help. -/
def help : String := usage ++ joinLines [
  "",
  "Interpolate expressions embedded in a text template.",
  "",
  "positional arguments:",
  "  template              Template file path or '-' for stdin",
  "  context               YAML/JSON file with the render context",
  "",
  "options:",
  "  -h, --help            show this help message and exit",
  "  -c CONFIG, --config CONFIG",
  "                        Path to YAML configuration file",
  "  -t " ++ categoryChoice ++ ", --trusted-context " ++ categoryChoice,
  "                        Require the output to be trusted for this category",
  "  --must-have-expression",
  "                        Exit with status 2 when the template holds no",
  "                        expression",
  "  -o OUTPUT, --output OUTPUT",
  "                        Output file path or '-' for stdout"]

/-- What the program tells about words that are no arguments. -/
def ArgumentFault.report (f : ArgumentFault) : String :=
  usage ++ "stencil: error: " ++ f.message ++ "\n"

end Interpolation.CommandLine
