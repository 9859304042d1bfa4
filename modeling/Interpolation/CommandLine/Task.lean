import Interpolation.Text.Quoted

/-!
# Tasks that read files

What the command line does is described before it is done: a task says which file it needs next and
how it goes on with its content. So the same task can be carried out on the files of a computer, and
on a collection of files that is a value.

Main definitions:

* `FileFault`: why a file cannot be opened.
* `Task`: a computation that asks for files and for the standard input.
* `Files.read?`, `Files.write`: a collection of files in one directory.
-/

namespace Interpolation.CommandLine

open Interpolation.Text

/-- Why a file cannot be opened. -/
inductive FileCause where
  | missing
  | denied
  | notADirectory
  | directory
  /-- The name holds a character that no name can hold. -/
  | nullCharacter
deriving DecidableEq, Repr

/-- A file that cannot be opened. -/
structure FileFault where
  /-- The name of the file. -/
  path : String
  /-- Why it cannot be opened. -/
  cause : FileCause
deriving DecidableEq, Repr

namespace FileFault

/-- The kind under which a fault is reported. -/
def label (f : FileFault) : String :=
  match f.cause with
  | .missing => "FileNotFoundError"
  | .denied => "PermissionError"
  | .notADirectory => "NotADirectoryError"
  | .directory => "IsADirectoryError"
  | .nullCharacter => "ValueError"

/-- What is told about a fault. -/
def message (f : FileFault) : String :=
  match f.cause with
  | .missing => "[Errno 2] No such file or directory: " ++ quote f.path
  | .denied => "[Errno 13] Permission denied: " ++ quote f.path
  | .notADirectory => "[Errno 20] Not a directory: " ++ quote f.path
  | .directory => "[Errno 21] Is a directory: " ++ quote f.path
  | .nullCharacter => "embedded null byte"

end FileFault

/-- A computation that asks for files and for the standard input. -/
inductive Task (α : Type) where
  | done (a : α)
  | readFile (path : String) (next : Except FileFault (List UInt8) → Task α)
  | readInput (next : List UInt8 → Task α)

namespace Task

variable {α β : Type}

/-- Goes on with another task. -/
def bind : Task α → (α → Task β) → Task β
  | done a, f => f a
  | readFile path next, f => readFile path fun r => (next r).bind f
  | readInput next, f => readInput fun bs => (next bs).bind f

instance : Monad Task where
  pure := done
  bind := bind

/-- The content of a file. -/
def file (path : String) : Task (Except FileFault (List UInt8)) := readFile path done

/-- The standard input. -/
def input : Task (List UInt8) := readInput done

/-- What a task amounts to when files are read by a function. -/
def runWith (read : String → Except FileFault (List UInt8)) (input : List UInt8) : Task α → α
  | done a => a
  | readFile path next => (next (read path)).runWith read input
  | readInput next => (next input).runWith read input

end Task

/-! ## Files -/

/-- The files of a directory. -/
structure Files where
  /-- The names and contents. -/
  entries : List (String × List UInt8)

/-- What a path leads to. -/
inductive Target where
  /-- A name in the directory. -/
  | name (n : String)
  | fault (cause : FileCause)

namespace Files

/-- The parts of a path that lead somewhere. -/
def pathParts (path : String) : List String :=
  (path.splitOn "/").filter fun part => part ≠ "" ∧ part ≠ "."

/-- What a path leads to. -/
def target (fs : Files) (path : String) : Target :=
  if path.contains '\x00' then .fault .nullCharacter
  else if path = "" then .fault .missing
  else
    match pathParts path with
    | [] => .fault .directory
    | [n] =>
      if n = ".." then .fault .directory
      else if path.endsWith "/" ∨ path.endsWith "/." then
        .fault (if (fs.entries.lookup n).isSome then .notADirectory else .missing)
      else .name n
    | n :: _ => .fault (if (fs.entries.lookup n).isSome then .notADirectory else .missing)

/-- The content of a file. -/
def read? (fs : Files) (path : String) : Except FileFault (List UInt8) :=
  match fs.target path with
  | .fault cause => .error ⟨path, cause⟩
  | .name n =>
    match fs.entries.lookup n with
    | some content => .ok content
    | none => .error ⟨path, .missing⟩

/-- The files with one of them written anew. -/
def write (fs : Files) (path : String) (content : List UInt8) : Except FileFault Files :=
  match fs.target path with
  | .fault .missing =>
    .error ⟨path, if path ≠ "" ∧ (pathParts path).length = 1 then .directory else .missing⟩
  | .fault cause => .error ⟨path, cause⟩
  | .name n => .ok ⟨(n, content) :: fs.entries.filter fun e => e.1 ≠ n⟩

end Files

end Interpolation.CommandLine
