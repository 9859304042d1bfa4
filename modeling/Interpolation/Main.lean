import Interpolation.CommandLine.Run

/-!
# The program

Carries out the task of the command line on the files of the computer. Records of some importance
and reports on faults go to the standard error output.
-/

namespace Interpolation.CommandLine

/-- Why the system could not open a file. -/
def FileCause.ofError : IO.Error → FileCause
  | .noFileOrDirectory .. => .missing
  | .permissionDenied .. => .denied
  | .inappropriateType .. => .directory
  | _ => .missing

/-- Opens a file, or tells why that is not possible. -/
def attempt {α : Type} (path : String) (action : IO α) : IO (Except FileFault α) := do
  match ← action.toBaseIO with
  | .ok a => return .ok a
  | .error e => return .error ⟨path, .ofError e⟩

/-- Reads everything that comes from a stream. -/
partial def readStream (stream : IO.FS.Stream) (sofar : ByteArray) : IO ByteArray := do
  let piece ← stream.read 65536
  if piece.isEmpty then return sofar else readStream stream (sofar ++ piece)

/-- Carries out a task. -/
def Task.perform {α : Type} : Task α → IO α
  | .done a => return a
  | .readFile path next => do
    let content ← attempt path (IO.FS.readBinFile path)
    (next (content.map (·.data.toList))).perform
  | .readInput next => do
    let content ← readStream (← IO.getStdin) .empty
    (next content.data.toList).perform

/-- Tells the records that are important enough. -/
def tell (records : List Record) : IO Unit :=
  (Record.atLeast .info records).forM fun r =>
    IO.eprintln (r.level.name ++ " " ++ r.origin ++ " - " ++ r.message)

/-- Tells of a fault, and gives the status for it. -/
def fail (f : CommandFault) : IO UInt32 := do
  IO.eprintln f.report
  return 1

/-- Writes bytes to a destination. -/
def write (destination : String) (bytes : List UInt8) : IO (Except FileFault Unit) :=
  let content := ByteArray.mk bytes.toArray
  if destination = "-" then do
    (← IO.getStdout).write content
    return .ok ()
  else attempt destination (IO.FS.writeBinFile destination content)

/-- Writes the text of a report and tells its records. -/
def deliver (destination : String) (r : Report) : IO UInt32 := do
  tell r.records
  let conclude : IO UInt32 := match r.status with
    | .ok n => return UInt32.ofNat n
    | .error f => fail (.raised f)
  match r.text with
  | none => conclude
  | some text =>
    let bytes := Text.encode text.toList
    match ← write destination (bytes.toOption.getD []), bytes with
    | .error f, _ => fail (.file f)
    | .ok (), .error f => fail (.unencodable f)
    | .ok (), .ok _ => conclude

/-- Carries out what the words of a command line ask for, and gives the status. -/
def perform (words : List String) : IO UInt32 := do
  match Request.ofList words with
  | .error f => do
    IO.eprint f.report
    return 2
  | .ok .help => do
    IO.print help
    return 0
  | .ok (.run a) =>
    match ← (Command.plan a).run.perform with
    | .error f => fail f
    | .ok r => deliver a.output r

end Interpolation.CommandLine

/-- The entry of the program. -/
def main (words : List String) : IO UInt32 := Interpolation.CommandLine.perform words
