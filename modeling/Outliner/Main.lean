import Outliner.CommandLine.Run
import Outliner.Text.Encoding
import Outliner.Uuid

/-!
# Outliner — the program

Reads the files that the arguments name, prints the answer, and writes the file that it names.
-/

namespace Outliner.Program

/-- The text of a file; none when it cannot be read or is not UTF-8. -/
def readText (path : Text) : IO (Option Text) := do
  try
    return Text.decode? (← IO.FS.readBinFile (String.ofList path))
  catch _ =>
    return none

/-- The file that a request works on. -/
def fileOf : CommandLine.Request → Text
  | .context file _ _ _ | .subtree file _ | .edit file _ _ _ _ | .links file _
  | .getProperty file _ _ | .setProperty file _ _ _ _ => file

/-- Print an answer and write its file. -/
def deliver (answer : CommandLine.Answer) : IO Unit := do
  if let some (path, text) := answer.write then
    IO.FS.writeBinFile (String.ofList path) text.encode
  IO.eprint (String.ofList answer.notice)
  if !answer.output.isEmpty then
    IO.println (String.ofList answer.output)

/-- Answer the arguments; the result is the exit status. -/
def answer (args : List String) : IO UInt32 := do
  match CommandLine.Invocation.parse? (args.map (·.toList)) with
  | none =>
    IO.eprintln "usage: (context | subtree | edit | links | property) FILE [OPTIONS]"
    return 2
  | some invocation =>
    let paths := fileOf invocation.request :: invocation.config.toList
    let texts ← paths.mapM fun path => do return (path, ← readText path)
    let bytes ← IO.getRandomBytes 16
    let ids : IdSupply := { name := fun _ => Uuid.ofBytes bytes.toList }
    match invocation.run (fun path => (texts.lookup path).join) ids with
    | .ok answer =>
      deliver answer
      return 0
    | .error (.broken fault) =>
      -- A request that was broken off has a status of its own.
      IO.eprintln (String.ofList fault.message)
      return 101
    | .error failure =>
      IO.eprintln (String.ofList ("Error: ".toList ++ failure.message))
      return 1

end Outliner.Program

/-- The program. -/
def main (args : List String) : IO UInt32 :=
  Outliner.Program.answer args
