import Rulebook.CommandLine

/-!
# The program

Runs the command line on the files of the machine.
-/

namespace Rulebook

/-- The reason why the machine refuses access to a file. -/
def FileError.ofMachine : IO.Error → FileError
  | .noFileOrDirectory .. => .notFound
  | .inappropriateType _ 21 _ => .isDirectory
  | .inappropriateType .. => .notDirectory
  | error => .other (toString error)

/-- The files of the machine. -/
def FileSystem.machine : FileSystem IO where
  read path := do
    try
      let content ← IO.FS.readBinFile path
      match String.fromUTF8? content with
      | some text => return .ok text
      | none => return .error .notText
    catch error => return .error (FileError.ofMachine error)
  write path text := do
    try
      IO.FS.writeFile path text
      return .ok ()
    catch error => return .error (FileError.ofMachine error)

end Rulebook

/-- Runs the command line. -/
def main (arguments : List String) : IO UInt32 := do
  let outcome ← Rulebook.CommandLine.run Rulebook.FileSystem.machine arguments
  (← IO.getStdout).putStr outcome.output
  match outcome.error? with
  | some message => (← IO.getStderr).putStrLn message
  | none => pure ()
  return outcome.exitCode.toUInt32
