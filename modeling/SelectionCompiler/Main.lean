import SelectionCompiler.CommandLine

/-!
# The program

Connects the command line to the file system, the output channels and the exit code.
-/

namespace SelectionCompiler.Main

/-- Why the system does not hand out a file. -/
def fileError : IO.Error → CommandLine.FileError
  | .noFileOrDirectory .. => .missing
  | .noSuchThing .. => .missing
  | .inappropriateType _ code _ => if code = 21 then .isDirectory else .notDirectory
  | .invalidArgument _ 36 _ => .nameTooLong
  | error => .other (toString error)

/-- The bytes of a file of the system. -/
def readFile (path : String) : IO (Except CommandLine.FileError ByteArray) := do
  match ← (IO.FS.readBinFile path).toBaseIO with
  | .ok bytes => pure (.ok bytes)
  | .error error => pure (.error (fileError error))

end SelectionCompiler.Main

/-- Runs the program on the files of the system. -/
def main (arguments : List String) : IO UInt32 := do
  let outcome ← SelectionCompiler.CommandLine.run SelectionCompiler.Main.readFile arguments
  IO.print outcome.stdout
  IO.eprint outcome.stderr
  pure outcome.exitCode
