import JsonSchema.CommandLine.Suite
import JsonSchema.CommandLine.Validation

/-!
The programs: schemas are checked and documents validated, or test suites run if the program goes by the name
`dev-test-runner`.
-/
namespace JsonSchema.CommandLine

def textOf (bytes : ByteArray) : Except FileError String :=
  match String.fromUTF8? bytes with
  | some text => .ok text
  | none => .error .notText

/-- The files of the machine. Paths are taken from the working directory. -/
def machineFiles : IO (Files IO) := do
  let here ← IO.currentDir
  let isPresent (path : String) : IO Bool := if path.isEmpty then pure false else (here / path).pathExists
  let isDirectory (path : String) : IO Bool := if path.isEmpty then pure false else (here / path).isDir
  pure {
    read := fun path => do
      if ← isDirectory path then pure (.error .isADirectory)
      else if !(← isPresent path) then pure (.error .notFound)
      else
        try pure (textOf (← IO.FS.readBinFile (here / path)))
        catch error => pure (.error (.other (toString error)))
    stdin := do
      try pure (textOf (← (← IO.getStdin).readBinToEnd))
      catch error => pure (.error (.other (toString error)))
    isDirectory := isDirectory
    isPresent := isPresent
    names := fun path => do
      try pure ((← (here / path).readDir).toList.map fun entry => entry.fileName)
      catch _ => pure [] }

end JsonSchema.CommandLine

open JsonSchema.CommandLine in
def main (arguments : List String) : IO UInt32 := do
  let files ← machineFiles
  let suites := (← IO.appPath).fileName == some "dev-test-runner"
  let report ← if suites then Suite.run files arguments else run files arguments
  (← IO.getStdout).putStr report.stdout
  (← IO.getStderr).putStr report.stderr
  pure report.exit.toUInt32
