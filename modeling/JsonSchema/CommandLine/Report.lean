import JsonSchema.Engine
import JsonSchema.Files
import JsonSchema.Files.Glob

/-! What a command leaves behind, and what can stop it. -/
namespace JsonSchema.CommandLine

structure Report where
  exit : Nat
  stdout : String := ""
  stderr : String := ""
deriving DecidableEq

structure Failure where
  message : String
  cause : Option String := none
deriving DecidableEq

def Failure.line (failure : Failure) : String :=
  match failure.cause with
  | some cause => failure.message ++ ": " ++ cause
  | none => failure.message

def lines (lines : List String) : String := String.join (lines.map (· ++ "\n"))

def usage : Report := { exit := 2, stderr := "usage" }

/-- What the system leaves of a process whose stack has run over. -/
def overflown : Report := { exit := 134, stderr := lines ["stack overflow"] }

/-- What packages do for a command: they compile patterns under given options, and the lines of their log are written to
standard error as long as the command runs. Its own line there comes after everything that is logged. -/
structure Packages where
  engine : CompileOptions → PatternEngine := CompileOptions.engine
  logged : List String := []

def Report.after (logged : List String) (report : Report) : Report :=
  { report with stderr := lines logged ++ report.stderr }

variable {m : Type → Type} [Monad m]

/-- The paths that arguments stand for: a pattern stands for its matches, of which there has to be one. -/
def pathsOf (files : Files m) (arguments : List String) : ExceptT Failure m (List String) := do
  let paths ← arguments.mapM fun argument =>
    if Glob.isPattern argument then do
      match ← (Glob.paths files argument).run with
      | .error fault => throw ⟨fault.message, none⟩
      | .ok [] => throw ⟨"glob pattern matched no files: " ++ argument, none⟩
      | .ok paths => pure paths
    else pure [argument]
  pure paths.flatten

def readFile (files : Files m) (path : String) : ExceptT Failure m String := do
  match ← files.read path with
  | .ok content => pure content
  | .error error => throw ⟨"failed to read " ++ path, some error.message⟩

end JsonSchema.CommandLine
