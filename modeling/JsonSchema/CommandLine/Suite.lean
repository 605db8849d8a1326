import JsonSchema.CommandLine.Arguments
import JsonSchema.CommandLine.Report
import JsonSchema.Compiler
import JsonSchema.Json.Text.Document
import JsonSchema.Json.Text.Record
import JsonSchema.Reader

/-!
The command line that runs test suites: files with groups of a schema and cases, which say for some values whether they
are valid. What has been found before a file fails stays written.
-/
namespace JsonSchema.CommandLine.Suite

structure Case where
  description : String := ""
  data : Json := .null
  valid : Bool := false

structure Group where
  description : String := ""
  schema : Json := .null
  cases : List Case := []

open Json.Text (Shape Parser)

def Case.shape : Shape Case where
  title := "Case"
  fields := [
    ⟨"description", fun _ case => do pure { case with description := ← Parser.text }, true⟩,
    ⟨"data", fun nesting case => do pure { case with data := ← Parser.value nesting }, true⟩,
    ⟨"valid", fun _ case => do pure { case with valid := ← Parser.bool }, true⟩]
  open_ := true

def Group.shape : Shape Group where
  title := "Group"
  fields := [
    ⟨"description", fun _ group => do pure { group with description := ← Parser.text }, true⟩,
    ⟨"schema", fun nesting group => do pure { group with schema := ← Parser.value nesting }, true⟩,
    ⟨"tests", fun nesting group => do
      pure { group with cases := ← Parser.list (Parser.record Case.shape {}) nesting }, true⟩]
  open_ := true

def parse (text : String) : Except String (List Group) :=
  Json.Text.runLocated (Parser.list (Parser.record Group.shape {}) Json.Text.maxNesting) (Utf8.bytes text)

structure Settings where
  inputs : List String
  filter : Option String
  defaultVersion : Option String
  verbose : Bool

open Arguments in
def grammar : Grammar :=
  ⟨[⟨"filter", none, .text⟩, ⟨"default-schema-version", none, .text⟩, ⟨"verbose", some 'v', .count⟩], .collected⟩

def settings? (arguments : List String) : Option Settings := do
  let parsed ← Arguments.parse grammar arguments
  if parsed.others.isEmpty then none
  else pure ⟨parsed.others, parsed.value? "filter", parsed.value? "default-schema-version", parsed.isGiven "verbose"⟩

structure Tally where
  passed : Nat := 0
  failed : Nat := 0
  broken : Nat := 0

def Tally.add (a b : Tally) : Tally := ⟨a.passed + b.passed, a.failed + b.failed, a.broken + b.broken⟩

def Tally.text (tally : Tally) : String :=
  toString tally.passed ++ " passed, " ++ toString tally.failed ++ " failed, " ++ toString tally.broken ++
    " groups failed to compile"

structure Result where
  tally : Tally := {}
  written : List String := []
  /-- Whether it goes on for ever after these lines. -/
  endless : Bool := false

def Result.append (a b : Result) : Result :=
  if a.endless then a else ⟨a.tally.add b.tally, a.written ++ b.written, b.endless⟩

def Result.concat (results : List Result) : Result := results.foldl Result.append {}

def occursIn (part text : String) : Bool := (Glob.suffixes text.toList).any part.toList.isPrefixOf

def compile? (packages : Packages) (reader : Reader) (schema : Json) : Option (Except String Validator) := do
  let compiler : Compiler := { engine := packages.engine {} }
  let result ← reader.read? schema
  pure do
    let schema ← result.mapError ReadError.message
    (compiler.compile schema).mapError CompileError.message

def runCase (verbose : Bool) (group : Group) (validator : Validator) (case : Case) : Result :=
  let title := group.description ++ " / " ++ case.description
  match validator.isValid? case.data with
  | none => { endless := true }
  | some valid =>
    if valid == case.valid then
      { tally.passed := 1, written := if verbose then ["  ok " ++ title] else [] }
    else
      { tally.failed := 1
        written := ["  FAIL " ++ title ++ " (expected " ++ toString case.valid ++ ", got " ++ toString valid ++ ")"] }

def runGroup (packages : Packages) (reader : Reader) (settings : Settings) (group : Group) : Result :=
  if settings.filter.any fun text => !occursIn text group.description then {}
  else
    match compile? packages reader group.schema with
    | none => { endless := true }
    | some (.error message) => { tally.broken := 1, written := ["  ERROR " ++ group.description ++ ": " ++ message] }
    | some (.ok validator) => .concat (group.cases.map (runCase settings.verbose group validator))

def partRank (part : String) : Nat × String :=
  if part == "." then (1, "") else if part == ".." then (2, "") else (3, part)

/-- The parts of a path that its order is decided by. Needless slashes and points do not count. -/
def sortKey (path : String) : List (Nat × String) :=
  let parts := pathParts path
  let root := if path.toList.head? == some '/' then [(0, "")] else []
  let here := if parts.head? == some "." then [partRank "."] else []
  root ++ here ++ (parts.filter fun part => part != "" && part != ".").map partRank

def keyAtMost : List (Nat × String) → List (Nat × String) → Bool
  | [], _ => true
  | _ :: _, [] => false
  | (m, a) :: as, (n, b) :: bs =>
    if m < n then true
    else if n < m then false
    else if a < b then true
    else if b < a then false
    else keyAtMost as bs

def sortPaths (paths : List String) : List String :=
  paths.mergeSort fun a b => keyAtMost (sortKey a) (sortKey b)

variable {m : Type → Type} [Monad m]

def runFile (packages : Packages) (files : Files m) (reader : Reader) (settings : Settings) (path : String) :
    ExceptT Failure m Result := do
  let text ← readFile files path
  match parse text with
  | .error message => throw ⟨"malformed suite file " ++ path, some message⟩
  | .ok groups => pure (.append { written := [path] } (.concat (groups.map (runGroup packages reader settings))))

/-- Runs suite files one after the other up to the first that fails or does not come to an end. -/
def runFiles (packages : Packages) (files : Files m) (reader : Reader) (settings : Settings) (result : Result) :
    List String → m (Result × Option Failure)
  | [] => pure (result, none)
  | path :: rest => do
    match ← (runFile packages files reader settings path).run with
    | .ok more =>
      let result := result.append more
      if result.endless then pure (result, none) else runFiles packages files reader settings result rest
    | .error failure => pure (result, some failure)

def explain (failure : Failure) : String :=
  "Error: " ++ failure.message ++
    (match failure.cause with
      | some cause => "\n\nCaused by:\n    " ++ String.intercalate "\n    " (cause.splitOn "\n")
      | none => "") ++ "\n"

def perform (packages : Packages) (files : Files m) (settings : Settings) : m Report := do
  match ← (pathsOf files settings.inputs).run with
  | .error failure => pure { exit := 1, stderr := explain failure }
  | .ok paths => do
    let reader : Reader := { options := ⟨settings.defaultVersion⟩ }
    match ← runFiles packages files reader settings {} (sortPaths paths) with
    | (result, some failure) => pure { exit := 1, stdout := lines result.written, stderr := explain failure }
    | (result, none) =>
      if result.endless then pure { overflown with stdout := lines result.written }
      else
        let passed := result.tally.failed + result.tally.broken = 0
        pure { exit := if passed then 0 else 1, stdout := lines (result.written ++ [result.tally.text]) }

def run (files : Files m) (arguments : List String) : m Report := do
  let packages : Packages := {}
  match settings? arguments with
  | none => pure usage
  | some settings => do pure (Report.after packages.logged (← perform packages files settings))

end JsonSchema.CommandLine.Suite
