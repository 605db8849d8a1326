import JsonSchema.CommandLine.Arguments
import JsonSchema.CommandLine.Report
import JsonSchema.Compiler
import JsonSchema.Json.Text.Document
import JsonSchema.Reader

/-!
The command line that checks a schema or validates documents against it. Nothing is written before everything has been
read, so a failure leaves no verdicts behind.
-/
namespace JsonSchema.CommandLine

structure SchemaSettings where
  path : String
  defaultVersion : Option String
deriving DecidableEq

structure InputSettings where
  byLine : Bool
  pointer : Option String
  inputs : List String
deriving DecidableEq

inductive Command where
  | check (schema : SchemaSettings)
  | validate (schema : SchemaSettings) (inputs : InputSettings) (quiet : Bool)
deriving DecidableEq

structure Invocation where
  config : Option String
  command : Command
deriving DecidableEq

open Arguments in
def generalSwitches : List Switch := [⟨"verbose", some 'v', .count⟩, ⟨"config", none, .path⟩]

open Arguments in
def generalGrammar : Grammar := ⟨⟨"version", some 'V', .final⟩ :: generalSwitches, .command⟩

open Arguments in
def schemaSwitches : List Switch := [⟨"schema", some 's', .path⟩, ⟨"default-schema-version", none, .text⟩]

open Arguments in
def checkGrammar : Grammar := ⟨generalSwitches ++ schemaSwitches, .refused⟩

open Arguments in
def validateGrammar : Grammar :=
  ⟨generalSwitches ++ schemaSwitches ++
    [⟨"ndjson", none, .flag⟩, ⟨"json-pointer", none, .text⟩, ⟨"input", some 'i', .texts⟩, ⟨"quiet", some 'q', .flag⟩],
    .refused⟩

def schemaSettings? (parsed : Arguments.Parsed) : Option SchemaSettings := do
  pure ⟨← parsed.value? "schema", parsed.value? "default-schema-version"⟩

def inputSettings? (parsed : Arguments.Parsed) : Option InputSettings :=
  if parsed.isGiven "input" then
    some ⟨parsed.isGiven "ndjson", parsed.value? "json-pointer", parsed.values "input"⟩
  else none

/-- What some arguments ask for: an invocation, or nothing but the version. -/
def invocation? (arguments : List String) : Option (Option Invocation) := do
  let general ← Arguments.parse generalGrammar arguments
  if general.final.isSome then pure none
  else
    match general.others with
    | "check" :: rest => do
      let parsed ← Arguments.parse checkGrammar rest
      let schema ← schemaSettings? parsed
      pure (some ⟨(parsed.value? "config").or (general.value? "config"), .check schema⟩)
    | "validate" :: rest => do
      let parsed ← Arguments.parse validateGrammar rest
      let schema ← schemaSettings? parsed
      let inputs ← inputSettings? parsed
      pure (some ⟨(parsed.value? "config").or (general.value? "config"),
        .validate schema inputs (parsed.isGiven "quiet")⟩)
    | _ => none

structure Document where
  label : String
  value : Json

def select (pointer : Option String) (label : String) (value : Json) : Except Failure Document :=
  match pointer with
  | none => .ok ⟨label, value⟩
  | some pointer =>
    match value.at? pointer with
    | some part => .ok ⟨label ++ "#" ++ pointer, part⟩
    | none => .error ⟨"JSON pointer " ++ pointer ++ " matches nothing in " ++ label, none⟩

def documentOf (pointer : Option String) (description label text : String) : Except Failure Document :=
  match Json.parse text with
  | .ok value => select pointer label value
  | .error message => .error ⟨"failed to parse " ++ description ++ " (" ++ label ++ ")", some message⟩

/-- The lines of a text that are not blank, each with its number. -/
def numberedLines (text : String) : List (Nat × String) :=
  ((Text.lines text).zipIdx.map fun (line, i) => (i + 1, line)).filter fun (_, line) => !Text.isAllBlank line

def documentsOf (settings : InputSettings) (path text : String) : Except Failure (List Document) :=
  if settings.byLine then
    (numberedLines text).mapM fun (number, line) =>
      documentOf settings.pointer "NDJSON line" (path ++ ":" ++ toString number) line
  else do pure [← documentOf settings.pointer "JSON source file" path text]

variable {m : Type → Type} [Monad m]

def readSource (files : Files m) (path : String) : ExceptT Failure m String := do
  if path == "-" then
    match ← files.stdin with
    | .ok text => pure text
    | .error error => throw ⟨"failed to read stdin", some error.message⟩
  else readFile files path

def readConfig (files : Files m) (path : Option String) : ExceptT Failure m Config :=
  match path with
  | none => pure {}
  | some path => do
    match ← files.read path with
    | .error error => throw ⟨"failed to read config `" ++ path ++ "`: " ++ error.message, some error.message⟩
    | .ok text =>
      match Config.parse text with
      | .ok config => pure config
      | .error message => throw ⟨"invalid config `" ++ path ++ "` " ++ message, none⟩

def compileText? (packages : Packages) (config : Config) (settings : SchemaSettings) (text : String) :
    Option (Except Failure Validator) := do
  let failed (step : String) (cause : String) : Failure :=
    ⟨"failed to " ++ step ++ " schema " ++ settings.path, some cause⟩
  let reader : Reader := { options := ⟨settings.defaultVersion.or config.reader.defaultVersion⟩ }
  let compiler : Compiler := { engine := packages.engine config.compile }
  match Json.parseLocated text with
  | .error message => pure (.error (failed "parse" message))
  | .ok document => do
    let result ← reader.read? document
    pure do
      let schema ← result.mapError fun error => failed "read" error.message
      (compiler.compile schema).mapError fun error => failed "compile" error.message

def compileFile (packages : Packages) (files : Files m) (config : Config) (settings : SchemaSettings) :
    OptionT (ExceptT Failure m) Validator := do
  let text ← readSource files settings.path
  OptionT.mk (ExceptT.mk (pure (compileText? packages config settings text).sequence))

def load (files : Files m) (settings : InputSettings) : ExceptT Failure m (List Document) := do
  let paths ← (pathsOf files settings.inputs).adapt fun failure =>
    ⟨"failed to resolve input file paths", some failure.line⟩
  let documents ← paths.mapM fun path => do
    let text ← readSource files path
    ExceptT.mk (pure (documentsOf settings path text))
  pure documents.flatten

def verdictLine? (quiet : Bool) (document : Document) (valid : Bool) : Option String :=
  if valid then if quiet then none else some ("valid " ++ document.label) else some ("invalid " ++ document.label)

/-- The report on documents with their verdicts. -/
def verdicts (quiet : Bool) (judged : List (Document × Bool)) : Report :=
  let invalid := judged.countP fun (_, valid) => !valid
  { exit := if invalid = 0 then 0 else 1
    stdout := lines (judged.filterMap fun (document, valid) => verdictLine? quiet document valid)
    stderr := lines [toString judged.length ++ " documents, " ++ toString (judged.length - invalid) ++ " valid, " ++
      toString invalid ++ " invalid"] }

def summaryOf (settings : SchemaSettings) (validator : Validator) : Report :=
  { exit := 0
    stdout := lines ["ok " ++ settings.path ++ " (" ++ toString validator.schema.graph.size ++ " nodes, " ++
      toString validator.slotCount ++ " recursive)"] }

def judge (validator : Validator) (documents : List Document) : Option (List (Document × Bool)) :=
  documents.mapM fun document => do pure (document, ← validator.isValid? document.value)

/-- Does what is asked for. There is no report where validation goes on for ever. -/
def execute (packages : Packages) (files : Files m) (invocation : Invocation) :
    OptionT (ExceptT Failure m) Report := do
  let config ← readConfig files invocation.config
  match invocation.command with
  | .check schema => do pure (summaryOf schema (← compileFile packages files config schema))
  | .validate schema inputs quiet => do
    let validator ← compileFile packages files config schema
    let documents ← load files inputs
    let judged ← OptionT.mk (pure (judge validator documents))
    pure (verdicts quiet judged)

def versionLine : String := "json-schema-jit 0.1.0"

def perform (packages : Packages) (files : Files m) (arguments : List String) : OptionT m Report :=
  match invocation? arguments with
  | none => pure usage
  | some none => pure { exit := 0, stdout := lines [versionLine] }
  | some (some invocation) => OptionT.mk do
    match ← (execute packages files invocation).run.run with
    | .ok report => pure (report.map (·.after packages.logged))
    | .error failure =>
      pure (some (Report.after packages.logged { exit := 2, stderr := lines ["error: " ++ failure.line] }))

/-- Runs the command with its arguments. Verdicts are written only when all are there, so of a run without an end
nothing is left but that the stack runs over. -/
def run (files : Files m) (arguments : List String) : m Report := do
  pure ((← (perform {} files arguments).run).getD overflown)

end JsonSchema.CommandLine
