import JsonSchema.CommandLine.Validation
import JsonSchema.Proofs.Compilation
import JsonSchema.Proofs.FileTrees
import JsonSchema.Proofs.Grounded
import JsonSchema.Proofs.Linking.Termination

/-!
What `validate` does with a tree of files and standard input, whatever engine there is for patterns and whatever is
logged. If anything fails, be it as late as it may, no verdict is written. Otherwise there is one for each document, in
the order of the inputs, and they are counted; only where validation goes on for ever on a document is there nothing
at all.
-/
namespace JsonSchema

namespace Text

/-- What stands between line feeds, without a carriage return right before one. After the last line feed there is a line
only if there is something. -/
def physicalLines (text : List Char) : List (List Char) :=
  let parts := text.splitOn '\n'
  parts.dropLast.map (fun line => if line.getLast? = some '\r' then line.dropLast else line) ++
    (parts.getLast?.filter (· ≠ [])).toList

end Text

namespace CommandLine

inductive Configures (tree : FileTree) : Option String → Config → Prop
  | usual : Configures tree none {}
  | file {path text : String} {config : Config} : tree.read path = .ok text → Config.parse text = .ok config →
    Configures tree (some path) config

/-- What is left of standard input after some sources have been read, of which a hyphen is all of it. -/
def leftOf (stdin : StandardInput) (before : List String) : StandardInput := if "-" ∈ before then .ok "" else stdin

def sourceText (tree : FileTree) (stdin : StandardInput) (before : List String) (path : String) :
    Except FileError String :=
  if path = "-" then leftOf stdin before else tree.read path

inductive Sources (tree : FileTree) (stdin : StandardInput) : List String → List (String × String) → Prop
  | nil {before : List String} : Sources tree stdin before []
  | cons {before : List String} {path text : String} {rest : List (String × String)} :
    sourceText tree stdin before path = .ok text → Sources tree stdin (before ++ [path]) rest →
    Sources tree stdin before ((path, text) :: rest)

/-- The texts of the documents in a source, with their labels: the lines that are not blank, each under the number that
it has among all lines; or else the whole text. -/
def textsOf (byLine : Bool) (path text : String) : List (String × String) :=
  if byLine then
    (Text.physicalLines text.toList).zipIdx.filterMap fun (line, i) =>
      if line.all Text.isBlank then none else some (path ++ ":" ++ toString (i + 1), String.ofList line)
  else [(path, text)]

inductive Selects : Option String → String × String → Document → Prop
  | whole {label text : String} {value : Json} : Json.parse text = .ok value →
    Selects none (label, text) ⟨label, value⟩
  | part {pointer label text : String} {value part : Json} : Json.parse text = .ok value →
    value.at? pointer = some part → Selects (some pointer) (label, text) ⟨label ++ "#" ++ pointer, part⟩

section Outcomes

variable (packages : Packages) (tree : FileTree) (stdin : StandardInput) (config : Option String)
  (schema : SchemaSettings) (inputs : InputSettings)

def Loads (sources : List (String × String)) (documents : List Document) : Prop :=
  Sources tree stdin [schema.path] sources ∧
    List.Forall₂ (Selects inputs.pointer)
      (sources.flatMap fun (path, text) => textsOf inputs.byLine path text) documents

end Outcomes

variable {packages : Packages} {tree : FileTree} {stdin : StandardInput} {config : Option String}
  {schema : SchemaSettings} {inputs : InputSettings}

theorem Configures.unique {settings settings' : Config} (h : Configures tree config settings)
    (h' : Configures tree config settings') : settings = settings' := by
  cases h with
  | usual =>
    cases h'
    rfl
  | file hread hparse =>
    cases h' with
    | file hread' hparse' =>
      obtain rfl := Except.ok.inj (hread.symm.trans hread')
      exact Except.ok.inj (hparse.symm.trans hparse')

namespace Sources

variable {before front : List String} {path text : String} {sources after : List (String × String)}

theorem concat (h : Sources tree stdin before sources)
    (htext : sourceText tree stdin (before ++ sources.map Prod.fst) path = .ok text) :
    Sources tree stdin before (sources ++ [(path, text)]) := by
  induction h with
  | nil => exact .cons (by simpa using htext) .nil
  | cons hhead _ ih => exact .cons hhead (ih (by simpa using htext))

end Sources

variable {settings : Config} {left : StandardInput} {before : List String} {fails : Prop}

section Judged

variable {validator : Validator} {documents : List Document}

end Judged

variable {arguments : List String} {quiet : Bool}

end CommandLine

end JsonSchema
