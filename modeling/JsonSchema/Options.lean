import JsonSchema.Json.Text.Document
import JsonSchema.Json.Text.Record

/-! What can be set for the reading and the compiling of schemas, and the files in which it is set. -/
namespace JsonSchema

/-- The sizes in bytes that a compiled pattern and its tables may take. -/
structure CompileOptions where
  patternSize : Nat := 0xa00000
  tableSize : Nat := 0x200000
deriving DecidableEq

/-- The draft address that is taken for documents that declare none. -/
structure ReaderOptions where
  defaultVersion : Option String := none
deriving DecidableEq

structure Config where
  compile : CompileOptions := {}
  reader : ReaderOptions := {}
deriving DecidableEq

open Json.Text (Shape Parser)

def CompileOptions.shape : Shape CompileOptions where
  title := "CompileOptions"
  fields := [
    ⟨"regexSizeLimit", fun _ options => do pure { options with patternSize := ← Parser.count "usize" }, false⟩,
    ⟨"regexDfaSizeLimit", fun _ options => do pure { options with tableSize := ← Parser.count "usize" }, false⟩]
  open_ := false

def ReaderOptions.shape : Shape ReaderOptions where
  title := "ReaderOptions"
  fields := [
    ⟨"defaultSchemaVersion", fun _ options => do pure { options with defaultVersion := ← Parser.text? }, false⟩]
  open_ := false

def Config.shape : Shape Config where
  title := "Config"
  fields := [
    ⟨"compile", fun nesting config => do
      pure { config with compile := ← Parser.record CompileOptions.shape {} nesting }, false⟩,
    ⟨"reader", fun nesting config => do
      pure { config with reader := ← Parser.record ReaderOptions.shape {} nesting }, false⟩]
  open_ := false

def Config.parseBytes (source : List UInt8) : Except String Config :=
  Json.Text.runLocated (Parser.record Config.shape {} Json.Text.maxNesting) source

def Config.parse (source : String) : Except String Config := Config.parseBytes (Utf8.bytes source)

end JsonSchema
