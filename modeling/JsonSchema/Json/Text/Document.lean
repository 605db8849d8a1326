import JsonSchema.Json.Text.Message
import JsonSchema.Json.Text.Value

/-! Documents of JSON text, read as a whole. The located form of a failure says which value was being read. -/
namespace JsonSchema.Json.Text

def run {α : Type} (body : Parser α) (source : List UInt8) : Except String α :=
  match Parser.document body (.start source) with
  | .ok (result, _) => .ok result
  | .error fault => .error fault.text

/-- Reads a document, or says what is wrong with which part of it. -/
def runLocated {α : Type} (body : Parser α) (source : List UInt8) : Except String α :=
  match body (.start source) with
  | .error fault => .error ("at JSON path " ++ pathText fault.path ++ " → " ++ fault.text)
  | .ok (result, cursor) =>
    match Parser.finish cursor with
    | .error fault => .error ("after document → " ++ fault.text)
    | .ok _ => .ok result

end JsonSchema.Json.Text

namespace JsonSchema.Json

def parse (text : String) : Except String Json := Text.run (Text.Parser.value Text.maxNesting) (Utf8.bytes text)

def parseLocatedBytes (source : List UInt8) : Except String Json :=
  Text.runLocated (Text.Parser.value Text.maxNesting) source

def parseLocated (text : String) : Except String Json := parseLocatedBytes (Utf8.bytes text)

end JsonSchema.Json
