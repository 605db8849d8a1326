import JsonSchema.Text.Blank

/-! The drafts of JSON Schema that differ in how a schema is read or checked, and the addresses they are declared by. -/
namespace JsonSchema

inductive Draft where
  | draft3
  | draft4
  | draft6
  | draft7
deriving DecidableEq

namespace Draft

def number : Draft → Nat
  | draft3 => 3
  | draft4 => 4
  | draft6 => 6
  | draft7 => 7

def uri : Draft → String
  | draft3 => "http://json-schema.org/draft-03/schema#"
  | draft4 => "http://json-schema.org/draft-04/schema#"
  | draft6 => "http://json-schema.org/draft-06/schema#"
  | draft7 => "http://json-schema.org/draft-07/schema#"

/-- Drafts 3 and 4 count `1.0` among the numbers but not among the integers. -/
def strictIntegers : Draft → Bool
  | draft3 | draft4 => true
  | draft6 | draft7 => false

def ofDigit? : Char → Option Draft
  | '3' => some draft3
  | '4' => some draft4
  | '6' => some draft6
  | '7' => some draft7
  | _ => none

def dropStart? (start : String) (text : List Char) : Option (List Char) :=
  let start := start.toList
  if start.isPrefixOf text then some (text.drop start.length) else none

def skipStart (start : String) (text : List Char) : List Char := (dropStart? start text).getD text

/-- The draft that an address declares, with or without TLS, a zero before the digit, and a slash and an empty
fragment at the end. -/
def ofUri? (uri : String) : Option Draft := do
  let scheme ← dropStart? "http" (Text.trim uri).toList
  let host ← dropStart? "://json-schema.org/draft-" (skipStart "s" scheme)
  match skipStart "0" host with
  | [] => none
  | digit :: rest => do
    let path ← dropStart? "/schema" rest
    if (skipStart "#" (skipStart "/" path)).isEmpty then ofDigit? digit else none

end Draft

end JsonSchema
