import JsonSchema.Text.Percent

/-! Which characters are escaped in which part of an address. -/
namespace JsonSchema.Uri

def isControl (c : Char) : Bool := c.toNat < 0x20 || c.toNat > 0x7e

def escapesInFragment (c : Char) : Bool := isControl c || " \"<>`".contains c

def escapesInQuery (special : Bool) (c : Char) : Bool :=
  isControl c || " \"#<>".contains c || (special && c.toNat = 39)

def escapesInPath (c : Char) : Bool := escapesInQuery false c || "?`\x7b\x7d".contains c

def escapesInCredentials (c : Char) : Bool := escapesInPath c || "/:;=@[\\]^|".contains c

def escapeWith (escaped : Char → Bool) (text : List Char) : List Char := text.flatMap (Percent.encodeChar escaped)

end JsonSchema.Uri
