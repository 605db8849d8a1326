import JsonSchema.Unicode.Property

/-! Blank characters at the ends of texts, and the lines of a text. -/
namespace JsonSchema.Text

def isBlank (c : Char) : Bool := Unicode.whiteSpace.contains c.toNat

def trimLeft (chars : List Char) : List Char := chars.dropWhile isBlank

def trim (text : String) : String :=
  String.ofList (trimLeft (trimLeft text.toList).reverse).reverse

def isAllBlank (text : String) : Bool := text.toList.all isBlank

/-- Splits at line feeds, each with a carriage return that may stand before it. What follows the last one is no line
if it is empty. -/
def splitLines (line : List Char) : List Char → List (List Char)
  | [] => if line.isEmpty then [] else [line.reverse]
  | '\n' :: rest => (if line.head? = some '\r' then line.tail else line).reverse :: splitLines [] rest
  | c :: rest => splitLines (c :: line) rest

def lines (text : String) : List String := (splitLines [] text.toList).map String.ofList

end JsonSchema.Text
