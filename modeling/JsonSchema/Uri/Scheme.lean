/-!
The schemes of addresses, and the text that is left to read of an address. Tabs and line ends within an address are
breaks: they stand for nothing.
-/
namespace JsonSchema.Uri

def isBreak (c : Char) : Bool := c == '\t' || c == '\n' || c == '\r'

def unbroken (text : List Char) : List Char := text.filter fun c => !isBreak c

def skip : Nat → List Char → List Char
  | 0, text => text
  | _ + 1, [] => []
  | n + 1, c :: rest => if isBreak c then skip (n + 1) rest else skip n rest

/-- The port that a special scheme stands for; `file` has none. -/
def defaultPort? (scheme : List Char) : Option Nat :=
  if scheme = "http".toList || scheme = "ws".toList then some 80
  else if scheme = "https".toList || scheme = "wss".toList then some 443
  else if scheme = "ftp".toList then some 21
  else none

def isFile (scheme : List Char) : Bool := scheme == "file".toList

def isSpecial (scheme : List Char) : Bool := (defaultPort? scheme).isSome || isFile scheme

def isSchemePart (c : Char) : Bool := c.isAlphanum || c == '+' || c == '-' || c == '.'

def scheme? (text : List Char) : Option (List Char × List Char) :=
  let scheme := (unbroken text).takeWhile isSchemePart
  match (unbroken text).drop scheme.length with
  | ':' :: _ =>
    if scheme.head?.any Char.isAlpha then some (scheme.map Char.toLower, skip (scheme.length + 1) text) else none
  | _ => none

/-- Special schemes take a backslash for a slash. -/
def isSlash (special : Bool) (c : Char) : Bool := c == '/' || (special && c == '\\')

end JsonSchema.Uri
