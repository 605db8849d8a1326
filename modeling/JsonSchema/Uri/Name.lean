import JsonSchema.Text.Percent
import JsonSchema.Unicode.Recent
import JsonSchema.Uri.Name.Direction
import JsonSchema.Uri.Name.Joining
import JsonSchema.Uri.Name.Mapping
import JsonSchema.Uri.Punycode

/-!
The names of hosts: labels between points. A name can be written in any script, in which case its canonical form in
ASCII tells that by a mark at the beginning of the labels concerned.
-/
namespace JsonSchema.Uri

def splitOn (mark : Char) : List Char → List (List Char)
  | [] => [[]]
  | c :: rest =>
    match splitOn mark rest with
    | [] => [[c]]
    | first :: more => if c = mark then [] :: first :: more else (c :: first) :: more

structure Name.Label where
  ascii : List Char
  text : List Char

namespace Name

def isAscii (text : List Char) : Bool := text.all (·.toNat < 0x80)

/-- The mark of labels that stand for others. -/
def announcement : List Char := "xn--".toList

def composed (text : List Char) : List Char := (Unicode.compose (text.map Char.toNat)).map Char.ofNat

/-- Whether text outside ASCII can be a label: it is not too long, does not begin with a mark, and its joiners fit. -/
def isLabel (text : List Char) : Bool :=
  text.length ≤ 1000 && !text.head?.any (Unicode.isMark ·.toNat) && joinersFit [] text

def Label.of? (text : List Char) : Option Label :=
  if announcement.isPrefixOf text then do
    let code := text.drop announcement.length
    let decoded ← if code.length ≤ 2000 && text.getLast? != some '-' then Punycode.decode? code else none
    if decoded.all (fun c => meaning? c == some [c]) && composed decoded == decoded && isLabel decoded then
      some ⟨text, decoded⟩
    else none
  else if isAscii text then some ⟨text, text⟩
  else if isLabel text then some ⟨announcement ++ Punycode.encode text, text⟩
  else none

/-- The labels that some text between points is. Other characters can stand for points too. -/
def labels? (text : List Char) : Option (List Label) := do
  let meant ←
    if isAscii text then some (text.map Char.toLower) else (text.mapM meaning?).map fun parts => composed parts.flatten
  (splitOn '.' meant).mapM Label.of?

/-- The name in ASCII that a text is, before it is known whether a host can have it. -/
def toAscii? (text : List Char) : Option (List Char) := do
  let decoded := (Percent.decode (String.ofList text)).toList
  let labels := (← (splitOn '.' decoded).mapM labels?).flatten
  if directionsAgree (labels.map Label.text) then some (List.intercalate ['.'] (labels.map Label.ascii)) else none

end Name

end JsonSchema.Uri
