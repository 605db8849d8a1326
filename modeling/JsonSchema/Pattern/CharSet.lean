import JsonSchema.Unicode.Age
import JsonSchema.Unicode.Boundary
import JsonSchema.Unicode.Category
import JsonSchema.Unicode.Folding
import JsonSchema.Unicode.Property
import JsonSchema.Unicode.Script

/-!
The sets of characters that patterns are made of: literals, ranges, named classes and properties, closed under case or
not. A set is its membership test on code points.
-/
namespace JsonSchema.Pattern

open Unicode

abbrev CharSet := Nat → Bool

namespace CharSet

def one (c : Nat) : CharSet := (· == c)

def range (low high : Nat) : CharSet := fun c => low ≤ c && c ≤ high

def ofTable (table : RangeSet) : CharSet := table.contains

def union (sets : List CharSet) : CharSet := fun c => sets.any (· c)

def both (a b : CharSet) : CharSet := fun c => a c && b c

def without (a b : CharSet) : CharSet := fun c => a c && !b c

def either (a b : CharSet) : CharSet := fun c => a c != b c

def complement (a : CharSet) : CharSet := fun c => !a c

/-- The code points that the ASCII letter at `c` differs from in case only. -/
def asciiOrbit (c : Nat) : List Nat :=
  if 0x41 ≤ c && c ≤ 0x5a then [c, c + 0x20] else if 0x61 ≤ c && c ≤ 0x7a then [c, c - 0x20] else [c]

def foldCase (unicode : Bool) (a : CharSet) : CharSet := fun c =>
  (if unicode then caseOrbit c else asciiOrbit c).any a

def asciiDigit : CharSet := range 0x30 0x39

def asciiUpper : CharSet := range 0x41 0x5a

def asciiLower : CharSet := range 0x61 0x7a

def asciiSpace : CharSet := union [range 0x09 0x0d, one 0x20]

def asciiWord : CharSet := union [asciiDigit, asciiUpper, asciiLower, one 0x5f]

def digit : CharSet := anyContains decimalDigits

def space : CharSet := whiteSpace.contains

def word : CharSet := fun c =>
  if c < 0x80 then asciiWord c
  else alphabetic.contains c || joinControl.contains c || anyContains marks c || anyContains decimalDigits c ||
    anyContains connectors c

def ofLetter (unicode : Bool) : Char → CharSet
  | 'd' => if unicode then digit else asciiDigit
  | 's' => if unicode then space else asciiSpace
  | _ => if unicode then word else asciiWord

def ofAsciiName? : String → Option CharSet
  | "alnum" => some (union [asciiDigit, asciiUpper, asciiLower])
  | "alpha" => some (union [asciiUpper, asciiLower])
  | "ascii" => some (range 0 0x7f)
  | "blank" => some (union [one 0x09, one 0x20])
  | "cntrl" => some (union [range 0 0x1f, one 0x7f])
  | "digit" => some asciiDigit
  | "graph" => some (range 0x21 0x7e)
  | "lower" => some asciiLower
  | "print" => some (range 0x20 0x7e)
  | "punct" => some (union [range 0x21 0x2f, range 0x3a 0x40, range 0x5b 0x60, range 0x7b 0x7e])
  | "space" => some asciiSpace
  | "upper" => some asciiUpper
  | "word" => some asciiWord
  | "xdigit" => some (union [asciiDigit, range 0x41 0x46, range 0x61 0x66])
  | _ => none

/-- The name of a property or value as names are compared: in lower case, without blanks, hyphens, underscores, other
scripts and a leading `is`. The name `isc` keeps its beginning. -/
def looseName (name : List Char) : String :=
  let isStart : Bool :=
    match name with
    | i :: s :: _ => (i == 'i' || i == 'I') && (s == 's' || s == 'S')
    | _ => false
  let kept := (if isStart then name.drop 2 else name).filter fun c =>
    c.toNat < 0x80 && c != ' ' && c != '_' && c != '-'
  let lower := kept.map Char.toLower
  if isStart && lower == ['c'] then "isc" else String.ofList lower

/-- The general category of a name, or one of three sets beside the categories. -/
def ofCategory? (name : String) : Option CharSet :=
  match name with
  | "any" => some fun _ => true
  | "ascii" => some (range 0 0x7f)
  | "assigned" => (category? "unassigned").map fun sets => complement (anyContains sets)
  | _ => (category? name).map anyContains

def ofProperty? (name : List Char) : Option CharSet :=
  let key := looseName name
  let binary := if key == "cf" || key == "sc" || key == "lc" then none else (property? key).map ofTable
  binary <|> ofCategory? key <|> (script? key).map ofTable

def ofValue? (name value : List Char) : Option CharSet :=
  let value := looseName value
  match looseName name with
  | "gc" | "generalcategory" | "category" => ofCategory? value
  | "sc" | "script" => (script? value).map ofTable
  | "scx" | "scriptextensions" => (scriptExtension? value).map ofTable
  | "age" => (assignedBy? value).map anyContains
  | "gcb" | "graphemeclusterbreak" => (clusterClass? value).map ofTable
  | "wb" | "wordbreak" => (wordClass? value).map ofTable
  | "sb" | "sentencebreak" => (sentenceClass? value).map ofTable
  | _ => none

end CharSet

end JsonSchema.Pattern
