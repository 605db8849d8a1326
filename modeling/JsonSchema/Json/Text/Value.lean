import JsonSchema.Json
import JsonSchema.Json.Text.Numeral
import JsonSchema.Json.Text.Quoted

/-!
Values in JSON text. Arrays and objects share the loops of this module with every other kind of thing that is read
from text: a list of elements and a list of members, each with its separators and its end.
-/
namespace JsonSchema.Json.Text

/-- How many arrays and objects may enclose each other. -/
def maxNesting : Nat := 127

namespace Parser

variable {α σ : Type}

/-- Looks for the next element of an array; at its end the bracket is left to be read. -/
def nextElement? (first : Bool) : Parser Bool := do
  match ← peekToken? with
  | none => failAhead .eofList
  | some byte =>
    if byte == 0x5d then pure false
    else if first then pure true
    else if byte == 0x2c then do
      skip 1
      match ← peekToken? with
      | none => failAhead .eofValue
      | some next => if next == 0x5d then failAhead .trailingComma else pure true
    else failAhead .expectedListCommaOrEnd

/-- Reads elements up to the closing bracket. The number of bytes left bounds the number of elements. -/
def elements (element : σ → Parser σ) : Nat → Nat → σ → Parser σ
  | 0, _, _ => fail .eofList
  | fuel + 1, i, state => do
    if ← nextElement? (i == 0) then
      elements element fuel (i + 1) (← within (.index i) (element state))
    else pure state

def nextName? (first : Bool) : Parser (Option String) := within .unknown do
  match ← peekToken? with
  | none => failAhead .eofObject
  | some byte =>
    if byte == 0x7d then pure none
    else if first then name byte
    else if byte == 0x2c then do
      skip 1
      match ← peekToken? with
      | none => failAhead .eofValue
      | some next => if next == 0x7d then failAhead .trailingComma else name next
    else failAhead .expectedObjectCommaOrEnd
where
  name (byte : UInt8) : Parser (Option String) := do
    if byte == 0x22 then do
      skip 1
      some <$> quoted
    else failAhead .keyMustBeString

def colon : Parser Unit := do
  match ← peekToken? with
  | none => failAhead .eofObject
  | some byte => if byte == 0x3a then skip 1 else failAhead .expectedColon

def members (member : String → σ → Parser σ) : Nat → Bool → σ → Parser σ
  | 0, _, _ => fail .eofObject
  | fuel + 1, first, state => do
    match ← nextName? first with
    | none => pure state
    | some name => members member fuel false (← member name state)

def rounds : Parser Nat := do pure ((← remaining).length + 1)

def array (element : Parser Json) : Parser Json := do
  skip 1
  let items ← elements (fun items => do pure ((← element) :: items)) (← rounds) 0 []
  skip 1
  pure (.array items.reverse)

def object (member : Parser Json) : Parser Json := do
  skip 1
  let found ← members
    (fun name found => do
      colon
      pure (Members.insert found name (← within (.member name) member)))
    (← rounds) true []
  skip 1
  pure (.object found)

/-- A value whose parts are read by the given parser; without one it must not have parts. -/
def valueOver (part : Option (Parser Json)) : Parser Json := do
  match ← peekToken? with
  | none => failAhead .eofValue
  | some 0x6e => do skip 1; ident [0x75, 0x6c, 0x6c]; pure .null
  | some 0x74 => do skip 1; ident [0x72, 0x75, 0x65]; pure (.bool true)
  | some 0x66 => do skip 1; ident [0x61, 0x6c, 0x73, 0x65]; pure (.bool false)
  | some 0x22 => do skip 1; Json.string <$> quoted
  | some 0x2d => do skip 1; Json.number <$> numeral true
  | some 0x5b => match part with
    | some parser => array parser
    | none => failAhead .recursionLimit
  | some 0x7b => match part with
    | some parser => object parser
    | none => failAhead .recursionLimit
  | some byte => if isDigit byte then Json.number <$> numeral false else failAhead .expectedValue

def value : Nat → Parser Json
  | 0 => valueOver none
  | nesting + 1 => valueOver (some (value nesting))

def document (body : Parser α) : Parser α := do
  let result ← body
  finish
  pure result

end Parser

end JsonSchema.Json.Text
