import JsonSchema.Json.Text.Value

/-!
Passing over values without building them. Nesting and the size of numbers are not limited here, strings need not be
UTF-8, and surrogates need not come in pairs.
-/
namespace JsonSchema.Json.Text

def skimQuoted (length : Nat) : List UInt8 → Quoted
  | [] => .failed .eofString length
  | 0x22 :: _ => .closed [] (length + 1)
  | [0x5c] => .failed .eofString (length + 1)
  | 0x5c :: 0x75 :: a :: b :: c :: d :: rest =>
    if (hexUnit? a b c d).isSome then skimQuoted (length + 6) rest else .failed .invalidEscape (length + 6)
  | 0x5c :: 0x75 :: rest => .failed .eofString (length + 2 + rest.length)
  | 0x5c :: letter :: rest =>
    if (shortEscape? letter).isSome then skimQuoted (length + 2) rest else .failed .invalidEscape (length + 2)
  | byte :: rest => if byte < 0x20 then .failed .controlCharacter (length + 1) else skimQuoted (length + 1) rest

inductive Container where
  | array
  | object

namespace Parser

def skimString : Parser Unit := do
  match skimQuoted 0 (← remaining) with
  | .failed reason length => do
    skip length
    fail reason
  | .closed _ length => skip length

def skimDigits (failure : Parser Unit) : Parser Unit := do
  if (← digits).isEmpty then failure

def skimExponent : Parser Unit := do
  if isExponentLetter (← peek?) then do
    skip 1
    let sign ← peek?
    if sign == some 0x2d || sign == some 0x2b then skip 1
    skimDigits (failAhead .invalidNumber)

def skimNumber : Parser Unit := do
  if (← peek?) == some 0x30 then do
    skip 1
    if (← peek?).any isDigit then failAhead .invalidNumber
  else skimDigits (failAhead .invalidNumber)
  if (← peek?) == some 0x2e then do
    skip 1
    skimDigits (failAhead .invalidNumber)
  skimExponent

def skimName : Parser Unit := do
  match ← peekToken? with
  | none => failAhead .eofObject
  | some 0x22 => do
    skip 1
    skimString
    colon
  | some _ => failAhead .keyMustBeString

def skimWithin : Nat → Bool → List Container → Parser Unit
  | 0, _, _ => fail .eofValue
  | fuel + 1, true, containers => do
    match ← peekToken? with
    | none => failAhead .eofValue
    | some 0x6e => do skip 1; ident [0x75, 0x6c, 0x6c]; skimWithin fuel false containers
    | some 0x74 => do skip 1; ident [0x72, 0x75, 0x65]; skimWithin fuel false containers
    | some 0x66 => do skip 1; ident [0x61, 0x6c, 0x73, 0x65]; skimWithin fuel false containers
    | some 0x22 => do skip 1; skimString; skimWithin fuel false containers
    | some 0x2d => do skip 1; skimNumber; skimWithin fuel false containers
    | some 0x5b => do
      skip 1
      match ← peekToken? with
      | none => failAhead .eofList
      | some 0x5d => do skip 1; skimWithin fuel false containers
      | some _ => skimWithin fuel true (.array :: containers)
    | some 0x7b => do
      skip 1
      match ← peekToken? with
      | none => failAhead .eofObject
      | some 0x7d => do skip 1; skimWithin fuel false containers
      | some _ => do skimName; skimWithin fuel true (.object :: containers)
    | some byte =>
      if isDigit byte then do skimNumber; skimWithin fuel false containers else failAhead .expectedValue
  | _ + 1, false, [] => pure ()
  | fuel + 1, false, .array :: containers => do
    match ← peekToken? with
    | none => failAhead .eofList
    | some 0x5d => do skip 1; skimWithin fuel false containers
    | some 0x2c => do skip 1; skimWithin fuel true (.array :: containers)
    | some _ => failAhead .expectedListCommaOrEnd
  | fuel + 1, false, .object :: containers => do
    match ← peekToken? with
    | none => failAhead .eofObject
    | some 0x7d => do skip 1; skimWithin fuel false containers
    | some 0x2c => do skip 1; skimName; skimWithin fuel true (.object :: containers)
    | some _ => failAhead .expectedObjectCommaOrEnd

/-- Passes over a value. Each round reads a byte or ends a value, so twice the bytes left suffice. -/
def skim : Parser Unit := do skimWithin (2 * (← rounds)) true []

end Parser

/-- Whether bytes are one JSON value and nothing more, apart from the limits that reading it would set. -/
def isWellFormed (source : List UInt8) : Bool :=
  match Parser.document Parser.skim (.start source) with
  | .ok _ => true
  | .error _ => false

end JsonSchema.Json.Text
