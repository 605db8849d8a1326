import JsonSchema.Json.Text.Skim

/-!
Reading things of a known shape: counts, texts, lists and records. A record is written as an object of its fields or as
an array of them in order. Where a thing of another kind is found, it is read as far as a scalar goes and named.
-/
namespace JsonSchema.Json.Text

/-- A field of a record: its name, how its value is read into the record, and whether it may be left out. -/
structure Field (σ : Type) where
  name : String
  read : Nat → σ → Parser σ
  required : Bool

/-- What a record is called, its fields, and whether other fields are passed over. -/
structure Shape (σ : Type) where
  title : String
  fields : List (Field σ)
  open_ : Bool

namespace Parser

variable {α σ : Type}

def foundNumber : Number → Found
  | .int i => .integer i
  | .float x => .float x

def unexpected (expected : String) : Parser α := do
  let found : Found ← match ← peekToken? with
    | none => failAhead .eofValue
    | some 0x6e => do skip 1; ident [0x75, 0x6c, 0x6c]; pure .null
    | some 0x74 => do skip 1; ident [0x72, 0x75, 0x65]; pure (.bool true)
    | some 0x66 => do skip 1; ident [0x61, 0x6c, 0x73, 0x65]; pure (.bool false)
    | some 0x22 => do skip 1; Found.string <$> quoted
    | some 0x2d => do skip 1; foundNumber <$> numeral true
    | some 0x5b => pure .sequence
    | some 0x7b => pure .map
    | some byte => if isDigit byte then foundNumber <$> numeral false else failAhead .expectedValue
  fail (.invalidType found expected)

def count (expected : String) : Parser Nat := do
  let number (negative : Bool) : Parser Nat := do
    match ← numeral negative with
    | .int i => if 0 ≤ i then pure i.toNat else fail (.invalidValue (.integer i) expected)
    | .float x => fail (.invalidType (.float x) expected)
  match ← peekToken? with
  | some 0x2d => do skip 1; number true
  | some byte => if isDigit byte then number false else unexpected expected
  | none => failAhead .eofValue

def text : Parser String := do
  match ← peekToken? with
  | some 0x22 => do skip 1; quoted
  | _ => unexpected "a string"

def text? : Parser (Option String) := do
  match ← peekToken? with
  | some 0x6e => do skip 1; ident [0x75, 0x6c, 0x6c]; pure none
  | _ => some <$> text

def bool : Parser Bool := do
  match ← peekToken? with
  | some 0x74 => do skip 1; ident [0x72, 0x75, 0x65]; pure true
  | some 0x66 => do skip 1; ident [0x61, 0x6c, 0x73, 0x65]; pure false
  | _ => unexpected "a boolean"

def list (element : Nat → Parser α) (nesting : Nat) : Parser (List α) := do
  match ← peekToken? with
  | some 0x5b =>
    match nesting with
    | 0 => failAhead .recursionLimit
    | inner + 1 => do
      skip 1
      let items ← elements (fun items => do pure ((← element inner) :: items)) (← rounds) 0 []
      skip 1
      pure items.reverse
  | _ => unexpected "a sequence"

/-- Fails in an object after what is left of it up to its end, if that is all that is left. -/
def failInObject (reason : Reason) : Parser α := do
  if (← peekToken?) == some 0x7d then skip 1
  fail reason

def endOfElements : Parser Unit := do
  match ← peekToken? with
  | none => failAhead .eofList
  | some 0x5d => skip 1
  | some 0x2c => do
    skip 1
    if (← peekToken?) == some 0x5d then failAhead .trailingComma else failAhead .trailingCharacters
  | some _ => failAhead .trailingCharacters

/-- The fields of a record that is written as an array. -/
def positional (shape : Shape σ) (nesting : Nat) : Nat → List (Field σ) → σ → Parser σ
  | _, [], record => do
    endOfElements
    pure record
  | i, field :: rest, record => do
    if ← nextElement? (i == 0) then
      positional shape nesting (i + 1) rest (← within (.index i) (field.read nesting record))
    else if (field :: rest).any Field.required then do
      skip 1
      fail (.invalidLength i
        ("struct " ++ shape.title ++ " with " ++ toString shape.fields.length ++ " elements"))
    else do
      skip 1
      pure record

def fieldOf (shape : Shape σ) (nesting : Nat) (name : String) (state : List String × σ) :
    Parser (List String × σ) := do
  match shape.fields.find? (·.name == name) with
  | some field =>
    if state.1.contains name then failInObject (.duplicateField name)
    else do
      colon
      pure (name :: state.1, ← within (.member name) (field.read nesting state.2))
  | none =>
    if shape.open_ then do
      colon
      within (.member name) skim
      pure state
    else within (.member name) (failInObject (.unknownField name (shape.fields.map Field.name)))

def record (shape : Shape σ) (defaults : σ) (nesting : Nat) : Parser σ := do
  match ← peekToken? with
  | some 0x5b =>
    match nesting with
    | 0 => failAhead .recursionLimit
    | inner + 1 => do
      skip 1
      positional shape inner 0 shape.fields defaults
  | some 0x7b =>
    match nesting with
    | 0 => failAhead .recursionLimit
    | inner + 1 => do
      skip 1
      let (names, result) ← members (fieldOf shape inner) (← rounds) true ([], defaults)
      skip 1
      match shape.fields.find? fun field => field.required && !names.contains field.name with
      | some field => fail (.missingField field.name)
      | none => pure result
  | _ => unexpected ("struct " ++ shape.title)

end Parser

end JsonSchema.Json.Text
