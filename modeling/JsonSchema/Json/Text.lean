import JsonSchema.Binary64
import JsonSchema.Text.Utf8

/-!
Reading JSON text: the place in the text, what can be wrong at a place, and the parsers that move through it. Columns
count bytes. A fault stands either before the next byte or just after it; its path leads to the value being read.
-/
namespace JsonSchema.Json.Text

structure Position where
  line : Nat
  column : Nat
deriving DecidableEq

def Position.step (p : Position) (byte : UInt8) : Position :=
  if byte = 0x0a then ⟨p.line + 1, 0⟩ else ⟨p.line, p.column + 1⟩

/-- The rest of a text and the position of its first byte. -/
structure Cursor where
  rest : List UInt8
  position : Position

namespace Cursor

def start (source : List UInt8) : Cursor := ⟨source, ⟨1, 0⟩⟩

def advance : Nat → Cursor → Cursor
  | 0, cursor => cursor
  | _ + 1, ⟨[], position⟩ => ⟨[], position⟩
  | n + 1, ⟨byte :: rest, position⟩ => advance n ⟨rest, position.step byte⟩

def ahead (cursor : Cursor) : Position := (cursor.advance 1).position

end Cursor

inductive Found where
  | null
  | bool (value : Bool)
  | integer (value : Int)
  | float (value : Binary64)
  | string (value : String)
  | sequence
  | map

inductive Reason where
  | eofValue
  | eofString
  | eofList
  | eofObject
  | expectedValue
  | expectedIdent
  | expectedColon
  | expectedListCommaOrEnd
  | expectedObjectCommaOrEnd
  | keyMustBeString
  | trailingComma
  | trailingCharacters
  | invalidNumber
  | numberOutOfRange
  | invalidEscape
  | loneSurrogate
  | unpairedSurrogate
  | controlCharacter
  | invalidUtf8
  | recursionLimit
  | invalidType (found : Found) (expected : String)
  | invalidValue (found : Found) (expected : String)
  | invalidLength (length : Nat) (expected : String)
  | unknownField (name : String) (fields : List String)
  | duplicateField (name : String)
  | missingField (name : String)

/-- A step from a value to a part of it; `unknown` leads to a member whose name was not read. -/
inductive PathStep where
  | member (name : String)
  | index (i : Nat)
  | unknown
deriving DecidableEq

structure Fault where
  reason : Reason
  position : Position
  path : List PathStep

abbrev Parser := StateT Cursor (Except Fault)

namespace Parser

variable {α : Type}

def fail (reason : Reason) : Parser α := fun cursor => .error ⟨reason, cursor.position, []⟩

/-- Fails at the next byte, which is counted in. -/
def failAhead (reason : Reason) : Parser α := fun cursor => .error ⟨reason, cursor.ahead, []⟩

def within (step : PathStep) (parser : Parser α) : Parser α := fun cursor =>
  match parser cursor with
  | .ok result => .ok result
  | .error fault => .error { fault with path := step :: fault.path }

def peek? : Parser (Option UInt8) := fun cursor => .ok (cursor.rest.head?, cursor)

def skip (n : Nat) : Parser Unit := fun cursor => .ok ((), cursor.advance n)

def remaining : Parser (List UInt8) := fun cursor => .ok (cursor.rest, cursor)

def isBlank (byte : UInt8) : Bool := byte == 0x20 || byte == 0x09 || byte == 0x0a || byte == 0x0d

def peekToken? : Parser (Option UInt8) := do
  skip ((← remaining).takeWhile isBlank).length
  peek?

def ident : List UInt8 → Parser Unit
  | [] => pure ()
  | expected :: more => do
    match ← peek? with
    | none => fail .eofValue
    | some byte => if byte = expected then do skip 1; ident more else failAhead .expectedIdent

def finish : Parser Unit := do
  match ← peekToken? with
  | none => pure ()
  | some _ => failAhead .trailingCharacters

end Parser

end JsonSchema.Json.Text
