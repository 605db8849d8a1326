import JsonSchema.Json.Text
import JsonSchema.Number

/-!
Numbers in JSON text. A numeral without fraction and exponent that fits 64 bits is an integer. Any other is a binary64
number built from a significand of at most 64 bits and a power of ten, with one rounding for each of the two and one
for their product, so it need not be the nearest one.
-/
namespace JsonSchema.Json.Text

def isDigit (byte : UInt8) : Bool := 0x30 ≤ byte && byte ≤ 0x39

/-- Appends digits to a number as long as it stays within a limit; also says how many digits are left over. -/
def gather (limit : Nat) : Nat → List UInt8 → Nat × Nat
  | n, [] => (n, 0)
  | n, digit :: digits =>
    let next := n * 10 + (digit.toNat - 0x30)
    if next ≤ limit then gather limit next digits else (n, digits.length + 1)

def maxSignificand : Nat := 0xffffffffffffffff

def maxExponent : Nat := 0x7fffffff

/-- Divides by a power of ten, in steps of `10 ^ 308` where it is larger. -/
def scaleDown (x : Binary64) (exponent : Nat) : Binary64 :=
  if exponent ≤ 308 then x.div (.powerOfTen exponent)
  else if x.isZero then x
  else scaleDown (x.div (.powerOfTen 308)) (exponent - 308)
termination_by exponent

/-- The magnitude of a decimal numeral, or nothing if it is out of range. -/
def magnitude? (significand : Nat) (exponent : Int) : Option Binary64 :=
  let x := Binary64.ofNat significand
  if exponent < 0 then some (scaleDown x exponent.natAbs)
  else if exponent.natAbs ≤ 308 then
    let product := x.mul (.powerOfTen exponent.natAbs)
    if product.isInfinite then none else some product
  else if x.isZero then some x
  else none

def signed (negative : Bool) (x : Binary64) : Number := .float (if negative then x.neg else x)

namespace Parser

def digits : Parser (List UInt8) := do
  let run := (← remaining).takeWhile isDigit
  skip run.length
  pure run

def decimal (negative : Bool) (significand : Nat) (exponent : Int) : Parser Number :=
  match magnitude? significand exponent with
  | some x => pure (signed negative x)
  | none => fail .numberOutOfRange

def exponentPart (negative : Bool) (significand : Nat) (exponent : Int) : Parser Number := do
  skip 1
  let sign ← peek?
  let down := sign == some 0x2d
  if down || sign == some 0x2b then skip 1
  match ← peek? with
  | none => fail .eofValue
  | some byte => if isDigit byte then pure () else failAhead .invalidNumber
  let run := (← remaining).takeWhile isDigit
  let (e, unread) := gather maxExponent 0 run
  if unread = 0 then do
    skip run.length
    decimal negative significand (if down then exponent - e else exponent + e)
  else if significand ≠ 0 && !down then do
    skip (run.length - unread + 1)
    fail .numberOutOfRange
  else do
    skip run.length
    pure (signed negative .zero)

def isExponentLetter (byte : Option UInt8) : Bool := byte == some 0x65 || byte == some 0x45

def fractionPart (negative : Bool) (significand : Nat) (exponent : Int) : Parser Number := do
  skip 1
  let run ← digits
  if run.isEmpty then
    match ← peek? with
    | none => failAhead .eofValue
    | some _ => failAhead .invalidNumber
  else do
    let (significand, unread) := gather maxSignificand significand run
    let exponent := exponent - ((run.length - unread : Nat) : Int)
    if isExponentLetter (← peek?) then exponentPart negative significand exponent
    else decimal negative significand exponent

def numeral (negative : Bool) : Parser Number := do
  match ← peek? with
  | none => fail .eofValue
  | some first =>
    if !isDigit first then failAhead .invalidNumber
    else do
      let run ← if first = 0x30 then do skip 1; pure [first] else digits
      let next ← peek?
      if first = 0x30 && next.any isDigit then failAhead .invalidNumber
      else do
        let (significand, unread) := gather maxSignificand 0 run
        if next == some 0x2e then fractionPart negative significand unread
        else if isExponentLetter next then exponentPart negative significand unread
        else if unread ≠ 0 then decimal negative significand unread
        else if !negative then pure (.int significand)
        else if significand = 0 || significand > 0x8000000000000000 then pure (signed true (.ofNat significand))
        else pure (.int (-(significand : Int)))

end Parser

end JsonSchema.Json.Text
