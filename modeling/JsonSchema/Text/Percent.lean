import JsonSchema.Text.Utf8

/-!
Percent encoding. Decoding replaces each `%` with two hexadecimal digits after it by a byte and leaves everything else
alone; encoding writes the bytes of chosen characters that way.
-/
namespace JsonSchema.Percent

def hexValue? (byte : UInt8) : Option Nat :=
  if 0x30 ≤ byte && byte ≤ 0x39 then some (byte.toNat - 0x30)
  else if 0x41 ≤ byte && byte ≤ 0x46 then some (byte.toNat - 0x37)
  else if 0x61 ≤ byte && byte ≤ 0x66 then some (byte.toNat - 0x57)
  else none

def decodeBytes : List UInt8 → List UInt8
  | 0x25 :: a :: b :: rest =>
    match hexValue? a, hexValue? b with
    | some high, some low => (high * 0x10 + low).toUInt8 :: decodeBytes rest
    | _, _ => 0x25 :: decodeBytes (a :: b :: rest)
  | byte :: rest => byte :: decodeBytes rest
  | [] => []

/-- The text that a percent-encoded text stands for, with U+FFFD in place of bytes that are not UTF-8. -/
def decode (text : String) : String := Utf8.decodeLossy (decodeBytes (Utf8.bytes text))

def hexDigit (n : Nat) : Char := if n < 10 then Char.ofNat (0x30 + n) else Char.ofNat (0x37 + n)

def encodeByte (byte : UInt8) : List Char := ['%', hexDigit (byte.toNat / 0x10), hexDigit (byte.toNat % 0x10)]

def encodeChar (escaped : Char → Bool) (c : Char) : List Char :=
  if escaped c then (Utf8.encodeChar c).flatMap encodeByte else [c]

end JsonSchema.Percent
