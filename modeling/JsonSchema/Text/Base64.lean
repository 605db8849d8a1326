import JsonSchema.Text.Utf8

/-!
Base64 of the standard alphabet. Every group has four characters, the last one padded, and the bits that padding
leaves over are zero.
-/
namespace JsonSchema.Base64

def digit? (byte : UInt8) : Option Nat :=
  if 0x41 ≤ byte && byte ≤ 0x5a then some (byte.toNat - 0x41)
  else if 0x61 ≤ byte && byte ≤ 0x7a then some (byte.toNat - 0x61 + 26)
  else if 0x30 ≤ byte && byte ≤ 0x39 then some (byte.toNat - 0x30 + 52)
  else if byte == 0x2b then some 62
  else if byte == 0x2f then some 63
  else none

def padding : UInt8 := 0x3d

def decode? : List UInt8 → Option (List UInt8)
  | [] => some []
  | a :: b :: c :: d :: rest => do
    let high := (← digit? a) * 0x40 + (← digit? b)
    if c == padding && d == padding && rest.isEmpty then
      if high % 0x10 = 0 then some [(high / 0x10).toUInt8] else none
    else do
      let middle := high * 0x40 + (← digit? c)
      if d == padding && rest.isEmpty then
        if middle % 0x4 = 0 then some [(middle / 0x400).toUInt8, (middle / 0x4).toUInt8] else none
      else do
        let group := middle * 0x40 + (← digit? d)
        let tail ← decode? rest
        some ((group / 0x10000).toUInt8 :: (group / 0x100).toUInt8 :: group.toUInt8 :: tail)
  | _ => none

def isBlank (byte : UInt8) : Bool :=
  byte == 0x20 || byte == 0x09 || byte == 0x0a || byte == 0x0c || byte == 0x0d

/-- Decodes a text in which blanks may stand anywhere. -/
def decodeText? (text : String) : Option (List UInt8) :=
  decode? ((Utf8.bytes text).filter fun byte => !isBlank byte)

end JsonSchema.Base64
