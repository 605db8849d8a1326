import JsonSchema.Json.Text

/-!
Strings in JSON text: the bytes up to the closing quote with every escape replaced by the character it stands for. The
bytes have to be UTF-8, which is looked at when the string is closed.
-/
namespace JsonSchema.Json.Text

/-- How the reading of a string ends, with the number of bytes read. -/
inductive Quoted where
  | closed (content : List UInt8) (length : Nat)
  | failed (reason : Reason) (length : Nat)

def hexDigit? (byte : UInt8) : Option Nat :=
  if 0x30 ≤ byte && byte ≤ 0x39 then some (byte.toNat - 0x30)
  else if 0x41 ≤ byte && byte ≤ 0x46 then some (byte.toNat - 0x37)
  else if 0x61 ≤ byte && byte ≤ 0x66 then some (byte.toNat - 0x57)
  else none

def hexUnit? (a b c d : UInt8) : Option Nat := do
  pure ((((← hexDigit? a) * 16 + (← hexDigit? b)) * 16 + (← hexDigit? c)) * 16 + (← hexDigit? d))

def shortEscape? (letter : UInt8) : Option UInt8 :=
  if letter == 0x22 || letter == 0x5c || letter == 0x2f then some letter
  else if letter == 0x62 then some 0x08
  else if letter == 0x66 then some 0x0c
  else if letter == 0x6e then some 0x0a
  else if letter == 0x72 then some 0x0d
  else if letter == 0x74 then some 0x09
  else none

def isLeadingSurrogate (unit : Nat) : Bool := 0xd800 ≤ unit && unit ≤ 0xdbff

def isTrailingSurrogate (unit : Nat) : Bool := 0xdc00 ≤ unit && unit ≤ 0xdfff

def pairedSurrogates (leading trailing : Nat) : Char :=
  Char.ofNat (0x10000 + (leading - 0xd800) * 0x400 + (trailing - 0xdc00))

/-- Reads the inside of a string after its opening quote; `content` holds the bytes so far, the last one first. -/
def readQuoted (content : List UInt8) (length : Nat) : List UInt8 → Quoted
  | [] => .failed .eofString length
  | 0x22 :: _ => .closed content.reverse (length + 1)
  | [0x5c] => .failed .eofString (length + 1)
  | 0x5c :: 0x75 :: a :: b :: c :: d :: rest =>
    match hexUnit? a b c d with
    | none => .failed .invalidEscape (length + 6)
    | some unit =>
      if isTrailingSurrogate unit then .failed .loneSurrogate (length + 6)
      else if isLeadingSurrogate unit then
        match rest with
        | [] => .failed .eofString (length + 6)
        | [0x5c] => .failed .eofString (length + 7)
        | 0x5c :: 0x75 :: e :: f :: g :: h :: rest' =>
          match hexUnit? e f g h with
          | none => .failed .invalidEscape (length + 12)
          | some second =>
            if isTrailingSurrogate second then
              readQuoted ((Utf8.encodeChar (pairedSurrogates unit second)).reverse ++ content) (length + 12) rest'
            else .failed .loneSurrogate (length + 12)
        | 0x5c :: 0x75 :: rest' => .failed .eofString (length + 8 + rest'.length)
        | 0x5c :: _ :: _ => .failed .unpairedSurrogate (length + 8)
        | _ :: _ => .failed .unpairedSurrogate (length + 7)
      else readQuoted ((Utf8.encodeChar (Char.ofNat unit)).reverse ++ content) (length + 6) rest
  | 0x5c :: 0x75 :: rest => .failed .eofString (length + 2 + rest.length)
  | 0x5c :: letter :: rest =>
    match shortEscape? letter with
    | some byte => readQuoted (byte :: content) (length + 2) rest
    | none => .failed .invalidEscape (length + 2)
  | byte :: rest =>
    if byte < 0x20 then .failed .controlCharacter (length + 1)
    else readQuoted (byte :: content) (length + 1) rest

namespace Parser

/-- The content of a string whose opening quote is read. A place in the content counts from the closing quote, so that
an escape before it moves it. -/
def quoted : Parser String := do
  match readQuoted [] 0 (← remaining) with
  | .failed reason length => do
    skip length
    fail reason
  | .closed content length =>
    match Utf8.decode? content with
    | some text => do
      skip length
      pure text
    | none => do
      skip (length - content.length + Utf8.wellFormedLength content)
      fail .invalidUtf8

end Parser

end JsonSchema.Json.Text
