import JsonSchema.Unicode.Cluster
import JsonSchema.Unicode.Recent

/-!
Texts in quotation marks as messages show them: what cannot be seen, or would change the look of the character before
it, is written by its number.
-/
namespace JsonSchema.Text

/-- Marks that extend the character before them. Two halfwidth sound marks and the modifiers of emoji extend it too, but
can be seen on their own. -/
def isExtendingMark (c : Nat) : Bool :=
  Unicode.extenders.contains c && !(c == 0xff9e || c == 0xff9f || (0x1f3fb ≤ c && c ≤ 0x1f3ff))

/-- Letters without a shape that hold a place in Hangul syllables. -/
def isFiller (c : Nat) : Bool := c == 0x115f || c == 0x1160 || c == 0x3164 || c == 0xffa0

def byNumber (c : Char) : List Char := ['\\', 'u', '\x7b'] ++ Nat.toDigits 16 c.toNat ++ ['\x7d']

def showChar (c : Char) : List Char :=
  if c == '\x00' then ['\\', '0']
  else if c == '\t' then ['\\', 't']
  else if c == '\r' then ['\\', 'r']
  else if c == '\n' then ['\\', 'n']
  else if c == '"' || c == '\\' then ['\\', c]
  else if 0x20 ≤ c.toNat && c.toNat < 0x7f then [c]
  else if isExtendingMark c.toNat || isFiller c.toNat || !Unicode.isSeen c.toNat then byNumber c
  else [c]

def inQuotes (text : String) : String := String.ofList ('"' :: text.toList.flatMap showChar ++ ['"'])

end JsonSchema.Text
