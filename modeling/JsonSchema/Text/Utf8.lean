/-!
UTF-8 as lists of bytes: the bytes of a character, and the reading of bytes that need not be well formed. An ill-formed
sequence ends before the first byte that cannot continue it.
-/
namespace JsonSchema.Utf8

def encodeChar (c : Char) : List UInt8 :=
  let n := c.toNat
  if n < 0x80 then [n.toUInt8]
  else if n < 0x800 then [(0xc0 + n / 0x40).toUInt8, (0x80 + n % 0x40).toUInt8]
  else if n < 0x10000 then
    [(0xe0 + n / 0x1000).toUInt8, (0x80 + n / 0x40 % 0x40).toUInt8, (0x80 + n % 0x40).toUInt8]
  else
    [(0xf0 + n / 0x40000).toUInt8, (0x80 + n / 0x1000 % 0x40).toUInt8, (0x80 + n / 0x40 % 0x40).toUInt8,
      (0x80 + n % 0x40).toUInt8]

def encode (chars : List Char) : List UInt8 := chars.flatMap encodeChar

def bytes (s : String) : List UInt8 := encode s.toList

/-- What a first byte announces: the number of bytes that follow it and the range of the first of them. -/
inductive Lead where
  | ascii
  | two
  | three (low high : UInt8)
  | four (low high : UInt8)
  | invalid

def lead (b : UInt8) : Lead :=
  if b < 0x80 then .ascii
  else if b < 0xc2 then .invalid
  else if b < 0xe0 then .two
  else if b == 0xe0 then .three 0xa0 0xbf
  else if b == 0xed then .three 0x80 0x9f
  else if b < 0xf0 then .three 0x80 0xbf
  else if b == 0xf0 then .four 0x90 0xbf
  else if b < 0xf4 then .four 0x80 0xbf
  else if b == 0xf4 then .four 0x80 0x8f
  else .invalid

def isContinuation (b : UInt8) : Bool := 0x80 ≤ b && b < 0xc0

def assemble (head : Nat) (tail : List UInt8) : Char :=
  Char.ofNat (tail.foldl (fun n b => n * 0x40 + (b.toNat - 0x80)) head)

/-- The characters of a byte sequence, with nothing in place of each ill-formed sequence. -/
def pieces : List UInt8 → List (Option Char)
  | [] => []
  | a :: r =>
    match lead a with
    | .ascii => some (Char.ofNat a.toNat) :: pieces r
    | .invalid => none :: pieces r
    | .two =>
      match r with
      | [] => [none]
      | b :: r₁ =>
        if isContinuation b then some (assemble (a.toNat - 0xc0) [b]) :: pieces r₁ else none :: pieces (b :: r₁)
    | .three low high =>
      match r with
      | [] => [none]
      | b :: r₁ =>
        if low ≤ b && b ≤ high then
          match r₁ with
          | [] => [none]
          | c :: r₂ =>
            if isContinuation c then some (assemble (a.toNat - 0xe0) [b, c]) :: pieces r₂
            else none :: pieces (c :: r₂)
        else none :: pieces (b :: r₁)
    | .four low high =>
      match r with
      | [] => [none]
      | b :: r₁ =>
        if low ≤ b && b ≤ high then
          match r₁ with
          | [] => [none]
          | c :: r₂ =>
            if isContinuation c then
              match r₂ with
              | [] => [none]
              | d :: r₃ =>
                if isContinuation d then some (assemble (a.toNat - 0xf0) [b, c, d]) :: pieces r₃
                else none :: pieces (d :: r₃)
            else none :: pieces (c :: r₂)
        else none :: pieces (b :: r₁)

/-- The text of a byte sequence, if all of it is well formed. -/
def decode? (source : List UInt8) : Option String :=
  ((pieces source).mapM id).map String.ofList

/-- The text of a byte sequence with U+FFFD in place of each ill-formed sequence. -/
def decodeLossy (source : List UInt8) : String :=
  String.ofList ((pieces source).map (·.getD '\uFFFD'))

def wellFormedLength (source : List UInt8) : Nat :=
  ((pieces source).takeWhile Option.isSome).foldl (fun n piece => n + (piece.map (encodeChar · |>.length)).getD 0) 0

end JsonSchema.Utf8
