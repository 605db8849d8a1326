import JsonSchema.Binary64

/-!
The shortest decimal of a binary64 number: of the decimals with the fewest digits that read back as the number, the
nearest one. It is found on the grids of one digit, two digits and so on, among the neighbours of the number.
-/
namespace JsonSchema.Binary64

structure Decimal where
  digits : Nat
  exponent : Int

/-- The interval of reals that round to a number of units, in quarters of a unit; its ends belong to it if the
significand is even. -/
structure RoundingInterval where
  low : Nat
  high : Nat
  closed : Bool

def roundingInterval (units : Nat) : RoundingInterval :=
  let shift := units.log2 - 52
  let gap := Nat.pow 2 shift
  let below := if shift > 0 && units = Nat.pow 2 (shift + 52) then gap else 2 * gap
  ⟨4 * units - below, 4 * units + 2 * gap, (units / gap) % 2 = 0⟩

def RoundingInterval.contains (interval : RoundingInterval) (c d : Nat) : Bool :=
  if interval.closed then interval.low * d ≤ c && c ≤ interval.high * d
  else interval.low * d < c && c < interval.high * d

def leadingExponent (units : Nat) : Int :=
  if unitsPerOne ≤ units then (Nat.toDigits 10 (units / unitsPerOne)).length - 1
  else below 1 330
where
  below (places : Nat) : Nat → Int
    | 0 => -places
    | fuel + 1 => if unitsPerOne ≤ units * Nat.pow 10 places then -places else below (places + 1) fuel

/-- A decimal on the grid of the given exponent that reads back as the number of units, the nearer one of two. -/
def onGrid? (units : Nat) (exponent : Int) : Option Decimal :=
  let n := units * Nat.pow 10 (-exponent).toNat
  let d := unitsPerOne * Nat.pow 10 exponent.toNat
  let interval := roundingInterval units
  let fits (c : Nat) : Bool := interval.contains (4 * c * d) (Nat.pow 10 (-exponent).toNat)
  let below := n / d
  let above := below + 1
  let nearer := divNearest n d
  if fits nearer then some ⟨nearer, exponent⟩
  else if fits below then some ⟨below, exponent⟩
  else if fits above then some ⟨above, exponent⟩
  else none

/-- The shortest decimal of a number of units, which is at least one. Seventeen digits always suffice. -/
def shortest (units : Nat) : Decimal :=
  let leading := leadingExponent units
  ((List.range 17).findSome? fun (places : Nat) => onGrid? units (leading - places)).getD ⟨0, 0⟩

def Decimal.trimmed (decimal : Decimal) : Nat → Decimal
  | 0 => decimal
  | fuel + 1 =>
    if decimal.digits % 10 = 0 then Decimal.trimmed ⟨decimal.digits / 10, decimal.exponent + 1⟩ fuel else decimal

def withPoint (digits : List Char) (places : Nat) : String :=
  String.ofList (digits.take places) ++ "." ++ String.ofList (digits.drop places)

def signed (exponent : Int) : String := (if exponent < 0 then "" else "+") ++ toString exponent

/-- A decimal in positional notation if its point is near its digits, and otherwise with an exponent. -/
def Decimal.text (decimal : Decimal) : String :=
  let digits := Nat.toDigits 10 decimal.digits
  let point : Int := digits.length + decimal.exponent
  if 0 ≤ decimal.exponent && point ≤ 16 then
    String.ofList (digits ++ List.replicate decimal.exponent.toNat '0') ++ ".0"
  else if 0 < point && point ≤ 16 then withPoint digits point.toNat
  else if -5 < point && point ≤ 0 then "0." ++ String.ofList (List.replicate point.natAbs '0' ++ digits)
  else (if digits.length = 1 then String.ofList digits else withPoint digits 1) ++ "e" ++ signed (point - 1)

def text : Binary64 → String
  | nan => "NaN"
  | infinity negative => if negative then "-inf" else "inf"
  | finite negative units _ =>
    (if negative then "-" else "") ++ if units = 0 then "0.0" else ((shortest units).trimmed 17).text

end JsonSchema.Binary64
