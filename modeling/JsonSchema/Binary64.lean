/-!
Binary64 numbers as exact integers.

Every finite binary64 number is an integer multiple of the least positive one, `2 ^ -1074`. A finite number is kept as
its sign and that multiple, its *units*, so that order, remainder and integrality are questions about natural numbers
and every inexact operation is one call of `Binary64.nearest`.
-/
namespace JsonSchema

/-- The counts of units that are binary64 magnitudes: 53 significant bits, no more, below the point of overflow. -/
def Representable (units : Nat) : Prop :=
  ∃ significand exponent : Nat,
    significand < Nat.pow 2 53 ∧ exponent ≤ 2045 ∧ units = significand * Nat.pow 2 exponent

theorem representable_of_lt {units : Nat} (h : units < Nat.pow 2 53) : Representable units :=
  ⟨units, 0, h, Nat.zero_le _, by simp⟩

inductive Binary64 where
  | nan
  | infinity (negative : Bool)
  | finite (negative : Bool) (units : Nat) (representable : Representable units)
deriving DecidableEq

/-- The quotient rounded to the nearest integer, a tie to the even one. -/
def divNearest (n d : Nat) : Nat :=
  if 2 * (n % d) < d then n / d
  else if d < 2 * (n % d) then n / d + 1
  else n / d + n / d % 2

namespace Binary64

instance : Inhabited Binary64 := ⟨nan⟩

def unitsPerOne : Nat := Nat.pow 2 1074

/-- The binary64 number nearest to `n / d` units, a tie to the even significand. -/
def nearest (negative : Bool) (n d : Nat) : Binary64 :=
  let shift := (n / d).log2 - 52
  let significand := divNearest n (d * Nat.pow 2 shift)
  if h : significand < Nat.pow 2 53 ∧ shift ≤ 2045 then
    finite negative (significand * Nat.pow 2 shift) ⟨significand, shift, h.1, h.2, rfl⟩
  else if h : significand = Nat.pow 2 53 ∧ shift + 1 ≤ 2045 then
    finite negative (Nat.pow 2 52 * Nat.pow 2 (shift + 1)) ⟨Nat.pow 2 52, shift + 1, by decide, h.2, rfl⟩
  else infinity negative

def zero : Binary64 := finite false 0 (representable_of_lt (by decide))

def ofNat (n : Nat) : Binary64 := nearest false (n * unitsPerOne) 1

def ofInt (i : Int) : Binary64 := nearest (decide (i < 0)) (i.natAbs * unitsPerOne) 1

def powerOfTen (exponent : Nat) : Binary64 := ofNat (Nat.pow 10 exponent)

def neg : Binary64 → Binary64
  | nan => nan
  | infinity negative => infinity (!negative)
  | finite negative units h => finite (!negative) units h

def isZero : Binary64 → Bool
  | finite _ units _ => units == 0
  | _ => false

def isInfinite : Binary64 → Bool
  | infinity _ => true
  | _ => false

def isFinite : Binary64 → Bool
  | finite .. => true
  | _ => false

def mul : Binary64 → Binary64 → Binary64
  | nan, _ => nan
  | _, nan => nan
  | infinity p, infinity q => infinity (p != q)
  | infinity p, finite q units _ => if units = 0 then nan else infinity (p != q)
  | finite p units _, infinity q => if units = 0 then nan else infinity (p != q)
  | finite p a _, finite q b _ => nearest (p != q) (a * b) unitsPerOne

def div : Binary64 → Binary64 → Binary64
  | nan, _ => nan
  | _, nan => nan
  | infinity _, infinity _ => nan
  | infinity p, finite q _ _ => infinity (p != q)
  | finite p _ _, infinity q => finite (p != q) 0 (representable_of_lt (by decide))
  | finite p a _, finite q b _ =>
    if b = 0 then (if a = 0 then nan else infinity (p != q)) else nearest (p != q) (a * unitsPerOne) b

def signedUnits (negative : Bool) (units : Nat) : Int := if negative then -(units : Int) else units

/-- IEEE order: nothing compares with NaN, the zeros are equal, the infinities lie outside the finite numbers. -/
def compare? : Binary64 → Binary64 → Option Ordering
  | nan, _ => none
  | _, nan => none
  | infinity p, infinity q => some (compare (if p then 0 else 1) (if q then 0 else 1))
  | infinity p, finite .. => some (if p then .lt else .gt)
  | finite .., infinity q => some (if q then .gt else .lt)
  | finite p a _, finite q b _ => some (compare (signedUnits p a) (signedUnits q b))

def atMost (a b : Binary64) : Bool :=
  match a.compare? b with
  | some .lt => true
  | some .eq => true
  | _ => false

def isWhole : Binary64 → Bool
  | finite _ units _ => units % unitsPerOne == 0
  | _ => false

def toInt? : Binary64 → Option Int
  | finite negative units _ =>
    if units % unitsPerOne = 0 then some (signedUnits negative (units / unitsPerOne)) else none
  | _ => none

def maxNat64 : Nat := 0xffffffffffffffff

/-- A number made a natural number of 64 bits: its fraction is cut off, what is too large becomes the largest one, and
what is negative or NaN becomes zero. -/
def toNat64 : Binary64 → Nat
  | nan => 0
  | infinity negative => if negative then 0 else maxNat64
  | finite negative units _ => if negative then 0 else min (units / unitsPerOne) maxNat64

/-- The 64 bits of the interchange format; every NaN has the same ones. -/
def bits : Binary64 → Nat
  | nan => 0x7ff8000000000000
  | infinity negative => (if negative then Nat.pow 2 63 else 0) + 0x7ff * Nat.pow 2 52
  | finite negative units _ =>
    let exponent := units.log2 - 52
    (if negative then Nat.pow 2 63 else 0) +
      if units < Nat.pow 2 52 then units
      else (exponent + 1) * Nat.pow 2 52 + (units / Nat.pow 2 exponent - Nat.pow 2 52)

end Binary64

end JsonSchema
