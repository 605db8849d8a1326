import JsonSchema.Binary64

/-!
JSON numbers and the three questions that keywords ask of them: is a number above or below a bound, is it a multiple
of a divisor, and are two numbers equal. A number written as an integer stays exact; any other is a binary64 number.
-/
namespace JsonSchema

inductive Number where
  | int (value : Int)
  | float (value : Binary64)
deriving DecidableEq

namespace Number

def toBinary64 : Number → Binary64
  | int i => .ofInt i
  | float x => x

def isWhole : Number → Bool
  | int _ => true
  | float x => x.isWhole

/-- The binary64 number nearest to `10 ^ 38`. Whole binary64 numbers below it are treated as exact integers. -/
def exactLimit : Nat := 99999999999999997748809823456034029568

def exactIntOf (x : Binary64) : Option Int :=
  match x.toInt? with
  | some i => if i.natAbs < exactLimit then some i else none
  | none => none

def exactInt? : Number → Option Int
  | int i => some i
  | float x => exactIntOf x

/-- Where a number stands to a bound. Integers meet integral bounds exactly and are rounded for the others. -/
def compareBound? (n : Number) (bound : Binary64) : Option Ordering :=
  match n with
  | int i =>
    match exactIntOf bound with
    | some b => some (compare i b)
    | none => (Binary64.ofInt i).compare? bound
  | float x => x.compare? bound

def meetsMinimum (n : Number) (bound : Binary64) (exclusive : Bool) : Bool :=
  match n.compareBound? bound with
  | some .gt => true
  | some .eq => !exclusive
  | _ => false

def meetsMaximum (n : Number) (bound : Binary64) (exclusive : Bool) : Bool :=
  match n.compareBound? bound with
  | some .lt => true
  | some .eq => !exclusive
  | _ => false

/-- What a remainder may miss by: four times the machine epsilon, in proportion to the sum of the operands. -/
def multipleTolerance (value divisor : Nat) : Binary64 :=
  let epsilon := Binary64.nearest false Binary64.unitsPerOne 0x10000000000000
  ((Binary64.nearest false (value + divisor) 1).mul (Binary64.ofNat 4)).mul epsilon

/-- The exact remainder lies within the tolerance of zero or of the divisor. -/
def isNearMultiple (value divisor : Nat) : Bool :=
  let remainder := value % divisor
  let tolerance := multipleTolerance value divisor
  (Binary64.nearest false remainder 1).atMost tolerance ||
    (Binary64.nearest false (divisor - remainder) 1).atMost tolerance

/-- Integers are divided exactly by whole divisors; every other quotient is judged with a tolerance. -/
def isMultipleOf (n : Number) (divisor : Binary64) : Bool :=
  match divisor with
  | .finite false units _ =>
    if units = 0 then false
    else
      match n, divisor.toInt? with
      | int i, some d => if exactLimit ≤ d.natAbs then i == 0 else i % d == 0
      | _, _ =>
        match n.toBinary64 with
        | .finite _ value _ => isNearMultiple value units
        | _ => false
  | _ => false

/-- Equality by value: exact where both numbers are exact integers, otherwise as binary64 numbers. -/
def equals : Number → Number → Bool
  | int i, int j => i == j
  | a, b =>
    match a.exactInt?, b.exactInt? with
    | some i, some j => i == j
    | _, _ => a.toBinary64.compare? b.toBinary64 == some .eq

end Number

end JsonSchema
