/-!
Sets of characters as ranges of code points in ascending order, and their short written form: for each range the step
from the end of the one before and its length less one, in digits of base 32 that say whether more digits follow.
-/
namespace JsonSchema.Unicode

/-- The digits of base 32, first those that end a number, then those that are followed by another. -/
def digitOf? (c : Char) : Option Nat :=
  let n := c.toNat
  if '0' ≤ c && c ≤ '9' then some (n - 48)
  else if 'A' ≤ c && c ≤ 'Z' then some (n - 55)
  else if 'a' ≤ c && c ≤ 'z' then some (n - 61)
  else if c == '-' then some 62
  else if c == '_' then some 63
  else none

def decodeNumbers (lines : List String) : List Nat :=
  let step (state : List Nat × Nat) (c : Char) : List Nat × Nat :=
    match digitOf? c with
    | none => state
    | some d => if d < 32 then ((state.2 * 32 + d) :: state.1, 0) else (state.1, state.2 * 32 + (d - 32))
  ((lines.flatMap String.toList).foldl step ([], 0)).1.reverse

/-- The number at a distance from another, which goes up if it is even and down if it is odd. -/
def moved (n distance : Nat) : Nat := if distance % 2 = 0 then n + distance / 2 else n - (distance + 1) / 2

structure RangeSet where
  ranges : List (Nat × Nat)

namespace RangeSet

def empty : RangeSet := ⟨[]⟩

def ofSteps (next : Nat) : List Nat → List (Nat × Nat)
  | step :: length :: rest => (next + step, next + step + length) :: ofSteps (next + step + length + 1) rest
  | _ => []

def decode (lines : List String) : RangeSet := ⟨ofSteps 0 (decodeNumbers lines)⟩

def containsIn (c : Nat) : List (Nat × Nat) → Bool
  | [] => false
  | (low, high) :: rest => if c < low then false else c ≤ high || containsIn c rest

def contains (set : RangeSet) (c : Nat) : Bool := containsIn c set.ranges

end RangeSet

def anyContains (sets : List RangeSet) (c : Nat) : Bool := sets.any (·.contains c)

end JsonSchema.Unicode
