import JsonSchema.Linking.Error

/-! The values of keywords, as far as they can be read without looking at other schemas. -/
namespace JsonSchema

/-- Whether a number is a count: not below zero, whole, and below the largest natural number of 64 bits, which is
itself rounded for it. -/
def Binary64.isCount (x : Binary64) : Bool :=
  zero.atMost x && x.isWhole && x.compare? (ofNat maxNat64) == some .lt

namespace Json

def bool? : Json → Option Bool
  | bool b => some b
  | _ => none

def binary64? : Json → Option Binary64
  | number n => some n.toBinary64
  | _ => none

/-- A finite number above zero. -/
def divisor? (value : Json) : Option Binary64 :=
  value.binary64?.filter fun x => x.isFinite && x.compare? .zero == some .gt

def natural? : Json → Option Nat
  | number (.int i) => if 0 ≤ i ∧ i ≤ Binary64.maxNat64 then some i.toNat else none
  | _ => none

/-- A natural number of 64 bits, which may be written as a whole binary64 number. -/
def count? (value : Json) : Option Nat :=
  value.natural? <|> (value.binary64?.filter Binary64.isCount).map Binary64.toNat64

def items? : Json → Option (List Json)
  | array items => some items
  | _ => none

def members? : Json → Option (Members Json)
  | object members => some members
  | _ => none

def strings? (value : Json) : Option (List String) := value.items?.bind (·.mapM string?)

end Json

namespace TypeSet

def named (pointer name : String) : Except ReadError TypeSet :=
  match ofName? name with
  | some types => .ok types
  | Option.none => .error (.unknownType name pointer)

def namedAll (pointer : String) (types : TypeSet) : List Json → Except ReadError TypeSet
  | [] => .ok types
  | .string name :: rest => do namedAll pointer (types.union (← named pointer name)) rest
  | _ :: _ => .error (.invalidKeyword .type pointer .typeNames)

def ofJson (pointer : String) : Json → Except ReadError TypeSet
  | .string name => named pointer name
  | .array names => namedAll pointer none names
  | _ => .error (.invalidKeyword .type pointer .typeNameOrTypeNames)

end TypeSet

end JsonSchema
