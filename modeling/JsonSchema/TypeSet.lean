import JsonSchema.Json

/-!
Sets of the seven primitive types. A number is of type `number`; whether it is an `integer` too is decided where types
are checked, because it depends on the draft.
-/
namespace JsonSchema

inductive PrimitiveType where
  | string
  | number
  | integer
  | boolean
  | object
  | array
  | null
deriving DecidableEq

namespace PrimitiveType

def all : List PrimitiveType := [string, number, integer, boolean, object, array, null]

def name : PrimitiveType → String
  | string => "string"
  | number => "number"
  | integer => "integer"
  | boolean => "boolean"
  | object => "object"
  | array => "array"
  | null => "null"

def ofValue : Json → PrimitiveType
  | .null => null
  | .bool _ => boolean
  | .number _ => number
  | .string _ => string
  | .array _ => array
  | .object _ => object

end PrimitiveType

/-- A set of primitive types, as its membership test. -/
structure TypeSet where
  has : PrimitiveType → Bool

namespace TypeSet

def none : TypeSet := ⟨fun _ => false⟩

def any : TypeSet := ⟨fun _ => true⟩

def only (t : PrimitiveType) : TypeSet := ⟨(· == t)⟩

def union (a b : TypeSet) : TypeSet := ⟨fun t => a.has t || b.has t⟩

def isEmpty (a : TypeSet) : Bool := PrimitiveType.all.all fun t => !a.has t

def intersects (a b : TypeSet) : Bool := PrimitiveType.all.any fun t => a.has t && b.has t

def contains (a b : TypeSet) : Bool := !b.isEmpty && PrimitiveType.all.all fun t => !b.has t || a.has t

def toList (a : TypeSet) : List PrimitiveType := PrimitiveType.all.filter a.has

/-- The set that a type name stands for: one type, all of them or none. -/
def ofName? : String → Option TypeSet
  | "string" => some (only .string)
  | "number" => some (only .number)
  | "integer" => some (only .integer)
  | "boolean" => some (only .boolean)
  | "object" => some (only .object)
  | "array" => some (only .array)
  | "null" => some (only .null)
  | "any" => some any
  | "none" => some none
  | _ => Option.none

def ofValue (value : Json) : TypeSet := only (.ofValue value)

/-- Whether a value is of one of the types. Whole numbers are integers, except that strictly only those written as
integers are. -/
def admits (allowed : TypeSet) (strict : Bool) (value : Json) : Bool :=
  match value with
  | .number n =>
    allowed.has .number ||
      (allowed.has .integer &&
        match n with
        | .int _ => true
        | .float x => !strict && x.isWhole)
  | _ => allowed.has (.ofValue value)

@[simp] theorem has_none (t : PrimitiveType) : none.has t = false := rfl

@[simp] theorem has_any (t : PrimitiveType) : any.has t = true := rfl

@[simp] theorem has_only (s t : PrimitiveType) : (only s).has t = (t == s) := rfl

@[simp] theorem has_union (a b : TypeSet) (t : PrimitiveType) : (a.union b).has t = (a.has t || b.has t) := rfl

end TypeSet

end JsonSchema
