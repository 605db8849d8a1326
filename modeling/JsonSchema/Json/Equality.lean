import JsonSchema.Json

/-!
Equality of JSON values by meaning: numbers compare by value and objects as maps from names to values. Arrays whose
elements are pairwise different are found by one pass over the elements met so far, as long as all are scalars.
-/
namespace JsonSchema.Json

mutual

/-- Equality up to the spelling of numbers and the order of members. -/
def equals : Json → Json → Bool
  | null, null => true
  | bool a, bool b => a == b
  | number a, number b => a.equals b
  | string a, string b => a == b
  | array as, array bs => itemsEqual as bs
  | object as, object bs => as.length == bs.length && membersAgree as bs
  | _, _ => false

def itemsEqual : List Json → List Json → Bool
  | [], [] => true
  | a :: as, b :: bs => equals a b && itemsEqual as bs
  | _, _ => false

def membersAgree : List (String × Json) → List (String × Json) → Bool
  | [], _ => true
  | (name, a) :: as, bs =>
    (match Members.find? bs name with
      | some b => equals a b
      | none => false) && membersAgree as bs

end

/-- What a scalar is identified by under `equals`. -/
inductive Scalar where
  | null
  | bool (value : Bool)
  | int (value : Int)
  | float (value : Binary64)
  | string (value : String)
deriving DecidableEq

/-- The key of a scalar. Both zeros are the integer zero. -/
def scalar? : Json → Option Scalar
  | null => some .null
  | bool b => some (.bool b)
  | number n =>
    match n.exactInt? with
    | some i => some (.int i)
    | none => some (.float n.toBinary64)
  | string s => some (.string s)
  | array _ => none
  | object _ => none

def pairwiseDistinct : List Json → Bool
  | [] => true
  | a :: rest => rest.all (fun b => !equals a b) && pairwiseDistinct rest

/-- Goes through scalars until a key repeats; an array or object calls for the comparison of all pairs. -/
def distinctScalars (all : List Json) : List Scalar → List Json → Bool
  | _, [] => true
  | seen, item :: rest =>
    match item.scalar? with
    | some key => if key ∈ seen then false else distinctScalars all (key :: seen) rest
    | none => pairwiseDistinct all

def areDistinct (items : List Json) : Bool := distinctScalars items [] items

end JsonSchema.Json
