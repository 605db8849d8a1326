import JsonSchema.Members
import JsonSchema.Number

/-! JSON values. Object members keep their order in the document. -/
namespace JsonSchema

inductive Json where
  | null
  | bool (value : Bool)
  | number (value : Number)
  | string (value : String)
  | array (items : List Json)
  | object (members : List (String × Json))
deriving Inhabited

namespace Json

mutual

def depth : Json → Nat
  | array items => depthOfItems items + 1
  | object members => depthOfMembers members + 1
  | _ => 0

def depthOfItems : List Json → Nat
  | [] => 0
  | item :: rest => max item.depth (depthOfItems rest)

def depthOfMembers : List (String × Json) → Nat
  | [] => 0
  | (_, value) :: rest => max value.depth (depthOfMembers rest)

end

theorem depth_le_of_mem_items {items : List Json} {item : Json} (h : item ∈ items) :
    item.depth ≤ depthOfItems items := by
  induction items with
  | nil => cases h
  | cons head rest ih =>
    rw [depthOfItems]
    rcases List.mem_cons.1 h with rfl | h
    · omega
    · have := ih h; omega

theorem depth_le_of_mem_members {members : List (String × Json)} {name : String} {value : Json}
    (h : (name, value) ∈ members) : value.depth ≤ depthOfMembers members := by
  induction members with
  | nil => cases h
  | cons head rest ih =>
    obtain ⟨name', value'⟩ := head
    rw [depthOfMembers]
    rcases List.mem_cons.1 h with h | h
    · obtain ⟨_, rfl⟩ := Prod.mk.inj h; omega
    · have := ih h; omega

def member? : Json → String → Option Json
  | object members, name => Members.find? members name
  | _, _ => none

def string? : Json → Option String
  | string s => some s
  | _ => none

end Json

end JsonSchema
