import JsonSchema.Check

/-!
Compiled schemas. A predicate is a tree of checks; where a schema leads back to itself the tree has a slot in place of
the predicate, which is looked up in a table when it is needed.
-/
namespace JsonSchema

inductive Predicate where
  | constant (valid : Bool)
  | all (checks : List (Check Predicate))
  /-- The predicate at a place in the table. -/
  | slot (index : Nat)

namespace Predicate

/-- Whether a value fits a predicate. There is no answer after more than so many nested steps. -/
def fits (slots : List Predicate) : Nat → Predicate → Json → Option Bool
  | 0, _, _ => none
  | _ + 1, constant valid, _ => some valid
  | steps + 1, all checks, value => Check.runAll (fits slots steps) checks value
  | steps + 1, slot index, value => slots[index]?.bind fun predicate => fits slots steps predicate value

end Predicate

structure Validator where
  schema : Schema
  root : Predicate
  slots : List Predicate

namespace Validator

/-- A node is entered at most once, perhaps through a slot, before a check moves on into the value. -/
def steps (validator : Validator) (value : Json) : Nat :=
  (2 * validator.schema.graph.size + 2) * (value.depth + 2)

/-- Whether a value fits the schema. There is no answer only if the schema goes around in circles without moving on
into the value. -/
def isValid? (validator : Validator) (value : Json) : Option Bool :=
  validator.root.fits validator.slots (validator.steps value) value

/-- The number of nodes at which cycles of the graph are cut. -/
def slotCount (validator : Validator) : Nat := validator.slots.length

def summary (validator : Validator) : String :=
  "Validator \x7b root: SchemaId(" ++ toString validator.schema.root.index ++ "), nodes: " ++
    toString validator.schema.graph.size ++ ", forward_slots: " ++ toString validator.slotCount ++ " \x7d"

end Validator

end JsonSchema
