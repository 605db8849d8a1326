import JsonSchema.Constraint

/-!
The meaning of a graph without compiling it: the checks of a node are carried out one after the other, and a check of
another node starts over there.
-/
namespace JsonSchema.SchemaGraph

def checksAt (engine : PatternEngine) (constraints : List Constraint) (id : SchemaId) (node : SchemaNode) :
    List (Check SchemaId) :=
  constraints.filterMap fun constraint => (constraint engine id node).toOption.join

/-- Whether a value fits the node at a place. There is no answer after more than so many nested steps. -/
def fits (graph : SchemaGraph) (engine : PatternEngine) (constraints : List Constraint) :
    Nat → SchemaId → Json → Option Bool
  | 0, _, _ => none
  | steps + 1, id, value =>
    (graph.get? id).bind fun node =>
      match node.valid with
      | some valid => some valid
      | none => Check.runAll (graph.fits engine constraints steps) (checksAt engine constraints id node) value

end JsonSchema.SchemaGraph
