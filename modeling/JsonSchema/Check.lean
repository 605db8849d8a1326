import JsonSchema.Graph

/-!
What the keywords of a schema ask of a value, over any way `ρ` to name the schemas that they apply to parts of it. The
same checks are carried out on names of nodes and on compiled schemas.
-/
namespace JsonSchema

inductive Check (ρ : Type) where
  | test (accepts : Json → Bool)
  | allOf (schemas : List ρ)
  | anyOf (schemas : List ρ)
  | oneOf (schemas : List ρ)
  | not (schema : ρ)
  | conditional (condition : ρ) (consequence alternative : Option ρ)
  | every (schema : ρ)
  /-- Elements fit the schemas at their positions, as far as there are both, and the others the rest. -/
  | tuple (schemas : List ρ) (rest : Additional ρ)
  | contains (schema : ρ)
  | properties (schemas : List (String × ρ))
  /-- Members fit the schemas of all patterns that their names match. What is no pattern matches no name. -/
  | patternProperties (schemas : List (Option (String → Bool) × ρ))
  /-- Members that are not covered fit the schema, or there are none if there is no schema. -/
  | additionalProperties (covered : String → Bool) (schema : Option ρ)
  | propertyNames (schema : ρ)
  | dependencies (byTrigger : List (String × Dependency ρ))

variable {ρ σ : Type}

namespace Additional

def schemas : Additional ρ → List ρ
  | schema s => [s]
  | _ => []

def mapM {m : Type → Type} [Monad m] (f : ρ → m σ) : Additional ρ → m (Additional σ)
  | allowed => pure .allowed
  | forbidden => pure .forbidden
  | schema s => do pure (.schema (← f s))

end Additional

namespace Dependency

def schemas : Dependency ρ → List ρ
  | schema s => [s]
  | names _ => []

def mapM {m : Type → Type} [Monad m] (f : ρ → m σ) : Dependency ρ → m (Dependency σ)
  | names others => pure (.names others)
  | schema s => do pure (.schema (← f s))

end Dependency

namespace Check

def schemas : Check ρ → List ρ
  | test _ => []
  | allOf schemas => schemas
  | anyOf schemas => schemas
  | oneOf schemas => schemas
  | not schema => [schema]
  | conditional condition consequence alternative => condition :: consequence.toList ++ alternative.toList
  | every schema => [schema]
  | tuple schemas rest => schemas ++ rest.schemas
  | contains schema => [schema]
  | properties schemas => Members.values schemas
  | patternProperties schemas => schemas.map Prod.snd
  | additionalProperties _ schema => schema.toList
  | propertyNames schema => [schema]
  | dependencies byTrigger => (Members.values byTrigger).flatMap Dependency.schemas

def mapM {m : Type → Type} [Monad m] (f : ρ → m σ) : Check ρ → m (Check σ)
  | test accepts => pure (.test accepts)
  | allOf schemas => do pure (.allOf (← schemas.mapM f))
  | anyOf schemas => do pure (.anyOf (← schemas.mapM f))
  | oneOf schemas => do pure (.oneOf (← schemas.mapM f))
  | not schema => do pure (.not (← f schema))
  | conditional condition consequence alternative => do
    pure (.conditional (← f condition) (← consequence.mapM f) (← alternative.mapM f))
  | every schema => do pure (.every (← f schema))
  | tuple schemas rest => do pure (.tuple (← schemas.mapM f) (← rest.mapM f))
  | contains schema => do pure (.contains (← f schema))
  | properties schemas => do pure (.properties (← schemas.mapM fun (name, schema) => do pure (name, ← f schema)))
  | patternProperties schemas => do
    pure (.patternProperties (← schemas.mapM fun (accepts, schema) => do pure (accepts, ← f schema)))
  | additionalProperties covered schema => do pure (.additionalProperties covered (← schema.mapM f))
  | propertyNames schema => do pure (.propertyNames (← f schema))
  | dependencies byTrigger => do
    pure (.dependencies (← byTrigger.mapM fun (name, dependency) => do pure (name, ← dependency.mapM f)))

/-- Whether a value fits exactly one of some schemas. The second that it fits settles it. -/
def exactlyOne (fits : ρ → Option Bool) (found : Bool) : List ρ → Option Bool
  | [] => some found
  | schema :: rest => do
    if ← fits schema then
      if found then some false else exactlyOne fits true rest
    else exactlyOne fits found rest

/-- Carries out a check from left to right and no further than the answer needs. `fits` tells whether a value fits a
schema, or nothing if that takes too long. Checks of arrays pass everything that is no array, and likewise for
objects. -/
def run (fits : ρ → Json → Option Bool) : Check ρ → Json → Option Bool
  | test accepts, value => some (accepts value)
  | allOf schemas, value => schemas.allM (fits · value)
  | anyOf schemas, value => schemas.anyM (fits · value)
  | oneOf schemas, value => exactlyOne (fits · value) false schemas
  | not schema, value => do pure !(← fits schema value)
  | conditional condition consequence alternative, value => do
    match if ← fits condition value then consequence else alternative with
    | some schema => fits schema value
    | none => some true
  | every schema, .array items => items.allM (fits schema)
  | tuple schemas rest, .array items => do
    if ← (items.zip schemas).allM fun (item, schema) => fits schema item then
      match rest with
      | .allowed => some true
      | .forbidden => some (items.length ≤ schemas.length)
      | .schema schema => (items.drop schemas.length).allM (fits schema)
    else some false
  | contains schema, .array items => items.anyM (fits schema)
  | properties schemas, .object members =>
    schemas.allM fun (name, schema) =>
      match Members.find? members name with
      | some value => fits schema value
      | none => some true
  | patternProperties schemas, .object members =>
    members.allM fun (name, value) => schemas.allM fun (accepts, schema) =>
      if accepts.any (· name) then fits schema value else some true
  | additionalProperties covered schema, .object members =>
    (members.filter fun (name, _) => !covered name).allM fun (_, value) =>
      match schema with
      | some schema => fits schema value
      | none => some false
  | propertyNames schema, .object members => members.allM fun (name, _) => fits schema (.string name)
  | dependencies byTrigger, .object members =>
    (byTrigger.filter fun (name, _) => Members.contains members name).allM fun (_, dependency) =>
      match dependency with
      | .names others => some (others.all (Members.contains members))
      | .schema schema => fits schema (.object members)
  | _, _ => some true

def runAll (fits : ρ → Json → Option Bool) (checks : List (Check ρ)) (value : Json) : Option Bool :=
  checks.allM fun check => check.run fits value

end Check

end JsonSchema
