import JsonSchema.Proofs.Compilable
import JsonSchema.Proofs.Grounded
import JsonSchema.Proofs.Reading

/-!
Schemas of a single node. A document with no schemas inside of it is read into one node, which compiles unless it asks
for contents; what it says of a value is then what its own tests say.
-/
namespace JsonSchema

def Schema.single (node : SchemaNode) : Schema := ⟨⟨#[node]⟩, ⟨0⟩⟩

theorem Check.runAll_tests {ρ : Type} {fits : ρ → Json → Option Bool} (tests : List (Json → Bool)) (value : Json) :
    Check.runAll fits (tests.map .test) value = some (tests.all fun accepts => accepts value) := by
  induction tests with
  | nil => rfl
  | cons accepts rest ih =>
    have hfirst : (Check.test accepts : Check ρ).run fits value = some (accepts value) := rfl
    rw [Check.runAll, List.map_cons, List.allM, hfirst, List.all_cons]
    cases accepts value with
    | false => rfl
    | true => exact ih

namespace Reader

open Linking LinkState

/-- A schema object that asks for no other schema is read into one node, whatever documents there are. -/
theorem read?_single (reader : Reader) {members : Members Json} {node : SchemaNode}
    (hreference : Members.find? members Keyword.reference.name = none)
    (hnode : readObject ⟨0, ""⟩ members (reader.rootVisit (.object members)).inherited = .done node) :
    reader.read? (.object members) = some (.ok (.single node)) := by
  obtain ⟨loaded, hroot, hstart⟩ := reader.start_cases (.object members)
  have hunread : (reader.start (.object members)).nodeAt? ⟨0, ""⟩ = none := by
    rw [hstart]
    rfl
  have hvalue : (reader.start (.object members)).valueAt? ⟨0, ""⟩ = some (.object members) := by
    rw [hstart, valueAt?, ← hroot]
    rfl
  have hgraph : (reader.start (.object members)).graph = .empty := by rw [hstart]
  have hrun : ∃ final, reader.link? (.object members) = some (.ok ⟨0⟩, final) ∧ final.graph = ⟨#[node]⟩ := by
    change ∃ final, run (visit reader.source (reader.rounds (.object members))
      (reader.rootVisit (.object members))) (reader.start (.object members)) = some (.ok ⟨0⟩, final) ∧ _
    rw [rootVisit] at hnode ⊢
    rw [rounds_eq, visit]
    simp only [run_bind, run_get, hunread, readPlace, hvalue, hreference, run_set, hnode, Inquiry.run, run_pure,
      run_modify, hgraph]
    exact ⟨_, rfl, rfl⟩
  obtain ⟨final, hlink, hfinal⟩ := hrun
  rw [read?, hlink, Option.map_some]
  simp only [Except.map, hfinal]
  rfl

end Reader

namespace Compiler

open SchemaGraph

variable {compiler : Compiler} {node : SchemaNode} {validator : Validator}

theorem get?_single (node : SchemaNode) : (Schema.single node).graph.get? ⟨0⟩ = some node := rfl

theorem compilable_single (hfollowed : node.followed = []) (hmedia : node.mediaType = none) :
    (Schema.single node).Compilable := by
  have hroot (id : SchemaId) (hreach : (Schema.single node).graph.Reachable (Schema.single node).root id) :
      id = ⟨0⟩ := by
    rcases Relation.ReflTransGen.cases_tail hreach with rfl | ⟨parent, _, other, hother, _, hmem⟩
    · rfl
    · obtain rfl : node = other := by
        obtain ⟨_ | index⟩ := parent <;> cases hother
        rfl
      rw [hfollowed] at hmem
      cases hmem
  constructor
  · intro id hreach
    rw [hroot id hreach]
    exact Nat.zero_lt_one
  · intro id other hreach hother _ mediaType htype
    rw [hroot id hreach, get?_single] at hother
    obtain rfl := Option.some.inj hother
    rw [hmedia] at htype
    cases htype

/-- The tests of a node decide about every value. -/
theorem isValid?_single (hcompile : compiler.compile (.single node) = .ok validator) (hvalid : node.valid = none)
    {tests : List (Json → Bool)}
    (htests : checksAt compiler.engine compiler.constraints ⟨0⟩ node = tests.map .test) (value : Json) :
    validator.isValid? value = some (tests.all fun accepts => accepts value) := by
  have hroot : (Schema.single node).root = ⟨0⟩ := rfl
  rw [isValid?_eq_meaning? hcompile, hroot, meaning?_eq (get?_single node) hvalid, htests]
  exact Check.runAll_tests tests value

end Compiler

end JsonSchema
