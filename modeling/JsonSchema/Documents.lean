import JsonSchema.Json
import JsonSchema.Uri.Rules

/-! Documents that references may lead to, each under the key of its address. -/
namespace JsonSchema

structure Documents where
  entries : Members Json := []

namespace Documents

def empty : Documents := {}

def add (documents : Documents) (rules : UriRules) (uri : String) (document : Json) : Documents :=
  ⟨Members.insert documents.entries (rules.key uri) document⟩

def find? (documents : Documents) (rules : UriRules) (uri : String) : Option Json :=
  Members.find? documents.entries (rules.key uri)

def size (documents : Documents) : Nat := documents.entries.length

@[simp] theorem find?_empty (rules : UriRules) (uri : String) : empty.find? rules uri = none := rfl

theorem find?_add_of_key_eq {rules : UriRules} {uri other : String} (h : rules.key uri = rules.key other)
    (documents : Documents) (document : Json) :
    (documents.add rules uri document).find? rules other = some document := by
  simp [add, find?, h]

theorem find?_add_of_key_ne {rules : UriRules} {uri other : String} (h : rules.key uri ≠ rules.key other)
    (documents : Documents) (document : Json) :
    (documents.add rules uri document).find? rules other = documents.find? rules other :=
  Members.find?_insert_of_ne h document

end Documents

end JsonSchema
