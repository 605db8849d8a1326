import JsonSchema.Uri

/-!
What the linking of documents needs to know of addresses. Linking works with any rules, so that its laws can be stated
for all of them; `UriRules.web` are the rules of the web.
-/
namespace JsonSchema

/-- How texts are read as addresses of documents. -/
structure UriRules where
  parse? : String → Option Uri
  join? : Uri → String → Option Uri

def splitFragment (text : String) : String × Option String :=
  let (before, after) := Uri.splitAtFirst '#' text.toList
  (String.ofList before, after.map String.ofList)

namespace UriRules

def web : UriRules := ⟨Uri.parse?, Uri.join?⟩

/-- What a document is known by: its canonical address without a fragment, and the text itself where that is no
absolute address. -/
def key (rules : UriRules) (uri : String) : String :=
  ((rules.parse? uri).map fun address => address.withoutFragment.text).getD (splitFragment uri).1

end UriRules

end JsonSchema
