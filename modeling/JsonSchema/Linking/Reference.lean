import JsonSchema.Linking.State
import JsonSchema.Text.Percent

/-!
Where references lead. A reference is the address of a document, empty for the document that it stands in, and after
a hash a percent-encoded pointer into it.
-/
namespace JsonSchema

structure LinkSource where
  documents : Documents := .empty
  rules : UriRules := .web

def targetAddress (rules : UriRules) (base : Option Uri) (target : String) : String :=
  match base with
  | some base =>
    match rules.join? base target with
    | some joined => rules.key joined.text
    | none => target
  | none => rules.key target

namespace Linking

/-- The number of the document that a reference in another one names. A document not met so far is taken up. -/
def document? (source : LinkSource) (origin : Nat) (target : String) : Linking (Option Nat) := do
  let state ← get
  let address := targetAddress source.rules (state.baseOf origin) target
  match Members.find? state.byKey address with
  | some number => pure (some number)
  | none =>
    match source.documents.find? source.rules address with
    | none => pure none
    | some root => do
      let (number, state) := state.takeUp source.rules (some address) root
      set state
      pure (some number)

def placeIn (document : Nat) (fragment : String) (unresolved : ReadError) : Linking Location := do
  let location : Location := ⟨document, Percent.decode fragment⟩
  if (Json.Pointer.segments? location.pointer.toList).isNone then throw (.invalidPointer location.pointer)
  match (← get).valueAt? location with
  | some _ => pure location
  | none => throw unresolved

def target (source : LinkSource) (location : Location) (reference : String) : Linking Location := do
  let unresolved := ReadError.unresolvedReference reference location.pointer
  let (address, fragment) := splitFragment reference
  if address.isEmpty then placeIn location.document (fragment.getD "") unresolved
  else
    match ← document? source location.document address with
    | some document => placeIn document (fragment.getD "") unresolved
    | none => throw unresolved

end Linking

end JsonSchema
