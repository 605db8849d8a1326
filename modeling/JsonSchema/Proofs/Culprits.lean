import JsonSchema.Proofs.Linking.Faults

/-!
What read errors point at. The pointer of an error leads to a value in one of the documents that were loaded, and what
the error says of this value is so. Only a text that is no pointer leads nowhere, and it comes from a reference.
-/
namespace JsonSchema

theorem Json.Pointer.segments?_eq_none_iff {pointer : List Char} :
    segments? pointer = none ↔ pointer ≠ [] ∧ pointer.head? ≠ some '/' := by
  simp only [ne_eq, List.head?_eq_some_iff]
  fun_cases segments? pointer <;> simp_all

namespace LinkState

/-- The documents bear out an error: they have what it says where it points, or a reference to what is no pointer. -/
def BearsOut (state : LinkState) : ReadError → Prop
  | .invalidPointer pointer =>
    pointer.toList ≠ [] ∧ pointer.toList.head? ≠ some '/' ∧ ∃ location reference,
      state.refAt? location = some reference ∧ pointer = Percent.decode ((splitFragment reference).2.getD "")
  | error => ∃ location value, state.valueAt? location = some value ∧ location.pointer = error.pointer ∧
      error.HoldsOf value

theorem bearsOut_of_failsAt {source : LinkSource} {state final : LinkState} {location : Location} {error : ReadError}
    (hfails : Linking.FailsAt state location error) (hvalue : (state.valueAt? location).isSome)
    (hgathers : Gathers source state final) : final.BearsOut error := by
  cases hfails with
  | missing hnone => simp [hnone] at hvalue
  | faulty hvalue hpointer hholds =>
    have hfound : ∃ location value, final.valueAt? location = some value ∧ location.pointer = error.pointer ∧
        error.HoldsOf value := ⟨location, _, hgathers.valueAt? hvalue, hpointer.symm, hholds⟩
    cases error with
    | invalidPointer => exact hholds.elim
    | _ => exact hfound
  | noPointer href hpointer hsegments =>
    obtain ⟨hne, hhead⟩ := Json.Pointer.segments?_eq_none_iff.mp hsegments
    exact ⟨hne, hhead, location, _, hgathers.refAt? href, hpointer⟩

end LinkState

namespace Reader

open LinkState Linking

variable {reader : Reader} {document : Json}

/-- Whatever reading visits is there. And the errors of reads that fail are borne out by the documents that were loaded,
which are the one that was to be read and others of the source. -/
theorem link?_bearsOut (hsource : ∀ root ∈ Members.values reader.source.documents.entries, root.Valid)
    (hdocument : document.Valid) :
    (∀ place now, Makes reader.source (reader.rounds document) (reader.rootVisit document) (reader.start document)
      place now → (now.valueAt? place.location).isSome) ∧
    ∀ error final, reader.link? document = some (.error error, final) → final.BearsOut error ∧
      ∀ loaded ∈ final.documents,
        loaded.root = document ∨ loaded.root ∈ Members.values reader.source.documents.entries := by
  have hfound (address : String) (root : Json)
      (hfind : reader.source.documents.find? reader.source.rules address = some root) :
      root ∈ Members.values reader.source.documents.entries := List.mem_map_of_mem (Members.mem_of_find? hfind)
  obtain ⟨first, rfl, hstart⟩ := reader.start_cases document
  have hdocuments : (reader.start first.root).documents = [first] := by rw [hstart]
  have hvalid : (reader.start first.root).AllValid := by
    intro loaded hmem
    rw [hdocuments, List.mem_singleton] at hmem
    rwa [hmem]
  have hroot : ((reader.start first.root).valueAt? ⟨0, ""⟩).isSome := by
    rw [valueAt?, hdocuments]
    rfl
  have hthere (place : Visit) (now : LinkState) (hmakes : Makes reader.source (reader.rounds first.root)
      (reader.rootVisit first.root) (reader.start first.root) place now) : (now.valueAt? place.location).isSome :=
    isSome_valueAt?_of_makes (fun address root hfind => hsource root (hfound address root hfind)) hvalid hroot hmakes
  refine ⟨hthere, fun error final hlink => ?_⟩
  obtain ⟨hgathers, hfault⟩ := visit_accounted hlink
  obtain ⟨place, now, hmakes, hlast, hfails⟩ := hfault error rfl
  refine ⟨bearsOut_of_failsAt hfails (hthere place now hmakes) hlast, fun loaded hmem => ?_⟩
  rcases hgathers.found loaded hmem with hmem | ⟨address, hfind⟩
  · rw [hdocuments, List.mem_singleton] at hmem
    exact .inl (by rw [hmem])
  · exact .inr (hfound address loaded.root hfind)

def misspelt : Json := .object [("properties", .object [("a/b", .object [("$ref", .string "other#/x")])])]

def misspeltReader : Reader :=
  { source := { documents := ⟨[("other", .object [("x", .object [("type", .array [.string "nul"])])])]⟩ } }

theorem link?_bearsOut_misspelt : ∃ final,
    misspeltReader.link? misspelt = some (.error (.unknownType "nul" "/x"), final) ∧
      final.BearsOut (.unknownType "nul" "/x") := by
  have hfinal : (misspeltReader.link? misspelt).map Prod.fst = some (.error (.unknownType "nul" "/x")) := by
    decide +kernel
  obtain ⟨⟨result, final⟩, hlink, rfl⟩ := Option.map_eq_some_iff.mp hfinal
  have hsource : ∀ root ∈ Members.values misspeltReader.source.documents.entries, root.Valid := by
    simp [misspeltReader, Members.values, Json.Valid, Json.ValidItems, Json.ValidMembers, Members.names]
  have hdocument : misspelt.Valid := by
    simp [misspelt, Json.Valid, Json.ValidMembers, Members.names]
  exact ⟨final, hlink, ((link?_bearsOut hsource hdocument).2 _ final hlink).1⟩

end Reader

end JsonSchema
