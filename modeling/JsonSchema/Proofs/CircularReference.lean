import JsonSchema.Proofs.Linking.Termination

/-!
Circular references. A read that comes to a reference whose chain never ends always fails, with no other fault than a
circular reference. The other way around, the reference that is reported has an endless chain unless its chain leads
back into a schema that is still being read: the second hop of such a chain has no node yet when the first one is met
again, though the chain ends well.
-/
namespace JsonSchema

namespace LinkState

variable {state final : LinkState} {source : LinkSource} {rules : UriRules} {location target : Location}
  {opened : List Location}

/-- Reading has come to a place: it has a node, or its reference is being followed. -/
def Reached (state : LinkState) (location : Location) : Prop :=
  (state.nodeAt? location).isSome ∨ location ∈ state.underway

/-- A chain of two references or more leads to a schema whose node is still empty, and its second reference has no node
yet. -/
def LeadsBack (state : LinkState) (rules : UriRules) (location : Location) : Prop :=
  ∃ target schema id, state.hop rules location = some target ∧ (state.refAt? target).isSome ∧
    state.nodeAt? target = none ∧ state.LeadsTo rules target schema ∧ state.nodeAt? schema = some id ∧
    state.graph.get? id = some {}

theorem LeadsBack.not_endless (h : state.LeadsBack rules location) : ¬state.Endless rules location := by
  obtain ⟨target, schema, _, hhop, _, _, hlead, _⟩ := h
  exact (LeadsTo.next hhop hlead).not_endless

theorem Sound.not_endless {id : SchemaId} (h : Sound source opened state) (hid : state.nodeAt? location = some id) :
    ¬state.Endless source.rules location := by
  obtain ⟨schema, hlead, _⟩ := (h.settled location id hid).leadsTo
  exact hlead.not_endless

/-- A reference that is met again goes around in circles or leads back. -/
theorem MetAgain.endless_or_leadsBack {reference : String} (hsound : Sound source opened final)
    (h : MetAgain source opened final reference location target) :
    final.Endless source.rules location ∨ final.LeadsBack source.rules location := by
  have hends : ∀ last ∈ opened, final.refAt? last = none := fun last hmem => (hsound.empty last hmem).1
  refine (endless_or_leadsTo h.onWay hends h.underway).imp_right ?_
  rintro ⟨schema, hschema, hlead⟩
  obtain ⟨_, id, hid, hempty⟩ := hsound.empty schema hschema
  cases hlead with
  | here hnone => simp [h.refAt?] at hnone
  | next hhop hlead =>
    obtain rfl : _ = target := Option.some.inj (hhop.symm.trans h.hop)
    refine ⟨_, schema, id, hhop, ?_, h.unplaced, hlead, hid, hempty⟩
    -- What the reference names is on the way itself: open schemas have nodes.
    obtain ⟨other, hhop', hnext⟩ := h.onWay location h.underway
    obtain rfl := Option.some.inj (hhop.symm.trans hhop')
    rcases hnext with hnext | hnext
    · obtain ⟨_, hhop'', _⟩ := h.onWay _ hnext
      obtain ⟨text, href, _⟩ := hop_eq_some_iff.mp hhop''
      simp [href]
    · obtain ⟨_, id', hid', _⟩ := hsound.empty _ hnext
      simp [h.unplaced] at hid'

end LinkState

namespace Reader

open LinkState

/-- Circular references are reported for endless chains: every endless chain that reading comes to is found out, and the
chain that is reported is endless if and only if it does not lead back into a schema that is still being read. -/
theorem link?_circularReference {reader : Reader} (hcanonical : reader.source.Canonical) (document : Json) :
    ∃ result final, reader.link? document = some (result, final) ∧
      (∀ reference pointer, result = .error (.circularReference reference pointer) →
        ∃ location, location.pointer = pointer ∧ final.refAt? location = some reference ∧
          location ∈ final.underway ∧
          (final.Endless reader.source.rules location ↔ ¬final.LeadsBack reader.source.rules location)) ∧
      ∀ location, final.Reached location → final.Endless reader.source.rules location →
        ∃ reference pointer, result = .error (.circularReference reference pointer) := by
  obtain ⟨⟨result, final⟩, hlink⟩ := Option.isSome_iff_exists.mp (reader.link?_isSome document hcanonical)
  have hended := reader.link?_ended document hcanonical
  have hstart : (reader.start document).underway = [] := by
    obtain ⟨_, _, heq⟩ := reader.start_cases document
    rw [heq]
  rw [hlink] at hended
  refine ⟨result, final, hlink, ?_⟩
  cases result with
  | ok root =>
    refine ⟨fun _ _ heq => (nomatch heq), fun location hreached hendless => ?_⟩
    rcases hreached with hid | hunder
    · obtain ⟨id, hid⟩ := Option.isSome_iff_exists.mp hid
      exact absurd hendless (hended.sound.not_endless hid)
    · rw [hended.underway, hstart] at hunder
      cases hunder
  | error error =>
    obtain ⟨_, ⟨opened, hsound, hagain⟩, hplain⟩ := hended
    refine ⟨fun reference pointer heq => ?_, fun location hreached hendless => ?_⟩
    · cases heq
      obtain ⟨location, target, hpointer, hmet⟩ := hagain reference pointer rfl
      refine ⟨location, hpointer, hmet.refAt?, hmet.underway, ?_⟩
      exact ⟨fun hendless hback => hback.not_endless hendless, (hmet.endless_or_leadsBack hsound).resolve_right⟩
    · by_contra hother
      have hkind : error.IsPlain := fun reference pointer heq => hother ⟨reference, pointer, by rw [heq]⟩
      rcases hreached with hid | hunder
      · obtain ⟨id, hid⟩ := Option.isSome_iff_exists.mp hid
        exact hsound.not_endless hid hendless
      · rcases (hplain hkind).2 location hunder with hold | hnot
        · rw [hstart] at hold
          cases hold
        · exact hnot hendless

def endlessPair : Json :=
  .object [("$ref", .string "#/definitions/a"),
    ("definitions", .object [("a", .object [("$ref", .string "#/definitions/b")]),
      ("b", .object [("$ref", .string "#/definitions/a")])])]

theorem link?_circularReference_endlessPair :
    ({} : Reader).source.Canonical ∧ ∃ final,
      ({} : Reader).link? endlessPair =
        some (.error (.circularReference "#/definitions/b" "/definitions/a"), final) ∧
      ∃ location, location.pointer = "/definitions/a" ∧ final.refAt? location = some "#/definitions/b" ∧
        final.Endless ({} : Reader).source.rules location := by
  refine ⟨canonical_default, ?_⟩
  obtain ⟨result, final, hlink, hreported, _⟩ := link?_circularReference canonical_default endlessPair
  have hfinal : (({} : Reader).link? endlessPair).map (fun outcome => (outcome.1, outcome.2.placed)) =
      some (.error (.circularReference "#/definitions/b" "/definitions/a"), []) := by decide +kernel
  simp only [hlink, Option.map_some, Option.some.injEq, Prod.mk.injEq] at hfinal
  obtain ⟨rfl, hplaced⟩ := hfinal
  obtain ⟨location, hpointer, href, _, hendless⟩ := hreported _ _ rfl
  refine ⟨final, hlink, location, hpointer, href, hendless.mpr ?_⟩
  rintro ⟨_, schema, id, _, _, _, _, hid, _⟩
  simp [nodeAt?, hplaced] at hid

/-- A chain of two references to a schema in which the first of them is met again. -/
def leadingBack : Json :=
  .object [("$ref", .string "#/definitions/a"),
    ("definitions", .object [("a", .object [("$ref", .string "#/definitions/b")]),
      ("b", .object [("properties", .object [("x", .object [("$ref", .string "#")])])])])]

/-- What is reported as circular may be a chain that ends. -/
theorem circularReference_leadingBack :
    ¬∀ document result final reference pointer, ({} : Reader).link? document = some (result, final) →
      result = .error (.circularReference reference pointer) → ∃ location, location.pointer = pointer ∧
        final.refAt? location = some reference ∧ final.Endless ({} : Reader).source.rules location := by
  intro h
  have hfinal : (({} : Reader).link? leadingBack).map (fun outcome => (outcome.1, outcome.2.documents.length,
      outcome.2.after ({} : Reader).source.rules 3 ⟨0, ""⟩)) =
        some (.error (.circularReference "#/definitions/a" ""), 1, none) := by decide +kernel
  obtain ⟨⟨result, final⟩, hlink, hfacts⟩ := Option.map_eq_some_iff.mp hfinal
  simp only [Prod.mk.injEq] at hfacts
  obtain ⟨rfl, hlength, hafter⟩ := hfacts
  obtain ⟨⟨number, pointer⟩, hpointer, href, hendless⟩ := h _ _ _ _ _ hlink rfl
  obtain ⟨_, hdocument⟩ := exists_document_of_valueAt? (isSome_valueAt?_of_refAt? href)
  obtain ⟨hlt, _⟩ := List.getElem?_eq_some_iff.mp hdocument
  have hone : number < 1 := hlength ▸ hlt
  obtain rfl : number = 0 := by omega
  obtain rfl : pointer = "" := hpointer
  simpa [hafter] using hendless 3

end Reader

end JsonSchema
