import JsonSchema.Proofs.Check
import JsonSchema.Proofs.Linking.Termination
import Mathlib.Data.List.TakeWhile

/-!
Reading ends. A read comes to a schema or to a fault, whatever cycles there are inside of documents and across them;
more rounds would come to the same; and no document of the source is taken up twice.
-/
namespace JsonSchema

theorem splitFragment_fst (text : String) :
    (splitFragment text).1 = String.ofList (text.toList.takeWhile (· != '#')) := by
  simp only [splitFragment, Uri.splitAtFirst]
  split <;> rfl

theorem splitFragment_fst_fst (text : String) : (splitFragment (splitFragment text).1).1 = (splitFragment text).1 := by
  rw [splitFragment_fst, splitFragment_fst, String.toList_ofList, List.takeWhile_idem]

/-- Keys are their own keys, and a text that cannot be joined to an address is no address itself. -/
structure UriRules.Stable (rules : UriRules) : Prop where
  key_key : ∀ text, rules.key (rules.key text) = rules.key text
  parse?_of_join? : ∀ base text, rules.join? base text = none → rules.parse? text = none

/-- Where keys are their own keys, every address that a reference names is its own key. -/
theorem LinkSource.canonical_of_stable {source : LinkSource} (h : source.rules.Stable) : source.Canonical := by
  intro base reference address _
  change source.rules.key (targetAddress _ _ _) = targetAddress _ _ _
  unfold targetAddress
  cases base with
  | none => exact h.key_key _
  | some base =>
    dsimp only
    cases hjoin : source.rules.join? base (splitFragment reference).1 with
    | some joined => exact h.key_key _
    | none => simp [UriRules.key, h.parse?_of_join? _ _ hjoin, splitFragment_fst_fst]

namespace Linking

variable {α β : Type}

def Refines (first second : Linking α) : Prop :=
  ∀ state outcome, run first state = some outcome → run second state = some outcome

namespace Refines

theorem refl (steps : Linking α) : Refines steps steps := fun _ _ h => h

theorem bind {first second : Linking α} {f g : α → Linking β} (h : Refines first second)
    (hnext : ∀ value, Refines (f value) (g value)) : Refines (first >>= f) (second >>= g) := by
  intro state outcome hrun
  rw [run_bind] at hrun ⊢
  cases hfirst : run first state with
  | none => simp [hfirst] at hrun
  | some result =>
    rw [h state result hfirst]
    rw [hfirst] at hrun
    obtain ⟨error | value, after⟩ := result
    · exact hrun
    · exact hnext value after outcome hrun

variable {visit more : Visit → Linking SchemaId}

theorem run (h : ∀ place, Refines (visit place) (more place)) (x : Reading α) : Refines (x.run visit) (x.run more) := by
  induction x with
  | done => exact refl _
  | fail => exact refl _
  | ask place next ih => exact (h place).bind ih

theorem follow (h : ∀ place, Refines (visit place) (more place)) (source : LinkSource) (location : Location)
    (reference : String) (inherited : Option String) :
    Refines (follow source visit location reference inherited) (follow source more location reference inherited) := by
  refine (refl _).bind fun target => (refl _).bind fun state => ?_
  cases state.nodeAt? target with
  | some id => exact refl _
  | none =>
    dsimp only
    split
    · exact (refl _).bind fun _ => (refl _).bind fun _ => (h _).bind fun _ => refl _
    · exact (refl _).bind fun _ => (h _).bind fun _ => refl _

theorem readPlace (h : ∀ place, Refines (visit place) (more place)) (source : LinkSource) (location : Location)
    (inherited : Option String) :
    Refines (readPlace source visit location inherited) (readPlace source more location inherited) := by
  refine (refl _).bind fun state => ?_
  cases state.valueAt? location with
  | none => exact refl _
  | some value =>
    cases value with
    | object members =>
      dsimp only
      cases Members.find? members Keyword.reference.name with
      | none => exact (refl _).bind fun _ => (run h _).bind fun node => refl _
      | some reference =>
        cases reference with
        | string reference => exact follow h source location reference inherited
        | _ => exact refl _
    | _ => exact refl _

end Refines

/-- A visit that ends comes to the same with more rounds. -/
theorem visit_refines {source : LinkSource} {rounds more : Nat} (hle : rounds ≤ more) (place : Visit) :
    Refines (visit source rounds place) (visit source more place) := by
  induction rounds generalizing more place with
  | zero => exact fun _ _ h => nomatch h
  | succ rounds ih =>
    obtain ⟨more, rfl⟩ : ∃ less, more = less + 1 := ⟨more - 1, by omega⟩
    refine (Refines.refl _).bind fun state => ?_
    cases state.nodeAt? place.location with
    | some id => exact .refl _
    | none => exact .readPlace (fun place => ih (by omega) place) source place.location place.inherited

end Linking

namespace LinkState

variable {source : LinkSource} {state : LinkState}

/-- The documents after the first one are those of the source at some addresses, which differ from each other. -/
theorem Loaded.addresses (h : state.Loaded source) :
    ∃ addresses : List String, addresses.Nodup ∧ addresses.length ≤ source.documents.size ∧
      (state.documents.drop 1).map (fun document => some document.root) =
        addresses.map (Members.find? source.documents.entries) := by
  obtain ⟨_, keys, hnodup, hall⟩ := h
  have hfound : keys.map (Members.find? source.documents.entries) =
      (state.documents.drop 1).map fun document => some document.root := by
    rw [← List.forall₂_eq_eq_eq, List.forall₂_map_left_iff, List.forall₂_map_right_iff]
    refine hall.imp ?_
    rintro key document ⟨hfind, hself, _⟩
    rwa [Documents.find?, hself] at hfind
  have hsub : keys ⊆ Members.names source.documents.entries := by
    intro key hmem
    obtain ⟨document, _, hfind⟩ := List.mem_map.mp (hfound ▸ List.mem_map_of_mem hmem)
    exact List.mem_map_of_mem (f := Prod.fst) (Members.mem_of_find? hfind.symm)
  refine ⟨keys, hnodup, ?_, hfound.symm⟩
  have hle := (hnodup.subperm hsub).length_le
  rwa [Members.names, List.length_map] at hle

end LinkState

namespace Reader

open LinkState

def rootVisit (reader : Reader) (document : Json) : Visit :=
  ⟨⟨0, ""⟩, ((reader.start document).versionOf 0).or reader.options.defaultVersion⟩

/-- Reading ends with a schema or a fault, which no further rounds would change; and by then the documents met are the
one that is read and documents of the source, each of them once. -/
theorem link?_ends {reader : Reader} (hcanonical : reader.source.Canonical) (document : Json) :
    ∃ result final,
      (∀ rounds, reader.rounds document ≤ rounds →
        Linking.run (Linking.visit reader.source rounds (reader.rootVisit document)) (reader.start document) =
          some (result, final)) ∧
      reader.read? document = some (result.map fun root => ⟨final.graph, root⟩) ∧
      ∃ addresses : List String, addresses.Nodup ∧ addresses.length ≤ reader.source.documents.size ∧
        final.documents.map (fun loaded => some loaded.root) =
          some document :: addresses.map (Members.find? reader.source.documents.entries) := by
  obtain ⟨⟨result, final⟩, hlink⟩ := Option.isSome_iff_exists.mp (reader.link?_isSome document hcanonical)
  have hended := reader.link?_ended document hcanonical
  rw [hlink] at hended
  have hloaded : final.Loaded reader.source := by
    cases result with
    | ok root => exact hended.sound.loaded
    | error error =>
      obtain ⟨_, hsound, _⟩ := hended.circular
      exact hsound.loaded
  refine ⟨result, final, ?_, ?_, ?_⟩
  · exact fun rounds hle => Linking.visit_refines hle _ _ _ hlink
  · rw [read?, hlink]
    rfl
  · obtain ⟨addresses, hnodup, hlength, hroots⟩ := hloaded.addresses
    refine ⟨addresses, hnodup, hlength, ?_⟩
    obtain ⟨first, hfirst, hroot⟩ := Option.bind_eq_some_iff.mp (reader.valueAt?_root hcanonical hlink)
    obtain rfl : first.root = document := Option.some.inj hroot
    obtain ⟨rest, hdocuments⟩ : ∃ rest, final.documents = first :: rest := by
      cases hfinal : final.documents with
      | nil => simp [hfinal] at hfirst
      | cons head rest => exact ⟨rest, by simpa [hfinal] using hfirst⟩
    rw [← hroots, hdocuments]
    rfl

def namedPair : LinkSource where
  documents := ⟨[("b", .object [("not", .object [("$ref", .string "c#/items")])]),
    ("c", .object [("items", .object [("anyOf", .array [.object [("$ref", .string "b")],
      .object [("$ref", .string "c#")]])])])]⟩
  rules := ⟨fun _ => none, fun _ _ => none⟩

theorem link?_ends_namedPair :
    namedPair.Canonical ∧ ∃ result final,
      (⟨{}, namedPair⟩ : Reader).link? (.object [("not", .object [("$ref", .string "b#/not")])]) =
        some (result, final) ∧
      ∃ addresses : List String, addresses.Nodup ∧ addresses.length ≤ 2 ∧ final.documents.length = 3 := by
  have hstable : namedPair.rules.Stable := ⟨fun text => splitFragment_fst_fst text, fun _ _ _ => rfl⟩
  have hcanonical : (⟨{}, namedPair⟩ : Reader).source.Canonical := LinkSource.canonical_of_stable hstable
  refine ⟨hcanonical, ?_⟩
  obtain ⟨result, final, hmore, _, addresses, hnodup, hlength, hroots⟩ :=
    link?_ends hcanonical (.object [("not", .object [("$ref", .string "b#/not")])])
  have hlink := hmore _ (le_refl _)
  have hmet : ((⟨{}, namedPair⟩ : Reader).link? (.object [("not", .object [("$ref", .string "b#/not")])])).map
      (fun outcome => outcome.2.documents.length) = some 3 := by decide +kernel
  refine ⟨result, final, hlink, addresses, hnodup, hlength, ?_⟩
  rw [show Reader.link? _ _ = _ from hlink] at hmet
  exact Option.some.inj hmet

end Reader

end JsonSchema
