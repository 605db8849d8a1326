import JsonSchema.Proofs.Linking.Corpus
import JsonSchema.Proofs.Linking.Termination

/-!
Where the documents met come from. A chart gives the homes of their numbers, and the keys under which they are known are
those that they go by. So what a state says of a place is what the documents themselves say, in whichever order they
have been met.
-/
namespace JsonSchema

theorem rel_getElem? {α β : Type} {rel : α → β → Prop} {as : List α} {bs : List β} (h : List.Forall₂ rel as bs)
    (i : Nat) : Option.Rel rel as[i]? bs[i]? := by
  induction h generalizing i with
  | nil => exact .none
  | cons hab _ ih =>
    cases i with
    | zero => exact .some hab
    | succ i => exact ih i

theorem getElem?_of_extension {α : Type} {as bs : List α} {a : α} {i : Nat} (h : as <+: bs) (ha : as[i]? = some a) :
    bs[i]? = some a := by
  obtain ⟨rest, rfl⟩ := h
  obtain ⟨hlt, _⟩ := List.getElem?_eq_some_iff.mp ha
  rwa [List.getElem?_append_left hlt]

namespace Corpus

open LinkState

variable {corpus : Corpus} {chart : List Home} {home : Home} {root : Json} {key : String} {number : Nat}
  {location target : Location} {reference : String} {state first second : LinkState}

def loaded (corpus : Corpus) (home : Home) (root : Json) : LoadedDocument :=
  ⟨baseOfRoot corpus.rules home root, (root.member? Keyword.schema.name).bind Json.string?, root⟩

theorem documents_takeUp (corpus : Corpus) (state : LinkState) (home : Home) (root : Json) :
    (state.takeUp corpus.rules home root).2.documents = state.documents ++ [corpus.loaded home root] := by
  rw [takeUp, foldl_register]
  rfl

theorem find?_takeUp (state : LinkState) (hroot : corpus.root? home = some root)
    (hself : ∀ address ∈ home, corpus.rules.key address = address) (key : String) (number : Nat) :
    Members.find? (state.takeUp corpus.rules home root).2.byKey key = some number ↔
      Members.find? state.byKey key = some number ∨
        Members.find? state.byKey key = none ∧ corpus.Answers key home ∧ number = state.documents.length := by
  have hbase : corpus.baseOf home = baseOfRoot corpus.rules home root := by rw [baseOf, hroot, Option.bind_some]
  have hkeys : key ∈ ([home, corpus.baseOf home |>.map Uri.text].filterMap id).map corpus.rules.key ↔
      corpus.Answers key home := by
    rw [Answers, hroot]
    generalize corpus.baseOf home = base
    cases home with
    | none => cases base <;> simp [eq_comm]
    | some address =>
      have hsame := hself address rfl
      cases base <;> simp [hsame, eq_comm]
  rw [hbase] at hkeys
  have hfind : Members.find? (state.takeUp corpus.rules home root).2.byKey key = (Members.find? state.byKey key).or _ :=
    find?_foldl_register state _ _ key
  rw [hfind]
  cases Members.find? state.byKey key with
  | some known => simp
  | none =>
    by_cases hanswers : corpus.Answers key home
    · simp [if_pos (hkeys.mpr hanswers), hanswers, eq_comm]
    · simp [if_neg fun hmem => hanswers (hkeys.mp hmem), hanswers]

/-- The homes of the documents met, by their numbers. -/
structure Charted (corpus : Corpus) (chart : List Home) (state : LinkState) : Prop where
  documents : List.Forall₂ (fun home document => ∃ root, corpus.root? home = some root ∧
    document = corpus.loaded home root) chart state.documents
  nodup : chart.Nodup
  first : chart[0]? = some none
  /-- What is known by a key goes by it. -/
  known : ∀ key number, Members.find? state.byKey key = some number →
    ∃ home, chart[number]? = some home ∧ corpus.Answers key home
  /-- What goes by a key has been met, then something is known by the key. -/
  registered : ∀ home ∈ chart, ∀ key, corpus.Answers key home → (Members.find? state.byKey key).isSome
  root : ∀ key, corpus.Answers key none → Members.find? state.byKey key = some 0

namespace Charted

theorem of_same (h : corpus.Charted chart first) (hdocuments : second.documents = first.documents)
    (hkeys : second.byKey = first.byKey) : corpus.Charted chart second where
  documents := hdocuments ▸ h.documents
  nodup := h.nodup
  first := h.first
  known := hkeys ▸ h.known
  registered := hkeys ▸ h.registered
  root := hkeys ▸ h.root

theorem exists_root (h : corpus.Charted chart state) (hhome : chart[number]? = some home) :
    ∃ root, corpus.root? home = some root ∧ state.documents[number]? = some (corpus.loaded home root) := by
  have hrel := rel_getElem? h.documents number
  rw [hhome] at hrel
  generalize state.documents[number]? = document at hrel ⊢
  cases hrel with
  | some hroot =>
    obtain ⟨root, hroot, rfl⟩ := hroot
    exact ⟨root, hroot, rfl⟩

theorem valueAt?_eq (h : corpus.Charted chart state) (hhome : chart[location.document]? = some home) :
    state.valueAt? location = corpus.valueAt? ⟨home, location.pointer⟩ := by
  obtain ⟨root, hroot, hdocument⟩ := h.exists_root hhome
  simp [LinkState.valueAt?, Corpus.valueAt?, hroot, hdocument, loaded]

theorem refAt?_eq (h : corpus.Charted chart state) (hhome : chart[location.document]? = some home) :
    state.refAt? location = corpus.refAt? ⟨home, location.pointer⟩ := by
  rw [LinkState.refAt?, Corpus.refAt?, h.valueAt?_eq hhome]

theorem baseOf_eq (h : corpus.Charted chart state) (hhome : chart[number]? = some home) :
    state.baseOf number = corpus.baseOf home := by
  obtain ⟨root, hroot, hdocument⟩ := h.exists_root hhome
  simp [LinkState.baseOf, Corpus.baseOf, hroot, hdocument, loaded]

theorem versionOf_eq (h : corpus.Charted chart state) (hhome : chart[number]? = some home) :
    state.versionOf number = corpus.versionOf home := by
  obtain ⟨root, hroot, hdocument⟩ := h.exists_root hhome
  simp [LinkState.versionOf, Corpus.versionOf, hroot, hdocument, loaded]

theorem number_eq (h : corpus.Charted chart state) {other : Nat} (hhome : chart[number]? = some home)
    (hother : chart[other]? = some home) : number = other := by
  obtain ⟨hlt, hget⟩ := List.getElem?_eq_some_iff.mp hhome
  obtain ⟨hlt', hget'⟩ := List.getElem?_eq_some_iff.mp hother
  exact (h.nodup.getElem_inj_iff).mp (hget.trans hget'.symm)

/-- Where a reference leads to is named by it. -/
theorem names_of_resolve? (h : corpus.Charted chart state) (hhome : chart[location.document]? = some home)
    (hresolve : state.resolve? corpus.rules location reference = some target) :
    ∃ home', chart[target.document]? = some home' ∧
      corpus.Names ⟨home, location.pointer⟩ reference ⟨home', target.pointer⟩ := by
  obtain ⟨hnumber, hpointer, hvalue⟩ := resolve?_eq_some_iff.mp hresolve
  unfold documentOf? at hnumber
  split at hnumber
  · rename_i hlocal
    rw [Option.some.injEq] at hnumber
    rw [hnumber] at hhome
    refine ⟨home, hhome, hpointer, ?_, fun _ => rfl, fun hfar => ?_⟩
    · rwa [h.valueAt?_eq hhome] at hvalue
    · rw [isLocal, hlocal] at hfar
      cases hfar
  · rename_i hfar
    rw [h.baseOf_eq hhome] at hnumber
    obtain ⟨home', hhome', hanswers⟩ := h.known _ _ hnumber
    refine ⟨home', hhome', hpointer, ?_, fun hlocal => absurd hlocal hfar, fun _ => ⟨hanswers, fun hroot => ?_⟩⟩
    · rwa [h.valueAt?_eq hhome'] at hvalue
    · have hzero : target.document = 0 := Option.some.inj (hnumber.symm.trans (h.root _ hroot))
      rw [hzero] at hhome'
      exact Option.some.inj (hhome'.symm.trans h.first)

/-- What a reference names is where it leads to, if the source has been asked for it. -/
theorem resolve?_ne_none (h : corpus.Charted chart state) (hhome : chart[location.document]? = some home)
    (hconsulted : state.Consulted corpus.reader.source location.document (splitFragment reference).1)
    (hclear : isLocal reference = false → ¬corpus.Answers (corpus.keyOf home reference) none →
      ∀ home', corpus.Answers (corpus.keyOf home reference) home' →
        (home' = some (corpus.keyOf home reference) ∨ home' ∈ chart) ∧
          ∀ other, corpus.Answers (corpus.keyOf home reference) other → other = home')
    {place : Place} (hnames : corpus.Names ⟨home, location.pointer⟩ reference place) :
    state.resolve? corpus.rules location reference ≠ none := by
  -- The document has been met, with the home that is named.
  suffices hmet : ∃ number, state.documentOf? corpus.rules location.document (splitFragment reference).1 = some number ∧
      chart[number]? = some place.home by
    obtain ⟨number, hnumber, hhome'⟩ := hmet
    have hvalue : (state.valueAt? ⟨number, Percent.decode ((splitFragment reference).2.getD "")⟩).isSome := by
      rw [h.valueAt?_eq hhome', ← hnames.pointer]
      exact hnames.isSome
    simp [resolve?, hnumber, hvalue]
  cases hlocal : isLocal reference with
  | true =>
    refine ⟨location.document, ?_, ?_⟩
    · rw [isLocal] at hlocal
      simp [documentOf?, hlocal]
    · rw [hnames.near hlocal, hhome]
  | false =>
    obtain ⟨hanswers, hroot⟩ := hnames.far hlocal
    have hdocument : state.documentOf? corpus.rules location.document (splitFragment reference).1 =
        Members.find? state.byKey (corpus.keyOf home reference) := by
      rw [isLocal] at hlocal
      simp [documentOf?, hlocal, keyOf, h.baseOf_eq hhome]
    rw [hdocument]
    by_cases hfirst : corpus.Answers (corpus.keyOf home reference) none
    · exact ⟨0, h.root _ hfirst, hroot hfirst ▸ h.first⟩
    · obtain ⟨hfound, honly⟩ := hclear hlocal hfirst _ hanswers
      cases hnumber : Members.find? state.byKey (corpus.keyOf home reference) with
      | some number =>
        obtain ⟨home', hhome', hanswers'⟩ := h.known _ _ hnumber
        obtain rfl := honly _ hanswers'
        exact ⟨number, rfl, hhome'⟩
      | none =>
        rcases hfound with hself | hmem
        · have hnone := hconsulted (hdocument.trans hnumber)
          rw [h.baseOf_eq hhome] at hnone
          obtain ⟨hsome, _⟩ := hanswers
          rw [hself] at hsome
          exact absurd hsome (by simp [root?, keyOf, rules, hnone])
        · exact absurd (h.registered _ hmem _ hanswers) (by simp [hnumber])

theorem load (h : corpus.Charted chart first) (hloads : Loads corpus.reader.source first second) :
    ∃ chart', chart <+: chart' ∧ corpus.Charted chart' second := by
  rcases hloads with rfl | ⟨address, root, hroot, hnew, hself, rfl⟩
  · exact ⟨chart, List.prefix_rfl, h⟩
  have hroot' : corpus.root? (some address) = some root := hroot
  have hlength := h.documents.length_eq
  have hanswers : corpus.Answers address (some address) := ⟨by simp [hroot'], .inl rfl⟩
  have hfind := find?_takeUp first hroot' fun _ hmem => Option.some.inj hmem ▸ hself
  have hlast : (chart ++ [some address])[chart.length]? = some (some address) := by simp
  have hold {key : String} {number : Nat} (hknown : Members.find? first.byKey key = some number) :
      Members.find? (first.takeUp corpus.rules (some address) root).2.byKey key = some number :=
    (hfind _ _).mpr (.inl hknown)
  refine ⟨chart ++ [some address], List.prefix_append _ _, ?_, ?_, ?_, ?_, ?_, ?_⟩
  · have hdocuments := documents_takeUp corpus first (some address) root
    rw [show (first.takeUp corpus.reader.source.rules (some address) root).2.documents = _ from hdocuments]
    exact List.rel_append h.documents (.cons ⟨root, hroot', rfl⟩ .nil)
  · refine List.nodup_append.mpr ⟨h.nodup, by simp, ?_⟩
    rintro home hmem _ hother rfl
    obtain rfl := List.mem_singleton.mp hother
    have hsome := h.registered _ hmem _ hanswers
    simp [hnew] at hsome
  · exact getElem?_of_extension (List.prefix_append _ _) h.first
  · intro key number hnumber
    rcases (hfind _ _).mp hnumber with hknown | ⟨_, hgoes, rfl⟩
    · obtain ⟨home, hhome, hgoes⟩ := h.known _ _ hknown
      exact ⟨home, getElem?_of_extension (List.prefix_append _ _) hhome, hgoes⟩
    · exact ⟨some address, hlength ▸ hlast, hgoes⟩
  · intro home hmem key hgoes
    cases hknown : Members.find? first.byKey key with
    | some number => exact Option.isSome_iff_exists.mpr ⟨number, hold hknown⟩
    | none =>
      rcases List.mem_append.mp hmem with hmem | hmem
      · have hsome := h.registered _ hmem _ hgoes
        simp [hknown] at hsome
      · obtain rfl := List.mem_singleton.mp hmem
        exact Option.isSome_iff_exists.mpr ⟨_, (hfind _ _).mpr (.inr ⟨hknown, hgoes, rfl⟩)⟩
  · exact fun key hgoes => hold (h.root _ hgoes)

theorem start (corpus : Corpus) : corpus.Charted [none] (corpus.reader.start corpus.document) := by
  have hroot : corpus.root? none = some corpus.document := rfl
  have hfind := find?_takeUp {} hroot fun _ hmem => nomatch hmem
  have hzero (key : String) (hgoes : corpus.Answers key none) :
      Members.find? (corpus.reader.start corpus.document).byKey key = some 0 := (hfind _ _).mpr (.inr ⟨rfl, hgoes, rfl⟩)
  refine ⟨?_, by simp, rfl, ?_, ?_, hzero⟩
  · have hdocuments := documents_takeUp corpus {} none corpus.document
    rw [show (corpus.reader.start corpus.document).documents = _ from hdocuments]
    exact .cons ⟨_, hroot, rfl⟩ .nil
  · intro key number hnumber
    rcases (hfind _ _).mp hnumber with hknown | ⟨_, hgoes, rfl⟩
    · cases hknown
    · exact ⟨none, rfl, hgoes⟩
  · intro home hmem key hgoes
    obtain rfl := List.mem_singleton.mp hmem
    exact Option.isSome_iff_exists.mpr ⟨0, hzero key hgoes⟩

end Charted

end Corpus

end JsonSchema
