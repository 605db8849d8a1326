import JsonSchema.Proofs.Bisimulation
import JsonSchema.Proofs.CircularReference
import JsonSchema.Proofs.Linking.Closure
import JsonSchema.Proofs.Reading

/-!
The order of members. Documents that differ in nothing else are read into schemas that mean the same, or cannot be read
either way. For that no schema may be come to under two drafts, the first of which would count, and no reference may
depend on which documents have been met; and where a reference is reported as circular it has to be.
-/
namespace JsonSchema.Corpus

open LinkState

/-- Where a circular reference is reported, there is one. -/
def ReportsFairly (corpus : Corpus) : Prop :=
  ∀ reference pointer final,
    corpus.reader.link? corpus.document = some (.error (.circularReference reference pointer), final) →
      ∃ location ∈ final.underway, location.pointer = pointer ∧ final.refAt? location = some reference ∧
        final.Endless corpus.rules location

/-- Documents in which the order of members does not matter. -/
structure Orderly (corpus : Corpus) : Prop where
  canonical : corpus.reader.source.Canonical
  unaliased : ∀ place members, corpus.valueAt? place = some (.object members) → Unaliased members
  oneDraft : corpus.OneDraft
  unambiguous : corpus.Unambiguous

/-- Both documents cannot be read, or both can; then their schemas compile or do not, and the validators never
contradict each other. -/
def MeansTheSame (corpus corpus' : Corpus) : Prop :=
  ∃ result result', corpus.reader.read? corpus.document = some result ∧
    corpus'.reader.read? corpus'.document = some result' ∧
    ((∃ error error', result = .error error ∧ result' = .error error') ∨
      ∃ schema schema', result = .ok schema ∧ result' = .ok schema' ∧
        ∀ compiler : Compiler, compiler.constraints = Constraint.builtin →
          ((∃ validator, compiler.compile schema = .ok validator) ↔
            ∃ validator', compiler.compile schema' = .ok validator') ∧
          ∀ validator validator', compiler.compile schema = .ok validator → compiler.compile schema' = .ok validator' →
            ∀ value : Json, value.Valid → Consistent (validator.isValid? value) (validator'.isValid? value))

variable {corpus corpus' : Corpus} {chart chart' : List Home} {final final' : LinkState} {root root' id id' : SchemaId}
  {place : Place}

/-- Two nodes belong to one place. -/
def Shared (chart chart' : List Home) (final final' : LinkState) (id id' : SchemaId) : Prop :=
  ∃ place, HasNode chart final place id ∧ HasNode chart' final' place id'

theorem shared_root (hread : corpus.Completed chart final root) (hread' : corpus'.Completed chart' final' root') :
    Shared chart chart' final final' root root' :=
  ⟨⟨none, ""⟩, ⟨0, hread.surveyed.charted.first, hread.root⟩, 0, hread'.surveyed.charted.first, hread'.root⟩

namespace Reorders

variable (h : corpus.Reorders corpus')

include h

theorem canonical (hcanonical : corpus.reader.source.Canonical) : corpus'.reader.source.Canonical := by
  intro base reference address hsome
  have hrules : corpus.reader.source.rules = corpus'.reader.source.rules := h.rules
  have hfound : (corpus'.root? (some address)).isSome := hsome
  rw [← h.isSome_root?_iff] at hfound
  have haddress : address = targetAddress corpus.reader.source.rules base (splitFragment reference).1 := by rw [hrules]
  rw [← hrules]
  rw [haddress] at hfound ⊢
  exact hcanonical base reference hfound

theorem orderly (horderly : corpus.Orderly) : corpus'.Orderly where
  canonical := h.canonical horderly.canonical
  unaliased place members' hvalue' := by
    obtain ⟨members, hvalue, _, _, hmembers⟩ := h.symm.exists_object hvalue'
    have hnames (name : String) : name ∈ Members.names members' ↔ name ∈ Members.names members :=
      Constraint.mem_names_iff_of_sameEntries hmembers.entries name
    obtain ⟨hbases, hdivisors⟩ := horderly.unaliased place members hvalue
    refine ⟨?_, ?_⟩
    · rwa [hnames, hnames]
    · rwa [hnames, hnames]
  oneDraft := h.oneDraft horderly.oneDraft
  unambiguous := h.unambiguous horderly.unambiguous

theorem exists_bool {valid : Bool} (hvalue : corpus.valueAt? place = some (.bool valid)) :
    corpus'.valueAt? place = some (.bool valid) := by
  obtain ⟨value', hvalue', hsame⟩ := h.exists_valueAt? hvalue
  cases hsame.shape with
  | scalar => exact hvalue'

theorem objects (horderly : corpus.Orderly) (place : Place) (members : Members Json)
    (hvalue : corpus.valueAt? place = some (.object members)) : (Members.names members).Nodup ∧ Unaliased members := by
  obtain ⟨_, _, hnodup, _⟩ := h.exists_object hvalue
  exact ⟨hnodup, horderly.unaliased place members hvalue⟩

/-- Where one read succeeds, the other one comes to no fault. -/
theorem not_faultAt (horderly : corpus.Orderly) (hread : corpus.Completed chart final root) {inherited : Option String}
    {way : List Home} (hvisit' : corpus'.MayVisit place inherited way) : ¬corpus'.FaultAt place inherited := by
  have hvisit := h.symm.mayVisit hvisit'
  obtain ⟨id, hnode⟩ := hread.hasNode_of_mayVisit horderly.unambiguous (h.objects horderly) hvisit
  rintro (⟨href', hbool', hobject'⟩ | ⟨href', hnone⟩ | @⟨members', location, hvalue', hmember', hfault⟩)
  · have href : corpus.refAt? place = none := (h.refAt?_eq place).trans href'
    obtain ⟨number, hhome, hid⟩ := hnode
    rcases hread.schema_cases hhome hid href with ⟨valid, hbool, _⟩ | ⟨members, _, _, _, _, hobject, hmember, _⟩
    · exact hbool' valid (h.exists_bool hbool)
    · obtain ⟨members', hvalue', _, _, hmembers⟩ := h.exists_object hobject
      exact hobject' members' hvalue' ((find?_eq_none_iff hmembers).mp hmember)
  · obtain ⟨target, hnames, _⟩ := hread.exists_target hnode ((h.refAt?_eq place).trans href')
    exact hnone target (h.names hnames)
  · obtain ⟨members, hvalue, _, _, hmembers⟩ := h.symm.exists_object hvalue'
    have hmember := (find?_eq_none_iff hmembers).mp hmember'
    have href : corpus.refAt? place = none := by simp [Corpus.refAt?, hvalue, Json.member?, hmember]
    obtain ⟨number, hhome, hid⟩ := hnode
    rcases hread.schema_cases hhome hid href with
      ⟨valid, hbool, _⟩ | ⟨other, node, read, passed, _, hobject, _, _, hyields, hpassed, hversion⟩
    · rw [hvalue] at hbool
      cases hbool
    · obtain ⟨rfl⟩ := Option.some.inj (hvalue.symm.trans hobject)
      obtain ⟨_, hobject'', _, _, halike⟩ := h.exists_object hvalue
      obtain ⟨rfl⟩ := Option.some.inj (hvalue'.symm.trans hobject'')
      refine hfault (sure_readObject hyields halike fun hdraft => ?_)
      rw [hversion] at hdraft
      rw [← siteVersion_eq halike]
      exact draft3_of_earlyDraft? (horderly.oneDraft _ _ _ _ _ _ hpassed hvisit hvalue hmember) hdraft

theorem not_endless (horderly : corpus.Orderly) (hread : corpus.Completed chart final root)
    (hcharted : corpus'.Charted chart' final') {location : Location} (hmet : corpus'.Met chart' location) :
    ¬final'.Endless corpus'.rules location := by
  obtain ⟨home, inherited, way, hhome, hvisit⟩ := hmet
  obtain ⟨id, hnode⟩ :=
    hread.hasNode_of_mayVisit horderly.unambiguous (h.objects horderly) (h.symm.mayVisit hvisit)
  -- The same chain ends in the read that succeeds.
  refine hread.induction_on (motive := fun place => ∀ location : Location,
    chart'[location.document]? = some place.home → location.pointer = place.pointer →
      ¬final'.Endless corpus'.rules location) ?_ ?_ hnode location hhome rfl
  · rintro ⟨home, _⟩ _ href ⟨number, pointer⟩ hhome rfl
    refine not_endless_of_refAt? ?_
    rw [hcharted.refAt?_eq hhome, ← h.refAt?_eq, href]
  · rintro ⟨home, _⟩ reference target hnode href hnames _ ih ⟨number, pointer⟩ hhome rfl hendless
    obtain ⟨target', hhop⟩ := hendless.exists_hop
    obtain ⟨reference', href', hresolve⟩ := hop_eq_some_iff.mp hhop
    rw [hcharted.refAt?_eq hhome, ← h.refAt?_eq, href] at href'
    obtain rfl := Option.some.inj href'
    obtain ⟨home', hhome', hnames'⟩ := hcharted.names_of_resolve? hhome hresolve
    obtain ⟨inherited, way, hvisit⟩ := hread.met hnode
    obtain rfl := horderly.unambiguous.eq_of_names hvisit href hnames (h.symm.names hnames')
    exact ih target' hhome' rfl (hendless.next hhop)

theorem exists_schema (horderly : corpus.Orderly) (hread : corpus.Completed chart final root)
    (hread' : corpus'.Completed chart' final' root') (hshared : Shared chart chart' final final' id id') :
    ∃ place, corpus.refAt? place = none ∧ HasNode chart final place id ∧ HasNode chart' final' place id' := by
  obtain ⟨place, hnode, hnode'⟩ := hshared
  refine hread.induction_on (motive := fun place => HasNode chart' final' place id' → ∃ place,
    corpus.refAt? place = none ∧ HasNode chart final place id ∧ HasNode chart' final' place id') ?_ ?_ hnode hnode'
  · exact fun place hnode href hnode' => ⟨place, href, hnode, hnode'⟩
  · intro place reference target hnode href hnames htarget ih hnode'
    obtain ⟨target', hnames', htarget'⟩ := hread'.exists_target hnode' ((h.refAt?_eq place).symm.trans href)
    obtain ⟨inherited, way, hvisit⟩ := hread.met hnode
    obtain rfl := horderly.unambiguous.eq_of_names hvisit href hnames (h.symm.names hnames')
    exact ih htarget'

/-- Nodes that belong to one place say the same about such nodes. -/
theorem pairs (horderly : corpus.Orderly) (hread : corpus.Completed chart final root)
    (hread' : corpus'.Completed chart' final' root') :
    final.graph.Pairs final'.graph (Shared chart chart' final final') := by
  intro id id' hshared
  obtain ⟨place, href, ⟨number, hhome, hid⟩, number', hhome', hid'⟩ := h.exists_schema horderly hread hread' hshared
  have href' : corpus'.refAt? place = none := (h.refAt?_eq place).symm.trans href
  rcases hread.schema_cases hhome hid href with
    ⟨valid, hbool, hget⟩ | ⟨members, node, read, inherited, way, hobject, hmember, hget, hyields, hvisit, hversion⟩ <;>
  rcases hread'.schema_cases hhome' hid' href' with
    ⟨valid', hbool', hget'⟩ |
      ⟨members', node', read', inherited', way', hobject', _, hget', hyields', hvisit', hversion'⟩
  · obtain ⟨rfl⟩ := Option.some.inj ((h.exists_bool hbool).symm.trans hbool')
    exact ⟨_, _, hget, hget', SchemaNode.agrees_boolean _ valid⟩
  · exact absurd ((h.exists_bool hbool).symm.trans hobject') (by simp)
  · exact absurd ((h.symm.exists_bool hbool').symm.trans hobject) (by simp)
  · obtain ⟨_, hsame, hnodup, hnodup', hmembers⟩ := h.exists_object hobject
    obtain ⟨rfl⟩ := Option.some.inj (hobject'.symm.trans hsame)
    refine ⟨node, node', hget, hget', agrees_readObject hyields hyields' ?_ hmembers hnodup hnodup'
      (horderly.unaliased place members hobject) ?_⟩
    · intro steps child child' hchild hchild'
      exact ⟨place.child steps, ⟨number, hhome, hchild⟩, number', hhome', hchild'⟩
    · rw [hversion, hversion', ← siteVersion_eq hmembers]
      exact horderly.oneDraft _ _ _ _ _ _ hvisit (h.symm.mayVisit hvisit') hobject hmember

theorem exists_link?_ok (horderly : corpus.Orderly) (hfair' : corpus'.ReportsFairly)
    (hlink : corpus.reader.link? corpus.document = some (.ok root, final)) :
    ∃ root' final', corpus'.reader.link? corpus'.document = some (.ok root', final') := by
  obtain ⟨chart, hread⟩ := exists_completed horderly.canonical horderly.unambiguous hlink
  have hcanonical' := h.canonical horderly.canonical
  obtain ⟨⟨result', final'⟩, hlink'⟩ :=
    Option.isSome_iff_exists.mp (corpus'.reader.link?_isSome corpus'.document hcanonical')
  cases result' with
  | ok root' => exact ⟨root', final', hlink'⟩
  | error error =>
    have hfound := link?_found hcanonical' (h.unambiguous horderly.unambiguous)
    rw [hlink'] at hfound
    obtain ⟨⟨chart', hcharted, hmet⟩, hfault⟩ := hfound
    by_cases hplain : error.IsPlain
    · obtain ⟨place, inherited, way, hvisit, hfault⟩ := hfault hplain
      exact absurd hfault (h.not_faultAt horderly hread hvisit)
    · obtain ⟨reference, pointer, rfl⟩ : ∃ reference pointer, error = .circularReference reference pointer := by
        simpa [ReadError.IsPlain] using hplain
      obtain ⟨location, hmem, _, _, hendless⟩ := hfair' _ _ _ hlink'
      exact absurd hendless (h.not_endless horderly hread hcharted (hmet location hmem))

end Reorders

def verdict? (corpus : Corpus) (value : Json) : Option Bool := do
  let schema ← (← corpus.reader.read? corpus.document).toOption
  let validator ← ((Compiler.ofOptions {}).compile schema).toOption
  validator.isValid? value

theorem exists_of_verdict? {value : Json} {verdict : Bool} (h : corpus.verdict? value = some verdict) :
    ∃ schema validator, corpus.reader.read? corpus.document = some (.ok schema) ∧
      (Compiler.ofOptions {}).compile schema = .ok validator ∧ validator.isValid? value = some verdict := by
  obtain ⟨_ | schema, hread, h⟩ := Option.bind_eq_some_iff.mp h
  · cases h
  obtain ⟨validator, hcompile, hverdict⟩ : ∃ validator, ((Compiler.ofOptions {}).compile schema).toOption =
      some validator ∧ validator.isValid? value = some verdict := Option.bind_eq_some_iff.mp h
  refine ⟨schema, validator, hread, ?_, hverdict⟩
  generalize (Compiler.ofOptions {}).compile schema = result at hcompile ⊢
  cases result with
  | error => cases hcompile
  | ok => exact congrArg Except.ok (Option.some.inj hcompile)

theorem reportsFairly_of_verdict? {value : Json} {verdict : Bool} (h : corpus.verdict? value = some verdict) :
    corpus.ReportsFairly := by
  intro reference pointer final hlink
  obtain ⟨schema, _, hread, _⟩ := exists_of_verdict? h
  rw [Reader.read?, hlink] at hread
  cases hread

/-- The order of members changes nothing about what a schema means. -/
theorem meansTheSame_of_reorders (h : corpus.Reorders corpus') (horderly : corpus.Orderly)
    (hfair : corpus.ReportsFairly) (hfair' : corpus'.ReportsFairly) : corpus.MeansTheSame corpus' := by
  have horderly' := h.orderly horderly
  obtain ⟨⟨result, final⟩, hlink⟩ :=
    Option.isSome_iff_exists.mp (corpus.reader.link?_isSome corpus.document horderly.canonical)
  obtain ⟨⟨result', final'⟩, hlink'⟩ :=
    Option.isSome_iff_exists.mp (corpus'.reader.link?_isSome corpus'.document horderly'.canonical)
  refine ⟨_, _, by rw [Reader.read?, hlink, Option.map_some], by rw [Reader.read?, hlink', Option.map_some], ?_⟩
  cases result with
  | error error =>
    cases result' with
    | error error' => exact .inl ⟨error, error', rfl, rfl⟩
    | ok root' =>
      obtain ⟨root, _, hok⟩ := h.symm.exists_link?_ok horderly' hfair hlink'
      rw [hlink] at hok
      cases hok
  | ok root =>
    obtain ⟨root', last, hok⟩ := h.exists_link?_ok horderly hfair' hlink
    obtain ⟨rfl, rfl⟩ := Prod.mk.inj (Option.some.inj (hlink'.symm.trans hok))
    obtain ⟨chart, hread⟩ := exists_completed horderly.canonical horderly.unambiguous hlink
    obtain ⟨chart', hread'⟩ := exists_completed horderly'.canonical horderly'.unambiguous hlink'
    have hpairs := h.pairs horderly hread hread'
    have hroot := shared_root hread hread'
    refine .inr ⟨⟨final.graph, root⟩, ⟨final'.graph, root'⟩, rfl, rfl, fun compiler hbuiltin => ⟨⟨?_, ?_⟩, ?_⟩⟩
    · rintro ⟨validator, hcompile⟩
      exact Compiler.compile_of_pairs hbuiltin hpairs hroot hcompile
    · rintro ⟨validator', hcompile'⟩
      exact Compiler.compile_of_pairs hbuiltin (h.symm.pairs horderly' hread' hread) (shared_root hread' hread)
        hcompile'
    · exact fun validator validator' hcompile hcompile' value hvalid =>
        Compiler.isValid?_consistent hbuiltin hpairs hroot hcompile hcompile' hvalid

def referTo (reference : String) : Json := .object [("$ref", .string reference)]

def linkedRecords : Corpus where
  document := .object [("type", .string "object"),
    ("properties", .object [("cell", referTo "cells"), ("next", referTo "#")])]
  reader.source.documents := ⟨[("cells", .object [("type", .array [.string "integer", .string "array"]),
    ("items", referTo "#"), ("minimum", .number (.int 0))])]⟩
  reader.source.rules := ⟨fun _ => none, fun _ _ => none⟩

def shuffledRecords : Corpus where
  document := .object [("properties", .object [("next", referTo "#"), ("cell", referTo "cells")]),
    ("type", .string "object")]
  reader.source.documents := ⟨[("cells", .object [("minimum", .number (.int 0)), ("items", referTo "#"),
    ("type", .array [.string "integer", .string "array"])])]⟩
  reader.source.rules := ⟨fun _ => none, fun _ _ => none⟩

def nestedRecord : Json :=
  .object [("next", .object [("cell", .array [.number (.int 3), .number (.int (-1))])])]

theorem meansTheSame_of_reorders_linkedRecords :
    linkedRecords.Reorders shuffledRecords ∧ linkedRecords.Orderly ∧ linkedRecords.ReportsFairly ∧
      shuffledRecords.ReportsFairly ∧ linkedRecords.verdict? nestedRecord = some false ∧
      linkedRecords.MeansTheSame shuffledRecords := by
  have hreorders : linkedRecords.Reorders shuffledRecords := by
    refine reorders_of_forall₂ ?_ (.cons ⟨rfl, ?_⟩ .nil)
    · refine .of_perm (by decide) (.swap ..) (.cons ⟨rfl, .refl trivial⟩ (.cons ⟨rfl, ?_⟩ .nil))
      refine .of_perm (by decide) (.swap ..) (.cons ⟨rfl, .refl ?_⟩ (.cons ⟨rfl, .refl ?_⟩ .nil)) <;>
        simp [referTo, Json.Valid, Json.ValidMembers, Members.names]
    · refine .of_perm (by decide) (List.reverse_perm _).symm
        (.cons ⟨rfl, .refl ?_⟩ (.cons ⟨rfl, .refl ?_⟩ (.cons ⟨rfl, .refl ?_⟩ .nil))) <;>
        simp [referTo, Json.Valid, Json.ValidItems, Json.ValidMembers, Members.names, Number.Valid]
  have hstable : linkedRecords.reader.source.rules.Stable :=
    ⟨fun text => splitFragment_fst_fst text, fun _ _ _ => rfl⟩
  have hundated : linkedRecords.Undated := ⟨rfl, by decide +kernel⟩
  have hfound (key address : String) : linkedRecords.Answers key (some address) → address = key := by
    rintro ⟨_, heq | hbase⟩
    · exact Option.some.inj heq
    · obtain ⟨_, hbase, _⟩ := Option.map_eq_some_iff.mp hbase
      obtain ⟨root, _, hbase⟩ := Option.bind_eq_some_iff.mp hbase
      unfold baseOfRoot at hbase
      cases hid : declaredId? root <;> rw [hid] at hbase <;> cases hbase
  have horderly : linkedRecords.Orderly := {
    canonical := LinkSource.canonical_of_stable hstable
    unaliased := fun place members hvalue => ⟨neverBoth_of_everyObject (by decide +kernel) place members hvalue,
      neverBoth_of_everyObject (by decide +kernel) place members hvalue⟩
    oneDraft := hundated.oneDraft
    unambiguous := unambiguous_of_found hfound }
  have hverdict : linkedRecords.verdict? nestedRecord = some false := by decide +kernel
  have hverdict' : shuffledRecords.verdict? nestedRecord = some false := by decide +kernel
  have hfair := reportsFairly_of_verdict? hverdict
  have hfair' := reportsFairly_of_verdict? hverdict'
  exact ⟨hreorders, horderly, hfair, hfair', hverdict, meansTheSame_of_reorders hreorders horderly hfair hfair'⟩

theorem not_meansTheSame_of_verdicts {value : Json} (hvalid : value.Valid) (h : corpus.verdict? value = some false)
    (h' : corpus'.verdict? value = some true) : ¬corpus.MeansTheSame corpus' := by
  rintro ⟨_, _, hread, hread', ⟨_, _, rfl, rfl⟩ | ⟨schema, schema', rfl, rfl, hcompiles⟩⟩
  · obtain ⟨_, _, hok, _⟩ := exists_of_verdict? h
    cases hread.symm.trans hok
  · obtain ⟨_, validator, hok, hcompile, hverdict⟩ := exists_of_verdict? h
    obtain ⟨_, validator', hok', hcompile', hverdict'⟩ := exists_of_verdict? h'
    obtain rfl := Except.ok.inj (Option.some.inj (hread.symm.trans hok))
    obtain rfl := Except.ok.inj (Option.some.inj (hread'.symm.trans hok'))
    exact absurd ((hcompiles _ rfl).2 validator validator' hcompile hcompile' value hvalid _ _ hverdict hverdict')
      (by simp)

theorem not_meansTheSame_of_failure {value : Json} {verdict : Bool}
    (h : (corpus.reader.read? corpus.document).map Except.isOk = some false)
    (h' : corpus'.verdict? value = some verdict) : ¬corpus.MeansTheSame corpus' := by
  rintro ⟨_, _, hread, hread', ⟨_, _, rfl, rfl⟩ | ⟨_, _, rfl, rfl, _⟩⟩
  · obtain ⟨_, _, hok, _⟩ := exists_of_verdict? h'
    cases hread'.symm.trans hok
  · rw [hread] at h
    cases h

/-- No object holds two members that stand for the same thing. -/
structure NeverAliased (corpus : Corpus) : Prop where
  bases : corpus.NeverBoth .allOf .extending
  divisors : corpus.NeverBoth .multipleOf .divisibleBy
  addresses : corpus.NeverBoth .dollarId .id

theorem NeverAliased.unaliased (h : corpus.NeverAliased) (place : Place) (members : Members Json)
    (hvalue : corpus.valueAt? place = some (.object members)) : Unaliased members :=
  ⟨h.bases place members hvalue, h.divisors place members hvalue⟩

def arranged (elementsFirst : Bool) (reader : Reader) (elements others : Json) (rest : Members Json) : Corpus where
  reader := reader
  document := .object (if elementsFirst then ("items", elements) :: ("additionalProperties", others) :: rest
    else ("additionalProperties", others) :: ("items", elements) :: rest)

theorem reorders_arranged {reader : Reader} {elements others : Json} {rest : Members Json}
    (hvalid : (arranged true reader elements others rest).document.Valid)
    (hentries : Json.ValidMembers reader.source.documents.entries) :
    (arranged true reader elements others rest).Reorders (arranged false reader elements others rest) := by
  have hsame {members : Members Json} (hmembers : Json.ValidMembers members) :
      List.Forall₂ (fun x y => x.1 = y.1 ∧ x.2.Reordered y.2) members members := by
    refine List.forall₂_same.mpr fun member hmem => ⟨rfl, .refl ?_⟩
    exact Json.validMembers_iff.mp hmembers member.1 member.2 hmem
  obtain ⟨hnodup, hmembers⟩ : _ ∧ Json.ValidMembers _ := hvalid
  exact reorders_of_forall₂ (.of_perm hnodup (.swap ..) (hsame hmembers)) (hsame hentries)

theorem unambiguous_of_alone {options : ReaderOptions} {document : Json} :
    Corpus.Unambiguous ⟨{ options }, document⟩ :=
  unambiguous_of_found fun _ _ hanswers => absurd hanswers.1 Bool.false_ne_true

/-- A definition that may be met first inside of a schema for the fourth draft. -/
def draftedElements (elementsFirst : Bool) : Corpus :=
  arranged elementsFirst {}
    (.object [("$schema", .string "http://json-schema.org/draft-04/schema#"), ("items", referTo "#/definitions/whole")])
    (referTo "#/definitions/whole") [("definitions", .object [("whole", .object [("type", .string "integer")])])]

theorem draft_counts :
    ¬∀ corpus corpus' : Corpus, corpus.Reorders corpus' → corpus.NeverAliased → corpus.reader.source.Canonical →
      corpus.Unambiguous → corpus.ReportsFairly → corpus'.ReportsFairly → corpus.MeansTheSame corpus' := by
  intro h
  have hvalue : (Json.object [("b", .number (.float (.ofInt 1)))]).Valid := by
    have hfinite : (Binary64.ofInt 1).isFinite = true := by decide +kernel
    simp [Json.Valid, Json.ValidMembers, Members.names, Number.Valid, hfinite]
  have hverdict : (draftedElements true).verdict? (.object [("b", .number (.float (.ofInt 1)))]) = some false := by
    decide +kernel
  have hverdict' : (draftedElements false).verdict? (.object [("b", .number (.float (.ofInt 1)))]) = some true := by
    decide +kernel
  have hreorders : (draftedElements true).Reorders (draftedElements false) :=
    reorders_arranged (by simp [arranged, referTo, Json.Valid, Json.ValidMembers, Members.names]) trivial
  refine not_meansTheSame_of_verdicts hvalue hverdict hverdict' (h _ _ hreorders ?_ Reader.canonical_default
    unambiguous_of_alone (reportsFairly_of_verdict? hverdict) (reportsFairly_of_verdict? hverdict'))
  exact ⟨neverBoth_of_everyObject (by decide +kernel), neverBoth_of_everyObject (by decide +kernel),
    neverBoth_of_everyObject (by decide +kernel)⟩

/-- Two documents, the first of which gives itself the address of the second, and references to both. -/
def claimedAddress (elementsFirst : Bool) : Corpus :=
  arranged elementsFirst { source := { documents := ⟨[
      ("urn:text", .object [("$id", .string "urn:number"), ("type", .string "string")]),
      ("urn:number", .object [("type", .string "integer")])]⟩ } }
    (referTo "urn:text") (referTo "urn:number") []

theorem address_counts :
    ¬∀ corpus corpus' : Corpus, corpus.Reorders corpus' → corpus.NeverAliased → corpus.OneDraft →
      corpus.ReportsFairly → corpus'.ReportsFairly → corpus.MeansTheSame corpus' := by
  intro h
  have hvalue : (Json.object [("b", .number (.int 1))]).Valid := by
    simp [Json.Valid, Json.ValidMembers, Members.names, Number.Valid]
  have hverdict : (claimedAddress true).verdict? (.object [("b", .number (.int 1))]) = some false := by decide +kernel
  have hverdict' : (claimedAddress false).verdict? (.object [("b", .number (.int 1))]) = some true := by decide +kernel
  have hreorders : (claimedAddress true).Reorders (claimedAddress false) := by
    refine reorders_arranged ?_ ?_ <;> simp [arranged, referTo, Json.Valid, Json.ValidMembers, Members.names]
  have hundated : (claimedAddress true).Undated := ⟨rfl, by decide +kernel⟩
  refine not_meansTheSame_of_verdicts hvalue hverdict hverdict' (h _ _ hreorders ?_ hundated.oneDraft
    (reportsFairly_of_verdict? hverdict) (reportsFairly_of_verdict? hverdict'))
  exact ⟨neverBoth_of_everyObject (by decide +kernel), neverBoth_of_everyObject (by decide +kernel),
    neverBoth_of_everyObject (by decide +kernel)⟩

/-- A chain of references that is followed a second time while the schema at its end is being read. -/
def followedTwice (elementsFirst : Bool) : Corpus :=
  arranged elementsFirst {} (referTo "#/definitions/a") (referTo "#/definitions/c")
    [("definitions", .object [("a", referTo "#/definitions/b"), ("b", referTo "#/definitions/c"),
      ("c", .object [("items", referTo "#/definitions/a")])])]

theorem report_counts :
    ¬∀ corpus corpus' : Corpus, corpus.Reorders corpus' → corpus.NeverAliased → corpus.Orderly →
      corpus.MeansTheSame corpus' := by
  intro h
  have hfailure : ((followedTwice true).reader.read? (followedTwice true).document).map Except.isOk = some false := by
    decide +kernel
  have hverdict' : (followedTwice false).verdict? (.array []) = some true := by decide +kernel
  have hreorders : (followedTwice true).Reorders (followedTwice false) :=
    reorders_arranged (by simp [arranged, referTo, Json.Valid, Json.ValidMembers, Members.names]) trivial
  have hplain : (followedTwice true).NeverAliased :=
    ⟨neverBoth_of_everyObject (by decide +kernel), neverBoth_of_everyObject (by decide +kernel),
      neverBoth_of_everyObject (by decide +kernel)⟩
  have hundated : (followedTwice true).Undated := ⟨rfl, by decide +kernel⟩
  exact not_meansTheSame_of_failure hfailure hverdict' (h _ _ hreorders hplain
    ⟨Reader.canonical_default, hplain.unaliased, hundated.oneDraft, unambiguous_of_alone⟩)

/-- Without any one of the conditions the order of members may count, even if no object holds two members that stand for
the same thing. -/
theorem order_counts :
    (¬∀ corpus corpus' : Corpus, corpus.Reorders corpus' → corpus.NeverAliased → corpus.reader.source.Canonical →
      corpus.Unambiguous → corpus.ReportsFairly → corpus'.ReportsFairly → corpus.MeansTheSame corpus') ∧
    (¬∀ corpus corpus' : Corpus, corpus.Reorders corpus' → corpus.NeverAliased → corpus.OneDraft →
      corpus.ReportsFairly → corpus'.ReportsFairly → corpus.MeansTheSame corpus') ∧
    ¬∀ corpus corpus' : Corpus, corpus.Reorders corpus' → corpus.NeverAliased → corpus.Orderly →
      corpus.MeansTheSame corpus' :=
  ⟨draft_counts, address_counts, report_counts⟩

end JsonSchema.Corpus
