import JsonSchema.Proofs.Encoding
import JsonSchema.Proofs.SamePlace

/-!
Paths: what leads from a value to a part of it, by the names of members and the indices of items. The pointer written
along a path leads to the same part, no two paths in a value have the same pointer, and a reference that spells the
pointer names the place at which reading looks up that part.
-/
namespace JsonSchema

namespace Json

inductive Step where
  | member (name : String)
  | item (index : Nat)
deriving DecidableEq

namespace Step

def text : Step → String
  | member name => name
  | item index => toString index

def part? : Step → Json → Option Json
  | member name, .object members => Members.find? members name
  | item index, .array items => items[index]?
  | _, _ => none

end Step

/-- The part of a value at the end of a path. -/
def along? : List Step → Json → Option Json
  | [], value => some value
  | step :: rest, value => (step.part? value).bind (along? rest)

def pointerOf (path : List Step) : String := (path.map Step.text).foldl Pointer.push ""

namespace Pointer

/-- Replaces each tilde before a digit, together with the digit. -/
def replaceEscape (digit meant : Char) : List Char → List Char
  | '~' :: c :: rest =>
    if c = digit then meant :: replaceEscape digit meant rest else '~' :: replaceEscape digit meant (c :: rest)
  | c :: rest => c :: replaceEscape digit meant rest
  | [] => []

theorem replaceEscape_tilde {digit : Char} (meant : Char) {rest : List Char} (h : rest.head? ≠ some digit) :
    replaceEscape digit meant ('~' :: rest) = '~' :: replaceEscape digit meant rest := by
  cases rest with
  | nil => rfl
  | cons c rest =>
    have hc : c ≠ digit := by simpa using h
    rw [replaceEscape, if_neg hc]

theorem replaceEscape_of_ne {c : Char} (digit meant : Char) (h : c ≠ '~') (rest : List Char) :
    replaceEscape digit meant (c :: rest) = c :: replaceEscape digit meant rest := by
  rw [replaceEscape]
  simp [h]

theorem head?_replaceEscape {digit meant c : Char} {text : List Char} (hmeant : meant ≠ c) (h : text.head? ≠ some c) :
    (replaceEscape digit meant text).head? ≠ some c := by
  fun_cases replaceEscape digit meant text <;> simp_all

/-- To undo escapes is to replace those of slashes first, and then those of tildes. -/
theorem unescape_eq_replaceEscape (segment : List Char) :
    unescape segment = replaceEscape '0' '~' (replaceEscape '1' '/' segment) := by
  fun_induction unescape segment with
  | case1 rest ih =>
    rw [replaceEscape_tilde '/' (by simp), replaceEscape_of_ne '1' '/' (by decide), replaceEscape, if_pos rfl, ih]
  | case2 rest ih => rw [replaceEscape, if_pos rfl, replaceEscape_of_ne _ _ (by decide), ih]
  | case3 c rest hzero hone ih =>
    by_cases hc : c = '~'
    · have hrest (digit : Char) (hdigit : ∀ more, rest = digit :: more → False) : rest.head? ≠ some digit := by
        intro hhead
        obtain ⟨more, hmore⟩ := List.head?_eq_some_iff.mp hhead
        exact hdigit more hmore
      rw [hc, replaceEscape_tilde _ (hrest '1' fun more => hone more hc),
        replaceEscape_tilde _ (head?_replaceEscape (by decide) (hrest '0' fun more => hzero more hc)), ih]
    · rw [replaceEscape_of_ne _ _ hc, replaceEscape_of_ne _ _ hc, ih]
  | case4 => rfl

theorem head?_toDigits (n : Nat) (h : n ≠ 0) : (Nat.toDigits 10 n).head? ≠ some '0' := by
  induction n using Nat.strongRecOn with
  | _ n ih =>
    rw [Nat.toDigits_eq_if (by omega)]
    split
    · simpa [Nat.digitChar_eq_zero] using h
    · rename_i hlarge
      rw [List.head?_append_of_ne_nil _ Nat.toDigits_ne_nil]
      exact ih (n / 10) (by omega) (by omega)

theorem index?_toString (index : Nat) : index? (toString index).toList = some index := by
  rw [Nat.toString_eq_repr, Nat.toList_repr]
  have hdigits : (Nat.toDigits 10 index).all Char.isDigit = true :=
    List.all_eq_true.mpr fun c hmem => Nat.isDigit_of_mem_toDigits (by omega) (by omega) hmem
  have hhead : ((Nat.toDigits 10 index).head? == some '0' && (Nat.toDigits 10 index).length != 1) = false := by
    by_cases hzero : index = 0
    · simp [hzero]
    · simp [head?_toDigits index hzero]
  have hvalue : (Nat.toDigits 10 index).foldl (fun n c => n * 10 + (c.toNat - 0x30)) 0 = index := calc
    _ = Nat.ofDigitChars 10 (Nat.toDigits 10 index) 0 := by
      rw [Nat.ofDigitChars_eq_foldl]
      simp only [Nat.mul_comm 10]
      rfl
    _ = index := Nat.ofDigitChars_ten_toDigits
  simp [index?, hdigits, hhead, hvalue, Nat.toDigits_ne_nil]

end Pointer

namespace Step

variable {step other : Step} {value part : Json}

theorem part?_text (h : step.part? value = some part) : Pointer.part? step.text.toList value = some part := by
  cases step with
  | member name =>
    cases value with
    | object members => simpa [Pointer.part?, text, part?] using h
    | _ => cases h
  | item index =>
    cases value with
    | array items => rwa [Pointer.part?, text, Pointer.index?_toString, Option.bind_some]
    | _ => cases h

/-- In an array only indices lead on, and elsewhere only names. -/
theorem eq_of_text (h : (step.part? value).isSome) (h' : (other.part? value).isSome) (htext : step.text = other.text) :
    step = other := by
  cases value with
  | array items =>
    cases step with
    | member => cases h
    | item index =>
      cases other with
      | member => cases h'
      | item index' =>
        have hindex := Pointer.index?_toString index
        rw [show toString index = toString index' from htext, Pointer.index?_toString] at hindex
        rw [Option.some.inj hindex]
  | object members =>
    cases step with
    | item => cases h
    | member name =>
      cases other with
      | item => cases h'
      | member name' => exact congrArg member htext
  | _ => cases step <;> cases h

end Step

variable {path other : List Step} {value part : Json}

theorem follow?_of_along? (h : along? path value = some part) :
    Pointer.follow? (path.map fun step => step.text.toList) value = some part := by
  induction path generalizing value with
  | nil => exact h
  | cons step rest ih =>
    obtain ⟨inner, hstep, hrest⟩ := Option.bind_eq_some_iff.mp h
    rw [List.map_cons, Pointer.follow?, Step.part?_text hstep, Option.bind_some, ih hrest]

theorem at?_pointerOf (h : along? path value = some part) : value.at? (pointerOf path) = some part := by
  rw [at?, pointerOf, Pointer.segments?_foldl_push, Option.bind_some, List.map_map]
  exact follow?_of_along? h

theorem eq_of_texts (h : (along? path value).isSome) (h' : (along? other value).isSome)
    (htexts : path.map Step.text = other.map Step.text) : path = other := by
  induction path generalizing other value with
  | nil => simpa using htexts.symm
  | cons step rest ih =>
    cases other with
    | nil => simp at htexts
    | cons step' rest' =>
      obtain ⟨part, hpart⟩ := Option.isSome_iff_exists.mp h
      obtain ⟨part', hpart'⟩ := Option.isSome_iff_exists.mp h'
      obtain ⟨inner, hstep, hrest⟩ := Option.bind_eq_some_iff.mp hpart
      obtain ⟨inner', hstep', hrest'⟩ := Option.bind_eq_some_iff.mp hpart'
      obtain ⟨htext, hmore⟩ := List.cons.inj htexts
      obtain rfl : step = step' :=
        Step.eq_of_text (Option.isSome_of_eq_some hstep) (Option.isSome_of_eq_some hstep') htext
      obtain rfl : inner = inner' := Option.some.inj (hstep.symm.trans hstep')
      have hsome : (along? rest inner).isSome := Option.isSome_of_eq_some hrest
      have hsome' : (along? rest' inner).isSome := Option.isSome_of_eq_some hrest'
      rw [ih hsome hsome' hmore]

/-- No two paths in a value have the same pointer. -/
theorem eq_of_pointerOf (h : (along? path value).isSome) (h' : (along? other value).isSome)
    (hpointer : pointerOf path = pointerOf other) : path = other := by
  have hsegments := congrArg (fun pointer => Pointer.segments? pointer.toList) hpointer
  simp only [pointerOf, Pointer.segments?_foldl_push, Option.some.injEq] at hsegments
  exact eq_of_texts h h' (List.map_injective_iff.mpr (fun _ _ => String.toList_inj.mp) hsegments)

end Json

open Json

theorem splitFragment_hash (text : String) : splitFragment ("#" ++ text) = ("", some text) := by
  simp [splitFragment, Uri.splitAtFirst]

theorem Location.child_pointerOf (number : Nat) (before after : List Step) :
    (⟨number, pointerOf before⟩ : Location).child (after.map Step.text) = ⟨number, pointerOf (before ++ after)⟩ := by
  rw [Location.child, pointerOf, pointerOf, List.map_append, List.foldl_append]

namespace LinkState

variable {rules : UriRules} {state : LinkState} {document : LoadedDocument} {origin : Location} {path : List Step}
  {part : Json} {text : String}

theorem valueAt?_pointerOf {number : Nat} (hdocument : state.documents[number]? = some document)
    (hpath : along? path document.root = some part) : state.valueAt? ⟨number, pointerOf path⟩ = some part := by
  rw [valueAt?, hdocument, Option.bind_some, at?_pointerOf hpath]

theorem hop_of_spells (hdocument : state.documents[origin.document]? = some document)
    (hpath : along? path document.root = some part) (href : state.refAt? origin = some ("#" ++ text))
    (htext : Percent.Spells (Utf8.bytes text) (Utf8.bytes (pointerOf path))) :
    state.hop rules origin = some ⟨origin.document, pointerOf path⟩ := by
  refine hop_eq_some_iff.mpr ⟨_, href, resolve?_eq_some_iff.mpr ?_⟩
  rw [splitFragment_hash]
  exact ⟨rfl, (Percent.decode_of_spells htext).symm, by simp [valueAt?_pointerOf hdocument hpath]⟩

end LinkState

namespace Linking

variable {state : LinkState} {number : Nat} {document : LoadedDocument} {path : List Step} {part : Json}

/-- A path in a document is found by what is written along it. The pointer leads to the part at the end of the path and
no other path has it; a reference that spells the pointer, with each percent sign encoded, names the place of that
pointer; and a schema object on the path, which itself stands at such a place, asks for the part at that place. -/
theorem path_found (hdocument : state.documents[number]? = some document)
    (hpath : along? path document.root = some part) :
    document.root.at? (pointerOf path) = some part ∧
    (∀ other, (along? other document.root).isSome → pointerOf other = pointerOf path → other = path) ∧
    (∀ (source : LinkSource) (origin : Location) (text : String), origin.document = number →
      Percent.Spells (Utf8.bytes text) (Utf8.bytes (pointerOf path)) →
      run (target source origin ("#" ++ text)) state = some (.ok ⟨number, pointerOf path⟩, state)) ∧
    ∀ (site : Site) (before after : List Step) (keyword : Keyword) (steps : List String), before ++ after = path →
      site.location = ⟨number, pointerOf before⟩ → after.map Step.text = keyword.name :: steps →
      site.child keyword steps = Inquiry.answer ⟨⟨number, pointerOf path⟩, site.version⟩ := by
  refine ⟨at?_pointerOf hpath, ?_, ?_, ?_⟩
  · intro other hother hpointer
    exact eq_of_pointerOf hother (Option.isSome_of_eq_some hpath) hpointer
  · intro source origin text horigin htext
    have hempty : "".isEmpty = true := rfl
    have hvalue := LinkState.valueAt?_pointerOf hdocument hpath
    rw [target, splitFragment_hash]
    simp only [hempty, if_true, Option.getD_some, run_placeIn, horigin, Percent.decode_of_spells htext, hvalue,
      Option.isSome_some]
  · rintro site before after keyword steps rfl hlocation hsteps
    rw [Site.child, hlocation, ← hsteps, Location.child_pointerOf]

def marked : Json := .object [("~1", .array [.null, .object [("é%/", .bool true)]])]

theorem path_found_marked : ∃ document,
    (({} : Reader).start marked).documents[0]? = some document ∧
    along? [.member "~1", .item 1, .member "é%/"] document.root = some (.bool true) ∧
    Percent.Spells (Utf8.bytes "/%7e01/1/é%25~1") (Utf8.bytes "/~01/1/é%~1") ∧
    run (target {} ⟨0, ""⟩ "#/%7e01/1/é%25~1") (({} : Reader).start marked) =
      some (.ok ⟨0, "/~01/1/é%~1"⟩, ({} : Reader).start marked) := by
  have htext : Utf8.bytes "/%7e01/1/é%25~1" =
      [0x2f, 0x25, 0x37, 0x65, 0x30, 0x31, 0x2f, 0x31, 0x2f, 0xc3, 0xa9, 0x25, 0x32, 0x35, 0x7e, 0x31] := by
    decide +kernel
  have hmeaning : Utf8.bytes "/~01/1/é%~1" =
      [0x2f, 0x7e, 0x30, 0x31, 0x2f, 0x31, 0x2f, 0xc3, 0xa9, 0x25, 0x7e, 0x31] := by decide +kernel
  have hspells : Percent.Spells (Utf8.bytes "/%7e01/1/é%25~1") (Utf8.bytes "/~01/1/é%~1") := by
    rw [htext, hmeaning]
    repeat first
      | exact .nil
      | refine .escaped rfl rfl rfl ?_
      | refine .plain (by decide) ?_
  have hpointer : pointerOf [.member "~1", .item 1, .member "é%/"] = "/~01/1/é%~1" := by decide +kernel
  have hreference : "#/%7e01/1/é%25~1" = "#" ++ "/%7e01/1/é%25~1" := by decide +kernel
  have hdocument : (({} : Reader).start marked).documents[0]? = some ⟨none, none, marked⟩ := rfl
  have hpath : along? [.member "~1", .item 1, .member "é%/"] marked = some (.bool true) := rfl
  refine ⟨_, hdocument, hpath, hspells, ?_⟩
  rw [← hpointer] at hspells ⊢
  rw [hreference]
  exact (path_found hdocument hpath).2.2.1 {} ⟨0, ""⟩ _ rfl hspells

end Linking

/-- In a read that succeeds, a reference that spells the pointer of a path has the node of the place at its end. -/
theorem Reader.located_of_spells {reader : Reader} (hcanonical : reader.source.Canonical) {document : Json}
    {root : SchemaId} {final : LinkState} (h : reader.link? document = some (.ok root, final)) {origin : Location}
    {id : SchemaId} (hid : Reader.Located final origin id) {loaded : LoadedDocument}
    (hloaded : final.documents[origin.document]? = some loaded) {path : List Step} {part : Json}
    (hpath : along? path loaded.root = some part) {text : String} (href : final.refAt? origin = some ("#" ++ text))
    (htext : Percent.Spells (Utf8.bytes text) (Utf8.bytes (pointerOf path))) :
    Reader.Located final ⟨origin.document, pointerOf path⟩ id :=
  (reader.visited_root document hcanonical h).sound.nodeAt?_of_standsFor hid
    (.inr (LinkState.hop_of_spells hloaded hpath href htext))

end JsonSchema
