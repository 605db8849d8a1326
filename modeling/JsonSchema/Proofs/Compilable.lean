import JsonSchema.Engine
import JsonSchema.Proofs.Following
import Mathlib.Data.List.TakeWhile

/-!
When a schema compiles. The nodes that the root leads to have to be in the graph, and contents that they ask for have to
be JSON; nothing else can go wrong, and an error tells what did.
-/
namespace JsonSchema

namespace Text

variable {before middle after : List Char}

theorem exists_trim_eq (chars : List Char) :
    ∃ before after, chars = before ++ (trim (String.ofList chars)).toList ++ after ∧
      ∀ c ∈ before ++ after, isBlank c := by
  let rest := chars.dropWhile isBlank
  refine ⟨chars.takeWhile isBlank, (rest.reverse.takeWhile isBlank).reverse, ?_, ?_⟩
  · have hrest : (trim (String.ofList chars)).toList ++ (rest.reverse.takeWhile isBlank).reverse = rest := by
      simp only [trim, trimLeft, String.toList_ofList]
      rw [← List.reverse_append, List.takeWhile_append_dropWhile, List.reverse_reverse]
    rw [List.append_assoc, hrest, List.takeWhile_append_dropWhile]
  · intro c hmem
    rcases List.mem_append.mp hmem with hmem | hmem
    · exact List.mem_takeWhile_imp hmem
    · exact List.mem_takeWhile_imp (List.mem_reverse.mp hmem)

theorem trimLeft_append (hbefore : ∀ c ∈ before, isBlank c) (hmiddle : ∀ c ∈ middle.head?, isBlank c = false) :
    trimLeft (before ++ middle) = middle := by
  rw [trimLeft, List.dropWhile_append_of_pos hbefore]
  cases middle with
  | nil => rfl
  | cons first rest => rw [List.dropWhile_cons_of_neg (by simp [hmiddle first rfl])]

theorem trim_append (hblank : ∀ c ∈ before ++ after, isBlank c) (hne : middle ≠ [])
    (hmiddle : ∀ c ∈ middle, isBlank c = false) :
    trim (String.ofList (before ++ middle ++ after)) = String.ofList middle := by
  have hleft : trimLeft (before ++ (middle ++ after)) = middle ++ after := by
    refine trimLeft_append (fun c hmem => hblank c (List.mem_append_left _ hmem)) fun c hmem => ?_
    rw [List.head?_append_of_ne_nil _ hne] at hmem
    exact hmiddle c (List.mem_of_mem_head? hmem)
  have hright : trimLeft (after.reverse ++ middle.reverse) = middle.reverse := by
    refine trimLeft_append (fun c hmem => ?_) fun c hmem => ?_
    · exact hblank c (List.mem_append_right _ (List.mem_reverse.mp hmem))
    · exact hmiddle c (List.mem_reverse.mp (List.mem_of_mem_head? hmem))
  rw [trim, String.toList_ofList, List.append_assoc, hleft, List.reverse_append, hright, List.reverse_reverse]

theorem toLower_of_isBlank {c : Char} (h : isBlank c) : c.toLower = c := by
  have hletters : (List.range' 65 26).all (fun n => !Unicode.whiteSpace.contains n) = true := by decide +kernel
  refine dif_neg ?_
  rintro ⟨hleast, hmost⟩
  have hmem : c.toNat ∈ List.range' 65 26 := List.mem_range'_1.mpr ⟨hleast, Nat.lt_succ_of_le hmost⟩
  have hnone := List.all_eq_true.mp hletters _ hmem
  rw [isBlank] at h
  simp [h] at hnone

end Text

/-- A name of the media type of JSON, in whatever case, perhaps with blank characters around it and parameters after
it. -/
def NamesJson (name : String) : Prop :=
  ∃ before essence after parameters, name.toList = before ++ essence ++ after ++ parameters ∧
    essence.map Char.toLower = "application/json".toList ∧ (∀ c ∈ before ++ after, Text.isBlank c) ∧
    (parameters = [] ∨ parameters.head? = some ';')

namespace Constraint

theorem of_mem_essence {essence : List Char} (hessence : essence.map Char.toLower = "application/json".toList)
    {c : Char} (hmem : c ∈ essence) : Text.isBlank c = false ∧ c ≠ ';' := by
  have hlower : c.toLower ∈ "application/json".toList := hessence ▸ List.mem_map_of_mem hmem
  have hall : "application/json".toList.all (fun c => !Text.isBlank c) = true := by decide +kernel
  constructor
  · by_contra hblank
    rw [Text.toLower_of_isBlank ((Bool.not_eq_false _).mp hblank)] at hlower
    have hother := List.all_eq_true.mp hall c hlower
    simp [hblank] at hother
  · rintro rfl
    exact absurd hlower (by decide)

theorem takeWhile_before_parameters {text parameters : List Char} (htext : ∀ c ∈ text, c ≠ ';')
    (hparameters : parameters = [] ∨ parameters.head? = some ';') :
    (text ++ parameters).takeWhile (· != ';') = text := by
  have hkept : ∀ c ∈ text, (c != ';') = true := fun c hmem => bne_iff_ne.mpr (htext c hmem)
  have hstop : parameters.takeWhile (· != ';') = [] := by
    cases parameters with
    | nil => rfl
    | cons c rest =>
      obtain rfl : c = ';' := by simpa using hparameters
      rfl
  rw [List.takeWhile_append_of_pos hkept, hstop, List.append_nil]

theorem namesJson_of_isJsonMediaType {name : String} (h : isJsonMediaType name = true) : NamesJson name := by
  rw [isJsonMediaType, beq_iff_eq] at h
  obtain ⟨before, after, hsplit, hblank⟩ := Text.exists_trim_eq (name.toList.takeWhile (· != ';'))
  refine ⟨before, _, after, name.toList.dropWhile (· != ';'), ?_, h, hblank, ?_⟩
  · rw [← hsplit, List.takeWhile_append_dropWhile]
  · cases hrest : name.toList.dropWhile (· != ';') with
    | nil => exact .inl rfl
    | cons c rest =>
      have hstop := List.head?_dropWhile_not (· != ';') name.toList
      simp only [hrest, List.head?_cons] at hstop
      exact .inr (congrArg some (by simpa using hstop))

theorem isJsonMediaType_of_namesJson {name : String} (h : NamesJson name) : isJsonMediaType name = true := by
  obtain ⟨before, essence, after, parameters, hsplit, hessence, hblank, hparameters⟩ := h
  have hne : essence ≠ [] := by
    rintro rfl
    exact absurd hessence (by decide)
  have hsemicolon : Text.isBlank ';' = false := by decide +kernel
  have htext : ∀ c ∈ before ++ essence ++ after, c ≠ ';' := by
    rintro c hmem rfl
    by_cases hinside : ';' ∈ essence
    · exact absurd rfl (of_mem_essence hessence hinside).2
    · have haround : ';' ∈ before ++ after := by simpa [hinside] using hmem
      have hother : Text.isBlank ';' := hblank ';' haround
      rw [hsemicolon] at hother
      cases hother
  rw [isJsonMediaType, beq_iff_eq, hsplit, takeWhile_before_parameters htext hparameters,
    Text.trim_append hblank hne fun c hmem => (of_mem_essence hessence hmem).1, String.toList_ofList, hessence]

theorem isJsonMediaType_iff {name : String} : isJsonMediaType name = true ↔ NamesJson name :=
  ⟨namesJson_of_isJsonMediaType, isJsonMediaType_of_namesJson⟩

end Constraint

/-- Nothing that the root leads to is missing, or asks for contents that cannot be checked. -/
structure Schema.Compilable (schema : Schema) : Prop where
  present : ∀ id, schema.graph.Reachable schema.root id → id.index < schema.graph.size
  checkable : ∀ id node, schema.graph.Reachable schema.root id → schema.graph.get? id = some node →
    node.valid = none → ∀ mediaType, node.mediaType = some mediaType → NamesJson mediaType

/-- An error that tells what is wrong with a schema. -/
inductive CompileError.Explains (schema : Schema) : CompileError → Prop
  /-- The node is the root or a child of a node that the root leads to, and not in the graph. -/
  | missingNode {id : SchemaId} : schema.graph.size ≤ id.index →
    (id = schema.root ∨ ∃ parent node, schema.graph.Reachable schema.root parent ∧
      schema.graph.get? parent = some node ∧ id ∈ node.children) →
    Explains schema (.missingNode id)
  /-- The root leads to the node, which asks for contents of the media type. -/
  | unsupportedMediaType {mediaType : String} {id : SchemaId} {node : SchemaNode} :
    schema.graph.Reachable schema.root id → schema.graph.get? id = some node → node.valid = none →
    node.mediaType = some mediaType → ¬NamesJson mediaType →
    Explains schema (.unsupportedMediaType mediaType id)

namespace Compiler

open SchemaGraph

variable {compiler : Compiler} {schema : Schema} {id : SchemaId} {error : CompileError}

/-- Every fault is one of a schema that cannot be compiled, and its error tells so. -/
theorem explains_of_atFault (hbuiltin : compiler.constraints = Constraint.builtin)
    (hreach : schema.graph.Reachable schema.root id) (h : AtFault compiler schema.graph id error) :
    ¬schema.Compilable ∧ error.Explains schema := by
  rcases h with ⟨hnone, rfl⟩ | ⟨node, hnode, hvalid, constraint, hmem, herror⟩
  · have hsize : schema.graph.size ≤ id.index := by
      rw [← Nat.not_lt, ← get?_isSome_iff, hnone]
      exact Bool.false_ne_true
    refine ⟨fun h => absurd (h.present id hreach) (Nat.not_lt.mpr hsize), .missingNode hsize ?_⟩
    rcases Relation.ReflTransGen.cases_tail hreach with rfl | ⟨parent, hparent, node, hnode, _, hfollowed⟩
    · exact .inl rfl
    · exact .inr ⟨parent, node, hparent, hnode, node.followed_subset_children hfollowed⟩
  · rw [hbuiltin] at hmem
    obtain ⟨mediaType, htype, hjson, rfl⟩ := Constraint.eq_of_builtin_error hmem herror
    have hother : ¬NamesJson mediaType := by
      rw [← Constraint.isJsonMediaType_iff, hjson]
      exact Bool.false_ne_true
    exact ⟨fun h => hother (h.checkable id node hreach hnode hvalid mediaType htype),
      .unsupportedMediaType hreach hnode hvalid htype hother⟩

theorem compilable_of_compile {validator : Validator} (hbuiltin : compiler.constraints = Constraint.builtin)
    (hcompile : compiler.compile schema = .ok validator) : schema.Compilable where
  present := by
    intro id hreach
    obtain ⟨node, hnode⟩ := (compile_sound hbuiltin hcompile hreach).1
    exact get?_isSome_iff.mp (Option.isSome_iff_exists.mpr ⟨node, hnode⟩)
  checkable := by
    intro id node hreach hnode hvalid mediaType htype
    by_contra hother
    have hjson : Constraint.isJsonMediaType mediaType = false := by
      rw [← Constraint.isJsonMediaType_iff] at hother
      exact Bool.eq_false_iff.mpr hother
    have herror : Constraint.content compiler.engine id node = .error (.unsupportedMediaType mediaType id) := by
      simp [Constraint.content, htype, hjson]
    have hmem : Constraint.content ∈ compiler.constraints := by simp [hbuiltin, Constraint.builtin]
    exact (compile_sound hbuiltin hcompile hreach).2 _
      (.inr ⟨node, hnode, hvalid, Constraint.content, hmem, herror⟩)

theorem explains_of_compile (hbuiltin : compiler.constraints = Constraint.builtin)
    (herror : compiler.compile schema = .error error) : ¬schema.Compilable ∧ error.Explains schema := by
  obtain ⟨id, hreach, hfault⟩ := compile_atFault hbuiltin herror
  exact explains_of_atFault hbuiltin hreach hfault

theorem exists_validator (hbuiltin : compiler.constraints = Constraint.builtin) (h : schema.Compilable) :
    ∃ validator, compiler.compile schema = .ok validator := by
  cases hcompile : compiler.compile schema with
  | ok validator => exact ⟨validator, rfl⟩
  | error error => exact absurd h (explains_of_compile hbuiltin hcompile).1

/-- A schema compiles exactly if it is compilable, and what a failure says of it is true. -/
theorem compile_iff_compilable (hbuiltin : compiler.constraints = Constraint.builtin) (schema : Schema) :
    ((∃ validator, compiler.compile schema = .ok validator) ↔ schema.Compilable) ∧
    ∀ error, compiler.compile schema = .error error → error.Explains schema := by
  refine ⟨⟨?_, exists_validator hbuiltin⟩, fun error herror => (explains_of_compile hbuiltin herror).2⟩
  exact fun ⟨_, hcompile⟩ => compilable_of_compile hbuiltin hcompile

/-- Letters with attachments. The branch without a condition beside it leads nowhere, so it may be missing. -/
def attachedLetters (mediaType : String) : Schema where
  graph := ⟨#[{ items := some (.every ⟨1⟩), consequence := some ⟨7⟩ },
    { properties := [("attached", ⟨0⟩)], mediaType := some mediaType }]⟩
  root := ⟨0⟩

theorem compile_iff_compilable_attachedLetters :
    (attachedLetters " Application/JSON ; charset=utf-8").Compilable ∧
    CompileError.Explains (attachedLetters "text/csv") (.unsupportedMediaType "text/csv" ⟨1⟩) := by
  have hbuiltin : (ofOptions {}).constraints = Constraint.builtin := rfl
  have hjson := compile_iff_compilable hbuiltin (attachedLetters " Application/JSON ; charset=utf-8")
  have hother := compile_iff_compilable hbuiltin (attachedLetters "text/csv")
  exact ⟨hjson.1.mp ⟨_, rfl⟩, hother.2 _ rfl⟩

end Compiler

end JsonSchema
