import JsonSchema.Proofs.Aliases
import JsonSchema.Proofs.ExactBounds
import JsonSchema.Proofs.KeywordGroups
import JsonSchema.Proofs.WellFormed

/-!
Pairs of bounds. A schema object may name an inclusive and an exclusive bound on the same side, in any order, or mark
the inclusive one as exclusive. The node keeps the stricter bound alone, and that leaves the numbers which keep to all
of them.
-/
namespace JsonSchema

theorem Binary64.atMost_iff_toRat_le {x y : Binary64} (hx : x.isFinite) (hy : y.isFinite) :
    x.atMost y = true ↔ x.toRat ≤ y.toRat := by
  rw [atMost_iff hx hy, x.toRat_eq, y.toRat_eq, div_le_div_iff_of_pos_right unitsPerOne_rat_pos, Int.cast_le]

namespace Number

variable {n : Number} {bound : Binary64}

theorem compareBound?_of_isFinite (hn : n.Valid) (hbound : bound.isFinite) :
    n.compareBound? bound = some (compare n.toRat bound.toRat) := by
  have hnan : bound ≠ .nan := by
    rintro rfl
    cases hbound
  rw [compareBound?_eq hn hnan, Binary64.extended_of_isFinite hbound]
  rcases lt_trichotomy n.toRat bound.toRat with hlt | heq | hgt
  · rw [compare_lt_iff_lt.mpr hlt, compare_lt_iff_lt.mpr (WithBotTop.coe_lt_coe.mpr hlt)]
  · rw [heq, compare_eq_iff_eq.mpr rfl, compare_eq_iff_eq.mpr rfl]
  · rw [compare_gt_iff_gt.mpr hgt, compare_gt_iff_gt.mpr (WithBotTop.coe_lt_coe.mpr hgt)]

theorem meetsMinimum_iff (hn : n.Valid) (hbound : bound.isFinite) (exclusive : Bool) :
    n.meetsMinimum bound exclusive = true ↔
      bound.toRat ≤ n.toRat ∧ (exclusive = true → bound.toRat < n.toRat) := by
  rw [meetsMinimum_of_compare (compareBound?_of_isFinite hn hbound)]
  cases exclusive with
  | false => simp
  | true => simpa using le_of_lt

theorem meetsMaximum_iff (hn : n.Valid) (hbound : bound.isFinite) (exclusive : Bool) :
    n.meetsMaximum bound exclusive = true ↔
      n.toRat ≤ bound.toRat ∧ (exclusive = true → n.toRat < bound.toRat) := by
  rw [meetsMaximum_of_compare (compareBound?_of_isFinite hn hbound)]
  cases exclusive with
  | false => simp
  | true => simpa using le_of_lt

end Number

namespace UnfinishedNode

/-- What keeps to the stricter bound keeps to both, in whichever direction bounds are strict. -/
theorem stricter_kept_iff {α : Type} [LinearOrder α] (limit : Binary64 → α) (value : α)
    {meets : Binary64 → Binary64 → Bool} {inclusive exclusive : Option Binary64} {flag : Bool}
    (hmeets : ∀ a ∈ inclusive, ∀ b ∈ exclusive, meets a b = true ↔ limit a ≤ limit b) :
    (∀ bound ∈ (stricter meets inclusive flag exclusive).1,
      limit bound ≤ value ∧ ((stricter meets inclusive flag exclusive).2 = true → limit bound < value)) ↔
      (∀ bound ∈ inclusive, limit bound ≤ value ∧ (flag = true → limit bound < value)) ∧
        ∀ bound ∈ exclusive, limit bound < value := by
  cases exclusive with
  | none => simp [stricter]
  | some above =>
    cases inclusive with
    | none =>
      simp only [stricter, Option.all_none, if_true, Option.mem_some_iff, forall_eq', Option.not_mem_none,
        false_imp_iff, implies_true, true_and]
      exact ⟨fun h => h.2 trivial, fun h => ⟨h.le, fun _ => h⟩⟩
    | some least =>
      -- Which of the two is kept is settled by their order, and the other one follows from it.
      have hstrict : meets least above = true ↔ limit least ≤ limit above := hmeets least rfl above rfl
      simp only [stricter, Option.all_some, Option.mem_some_iff, forall_eq']
      split
      · rename_i hmore
        have hweaker : limit least ≤ limit above := hstrict.mp hmore
        simp only [Option.mem_some_iff, forall_eq', true_imp_iff]
        constructor
        · intro h
          exact ⟨⟨hweaker.trans h.1, fun _ => hweaker.trans_lt h.2⟩, h.2⟩
        · exact fun h => ⟨h.2.le, h.2⟩
      · rename_i hless
        have hweaker : limit above < limit least := not_le.mp fun hle => hless (hstrict.mpr hle)
        simp only [Option.mem_some_iff, forall_eq']
        exact ⟨fun h => ⟨h, hweaker.trans_le h.1⟩, fun h => h.1⟩

end UnfinishedNode

/-- The bound that a keyword names in a schema object, as the number that it is converted to. -/
def Members.bound? (members : Members Json) (keyword : Keyword) : Option Binary64 :=
  (find? members keyword.name).bind Json.binary64?

def Members.isSet (members : Members Json) (keyword : Keyword) : Bool :=
  (find? members keyword.name).bind Json.bool? == some true

/-- A number keeps to all the bounds that a schema object names. -/
structure KeepsBounds (members : Members Json) (n : Number) : Prop where
  minimum : ∀ bound ∈ Members.bound? members .minimum,
    bound.toRat ≤ n.toRat ∧ (Members.isSet members .exclusiveMinimum = true → bound.toRat < n.toRat)
  exclusiveMinimum : ∀ bound ∈ Members.bound? members .exclusiveMinimum, bound.toRat < n.toRat
  maximum : ∀ bound ∈ Members.bound? members .maximum,
    n.toRat ≤ bound.toRat ∧ (Members.isSet members .exclusiveMaximum = true → n.toRat < bound.toRat)
  exclusiveMaximum : ∀ bound ∈ Members.bound? members .exclusiveMaximum, n.toRat < bound.toRat

def Constraint.boundKeywords : List Constraint := [minimum, maximum]

namespace UnfinishedNode

variable {fits : Visit → SchemaId → Prop} {site : Site} {partly mid next last : UnfinishedNode} {keyword : Keyword}
  {members : Members Json} {value : Json}

theorem facet_inclusive (hkeyword : keyword = .minimum ∨ keyword = .maximum)
    (h : (members.foldlM (readMember site) partly).Yields fits last) (hnodup : (Members.names members).Nodup)
    (hstart : partly.facet keyword = .bound none) : last.facet keyword = .bound (Members.bound? members keyword) := by
  have hown : keyword ∉ [Keyword.allOf, .multipleOf, .required] := by
    rcases hkeyword with rfl | rfl <;> decide
  rcases exists_read_of_find? h hnodup hown with ⟨hfind, hlast⟩ | ⟨value, mid, next, hfind, hmid, hread, hlast⟩
  · rw [hlast, hstart, Members.bound?, hfind]
    rfl
  · rw [hlast, Members.bound?, hfind, Option.bind_some]
    rcases hkeyword with rfl | rfl
    all_goals
      obtain ⟨x, hx, rfl⟩ := Inquiry.yields_bind_pure.mp hread
      rw [yields_expect.mp hx]
      rfl

theorem facet_exclusive (hkeyword : keyword = .exclusiveMinimum ∨ keyword = .exclusiveMaximum)
    (h : (members.foldlM (readMember site) partly).Yields fits last) (hnodup : (Members.names members).Nodup)
    (hstart : partly.facet keyword = .exclusive false none) :
    last.facet keyword = .exclusive (Members.isSet members keyword) (Members.bound? members keyword) := by
  have hown : keyword ∉ [Keyword.allOf, .multipleOf, .required] := by
    rcases hkeyword with rfl | rfl <;> decide
  rcases exists_read_of_find? h hnodup hown with ⟨hfind, hlast⟩ | ⟨value, mid, next, hfind, hmid, hread, hlast⟩
  · rw [hlast, hstart, Members.isSet, Members.bound?, hfind]
    rfl
  · rw [hlast, Members.isSet, Members.bound?, hfind, Option.bind_some, Option.bind_some]
    rw [hstart] at hmid
    rcases hkeyword with rfl | rfl
    all_goals
      obtain ⟨hflag, hbound⟩ := Facet.exclusive.inj hmid
      cases value with
      | bool exclusive =>
        obtain rfl := Inquiry.yields_done.mp hread
        exact congr (congrArg Facet.exclusive (by cases exclusive <;> rfl)) hbound
      | _ =>
        obtain ⟨x, hx, rfl⟩ := Inquiry.yields_bind_pure.mp hread
        rw [yields_expect.mp hx]
        exact congrArg (Facet.exclusive · (some x)) hflag

end UnfinishedNode

section Objects

variable {fits : Visit → SchemaId → Prop} {location : Location} {members : Members Json} {inherited : Option String}
  {node : SchemaNode}

theorem bounds_of_readObject (h : (readObject location members inherited).Yields fits node)
    (hnodup : (Members.names members).Nodup) :
    (node.minimum, node.exclusiveMinimum) = UnfinishedNode.stricter Binary64.atMost (Members.bound? members .minimum)
        (Members.isSet members .exclusiveMinimum) (Members.bound? members .exclusiveMinimum) ∧
      (node.maximum, node.exclusiveMaximum) =
        UnfinishedNode.stricter (fun bound exclusive => Binary64.atMost exclusive bound)
          (Members.bound? members .maximum) (Members.isSet members .exclusiveMaximum)
          (Members.bound? members .exclusiveMaximum) := by
  obtain ⟨version, _, last, hlast, rfl⟩ := yields_readObject.mp h
  obtain ⟨hminimum, hmaximum⟩ := last.bounds_finish_eq
  rw [hminimum, hmaximum]
  have hleast := Facet.bound.inj (UnfinishedNode.facet_inclusive (.inl rfl) hlast hnodup rfl)
  have hmost := Facet.bound.inj (UnfinishedNode.facet_inclusive (.inr rfl) hlast hnodup rfl)
  obtain ⟨habove_flag, habove⟩ := Facet.exclusive.inj (UnfinishedNode.facet_exclusive (.inl rfl) hlast hnodup rfl)
  obtain ⟨hbelow_flag, hbelow⟩ := Facet.exclusive.inj (UnfinishedNode.facet_exclusive (.inr rfl) hlast hnodup rfl)
  rw [hleast, hmost, habove_flag, habove, hbelow_flag, hbelow]
  exact ⟨rfl, rfl⟩

theorem Members.isFinite_of_bound? (hvalid : ∀ name value, (name, value) ∈ members → value.Valid) {keyword : Keyword}
    {bound : Binary64} (h : bound ∈ bound? members keyword) : bound.isFinite = true := by
  obtain ⟨value, hfind, hvalue⟩ := Option.bind_eq_some_iff.mp h
  exact UnfinishedNode.isFinite_of_binary64? (hvalid _ value (mem_of_find? hfind)) hvalue

/-- The bounds of a node leave the numbers that keep to all the bounds which its object names. -/
theorem keepsBounds_iff (h : (readObject location members inherited).Yields fits node)
    (hobject : (Json.object members).Valid) {n : Number} (hn : n.Valid) :
    (∀ bound ∈ node.minimum, n.meetsMinimum bound node.exclusiveMinimum = true) ∧
        (∀ bound ∈ node.maximum, n.meetsMaximum bound node.exclusiveMaximum = true) ↔ KeepsBounds members n := by
  obtain ⟨hnodup, hvalid⟩ := Json.valid_object.mp hobject
  obtain ⟨hminimum, hmaximum⟩ := bounds_of_readObject h hnodup
  have hfinite {keyword : Keyword} {bound : Binary64} (hbound : bound ∈ Members.bound? members keyword) :
      bound.isFinite = true := Members.isFinite_of_bound? hvalid hbound
  have hformed : node.WellFormed := wellFormed_of_readObject hvalid h
  have hleast : (∀ bound ∈ node.minimum, n.meetsMinimum bound node.exclusiveMinimum = true) ↔
      (∀ bound ∈ Members.bound? members .minimum,
        bound.toRat ≤ n.toRat ∧ (Members.isSet members .exclusiveMinimum = true → bound.toRat < n.toRat)) ∧
      ∀ bound ∈ Members.bound? members .exclusiveMinimum, bound.toRat < n.toRat := by
    refine (forall₂_congr fun bound hbound => Number.meetsMinimum_iff hn (hformed.minimum bound hbound) _).trans ?_
    rw [show node.minimum = _ from congrArg Prod.fst hminimum,
      show node.exclusiveMinimum = _ from congrArg Prod.snd hminimum]
    exact UnfinishedNode.stricter_kept_iff Binary64.toRat n.toRat fun a ha b hb =>
      Binary64.atMost_iff_toRat_le (hfinite ha) (hfinite hb)
  have hmost : (∀ bound ∈ node.maximum, n.meetsMaximum bound node.exclusiveMaximum = true) ↔
      (∀ bound ∈ Members.bound? members .maximum,
        n.toRat ≤ bound.toRat ∧ (Members.isSet members .exclusiveMaximum = true → n.toRat < bound.toRat)) ∧
      ∀ bound ∈ Members.bound? members .exclusiveMaximum, n.toRat < bound.toRat := by
    refine (forall₂_congr fun bound hbound => Number.meetsMaximum_iff hn (hformed.maximum bound hbound) _).trans ?_
    rw [show node.maximum = _ from congrArg Prod.fst hmaximum,
      show node.exclusiveMaximum = _ from congrArg Prod.snd hmaximum]
    -- Bounds from above are strict in the other direction.
    exact UnfinishedNode.stricter_kept_iff (fun x => OrderDual.toDual x.toRat) (OrderDual.toDual n.toRat)
      fun a ha b hb => Binary64.atMost_iff_toRat_le (hfinite hb) (hfinite ha)
  rw [hleast, hmost]
  constructor
  · rintro ⟨⟨hminimum, habove⟩, hmaximum, hbelow⟩
    exact ⟨hminimum, habove, hmaximum, hbelow⟩
  · exact fun hkeeps => ⟨⟨hkeeps.minimum, hkeeps.exclusiveMinimum⟩, hkeeps.maximum, hkeeps.exclusiveMaximum⟩

end Objects

namespace Compiler

open SchemaGraph

variable {compiler : Compiler} {graph : SchemaGraph} {id : SchemaId} {node : SchemaNode}

theorem verdictBy?_boundKeywords_iff (hnode : graph.get? id = some node) (n : Number) :
    compiler.verdictBy? graph Constraint.boundKeywords id (.number n) = some true ↔
      (∀ bound ∈ node.minimum, n.meetsMinimum bound node.exclusiveMinimum = true) ∧
        ∀ bound ∈ node.maximum, n.meetsMaximum bound node.exclusiveMaximum = true := by
  rw [verdictBy?_eq_true_iff hnode]
  simp [Constraint.boundKeywords, Constraint.minimum, Constraint.maximum, Constraint.onNumbers, Check.run]

theorem exists_verdictBy?_boundKeywords (hnode : graph.get? id = some node) (value : Json) :
    ∃ verdict, compiler.verdictBy? graph Constraint.boundKeywords id value = some verdict := by
  refine exists_verdictBy? hnode ?_
  simp [Constraint.boundKeywords, Constraint.minimum, Constraint.maximum, Constraint.onNumbers, Check.run]

end Compiler

namespace Reader

open LinkState Compiler

variable {reader : Reader} {document : Json} {root id : SchemaId} {final : LinkState} {location : Location}
  {members : Members Json} {compiler : Compiler} {n : Number}

/-- The bounds of a schema object that has been read accept exactly the numbers that keep to all of them, in whichever
order it names them. A compiled node accepts those of them that its other keywords accept too. -/
theorem link?_bounds (hcanonical : reader.source.Canonical) (hvalid : document.Valid)
    (hsource : ∀ address other, (address, other) ∈ reader.source.documents.entries → other.Valid)
    (h : reader.link? document = some (.ok root, final)) (hvalue : final.valueAt? location = some (.object members))
    (hmember : Members.find? members Keyword.reference.name = none) (hid : final.nodeAt? location = some id)
    (hn : n.Valid) :
    (∃ verdict, compiler.verdictBy? final.graph Constraint.boundKeywords id (.number n) = some verdict ∧
      (verdict = true ↔ KeepsBounds members n)) ∧
    ∀ others validator, (∀ constraint, constraint ∈ compiler.constraints ↔
        constraint ∈ Constraint.boundKeywords ∨ constraint ∈ others) →
      compiler.compile ⟨final.graph, id⟩ = .ok validator →
        (validator.isValid? (.number n) = some true ↔ KeepsBounds members n ∧
          compiler.verdictBy? final.graph others id (.number n) = some true) := by
  have hobject : (Json.object members).Valid := valid_of_valueAt? hcanonical hvalid hsource h hvalue
  obtain ⟨inherited, node, hnode, hyields⟩ := exists_yields_of_nodeAt? hcanonical h hid hvalue hmember
  have hdecides : compiler.Decides final.graph Constraint.boundKeywords id (.number n) (KeepsBounds members n) :=
    ⟨exists_verdictBy?_boundKeywords hnode (.number n),
      (verdictBy?_boundKeywords_iff hnode n).trans (keepsBounds_iff hyields hobject hn)⟩
  exact ⟨hdecides.verdict, fun others validator hkeywords hcompile =>
    hdecides.isValid?_iff hkeywords hcompile hnode (valid_of_readObject hyields)⟩

def betweenMembers : Members Json :=
  [("exclusiveMaximum", .bool true), ("exclusiveMinimum", .number (.int 3)), ("type", .string "integer"),
    ("maximum", .number (.int 9)), ("minimum", .number (.int 3))]

theorem link?_bounds_between :
    ({} : Reader).source.Canonical ∧ (Json.object betweenMembers).Valid ∧
      ∃ final, ({} : Reader).link? (.object betweenMembers) = some (.ok ⟨0⟩, final) ∧
        KeepsBounds betweenMembers (.int 8) ∧ ¬KeepsBounds betweenMembers (.int 3) ∧
        ¬KeepsBounds betweenMembers (.int 9) := by
  have hvalid : (Json.object betweenMembers).Valid := by
    simp [betweenMembers, Json.Valid, Json.ValidMembers, Members.names, Number.Valid]
  refine ⟨canonical_default, hvalid, ?_⟩
  have hfinal : (({} : Reader).link? (.object betweenMembers)).map (fun outcome => (outcome.1,
      outcome.2.nodeAt? ⟨0, ""⟩, [3, 8, 9].map fun i =>
        (ofOptions {}).verdictBy? outcome.2.graph Constraint.boundKeywords ⟨0⟩ (.number (.int i)))) =
      some (.ok ⟨0⟩, some ⟨0⟩, [some false, some true, some false]) := by decide +kernel
  obtain ⟨⟨result, final⟩, hlink, hfacts⟩ := Option.map_eq_some_iff.mp hfinal
  simp only [List.map_cons, List.map_nil, Prod.mk.injEq, List.cons.injEq, and_true] at hfacts
  obtain ⟨rfl, hid, hthree, height, hnine⟩ := hfacts
  have hvalue : final.valueAt? ⟨0, ""⟩ = some (.object betweenMembers) := valueAt?_root _ canonical_default hlink
  have hkept {i : Int} (hi : (Number.int i).Valid) {b : Bool}
      (hverdict : (ofOptions {}).verdictBy? final.graph Constraint.boundKeywords ⟨0⟩ (.number (.int i)) = some b) :
      b = true ↔ KeepsBounds betweenMembers (.int i) := by
    obtain ⟨verdict, hsame, hiff⟩ : ∃ verdict,
        (ofOptions {}).verdictBy? final.graph Constraint.boundKeywords ⟨0⟩ (.number (.int i)) = some verdict ∧
          (verdict = true ↔ KeepsBounds betweenMembers (.int i)) :=
      (link?_bounds canonical_default hvalid (fun _ _ hmem => absurd hmem List.not_mem_nil) hlink hvalue (by decide) hid
        hi).1
    rwa [Option.some.inj (hverdict.symm.trans hsame)]
  refine ⟨final, hlink, (hkept (by simp [Number.Valid]) height).mp rfl, fun hthree' => ?_, fun hnine' => ?_⟩
  · exact absurd ((hkept (by simp [Number.Valid]) hthree).mpr hthree') Bool.false_ne_true
  · exact absurd ((hkept (by simp [Number.Valid]) hnine).mpr hnine') Bool.false_ne_true

end Reader

end JsonSchema
