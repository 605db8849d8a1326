import JsonSchema.Engine
import JsonSchema.Proofs.Rounding
import JsonSchema.Proofs.SingleNode

/-!
Bounds from the document to the verdict. A bound is kept as a binary64 number, and integers are compared with it
exactly. So an integer bound is exact if it is a binary64 number itself; if it is none, the nearest one takes its place.
-/
namespace JsonSchema

namespace Number

open Binary64

/-- An integer as a bound: what it is rounded to, which is itself if any binary64 number is. -/
structure RoundsTo (m bound : Int) : Prop where
  value : (ofInt m).value = bound * unitsPerOne
  nearest : ∀ x : Binary64, x.isFinite →
    (m * unitsPerOne - bound * unitsPerOne).natAbs ≤ (m * unitsPerOne - x.value).natAbs
  exact : ∀ x : Binary64, x.isFinite → x.value = m * unitsPerOne → bound = m
  small : m.natAbs ≤ 2 ^ 53 → bound = m

variable {m n bound : Int} {x : Binary64}

theorem exists_roundsTo (hm : (int m).Valid) : ∃ bound, RoundsTo m bound ∧ exactIntOf (ofInt m) = some bound := by
  have hless := natAbs_lt_of_valid hm
  obtain ⟨bound, hvalue, hle⟩ := value_ofInt hless
  have hsame (h : (ofInt m).value = m * unitsPerOne) : bound = m :=
    Int.eq_of_mul_eq_mul_right unitsPerOne_ne_zero (hvalue.symm.trans h)
  refine ⟨bound, ⟨hvalue, ?_, ?_, ?_⟩, ?_⟩
  · intro x hx
    rw [← hvalue]
    exact natAbs_sub_ofInt_le hless hx
  · exact fun x hx hexact => hsame (value_ofInt_eq_of_value hless hx hexact)
  · exact fun hsmall => hsame (value_ofInt_of_le hsmall)
  · obtain ⟨units, hunits, heq, _⟩ := ofInt_finite hless
    rw [heq, Binary64.value] at hvalue
    exact exactIntOf_eq_some_iff.mpr ⟨_, units, hunits, heq, hvalue, hle.trans_lt (by decide)⟩

theorem meetsMinimum_int (h : exactIntOf x = some bound) (n : Int) (exclusive : Bool) :
    (int n).meetsMinimum x exclusive = if exclusive then decide (bound < n) else decide (bound ≤ n) :=
  meetsMinimum_of_compare (by simp only [compareBound?, h]) exclusive

theorem meetsMaximum_int (h : exactIntOf x = some bound) (n : Int) (exclusive : Bool) :
    (int n).meetsMaximum x exclusive = if exclusive then decide (n < bound) else decide (n ≤ bound) :=
  meetsMaximum_of_compare (by simp only [compareBound?, h]) exclusive

end Number

def SchemaNode.bounded (version : Option String) (minimum maximum : Option Binary64) (above below : Bool) :
    SchemaNode where
  version := version
  minimum := minimum
  maximum := maximum
  exclusiveMinimum := above
  exclusiveMaximum := below

def onNumber (accepts : Number → Bool) : Json → Bool
  | .number n => accepts n
  | _ => true

theorem SchemaGraph.checksAt_bounded (engine : PatternEngine) (id : SchemaId) (version : Option String)
    (minimum maximum : Option Binary64) (above below : Bool) :
    checksAt engine Constraint.builtin id (.bounded version minimum maximum above below) =
      (minimum.toList.map (fun bound => onNumber (·.meetsMinimum bound above)) ++
        maximum.toList.map fun bound => onNumber (·.meetsMaximum bound below)).map .test := by
  cases minimum <;> cases maximum <;> rfl

theorem Compiler.compile_bounded {compiler : Compiler} (hbuiltin : compiler.constraints = Constraint.builtin)
    (version : Option String) (minimum maximum : Option Binary64) (above below : Bool) :
    ∃ validator, compiler.compile (.single (.bounded version minimum maximum above below)) = .ok validator ∧
      ∀ n, validator.isValid? (.number n) =
        some (minimum.all (n.meetsMinimum · above) && maximum.all (n.meetsMaximum · below)) := by
  have hcompilable : (Schema.single (.bounded version minimum maximum above below)).Compilable :=
    compilable_single rfl rfl
  obtain ⟨validator, hcompile⟩ := exists_validator hbuiltin hcompilable
  refine ⟨validator, hcompile, fun n => ?_⟩
  rw [isValid?_single hcompile rfl (hbuiltin ▸ SchemaGraph.checksAt_bounded ..)]
  cases minimum <;> cases maximum <;> simp [onNumber]

def Keyword.comparison? : Keyword → Option (Int → Int → Bool)
  | minimum => some fun bound n => bound ≤ n
  | maximum => some fun bound n => n ≤ bound
  | exclusiveMinimum => some fun bound n => bound < n
  | exclusiveMaximum => some fun bound n => n < bound
  | _ => none

def boundDocument (keyword : Keyword) (m : Int) : Json := .object [(keyword.name, .number (.int m))]

namespace Compiler

open Number

variable {compiler : Compiler} {keyword : Keyword} {meets : Int → Int → Bool} {m bound : Int}

/-- The document is read into a node with one bound, which counts as the integer that it is converted to. -/
theorem readObject_boundDocument (hexact : exactIntOf (.ofInt m) = some bound)
    (hkeyword : keyword.comparison? = some meets) :
    Members.find? [(keyword.name, Json.number (.int m))] Keyword.reference.name = none ∧
    ∃ minimum maximum above below,
      (∀ inherited, readObject ⟨0, ""⟩ [(keyword.name, .number (.int m))] inherited =
        .done (.bounded inherited minimum maximum above below)) ∧
      ∀ n, (minimum.all ((Number.int n).meetsMinimum · above) && maximum.all ((Number.int n).meetsMaximum · below)) =
        meets bound n := by
  cases keyword <;> cases hkeyword
  · refine ⟨rfl, some (.ofInt m), none, false, false, fun _ => rfl, fun n => ?_⟩
    rw [Option.all_some, Option.all_none, Bool.and_true, meetsMinimum_int hexact]
    rfl
  · refine ⟨rfl, none, some (.ofInt m), false, false, fun _ => rfl, fun n => ?_⟩
    rw [Option.all_some, Option.all_none, Bool.true_and, meetsMaximum_int hexact]
    rfl
  · refine ⟨rfl, some (.ofInt m), none, true, false, fun _ => rfl, fun n => ?_⟩
    rw [Option.all_some, Option.all_none, Bool.and_true, meetsMinimum_int hexact]
    rfl
  · refine ⟨rfl, none, some (.ofInt m), false, true, fun _ => rfl, fun n => ?_⟩
    rw [Option.all_some, Option.all_none, Bool.true_and, meetsMaximum_int hexact]
    rfl

theorem verdict_boundDocument (hbuiltin : compiler.constraints = Constraint.builtin) (reader : Reader)
    (hexact : exactIntOf (.ofInt m) = some bound) (hkeyword : keyword.comparison? = some meets) :
    ∃ schema validator, reader.read? (boundDocument keyword m) = some (.ok schema) ∧
      compiler.compile schema = .ok validator ∧ ∀ n, validator.isValid? (.number (.int n)) = some (meets bound n) := by
  obtain ⟨hreference, minimum, maximum, above, below, hnode, hmeets⟩ := readObject_boundDocument hexact hkeyword
  obtain ⟨validator, hcompile, hverdict⟩ := compile_bounded hbuiltin
    (reader.rootVisit (boundDocument keyword m)).inherited minimum maximum above below
  refine ⟨_, validator, reader.read?_single hreference (hnode _), hcompile, fun n => ?_⟩
  rw [hverdict, hmeets]

/-- A document with an integer of 64 bits for a bound is read and compiled, and integers are compared exactly with what
the bound is rounded to. That is the integer itself wherever a binary64 number has its value, so up to `2 ^ 53`. -/
theorem integer_bounds_rounded (hbuiltin : compiler.constraints = Constraint.builtin) (reader : Reader)
    (hm : (Number.int m).Valid) :
    ∃ bound, RoundsTo m bound ∧ ∀ keyword meets, Keyword.comparison? keyword = some meets →
      ∃ schema validator, reader.read? (boundDocument keyword m) = some (.ok schema) ∧
        compiler.compile schema = .ok validator ∧
        ∀ n, validator.isValid? (.number (.int n)) = some (meets bound n) := by
  obtain ⟨bound, hrounds, hexact⟩ := exists_roundsTo hm
  exact ⟨bound, hrounds, fun _ _ hkeyword => verdict_boundDocument hbuiltin reader hexact hkeyword⟩

theorem integer_bounds_rounded_atLimit :
    ∃ schema validator, ({} : Reader).read? (boundDocument .maximum 9007199254740992) = some (.ok schema) ∧
      (ofOptions {}).compile schema = .ok validator ∧
      validator.isValid? (.number (.int 9007199254740992)) = some true ∧
      validator.isValid? (.number (.int 9007199254740993)) = some false := by
  have hbuiltin : (ofOptions {}).constraints = Constraint.builtin := rfl
  have hvalid : (Number.int 9007199254740992).Valid := by simp [Number.Valid]
  obtain ⟨bound, hrounds, hall⟩ := integer_bounds_rounded hbuiltin {} hvalid
  obtain rfl : bound = 9007199254740992 := hrounds.small (by decide)
  obtain ⟨schema, validator, hread, hcompile, hverdict⟩ := hall .maximum _ rfl
  exact ⟨schema, validator, hread, hcompile, by rw [hverdict]; rfl, by rw [hverdict]; rfl⟩

/-- A document with one bound that accepts an integer which does not keep to the bound as it is written. -/
def AcceptsBeyond (keyword : Keyword) (m n : Int) : Prop :=
  ∃ meets schema validator, keyword.comparison? = some meets ∧
    ({} : Reader).read? (boundDocument keyword m) = some (.ok schema) ∧
    (ofOptions {}).compile schema = .ok validator ∧
    validator.isValid? (.number (.int n)) = some true ∧ meets m n = false

theorem acceptsBeyond_of_exact {n : Int} (hexact : exactIntOf (.ofInt m) = some bound)
    (hkeyword : keyword.comparison? = some meets) (haccepts : meets bound n = true) (hbeyond : meets m n = false) :
    AcceptsBeyond keyword m n := by
  have hbuiltin : (ofOptions {}).constraints = Constraint.builtin := rfl
  obtain ⟨schema, validator, hread, hcompile, hverdict⟩ := verdict_boundDocument hbuiltin {} hexact hkeyword
  have hvalid : validator.isValid? (.number (.int n)) = some true := by rw [hverdict, haccepts]
  exact ⟨meets, schema, validator, hkeyword, hread, hcompile, hvalid, hbeyond⟩

/-- Above `2 ^ 53` neighbouring integers share a bound, whichever keyword has it. -/
theorem integer_bounds_inexact :
    AcceptsBeyond .minimum 9007199254740993 9007199254740992 ∧
    AcceptsBeyond .maximum 9007199254740995 9007199254740996 ∧
    AcceptsBeyond .exclusiveMinimum 9007199254740993 9007199254740993 ∧
    AcceptsBeyond .exclusiveMaximum 9007199254740995 9007199254740995 := by
  have hdown : exactIntOf (.ofInt 9007199254740993) = some 9007199254740992 := by decide +kernel
  have hup : exactIntOf (.ofInt 9007199254740995) = some 9007199254740996 := by decide +kernel
  refine ⟨?_, ?_, ?_, ?_⟩
  · exact acceptsBeyond_of_exact hdown rfl rfl rfl
  · exact acceptsBeyond_of_exact hup rfl rfl rfl
  · exact acceptsBeyond_of_exact hdown rfl rfl rfl
  · exact acceptsBeyond_of_exact hup rfl rfl rfl

end Compiler

end JsonSchema
