import JsonSchema.Reader
import Mathlib.Data.Nat.Digits.Defs

/-!
The pointers of a value. Each pointer that leads to a part of a value is in a list that follows the value, and the list
is no longer than the count of pointers that bounds the reading of schemas.
-/
namespace JsonSchema.Json

namespace Pointer

/-- The texts without slashes that a segment may be written as, and perhaps some more. -/
def spellingsOf : List Char → List (List Char)
  | [] => [[]]
  | '~' :: rest => (spellingsOf rest).flatMap fun text => ['~' :: '0' :: text, '~' :: text]
  | '/' :: rest => (spellingsOf rest).map fun text => '~' :: '1' :: text
  | c :: rest => (spellingsOf rest).map fun text => c :: text

theorem mem_spellingsOf {text : List Char} (h : '/' ∉ text) : text ∈ spellingsOf (unescape text) := by
  fun_induction unescape text with
  | case1 rest ih =>
    have hrest : rest ∈ spellingsOf (unescape rest) := ih (by simp_all)
    simp only [spellingsOf, List.mem_flatMap]
    exact ⟨rest, hrest, by simp⟩
  | case2 rest ih =>
    have hrest : rest ∈ spellingsOf (unescape rest) := ih (by simp_all)
    simpa [spellingsOf] using hrest
  | case3 c rest hzero hone ih =>
    obtain ⟨hc, hslash⟩ : '/' ≠ c ∧ '/' ∉ rest := by simpa using h
    have hrest : rest ∈ spellingsOf (unescape rest) := ih hslash
    by_cases htilde : c = '~'
    · subst c
      simp only [spellingsOf, List.mem_flatMap]
      exact ⟨rest, hrest, by simp⟩
    · rw [spellingsOf]
      · exact List.mem_map_of_mem hrest
      · exact htilde
      · exact Ne.symm hc
  | case4 => simp [spellingsOf]

theorem length_spellingsOf (segment : List Char) : (spellingsOf segment).length = 2 ^ segment.count '~' := by
  fun_induction spellingsOf segment with
  | case1 => rfl
  | case2 rest ih => simp [List.length_flatMap, List.map_const', ih, Nat.pow_succ]
  | case3 rest ih => simpa using ih
  | case4 c rest htilde hslash ih =>
    have hne : c ≠ '~' := htilde
    simpa [List.count_cons, hne] using ih

def digitsOf (index : Nat) : List Char :=
  if index = 0 then ['0'] else (Nat.digits 10 index).reverse.map fun digit => Char.ofNat (digit + 0x30)

theorem ofNat_digit {c : Char} (h : c.isDigit) : Char.ofNat (c.toNat - 0x30 + 0x30) = c := by
  have hle : 0x30 ≤ c.toNat := by
    simp only [Char.isDigit, Bool.and_eq_true, decide_eq_true_eq] at h
    exact UInt32.le_iff_toNat_le.mp h.1
  rw [Nat.sub_add_cancel hle, Char.ofNat_toNat]

theorem digit_lt {c : Char} (h : c.isDigit) : c.toNat - 0x30 < 10 := by
  simp only [Char.isDigit, Bool.and_eq_true, decide_eq_true_eq] at h
  have hle : c.toNat ≤ 0x39 := UInt32.le_iff_toNat_le.mp h.2
  omega

theorem digit_ne_zero {c : Char} (h : c.isDigit) (hne : c ≠ '0') : c.toNat - 0x30 ≠ 0 := by
  intro hzero
  have hc := ofNat_digit h
  rw [hzero] at hc
  exact hne hc.symm

/-- An index is written in one way only. -/
theorem eq_digitsOf {segment : List Char} {index : Nat} (h : index? segment = some index) :
    segment = digitsOf index := by
  unfold index? at h
  split at h
  · cases h
  rename_i hdigits
  split at h
  · cases h
  rename_i hlead
  simp only [Option.some.injEq] at h
  obtain ⟨hne, hall⟩ : segment ≠ [] ∧ ∀ c ∈ segment, c.isDigit := by simpa using hdigits
  have hvalue : Nat.ofDigits 10 (segment.map fun c => c.toNat - 0x30).reverse = index := by
    rw [Nat.ofDigits_eq_foldr, List.foldr_reverse, List.foldl_map, ← h]
    exact congrArg (fun f => segment.foldl f 0) (funext fun n => funext fun c => by simp; omega)
  by_cases hzero : segment = ['0']
  · subst hzero
    obtain rfl : 0 = index := by simpa using hvalue
    rfl
  · have hhead : ∀ hne' : (segment.map fun c => c.toNat - 0x30).reverse ≠ [],
        (segment.map fun c => c.toNat - 0x30).reverse.getLast hne' ≠ 0 := by
      intro _
      cases segment with
      | nil => exact absurd rfl hne
      | cons c rest =>
        simp only [List.map_cons, List.reverse_cons, List.getLast_concat]
        refine digit_ne_zero (hall c (by simp)) ?_
        rintro rfl
        have : rest ≠ [] := fun hnil => hzero (by rw [hnil])
        simp [this] at hlead
    have hlt : ∀ digit ∈ (segment.map fun c => c.toNat - 0x30).reverse, digit < 10 := by
      intro digit hmem
      obtain ⟨c, hc, rfl⟩ := List.mem_map.mp (List.mem_reverse.mp hmem)
      exact digit_lt (hall c hc)
    have hback := Nat.digits_ofDigits 10 (by omega) _ hlt hhead
    rw [hvalue] at hback
    have hpos : index ≠ 0 := by
      rintro rfl
      rw [Nat.digits_zero] at hback
      exact hne (by simpa using hback.symm)
    rw [digitsOf, if_neg hpos, hback, List.reverse_reverse, List.map_map]
    calc
      segment = segment.map id := segment.map_id.symm
      _ = _ := List.map_congr_left fun c hc => (ofNat_digit (hall c hc)).symm

theorem eq_digitsOf_of_unescape {part : List Char} {index : Nat} (hpart : '/' ∉ part)
    (h : index? (unescape part) = some index) : part = digitsOf index := by
  have hall : ∀ c ∈ unescape part, c.isDigit := by
    unfold index? at h
    split at h
    · cases h
    · rename_i hdigits
      simp_all
  have hplain (segment : List Char) (hdigits : ∀ c ∈ segment, c.isDigit) : spellingsOf segment = [segment] := by
    induction segment with
    | nil => rfl
    | cons c rest ih =>
      rw [spellingsOf]
      · simp [ih fun other hmem => hdigits other (by simp [hmem])]
      · rintro rfl
        exact absurd (hdigits '~' (by simp)) (by decide)
      · rintro rfl
        exact absurd (hdigits '/' (by simp)) (by decide)
  have hmem := mem_spellingsOf hpart
  rw [hplain _ hall] at hmem
  rw [← eq_digitsOf h]
  simpa using hmem

theorem splitSegments_cases (text : List Char) :
    (splitSegments text).flatMap (fun part => '/' :: part) = '/' :: text ∧ ∀ part ∈ splitSegments text, '/' ∉ part := by
  fun_induction splitSegments text with
  | case1 => simp
  | case2 rest ih => simpa using ih
  | case3 c rest hslash hnil ih => simp [hnil] at ih
  | case4 c rest hslash first more hsplit ih =>
    obtain ⟨htext, hparts⟩ := ih
    have hne : '/' ≠ c := fun heq => hslash heq.symm
    simp only [hsplit, List.flatMap_cons, List.cons_append, List.cons.injEq, true_and] at htext
    refine ⟨by simp [htext], fun part hmem => ?_⟩
    rcases List.mem_cons.mp hmem with rfl | hmem
    · simpa [hne] using hparts first (by simp [hsplit])
    · exact hparts part (by simp [hsplit, hmem])

theorem exists_parts {pointer : List Char} {segments : List (List Char)} (h : segments? pointer = some segments) :
    ∃ parts : List (List Char), (∀ part ∈ parts, '/' ∉ part) ∧ segments = parts.map unescape ∧
      pointer = parts.flatMap fun part => '/' :: part := by
  unfold segments? at h
  split at h
  · cases h
    exact ⟨[], by simp, rfl, rfl⟩
  · rename_i rest
    cases h
    obtain ⟨htext, hparts⟩ := splitSegments_cases rest
    exact ⟨splitSegments rest, hparts, rfl, htext.symm⟩
  · cases h

end Pointer

mutual

/-- The pointers that lead to parts of a value, and perhaps some more. -/
def pointers : Json → List (List Char)
  | array items => [] :: pointersOfItems 0 items
  | object members => [] :: pointersOfMembers members
  | _ => [[]]

def pointersOfItems (index : Nat) : List Json → List (List Char)
  | [] => []
  | item :: rest =>
    (pointers item).map (fun more => '/' :: Pointer.digitsOf index ++ more) ++ pointersOfItems (index + 1) rest

def pointersOfMembers : List (String × Json) → List (List Char)
  | [] => []
  | (name, value) :: rest =>
    (Pointer.spellingsOf name.toList).flatMap (fun text => (pointers value).map fun more => '/' :: text ++ more) ++
      pointersOfMembers rest

end

mutual

theorem length_pointers : (value : Json) → (pointers value).length = pointerCount value
  | .array items => by simp [pointers, pointerCount, length_pointersOfItems 0 items]
  | .object members => by simp [pointers, pointerCount, length_pointersOfMembers members]
  | .null | .bool _ | .number _ | .string _ => by simp [pointers, pointerCount]

theorem length_pointersOfItems (index : Nat) :
    (items : List Json) → (pointersOfItems index items).length = pointerCountOfItems items
  | [] => rfl
  | item :: rest => by
    simp [pointersOfItems, pointerCountOfItems, length_pointers item, length_pointersOfItems (index + 1) rest]

theorem length_pointersOfMembers :
    (members : List (String × Json)) → (pointersOfMembers members).length = pointerCountOfMembers members
  | [] => rfl
  | (name, value) :: rest => by
    simp [pointersOfMembers, pointerCountOfMembers, spellings, length_pointers value, length_pointersOfMembers rest,
      List.length_flatMap, List.map_const', Pointer.length_spellingsOf]

end

theorem mem_pointersOfItems {items : List Json} (start : Nat) {index : Nat} {item : Json} {more : List Char}
    (hitem : items[index]? = some item) (hmore : more ∈ pointers item) :
    '/' :: Pointer.digitsOf (start + index) ++ more ∈ pointersOfItems start items := by
  induction items generalizing start index with
  | nil => simp at hitem
  | cons head rest ih =>
    rw [pointersOfItems, List.mem_append]
    cases index with
    | zero =>
      obtain rfl : head = item := by simpa using hitem
      exact .inl (List.mem_map.mpr ⟨more, hmore, rfl⟩)
    | succ index =>
      rw [List.getElem?_cons_succ] at hitem
      rw [show start + (index + 1) = start + 1 + index by omega]
      exact .inr (ih (start + 1) hitem)

theorem mem_pointersOfMembers {members : Members Json} {part : List Char} {value : Json} {more : List Char}
    (hpart : '/' ∉ part) (hvalue : Members.find? members (String.ofList (Pointer.unescape part)) = some value)
    (hmore : more ∈ pointers value) : '/' :: part ++ more ∈ pointersOfMembers members := by
  induction members with
  | nil => cases hvalue
  | cons head rest ih =>
    obtain ⟨name, other⟩ := head
    rw [pointersOfMembers, List.mem_append]
    rw [Members.find?] at hvalue
    split at hvalue
    · rename_i hname
      cases hvalue
      refine .inl (List.mem_flatMap.mpr ⟨part, ?_, List.mem_map.mpr ⟨more, hmore, rfl⟩⟩)
      rw [hname, String.toList_ofList]
      exact Pointer.mem_spellingsOf hpart
    · exact .inr (ih hvalue)

theorem mem_pointers_of_follow? {parts : List (List Char)} {value : Json} (hparts : ∀ part ∈ parts, '/' ∉ part)
    (h : (Pointer.follow? (parts.map Pointer.unescape) value).isSome) :
    parts.flatMap (fun part => '/' :: part) ∈ pointers value := by
  induction parts generalizing value with
  | nil => cases value <;> simp [pointers]
  | cons part rest ih =>
    obtain ⟨last, hlast⟩ := Option.isSome_iff_exists.mp h
    obtain ⟨inner, hpart, hrest⟩ := Option.bind_eq_some_iff.mp hlast
    have hmore : rest.flatMap (fun part => '/' :: part) ∈ pointers inner :=
      ih (fun other hmem => hparts other (by simp [hmem])) (by simp [hrest])
    rw [List.flatMap_cons]
    have hslash : '/' ∉ part := hparts part (by simp)
    cases value with
    | array items =>
      obtain ⟨index, hindex, hitem⟩ := Option.bind_eq_some_iff.mp hpart
      rw [Pointer.eq_digitsOf_of_unescape hslash hindex]
      have hmem := mem_pointersOfItems 0 hitem hmore
      exact List.mem_cons_of_mem _ (by simpa using hmem)
    | object members => exact List.mem_cons_of_mem _ (mem_pointersOfMembers hslash hpart hmore)
    | _ => cases hpart

/-- Every pointer that leads to a part of a value is in the list. -/
theorem mem_pointers {value : Json} {pointer : String} (h : (value.at? pointer).isSome) :
    pointer.toList ∈ pointers value := by
  obtain ⟨last, hlast⟩ := Option.isSome_iff_exists.mp h
  obtain ⟨segments, hsegments, hfollow⟩ := Option.bind_eq_some_iff.mp hlast
  obtain ⟨parts, hparts, rfl, hpointer⟩ := Pointer.exists_parts hsegments
  rw [hpointer]
  exact mem_pointers_of_follow? hparts (by simp [hfollow])

end JsonSchema.Json
