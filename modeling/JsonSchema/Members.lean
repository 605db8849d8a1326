/-!
Members in document order: a list of names with values, where a name keeps the place of its first occurrence and the
value of its last one.
-/
namespace JsonSchema

abbrev Members (α : Type) := List (String × α)

namespace Members

variable {α : Type}

def find? : Members α → String → Option α
  | [], _ => none
  | (name, value) :: rest, key => if name = key then some value else find? rest key

/-- Replaces the value of a name that is there and appends one that is not. -/
def insert : Members α → String → α → Members α
  | [], key, value => [(key, value)]
  | (name, old) :: rest, key, value =>
    if name = key then (name, value) :: rest else (name, old) :: insert rest key value

def contains (members : Members α) (key : String) : Bool := (find? members key).isSome

def names (members : Members α) : List String := members.map Prod.fst

def values (members : Members α) : List α := members.map Prod.snd

def ofPairs (pairs : List (String × α)) : Members α :=
  pairs.foldl (fun members (name, value) => insert members name value) []

@[simp] theorem find?_nil (key : String) : find? ([] : Members α) key = none := rfl

@[simp] theorem find?_insert_self (members : Members α) (key : String) (value : α) :
    find? (insert members key value) key = some value := by
  induction members with
  | nil => simp [insert, find?]
  | cons head rest ih => by_cases h : head.1 = key <;> simp [insert, find?, h, ih]

theorem find?_insert_of_ne {members : Members α} {key other : String} (h : key ≠ other) (value : α) :
    find? (insert members key value) other = find? members other := by
  induction members with
  | nil => simp [insert, find?, h]
  | cons head rest ih =>
    by_cases hk : head.1 = key
    · simp [insert, find?, hk, h]
    · simp only [insert, if_neg hk, find?, ih]

theorem mem_names_iff {members : Members α} {name : String} :
    name ∈ names members ↔ ∃ value, (name, value) ∈ members := by
  simp [names]

theorem mem_of_find? {members : Members α} {name : String} {value : α} (h : find? members name = some value) :
    (name, value) ∈ members := by
  induction members with
  | nil => cases h
  | cons head rest ih =>
    obtain ⟨other, old⟩ := head
    rw [find?] at h
    split at h
    · rename_i hname
      cases h
      simp [hname]
    · exact List.mem_cons_of_mem _ (ih h)

theorem exists_find?_of_mem {members : Members α} {name : String} (h : name ∈ names members) :
    ∃ value, find? members name = some value := by
  induction members with
  | nil => cases h
  | cons head rest ih =>
    rw [find?]
    split
    · exact ⟨_, rfl⟩
    · rename_i hne
      exact ih ((List.mem_cons.mp h).resolve_left fun heq => hne heq.symm)

theorem isSome_find?_iff {members : Members α} {name : String} :
    (find? members name).isSome ↔ name ∈ names members := by
  constructor
  · intro h
    obtain ⟨value, hvalue⟩ := Option.isSome_iff_exists.mp h
    exact mem_names_iff.mpr ⟨value, mem_of_find? hvalue⟩
  · intro h
    obtain ⟨value, hvalue⟩ := exists_find?_of_mem h
    exact Option.isSome_iff_exists.mpr ⟨value, hvalue⟩

theorem find?_of_mem {members : Members α} {name : String} {value : α} (hnodup : (names members).Nodup)
    (h : (name, value) ∈ members) : find? members name = some value := by
  induction members with
  | nil => cases h
  | cons head rest ih =>
    obtain ⟨hnew, hrest⟩ := List.nodup_cons.mp hnodup
    rw [find?]
    rcases List.mem_cons.mp h with rfl | hmem
    · exact if_pos rfl
    · have hne : head.1 ≠ name := by
        rintro rfl
        exact hnew (mem_names_iff.mpr ⟨value, hmem⟩)
      rw [if_neg hne]
      exact ih hrest hmem

end Members

/-- A list of names to which a name is added only once. -/
def insertName (names : List String) (name : String) : List String :=
  if name ∈ names then names else names ++ [name]

@[simp] theorem mem_insertName {names : List String} {name other : String} :
    other ∈ insertName names name ↔ other ∈ names ∨ other = name := by
  unfold insertName
  split
  · constructor
    · exact Or.inl
    · rintro (h | rfl) <;> assumption
  · simp

end JsonSchema
