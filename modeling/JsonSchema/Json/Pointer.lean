import JsonSchema.Json

/-!
JSON Pointers: texts that lead from a value to a part of it. A pointer is empty or a list of segments, each after a
slash; within a segment `~1` stands for a slash and `~0` for a tilde.
-/
namespace JsonSchema.Json.Pointer

def escapeChar : Char → List Char
  | '~' => ['~', '0']
  | '/' => ['~', '1']
  | c => [c]

def escape (segment : List Char) : List Char := segment.flatMap escapeChar

/-- Undoes `escape`. A tilde before any other character stands for itself. -/
def unescape : List Char → List Char
  | '~' :: '0' :: rest => '~' :: unescape rest
  | '~' :: '1' :: rest => '/' :: unescape rest
  | c :: rest => c :: unescape rest
  | [] => []

def splitSegments : List Char → List (List Char)
  | [] => [[]]
  | '/' :: rest => [] :: splitSegments rest
  | c :: rest =>
    match splitSegments rest with
    | [] => [[c]]
    | first :: more => (c :: first) :: more

def segments? : List Char → Option (List (List Char))
  | [] => some []
  | '/' :: rest => some ((splitSegments rest).map unescape)
  | _ => none

/-- An index in an array: decimal digits without a needless zero at the front. -/
def index? (segment : List Char) : Option Nat :=
  if segment.isEmpty || !segment.all Char.isDigit then none
  else if segment.head? == some '0' && segment.length != 1 then none
  else some (segment.foldl (fun n c => n * 10 + (c.toNat - 0x30)) 0)

def part? (segment : List Char) : Json → Option Json
  | .array items => (index? segment).bind (items[·]?)
  | .object members => Members.find? members (String.ofList segment)
  | _ => none

def follow? : List (List Char) → Json → Option Json
  | [], value => some value
  | segment :: rest, value => (part? segment value).bind (follow? rest)

def push (pointer segment : String) : String :=
  String.ofList (pointer.toList ++ '/' :: escape segment.toList)

@[simp] theorem unescape_escape (segment : List Char) : unescape (escape segment) = segment := by
  induction segment with
  | nil => rfl
  | cons c rest ih =>
    have h : escape (c :: rest) = escapeChar c ++ escape rest := rfl
    rw [h]
    unfold escapeChar
    split
    · simp [unescape, ih]
    · simp [unescape, ih]
    · rename_i ht _
      simp only [List.cons_append, List.nil_append]
      rw [unescape.eq_3 _ _ (fun _ e => (ht e).elim) (fun _ e => (ht e).elim), ih]

end JsonSchema.Json.Pointer

namespace JsonSchema.Json

/-- The part of a value that a pointer leads to. -/
def at? (value : Json) (pointer : String) : Option Json :=
  (Pointer.segments? pointer.toList).bind fun segments => Pointer.follow? segments value

end JsonSchema.Json
