import JsonSchema.Pattern.CharSet

/-!
Patterns and where they match. A pattern takes the set of positions in a text where a match may stand to the set of
positions where it may stand after the pattern; the sets are bit masks. A text matches if some position is left when
the pattern starts from all of them, so neither the order of alternatives nor greed plays a part.
-/
namespace JsonSchema.Pattern

/-- Conditions on a position. The half boundaries look at one side only. -/
inductive Look where
  | start
  | finish
  | lineStart (crlf : Bool)
  | lineEnd (crlf : Bool)
  | wordBoundary (unicode : Bool)
  | notWordBoundary (unicode : Bool)
  | wordStart (unicode : Bool)
  | wordEnd (unicode : Bool)
  | wordStartHalf (unicode : Bool)
  | wordEndHalf (unicode : Bool)

/-- A pattern over leaves that match one character. Flags in the text of a pattern leave a mark that matches nothing. -/
inductive Expression (σ : Type) where
  | empty
  | flags
  | one (leaf : σ) (nesting : Nat)
  | look (condition : Look)
  | group (body : Expression σ)
  | repeated (body : Expression σ) (least : Nat) (most : Option Nat)
  | sequence (parts : List (Expression σ))
  | choice (branches : List (Expression σ))

namespace Expression

variable {σ τ : Type}

mutual

def nesting : Expression σ → Nat
  | empty => 0
  | flags => 0
  | look _ => 0
  | one _ inner => inner
  | group body => body.nesting + 1
  | repeated body _ _ => body.nesting + 1
  | sequence parts => nestingOfAll parts + 1
  | choice branches => nestingOfAll branches + 1

def nestingOfAll : List (Expression σ) → Nat
  | [] => 0
  | part :: rest => max part.nesting (nestingOfAll rest)

end

mutual

def map (f : σ → τ) : Expression σ → Expression τ
  | empty => .empty
  | flags => .flags
  | look condition => .look condition
  | one leaf inner => .one (f leaf) inner
  | group body => .group (body.map f)
  | repeated body least most => .repeated (body.map f) least most
  | sequence parts => .sequence (mapAll f parts)
  | choice branches => .choice (mapAll f branches)

def mapAll (f : σ → τ) : List (Expression σ) → List (Expression τ)
  | [] => []
  | part :: rest => part.map f :: mapAll f rest

end

def ofParts : List (Expression σ) → Expression σ
  | [] => empty
  | [part] => part
  | parts => sequence parts

def ofBranches : List (Expression σ) → Expression σ
  | [] => empty
  | [branch] => branch
  | branches => choice branches

end Expression

def positionsWhere (test : Option Nat → Option Nat → Bool) (text : List Nat) : Nat :=
  go none text 0 0
where
  go (before : Option Nat) : List Nat → Nat → Nat → Nat
    | [], i, mask => if test before none then mask ||| 1 <<< i else mask
    | c :: rest, i, mask => go (some c) rest (i + 1) (if test before (some c) then mask ||| 1 <<< i else mask)

/-- The positions that a condition allows. Whether a line may end between a carriage return and a line feed, and
where the text begins, takes a look at both neighbours. -/
def Look.holds : Look → Option Nat → Option Nat → Bool
  | start, before, _ => before.isNone
  | finish, _, after => after.isNone
  | lineStart false, before, _ => before.isNone || before == some 0x0a
  | lineStart true, before, after =>
    before.isNone || before == some 0x0a || (before == some 0x0d && after != some 0x0a)
  | lineEnd false, _, after => after.isNone || after == some 0x0a
  | lineEnd true, before, after =>
    after.isNone || after == some 0x0d || (after == some 0x0a && before != some 0x0d)
  | wordBoundary u, before, after => before.any (isWord u) != after.any (isWord u)
  | notWordBoundary u, before, after => before.any (isWord u) == after.any (isWord u)
  | wordStart u, before, after => !before.any (isWord u) && after.any (isWord u)
  | wordEnd u, before, after => before.any (isWord u) && !after.any (isWord u)
  | wordStartHalf u, before, _ => !before.any (isWord u)
  | wordEndHalf u, _, after => !after.any (isWord u)
where
  isWord (unicode : Bool) : CharSet := CharSet.ofLetter unicode 'w'

def iterate (step : Nat → Nat) : Nat → Nat → Nat
  | 0, positions => positions
  | n + 1, positions => if positions = 0 then 0 else iterate step n (step positions)

/-- All positions reached by at most so many steps; `fresh` are those reached last. -/
def reach (step : Nat → Nat) : Nat → Nat → Nat → Nat
  | 0, seen, _ => seen
  | n + 1, seen, fresh =>
    let next := step fresh
    let fresh := next ^^^ (next &&& seen)
    if fresh = 0 then seen else reach step n (seen ||| fresh) fresh

namespace Expression

mutual

/-- The positions after a pattern from those before it, in a text whose leaves are masks of character positions. A
step moves forward or stays, so more rounds than positions change nothing. -/
def ends (text : List Nat) : Expression Nat → Nat → Nat
  | empty, positions => positions
  | flags, positions => positions
  | one mask _, positions => (positions &&& mask) <<< 1
  | look condition, positions => positions &&& positionsWhere condition.holds text
  | group body, positions => ends text body positions
  | repeated body least most, positions =>
    let rounds := text.length + 1
    let start := iterate (fun p => ends text body p) (min least rounds) positions
    let more := (most.map (min rounds <| · - least)).getD rounds
    reach (fun p => ends text body p) more start start
  | sequence parts, positions => endsOfSequence text parts positions
  | choice branches, positions => endsOfChoice text branches positions

def endsOfSequence (text : List Nat) : List (Expression Nat) → Nat → Nat
  | [], positions => positions
  | part :: rest, positions => endsOfSequence text rest (ends text part positions)

def endsOfChoice (text : List Nat) : List (Expression Nat) → Nat → Nat
  | [], _ => 0
  | branch :: rest, positions => ends text branch positions ||| endsOfChoice text rest positions

end

def charactersIn (text : List Nat) (set : CharSet) : Nat :=
  positionsWhere (fun _ after => after.any set) text

def isMatch (pattern : Expression CharSet) (subject : String) : Bool :=
  let text := subject.toList.map Char.toNat
  ends text (pattern.map (charactersIn text)) (1 <<< (text.length + 1) - 1) != 0

end Expression

end JsonSchema.Pattern
