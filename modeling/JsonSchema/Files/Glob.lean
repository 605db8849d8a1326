import JsonSchema.Files

/-!
Path patterns. In a part of a path `*` stands for any text, `?` for any character and brackets for one out of a set or
not in it; a part `**` stands for any number of directories. Matches come in the order of their names, and what lies in
a directory right after it.
-/
namespace JsonSchema.Glob

inductive Problem where
  | wildcards
  | recursiveWildcards
  | range
deriving DecidableEq

def Problem.text : Problem → String
  | wildcards => "wildcards are either regular `*` or recursive `**`"
  | recursiveWildcards => "recursive wildcards must form a single path component"
  | range => "invalid range pattern"

structure Fault where
  position : Nat
  problem : Problem
deriving DecidableEq

def Fault.message (fault : Fault) : String :=
  "Pattern syntax error near position " ++ toString fault.position ++ ": " ++ fault.problem.text

inductive Token where
  | char (c : Char)
  | anyChar
  | anyText
  /-- Any number of directories. -/
  | anyDirectories
  /-- A character between the ends of one of the ranges, or of none of them. -/
  | oneOf (ranges : List (Char × Char)) (negated : Bool)
deriving DecidableEq

def ranges : List Char → List (Char × Char)
  | low :: '-' :: high :: rest => (low, high) :: ranges rest
  | c :: rest => (c, c) :: ranges rest
  | [] => []

def splitBracket? : List Char → Option (List Char × List Char)
  | [] => none
  | first :: rest =>
    let inside := rest.takeWhile (· != ']')
    match rest.drop inside.length with
    | [] => none
    | _ :: after => some (first :: inside, after)

theorem length_splitBracket? {text inside after : List Char} (h : splitBracket? text = some (inside, after)) :
    inside.length + after.length < text.length := by
  cases text with
  | nil => simp [splitBracket?] at h
  | cons first rest =>
    simp only [splitBracket?] at h
    split at h
    · simp at h
    · rename_i drop
      simp only [Option.some.injEq, Prod.mk.injEq] at h
      obtain ⟨rfl, rfl⟩ := h
      have := congrArg List.length drop
      simp only [List.length_drop, List.length_cons] at this ⊢
      omega

/-- Reads a pattern from a position on, given the character before it. -/
def tokensFrom (position : Nat) (before : Option Char) : List Char → Except Fault (List Token)
  | [] => .ok []
  | '*' :: '*' :: '*' :: _ => .error ⟨position + 2, .wildcards⟩
  | '*' :: '*' :: rest =>
    if before.any (· != '/') then .error ⟨position - 1, .recursiveWildcards⟩
    else
      match rest with
      | [] => .ok [.anyDirectories]
      | '/' :: rest => do pure (.anyDirectories :: (← tokensFrom (position + 3) (some '/') rest))
      | _ => .error ⟨position + 2, .recursiveWildcards⟩
  | '*' :: rest => do pure (.anyText :: (← tokensFrom (position + 1) (some '*') rest))
  | '?' :: rest => do pure (.anyChar :: (← tokensFrom (position + 1) (some '?') rest))
  | '[' :: rest =>
    let negated := rest.head? == some '!'
    match _found : splitBracket? (if negated then rest.tail else rest) with
    | none => .error ⟨position, .range⟩
    | some (inside, after) => do
      let width := inside.length + if negated then 3 else 2
      pure (.oneOf (ranges inside) negated :: (← tokensFrom (position + width) (some ']') after))
  | c :: rest => do pure (.char c :: (← tokensFrom (position + 1) (some c) rest))
termination_by text => text.length
decreasing_by
  · simp; omega
  · simp
  · simp
  · have h := length_splitBracket? _found
    split at h <;> simp at h ⊢ <;> omega
  · simp

def tokens (pattern : String) : Except Fault (List Token) := tokensFrom 0 none pattern.toList

def suffixes : List Char → List (List Char)
  | [] => [[]]
  | c :: rest => (c :: rest) :: suffixes rest

def accepts : List Token → List Char → Bool
  | [], name => name.isEmpty
  | .anyText :: rest, name => (suffixes name).any (accepts rest)
  | .anyDirectories :: rest, name => (suffixes name).any (accepts rest)
  | .anyChar :: rest, name =>
    match name with
    | [] => false
    | _ :: name => accepts rest name
  | .char c :: rest, name =>
    match name with
    | [] => false
    | d :: name => c == d && accepts rest name
  | .oneOf ranges negated :: rest, name =>
    match name with
    | [] => false
    | d :: name => (ranges.any fun (low, high) => low ≤ d && d ≤ high) != negated && accepts rest name

def literal? : List Token → Option (List Char)
  | [] => some []
  | .char c :: rest => (literal? rest).map (c :: ·)
  | _ => none

def isRecursive (part : List Token) : Bool := part.contains .anyDirectories

def isHere (path : String) : Bool :=
  match pathParts path with
  | first :: rest => first == "." && rest.all fun part => part == "" || part == "."
  | [] => false

def join (path name : String) : String := if path.endsWith "/" then path ++ name else path ++ "/" ++ name

def inside (path name : String) : String := if isHere path then name else join path name

variable {m : Type → Type} [Monad m]

/-- A path to be returned, unless it has to be a directory and is none. -/
def finish (files : Files m) (directories : Bool) (path : String) : m (List String) := do
  if directories then
    if ← files.isDirectory path then pure [path] else pure []
  else pure [path]

/-- What the matches of parts below a directory are. -/
abbrev Descent (m : Type → Type) := List (List Token) → String → m (List String)

/-- The matches below a path that some parts have led to, or the path itself if no part is left. -/
def arrive (files : Files m) (directories : Bool) (descend : Descent m) (rest : List (List Token)) (path : String) :
    m (List String) :=
  if rest.isEmpty then finish files directories path else descend rest path

def byName (files : Files m) (directories : Bool) (descend : Descent m) (parts : List (List Token))
    (name path : String) : m (List String) :=
  match parts with
  | [] => pure []
  | part :: rest => if accepts part name.toList then arrive files directories descend rest path else pure []

/-- The matches that begin with an entry of a directory. A part for any number of directories goes on in a directory,
and gives way to the parts after it. -/
def visit (files : Files m) (directories : Bool) (descend : Descent m) (parts : List (List Token))
    (name path : String) : m (List String) := do
  if (parts.head?.map isRecursive).getD false then
    let after := parts.dropWhile isRecursive
    let here ← byName files directories descend after name path
    if ← files.isDirectory path then do
      let deeper ← descend ([.anyDirectories] :: after) path
      pure ((if after.isEmpty then [path] else here) ++ deeper)
    else pure here
  else byName files directories descend parts name path

/-- The matches of parts below a directory. Each round takes a step down a path or goes on to the next part. -/
def below (files : Files m) (directories : Bool) : Nat → Descent m
  | 0, _, _ => pure []
  | _ + 1, [], _ => pure []
  | rounds + 1, part :: rest, path => do
    let descend := below files directories rounds
    match literal? part with
    | some name => do
      let next := inside path (String.ofList name)
      let special := name == ['.'] || name == ['.', '.']
      if ← if special then files.isDirectory path else files.isPresent next then
        arrive files directories descend rest next
      else pure []
    | none =>
      if ← files.isDirectory path then do
        let special := if part.head? == some (.char '.') then [['.', '.'], ['.']].filter (accepts part) else []
        let specials ← special.mapM fun name =>
          arrive files directories descend rest (join path (String.ofList name))
        let names := (← files.names path).mergeSort
        let matched ← names.mapM fun name => visit files directories descend (part :: rest) name (inside path name)
        pure (specials.flatten ++ matched.flatten)
      else pure []

/-- No path is longer than this, so none goes down further. -/
def longestPath : Nat := 4096

def paths (files : Files m) (pattern : String) : ExceptT Fault m (List String) := do
  let _ ← ExceptT.mk (pure (tokens pattern))
  let root := pattern.toList.head? == some '/'
  let body := if root then String.ofList pattern.toList.tail else pattern
  let parts := pathParts body
  let parts := if parts.getLast? == some "" then parts.dropLast else parts
  let parts ← ExceptT.mk (pure (parts.mapM tokens))
  ExceptT.lift (below files (pattern.toList.getLast? == some '/') (longestPath + parts.length) parts
    (if root then "/" else "."))

def isPattern (path : String) : Bool := path.toList.any fun c => c == '*' || c == '?' || c == '[' || c == '\x7b'

end JsonSchema.Glob
