import JsonSchema.Pattern.Expression
import JsonSchema.Unicode.Recent

/-!
Reading the text of a pattern. What is not a pattern, or asks for what a search over sets of positions cannot do (a
look at what follows, a reference to what matched), has no expression. Flags hold from where they are set to the end
of their group.
-/
namespace JsonSchema.Pattern

structure Flags where
  ignoreCase : Bool
  multiLine : Bool
  dotAll : Bool
  crlf : Bool
  unicode : Bool
  ignoreSpace : Bool

def Flags.initial : Flags := ⟨false, false, false, false, true, false⟩

structure ReadState where
  rest : List Char
  flags : Flags
  names : List (List Char)

abbrev Reading := StateT ReadState Option

def maxNesting : Nat := 250

namespace Reading

variable {α : Type}

def rest : Reading (List Char) := do pure (← get).rest

def setRest (rest : List Char) : Reading Unit := modify ({ · with rest := rest })

def flags : Reading Flags := do pure (← get).flags

def setFlags (flags : Flags) : Reading Unit := modify ({ · with flags := flags })

def isBlank (c : Char) : Bool := Unicode.whiteSpace.contains c.toNat

def dropSpace (inComment : Bool) : List Char → List Char
  | [] => []
  | c :: rest =>
    if inComment then dropSpace (c != '\n') rest
    else if isBlank c then dropSpace false rest
    else if c == '#' then dropSpace true rest
    else c :: rest

def skipSpace : Reading Unit := do
  if (← flags).ignoreSpace then setRest (dropSpace false (← rest))

def peek? : Reading (Option Char) := do pure (← rest).head?

def next : Reading Char := do
  match ← rest with
  | [] => failure
  | c :: rest => do setRest rest; pure c

def nextThenSpace : Reading Char := do
  let c ← next
  skipSpace
  pure c

def peek : Reading Char := do
  match ← peek? with
  | some c => pure c
  | none => failure

def expect (c : Char) : Reading Unit := do
  if (← next) == c then pure () else failure

def skipText? (text : String) : Reading Bool := do
  let chars := text.toList
  let rest ← rest
  if chars.isPrefixOf rest then do
    setRest (rest.drop chars.length)
    pure true
  else pure false

/-- A character as a pattern has it: itself, or one given by two hexadecimal digits that may stand for a byte. -/
structure Literal where
  code : Nat
  isByte : Bool

/-- The code point of a literal. Without the flag for Unicode a byte outside ASCII cannot occur in a text. -/
def literalCode (literal : Literal) : Reading Nat := do
  if !(← flags).unicode && literal.isByte && literal.code ≥ 0x80 then failure else pure literal.code

def classCode (literal : Literal) : Reading Nat := do
  if !(← flags).unicode && literal.code ≥ 0x80 then failure else pure literal.code

def literalSet (literal : Literal) : Reading CharSet := do
  let code ← literalCode literal
  let flags ← flags
  let set := CharSet.one code
  pure (if flags.ignoreCase then set.foldCase flags.unicode else set)

def hexValue (digits : List Char) : Option Nat :=
  digits.foldlM (fun n c =>
    let code := c.toNat
    if '0' ≤ c && c ≤ '9' then some (n * 16 + (code - 0x30))
    else if 'a' ≤ c && c ≤ 'f' then some (n * 16 + (code - 0x57))
    else if 'A' ≤ c && c ≤ 'F' then some (n * 16 + (code - 0x37))
    else none) 0

def isScalar (n : Nat) : Bool := n < 0xd800 || (0xdfff < n && n < 0x110000)

/-- The characters up to a closing brace, which is read; space among them is skipped. -/
def untilBrace : Nat → List Char → Reading (List Char)
  | 0, _ => failure
  | fuel + 1, found => do
    let c ← next
    if c == '\x7d' then pure found.reverse
    else do
      skipSpace
      untilBrace fuel (c :: found)

def fixed : Nat → List Char → Reading (List Char)
  | 0, found => pure found.reverse
  | n + 1, found => do
    let c ← nextThenSpace
    fixed n (c :: found)

def hexLiteral (letter : Char) : Reading Literal := do
  skipSpace
  let braced := (← peek) == '\x7b'
  let digits ←
    if braced then do
      discard nextThenSpace
      let found ← untilBrace (← rest).length []
      skipSpace
      pure found
    else fixed (if letter == 'x' then 2 else if letter == 'u' then 4 else 8) []
  match if digits.isEmpty then none else hexValue digits with
  | some code => if isScalar code then pure ⟨code, letter == 'x' && !braced⟩ else failure
  | none => failure

inductive Escaped where
  | literal (value : Literal)
  | set (value : CharSet)
  | look (condition : Look)

def splitAt? (mark : List Char) (before : List Char) : List Char → Option (List Char × List Char)
  | [] => none
  | c :: rest =>
    if mark.isPrefixOf (c :: rest) then some (before.reverse, (c :: rest).drop mark.length)
    else splitAt? mark (c :: before) rest

def property (negated : Bool) : Reading CharSet := do
  let flags ← flags
  skipSpace
  let set? ← do
    if (← peek) == '\x7b' then do
      discard nextThenSpace
      let name ← untilBrace (← rest).length []
      pure <| match splitAt? ['!', '='] [] name <|> splitAt? [':'] [] name <|> splitAt? ['='] [] name with
        | some (name, value) => CharSet.ofValue? name value
        | none => CharSet.ofProperty? name
    else do
      let c ← nextThenSpace
      if c == '\\' then failure else pure (CharSet.ofProperty? [c])
  match if flags.unicode then set? else none with
  | none => failure
  | some set =>
    let set := if flags.ignoreCase then set.foldCase true else set
    pure (if negated then set.complement else set)

/-- A class named by a letter. Without the flag for Unicode its complement is no set of characters. -/
def letterClass (letter : Char) : Reading CharSet := do
  let unicode := (← flags).unicode
  let set := CharSet.ofLetter unicode letter.toLower
  if letter.isUpper then (if unicode then pure set.complement else failure) else pure set

def isMeta (c : Char) : Bool := "\\.+*?()|[]\x7b\x7d^$#&-~".contains c

def isEscapable (c : Char) : Bool := c.toNat < 0x80 && !c.isAlphanum && c != '<' && c != '>'

def isBoundaryLetter (c : Char) : Bool := c.isAlpha || c == '-'

def boundaryName : Nat → List Char → Reading (List Char)
  | 0, _ => failure
  | fuel + 1, found => do
    let c ← peek
    if isBoundaryLetter c then do
      discard nextThenSpace
      boundaryName fuel (c :: found)
    else pure found.reverse

/-- A word boundary, which may have a name in braces; braces with a number are left to be read. -/
def boundary (unicode : Bool) : Reading Look := do
  let before ← rest
  if (← peek?) != some '\x7b' then pure (.wordBoundary unicode)
  else do
    discard nextThenSpace
    if !isBoundaryLetter (← peek) then do
      setRest before
      pure (.wordBoundary unicode)
    else do
      let name ← boundaryName ((← rest).length + 1) []
      expect '\x7d'
      match String.ofList name with
      | "start" => pure (.wordStart unicode)
      | "end" => pure (.wordEnd unicode)
      | "start-half" => pure (.wordStartHalf unicode)
      | "end-half" => pure (.wordEndHalf unicode)
      | _ => failure

def escape : Reading Escaped := do
  let unicode := (← flags).unicode
  let c ← next
  let plain (code : Nat) : Reading Escaped := pure (.literal ⟨code, false⟩)
  if isMeta c || isEscapable c then plain c.toNat
  else
    match c with
    | 'x' | 'u' | 'U' => .literal <$> hexLiteral c
    | 'p' => .set <$> property false
    | 'P' => .set <$> property true
    | 'd' | 's' | 'w' | 'D' | 'S' | 'W' => .set <$> letterClass c
    | 'a' => plain 0x07
    | 'f' => plain 0x0c
    | 't' => plain 0x09
    | 'n' => plain 0x0a
    | 'r' => plain 0x0d
    | 'v' => plain 0x0b
    | 'A' => pure (.look .start)
    | 'z' => pure (.look .finish)
    | 'b' => .look <$> boundary unicode
    | 'B' => pure (.look (.notWordBoundary unicode))
    | '<' => pure (.look (.wordStart unicode))
    | '>' => pure (.look (.wordEnd unicode))
    | _ => failure

structure ClassItem where
  set : CharSet
  nesting : Nat

inductive ClassOperation where
  | intersection
  | difference
  | symmetricDifference

def ClassOperation.apply : ClassOperation → CharSet → CharSet → CharSet
  | intersection => CharSet.both
  | difference => CharSet.without
  | symmetricDifference => CharSet.either

def unite (items : List ClassItem) : ClassItem :=
  match items with
  | [item] => item
  | [] => ⟨fun _ => false, 0⟩
  | _ => ⟨CharSet.union (items.map ClassItem.set), (items.map ClassItem.nesting).foldl max 0 + 1⟩

/-- Closes a class under case where the flags say so, then takes its complement. Without the flag for Unicode a
complement is no set of characters. -/
def foldAndNegate (negated : Bool) (set : CharSet) : Reading CharSet := do
  let flags ← flags
  let set := if flags.ignoreCase then set.foldCase flags.unicode else set
  if !negated then pure set
  else if flags.unicode then pure set.complement
  else failure

def asciiClass? : Reading (Option CharSet) := do
  match ← rest with
  | '[' :: ':' :: afterColon =>
    let (negated, afterSign) : Bool × List Char :=
      match afterColon with
      | '^' :: more => (true, more)
      | _ => (false, afterColon)
    let name := afterSign.takeWhile (· != ':')
    match afterSign.drop name.length, CharSet.ofAsciiName? (String.ofList name) with
    | ':' :: ']' :: more, some set => do
      setRest more
      some <$> foldAndNegate negated set
    | _, _ => pure none
  | _ => pure none

def classAtom : Reading Escaped := do
  let c ← next
  if c == '\\' then
    match ← escape with
    | .look _ => failure
    | item => pure item
  else pure (.literal ⟨c.toNat, false⟩)

/-- The first character of a text that is neither a blank nor its first number sign, or the first one of all. A comment
is looked into here, and not skipped up to the end of its line. -/
def firstPastSpace? (text : List Char) : Option Char :=
  match text.dropWhile isBlank with
  | [] => text.head?
  | '#' :: comment => (comment.dropWhile isBlank).head?.or text.head?
  | c :: _ => some c

def peekSecond? : Reading (Option Char) := do
  let more := (← rest).drop 1
  pure (if (← flags).ignoreSpace then firstPastSpace? more else more.head?)

def classRange : Reading ClassItem := do
  let first ← classAtom
  skipSpace
  let second ← peekSecond?
  if (← peek) != '-' || second == some ']' || second == some '-' then
    match first with
    | .literal literal => do pure ⟨CharSet.one (← classCode literal), 0⟩
    | .set set => pure ⟨set, 0⟩
    | .look _ => failure
  else do
    discard nextThenSpace
    discard peek
    match first, ← classAtom with
    | .literal low, .literal high => do
      let low ← classCode low
      let high ← classCode high
      if low ≤ high then pure ⟨CharSet.range low high, 0⟩ else failure
    | _, _ => failure

def leadingHyphens : Nat → List ClassItem → Reading (List ClassItem)
  | 0, _ => failure
  | fuel + 1, items => do
    if (← peek) == '-' then do
      discard nextThenSpace
      leadingHyphens fuel (⟨CharSet.one '-'.toNat, 0⟩ :: items)
    else pure items

def joinOperation (pending : Option (ClassItem × ClassOperation)) (items : List ClassItem) : Reading ClassItem := do
  let right := unite items
  match pending with
  | none => pure right
  | some (left, operation) =>
    let flags ← flags
    let fold (set : CharSet) : CharSet := if flags.ignoreCase then set.foldCase flags.unicode else set
    pure ⟨operation.apply (fold left.set) (fold right.set), max left.nesting right.nesting + 1⟩

def operation? : Reading (Option ClassOperation) := do
  if ← skipText? "&&" then pure (some .intersection)
  else if ← skipText? "--" then pure (some .difference)
  else if ← skipText? "~~" then pure (some .symmetricDifference)
  else pure none

mutual

def bracketed : Nat → Reading ClassItem
  | 0 => failure
  | fuel + 1 => do
    discard nextThenSpace
    let negated ← do
      if (← peek) == '^' then do
        discard nextThenSpace
        discard peek
        pure true
      else pure false
    let hyphens ← leadingHyphens ((← rest).length + 1) []
    let items ← do
      if hyphens.isEmpty && (← peek) == ']' then do
        discard nextThenSpace
        discard peek
        pure [⟨CharSet.one ']'.toNat, 0⟩]
      else pure hyphens
    let inner ← classItems fuel none items
    pure ⟨← foldAndNegate negated inner.set, inner.nesting + 1⟩

def classItems : Nat → Option (ClassItem × ClassOperation) → List ClassItem → Reading ClassItem
  | 0, _, _ => failure
  | fuel + 1, pending, items => do
    skipSpace
    match ← peek with
    | ']' => do
      discard next
      joinOperation pending items
    | '[' => do
      match ← asciiClass? with
      | some set => classItems fuel pending (⟨set, 0⟩ :: items)
      | none => do
        let inner ← bracketed fuel
        classItems fuel pending (inner :: items)
    | _ => do
      match ← operation? with
      | some operation => do
        let left ← joinOperation pending items
        classItems fuel (some (left, operation)) []
      | none => do
        let item ← classRange
        classItems fuel pending (item :: items)

end

/-- Sets the flags named by letters; a hyphen turns the following ones off. A letter and the hyphen occur once. -/
def flagLetters : Nat → List Char → Bool → Flags → Reading (List Char × Flags)
  | 0, _, _, _ => failure
  | fuel + 1, seen, on, flags => do
    let c ← peek
    if c == ':' || c == ')' then (if seen.head? == some '-' then failure else pure (seen, flags))
    else if seen.contains c then failure
    else do
      discard next
      discard peek
      match c with
      | '-' => flagLetters fuel (c :: seen) false flags
      | 'i' => flagLetters fuel (c :: seen) on { flags with ignoreCase := on }
      | 'm' => flagLetters fuel (c :: seen) on { flags with multiLine := on }
      | 's' => flagLetters fuel (c :: seen) on { flags with dotAll := on }
      | 'R' => flagLetters fuel (c :: seen) on { flags with crlf := on }
      | 'u' => flagLetters fuel (c :: seen) on { flags with unicode := on }
      | 'x' => flagLetters fuel (c :: seen) on { flags with ignoreSpace := on }
      | 'U' => flagLetters fuel (c :: seen) on flags
      | _ => failure

def isNameStart (c : Char) : Bool := c == '_' || Unicode.isAlphabetic c.toNat

def isNamePart (c : Char) : Bool :=
  isNameStart c || c == '.' || c == '[' || c == ']' || Unicode.isNumber c.toNat

def groupName : Reading Unit := do
  let name := (← rest).takeWhile (· != '>')
  setRest ((← rest).drop name.length)
  expect '>'
  match name with
  | [] => failure
  | first :: more =>
    if isNameStart first && more.all isNamePart && !(← get).names.contains name then
      modify fun state => { state with names := name :: state.names }
    else failure

inductive GroupStart where
  | flags
  | group

/-- Reads what stands between an opening parenthesis and the body of the group, and puts the flags in force. -/
def groupStart : Reading GroupStart := do
  discard next
  skipSpace
  let state ← get
  let looksAround := ["?=", "?!", "?<=", "?<!"].any fun mark => mark.toList.isPrefixOf state.rest
  if looksAround then failure
  else if ← skipText? "?P<" then do
    groupName
    pure .group
  else if ← skipText? "?<" then do
    groupName
    pure .group
  else if ← skipText? "?" then do
    let (letters, flags) ← flagLetters ((← rest).length + 1) [] true (← flags)
    if (← next) == ')' then
      if letters.isEmpty then failure
      else do
        setFlags flags
        pure .flags
    else do
      setFlags flags
      pure .group
  else pure .group

def decimal : Reading (Option Nat) := do
  setRest ((← rest).dropWhile isBlank)
  let digits ← decimalDigits ((← rest).length + 1) []
  setRest ((← rest).dropWhile isBlank)
  skipSpace
  if digits.isEmpty then pure none
  else
    let n := digits.foldl (fun n c => n * 10 + (c.toNat - 0x30)) 0
    if n < 0x100000000 then pure (some n) else failure
where
  decimalDigits : Nat → List Char → Reading (List Char)
    | 0, _ => failure
    | fuel + 1, found => do
      match ← peek? with
      | some c =>
        if c.isDigit then do
          discard nextThenSpace
          decimalDigits fuel (c :: found)
        else pure found.reverse
      | none => pure found.reverse

def counts : Reading (Nat × Option Nat) := do
  discard nextThenSpace
  discard peek
  let least ← decimal
  match least with
  | none => failure
  | some least => do
    if (← peek) == ',' then do
      discard nextThenSpace
      if (← peek) == '\x7d' then do
        discard next
        pure (least, none)
      else do
        match ← decimal with
        | none => failure
        | some most => do
          expect '\x7d'
          if least ≤ most then pure (least, some most) else failure
    else do
      expect '\x7d'
      pure (least, some least)

/-- Repeats the part read last. A mark for lazy matching may follow. -/
def repeatLast (parts : List (Expression CharSet)) (least : Nat) (most : Option Nat) :
    Reading (List (Expression CharSet)) := do
  match parts with
  | [] => failure
  | .flags :: _ => failure
  | last :: before => do
    if (← peek?) == some '?' then discard next
    pure (.repeated last least most :: before)

def dot : Reading CharSet := do
  let flags ← flags
  if !flags.unicode then failure
  else if flags.dotAll then pure fun _ => true
  else if flags.crlf then pure fun c => c != 0x0a && c != 0x0d
  else pure fun c => c != 0x0a

def primitive : Reading (Expression CharSet) := do
  let flags ← flags
  match ← next with
  | '\\' => do
    match ← escape with
    | .literal literal => do pure (.one (← literalSet literal) 0)
    | .set set => pure (.one set 0)
    | .look condition => pure (.look condition)
  | '.' => do pure (.one (← dot) 0)
  | '^' => pure (.look (if flags.multiLine then .lineStart flags.crlf else .start))
  | '$' => pure (.look (if flags.multiLine then .lineEnd flags.crlf else .finish))
  | c => do pure (.one (← literalSet ⟨c.toNat, false⟩) 0)

/-- Alternatives up to a closing parenthesis or the end; parts and branches are held last one first. -/
def alternatives : Nat → List (Expression CharSet) → List (Expression CharSet) → Reading (Expression CharSet)
  | 0, _, _ => failure
  | fuel + 1, branches, parts => do
    skipSpace
    match ← peek? with
    | none | some ')' =>
      pure (.ofBranches (Expression.ofParts parts.reverse :: branches).reverse)
    | some '|' => do
      discard next
      alternatives fuel (Expression.ofParts parts.reverse :: branches) []
    | some '(' => do
      let outer ← flags
      match ← groupStart with
      | .flags => alternatives fuel branches (.flags :: parts)
      | .group => do
        let body ← alternatives fuel [] []
        expect ')'
        setFlags outer
        alternatives fuel branches (.group body :: parts)
    | some '[' => do
      let item ← bracketed ((← rest).length + 1)
      alternatives fuel branches (.one item.set item.nesting :: parts)
    | some '?' => do
      discard next
      alternatives fuel branches (← repeatLast parts 0 (some 1))
    | some '*' => do
      discard next
      alternatives fuel branches (← repeatLast parts 0 none)
    | some '+' => do
      discard next
      alternatives fuel branches (← repeatLast parts 1 none)
    | some '\x7b' => do
      let (least, most) ← counts
      skipSpace
      alternatives fuel branches (← repeatLast parts least most)
    | some _ => do
      let part ← primitive
      alternatives fuel branches (part :: parts)

end Reading

def expression? (source : String) : Option (Expression CharSet) := do
  let chars := source.toList
  let (expression, state) ← (Reading.alternatives (chars.length + 1) [] []).run ⟨chars, .initial, []⟩
  if state.rest.isEmpty && expression.nesting ≤ maxNesting then some expression else none

def isSpecial (c : Char) : Bool := "\\.+*?()|[]\x7b\x7d^$".contains c

/-- Whether a pattern is nothing but texts to choose from, none of them empty. -/
def isPlain (source : String) : Bool :=
  (source.splitOn "|").all fun text => !text.isEmpty && text.toList.all fun c => !isSpecial c

end JsonSchema.Pattern
