import JsonSchema.Uri.Escape
import JsonSchema.Uri.Scheme

/-!
Paths: slashes with segments between them. A path is read segment by segment after what is there already; dots stand
for a step up or none. Nothing goes up past a segment that looks like the letter of a drive.
-/
namespace JsonSchema.Uri

def isDriveLetter : List Char → Bool
  | [c, mark] => c.isAlpha && (mark == ':' || mark == '|')
  | _ => false

def isDrive : List Char → Bool
  | [c, ':'] => c.isAlpha
  | _ => false

/-- Whether a text begins with a drive letter that ends there or at a slash of either kind. -/
def startsWithDrive : List Char → Bool
  | c :: mark :: next :: _ => isDriveLetter [c, mark] && isSlash true next
  | text => isDriveLetter text

def driveOf : List Char → List Char
  | '/' :: rest =>
    let first := rest.takeWhile (· != '/')
    if isDrive first then '/' :: first else []
  | _ => []

def isSingleDot (segment : List Char) : Bool := segment == ['.'] || segment.map Char.toLower == ['%', '2', 'e']

def isDoubleDot (segment : List Char) : Bool :=
  let dot := ['%', '2', 'e']
  let segment := segment.map Char.toLower
  segment == ['.', '.'] || segment == '.' :: dot || segment == dot ++ ['.'] || segment == dot ++ dot

def splitSlashes (special : Bool) : List Char → List (List Char)
  | [] => [[]]
  | c :: rest =>
    match splitSlashes special rest with
    | [] => [[c]]
    | first :: more => if isSlash special c then [] :: first :: more else (c :: first) :: more

def endsInSlash (path : List Char) : Bool := path.getLast? == some '/'

def lastSegment (path : List Char) : List Char := (path.reverse.takeWhile (· != '/')).reverse

/-- A path up to its last slash. A drive at the end of the path of a file stays. -/
def parent (file : Bool) (path : List Char) : List Char :=
  if file && isDrive (lastSegment path) then path else (path.reverse.dropWhile (· != '/')).reverse

/-- A path without the slash at its end, unless that slash is the only one or stands after a drive letter. -/
def withoutLastSlash (path : List Char) : List Char :=
  let shorter := path.dropLast
  if endsInSlash path && shorter.contains '/' && !startsWithDrive (lastSegment shorter) then shorter else path

structure PathReading where
  path : List Char
  /-- Whether the path begins with a drive, which leaves no room for a host. -/
  onDrive : Bool

/-- A drive at the beginning of a segment that a break sets off from what follows, and that. -/
def brokenDrive? (segment : List Char) : Option (List Char × List Char) :=
  match segment.dropWhile isBreak with
  | [] => none
  | c :: rest =>
    match rest.dropWhile isBreak with
    | ':' :: b :: more =>
      if c.isAlpha && isBreak b && !(unbroken more).isEmpty then some ([c, ':'], unbroken more) else none
    | _ => none

/-- Adds a segment, and the slash after it if there is one. In the path of a file a drive comes first, is written with a
colon and ends before whatever follows it. -/
def PathReading.add (file : Bool) (reading : PathReading) (segment : List Char) (slash : List Char) : PathReading :=
  let text := escapeWith escapesInPath (unbroken segment)
  let path :=
    if file && isDrive (reading.path.drop 1) && !text.isEmpty then reading.path ++ ['/'] else reading.path
  if isDoubleDot text then
    let above := parent file (withoutLastSlash path)
    { reading with path := if endsInSlash above then above else above ++ slash }
  else if isSingleDot text then { reading with path := if endsInSlash path then path else path ++ ['/'] }
  else if file && path.length = 1 then
    match brokenDrive? segment with
    | some (drive, rest) => { reading with path := path ++ drive ++ ['/'] ++ escapeWith escapesInPath rest ++ slash }
    | none =>
      if isDriveLetter text then ⟨path ++ text.take 1 ++ [':'] ++ slash, true⟩
      else { reading with path := path ++ text ++ slash }
  else { reading with path := path ++ text ++ slash }

def PathReading.addAll (file : Bool) (reading : PathReading) : List (List Char) → PathReading
  | [] => reading
  | [last] => reading.add file last []
  | segment :: rest => (reading.add file segment ['/']).addAll file rest

/-- The path that a text leads to from another path. The path of a file begins with one slash only. -/
def readPath (scheme path text : List Char) : PathReading :=
  let reading := PathReading.addAll (isFile scheme) ⟨path, false⟩ (splitSlashes (isSpecial scheme) text)
  if isFile scheme then { reading with path := '/' :: reading.path.dropWhile (· == '/') } else reading

/-- The path of a text after a host. Special schemes have at least the path of one slash. -/
def pathAfterHost (scheme text : List Char) : PathReading :=
  match unbroken text with
  | [] => ⟨if isSpecial scheme then ['/'] else [], false⟩
  | c :: _ =>
    if isSpecial scheme then readPath scheme ['/'] (if isSlash true c then skip 1 text else text)
    else readPath scheme (if c == '/' then [] else ['/']) text

end JsonSchema.Uri
