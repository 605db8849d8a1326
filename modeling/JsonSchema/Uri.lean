import JsonSchema.Uri.Host
import JsonSchema.Uri.Path

/-!
Absolute addresses: their parts, their text, and the reading of an address on its own or against another one. Special
schemes have a host and a port of their own; addresses of other schemes may be opaque, with a path that is no more than
a text.
-/
namespace JsonSchema

structure Uri where
  scheme : List Char
  username : List Char
  password : List Char
  host : Option (List Char)
  port : Option Nat
  path : List Char
  query : Option (List Char)
  fragment : Option (List Char)
deriving DecidableEq

namespace Uri

def credentials (uri : Uri) : List Char :=
  if uri.username.isEmpty && uri.password.isEmpty then []
  else uri.username ++ (if uri.password.isEmpty then [] else ':' :: uri.password) ++ ['@']

def portText : Option Nat → List Char
  | none => []
  | some port => ':' :: Host.decimal port

/-- The path as it is written. Without a host it must not look like one. -/
def pathText (uri : Uri) : List Char :=
  if uri.host.isNone && ['/', '/'].isPrefixOf uri.path then '/' :: '.' :: uri.path else uri.path

def text (uri : Uri) : String :=
  String.ofList (uri.scheme ++ [':'] ++
    (match uri.host with
      | none => []
      | some host => ['/', '/'] ++ uri.credentials ++ host ++ portText uri.port) ++
    uri.pathText ++
    (match uri.query with
      | none => []
      | some query => '?' :: query) ++
    (match uri.fragment with
      | none => []
      | some fragment => '#' :: fragment))

/-- An opaque address can only be given another fragment. -/
def isOpaque (uri : Uri) : Bool := uri.host.isNone && uri.path.head? != some '/'

/-- The address without its fragment. An opaque path that then ends the text ends in no space. -/
def withoutFragment (uri : Uri) : Uri :=
  if uri.isOpaque && uri.query.isNone then
    { uri with path := (uri.path.reverse.dropWhile (· == ' ')).reverse, fragment := none }
  else { uri with fragment := none }

def splitAtLast? (mark : Char) (text : List Char) : Option (List Char × List Char) :=
  let after := (text.reverse.takeWhile (· != mark)).reverse
  if after.length = text.length then none else some (text.take (text.length - after.length - 1), after)

def hostPart (inBrackets : Bool) : List Char → List Char
  | [] => []
  | c :: rest =>
    if c == ':' && !inBrackets then []
    else c :: hostPart (if c == '[' then true else if c == ']' then false else inBrackets) rest

/-- The port of some digits; the port that the scheme stands for is none. -/
def port? (scheme digits : List Char) : Option (Option Nat) :=
  if digits.isEmpty then some none
  else
    let port := digits.foldl (fun n c => n * 10 + (c.toNat - 0x30)) 0
    if port > 65535 then none
    else some (if defaultPort? scheme == some port then none else some port)

def bare (scheme : List Char) (host : Option (List Char)) (path : List Char) : Uri :=
  ⟨scheme, [], [], host, none, path, none, none⟩

/-- The address of a scheme with an authority, from what follows its two slashes; `more` tells whether a query or a
fragment comes after that. Credentials and ports need a host. -/
def withAuthority? (scheme : List Char) (more : Bool) (text : List Char) : Option Uri := do
  let special := isSpecial scheme
  let authority := (unbroken text).takeWhile fun c => !isSlash special c
  let credentials := (splitAtLast? '@' authority).map Prod.fst
  let before := (credentials.map (·.length + 1)).getD 0
  let given := credentials.getD []
  let username := given.takeWhile (· != ':')
  let password := given.drop (username.length + 1)
  let host := hostPart false (authority.drop before)
  let rest := (unbroken text).drop (before + host.length)
  let digits := if rest.head? == some ':' then (rest.drop 1).takeWhile Char.isDigit else []
  let length := before + host.length + if rest.head? == some ':' then digits.length + 1 else 0
  let path := skip length text
  if credentials == some [] && host.isEmpty && (more || !(rest.isEmpty || rest.head? == some ':')) then none
  else if host.isEmpty && (special || rest.head? == some ':' || !(username.isEmpty && password.isEmpty)) then none
  else if !(unbroken path).isEmpty && !(unbroken path).head?.any (isSlash true) && rest.head? == some ':' then none
  else do
    let host ← if host.isEmpty then some [] else Host.canonical? special host
    let port ← port? scheme digits
    some {
      bare scheme (some host) (pathAfterHost scheme path).path with
      username := escapeWith escapesInCredentials username
      password := escapeWith escapesInCredentials password
      port := port }

def file? (base : Option Uri) (text : List Char) : Option Uri :=
  let scheme := "file".toList
  let hostless (path text : List Char) : Uri := bare scheme (some []) (readPath scheme path text).path
  match unbroken text with
  | [] =>
    some (match base with
      | some base => { base with fragment := none }
      | none => hostless ['/'] [])
  | c :: rest =>
    if isSlash true c then
      if rest.head?.any (isSlash true) then
        let host := (rest.drop 1).takeWhile fun c => !isSlash true c
        if isDriveLetter host then some (hostless ['/'] (skip 2 text))
        else do
          let name ← if host.isEmpty then some [] else Host.canonical? true host
          let text := skip (2 + host.length) text
          if name.isEmpty || name == "localhost".toList then some (hostless ['/'] text)
          else
            let reading := pathAfterHost scheme text
            some (bare scheme (some (if reading.onDrive then [] else name)) reading.path)
      else
        some (match if startsWithDrive rest then none else base with
          | none => hostless [] text
          | some base =>
            let drive := driveOf base.path
            let host := if drive.isEmpty then base.host else some []
            bare scheme host (readPath scheme drive text).path)
    else
      some (match if startsWithDrive (c :: rest) then none else base with
        | none => hostless ['/'] text
        | some base => bare scheme base.host (readPath scheme (parent true base.path) text).path)

/-- An address without a scheme of its own, against another one. Slashes of both kinds count for every scheme. -/
def relative? (base : Uri) (more : Bool) (text : List Char) : Option Uri :=
  let slashes := (unbroken text).takeWhile (isSlash true)
  if (unbroken text).isEmpty then some { base with fragment := none }
  else if slashes.length ≥ 2 then
    withAuthority? base.scheme more (skip (if ['/', '/'].isPrefixOf slashes then 2 else slashes.length) text)
  else
    let path := if slashes.isEmpty then parent false base.path else []
    let path := if path.isEmpty then ['/'] else path
    some { base with
      path := (readPath base.scheme path (skip slashes.length text)).path, query := none, fragment := none }

/-- An address from what follows its scheme. A special scheme that the other address has too may be followed by a
reference. -/
def ofScheme? (base : Option Uri) (scheme : List Char) (more : Bool) (text : List Char) : Option Uri :=
  let sameScheme := base.filter fun base => base.scheme == scheme
  if isFile scheme then file? sameScheme text
  else if isSpecial scheme then
    let slashes := (unbroken text).takeWhile (isSlash true)
    match if slashes.length < 2 then sameScheme else none with
    | some base => relative? base more text
    | none => withAuthority? scheme more (skip slashes.length text)
  else
    match unbroken text with
    | '/' :: '/' :: _ => withAuthority? scheme more (skip 2 text)
    | '/' :: _ => some (bare scheme none (readPath scheme ['/'] (skip 1 text)).path)
    | path => some (bare scheme none (escapeWith isControl path))

def isStrippable (c : Char) : Bool := c.toNat ≤ 0x20

def strip (text : String) : List Char :=
  ((text.toList.dropWhile isStrippable).reverse.dropWhile isStrippable).reverse

def splitAtFirst (mark : Char) (text : List Char) : List Char × Option (List Char) :=
  let before := text.takeWhile (· != mark)
  match text.drop before.length with
  | [] => (before, none)
  | _ :: after => (before, some after)

def resolve? (base : Option Uri) (text : String) : Option Uri := do
  let (body, fragment) := splitAtFirst '#' (strip text)
  let (main, query) := splitAtFirst '?' body
  let more := query.isSome || fragment.isSome
  let uri ←
    match scheme? main with
    | some (scheme, rest) => ofScheme? base scheme more rest
    | none =>
      match base with
      | none => none
      | some base =>
        if base.isOpaque then (if (unbroken body).isEmpty && fragment.isSome then some base else none)
        else if isFile base.scheme then file? (some base) main
        else relative? base more main
  let query :=
    match query with
    | some query => some (escapeWith (escapesInQuery (isSpecial uri.scheme)) (unbroken query))
    | none => uri.query
  some { uri with query := query, fragment := fragment.map fun text => escapeWith escapesInFragment (unbroken text) }

def parse? (text : String) : Option Uri := resolve? none text

def join? (base : Uri) (reference : String) : Option Uri := resolve? (some base) reference

end Uri

end JsonSchema
