import JsonSchema.Uri.Escape
import JsonSchema.Uri.Name

/-!
Hosts of addresses in canonical form: names in lower case and ASCII, IPv4 addresses as four decimal numbers, IPv6
addresses in brackets with their longest run of zeros left out.
-/
namespace JsonSchema.Uri.Host

def digitIn? (base : Nat) (c : Char) : Option Nat :=
  let n := c.toNat
  let value? : Option Nat :=
    if '0' ≤ c && c ≤ '9' then some (n - 0x30)
    else if 'a' ≤ c && c ≤ 'f' then some (n - 0x57)
    else if 'A' ≤ c && c ≤ 'F' then some (n - 0x37)
    else none
  value?.filter (· < base)

def number? (base : Nat) (digits : List Char) : Option Nat :=
  digits.foldlM (fun n c => (digitIn? base c).map (n * base + ·)) 0

/-- A number of an IPv4 address, which may be hexadecimal or octal. -/
def ipv4Number? : List Char → Option Nat
  | [] => none
  | '0' :: 'x' :: rest => number? 16 rest
  | '0' :: 'X' :: rest => number? 16 rest
  | '0' :: c :: rest => number? 8 (c :: rest)
  | digits => number? 10 digits

def nameParts (name : List Char) : List (List Char) :=
  let parts := splitOn '.' name
  if parts.length > 1 && parts.getLast? == some [] then parts.dropLast else parts

/-- Whether a name has to be an IPv4 address, because its last part is a number. -/
def endsInNumber (name : List Char) : Bool :=
  match (nameParts name).getLast? with
  | none => false
  | some last => (!last.isEmpty && last.all Char.isDigit) || (ipv4Number? last).isSome

/-- The value of an IPv4 address. Its last number fills the bytes that the others leave. -/
def ipv4? (name : List Char) : Option Nat := do
  let parts := nameParts name
  let numbers ← parts.mapM ipv4Number?
  let last ← numbers.getLast?
  let others := numbers.dropLast
  if numbers.length > 4 || others.any (· > 255) || last ≥ Nat.pow 256 (5 - numbers.length) then none
  else some (((List.range others.length).zip others).foldl (fun n (i, x) => n + x * Nat.pow 256 (3 - i)) last)

def decimal (n : Nat) : List Char := Nat.toDigits 10 n

def ipv4Text (n : Nat) : List Char :=
  decimal (n / 0x1000000 % 256) ++ '.' :: decimal (n / 0x10000 % 256) ++ '.' :: decimal (n / 256 % 256) ++
    '.' :: decimal (n % 256)

def hexGroup? (digits : List Char) : Option Nat :=
  if digits.isEmpty || digits.length > 4 then none else number? 16 digits

/-- Four decimal numbers between points, as the last two groups of an IPv6 address. -/
def embedded? (text : List Char) : Option (List Nat) := do
  let parts := splitOn '.' text
  let numbers ← parts.mapM fun part =>
    if part.isEmpty || (part.length > 1 && part.head? == some '0') then none else number? 10 part
  match numbers with
  | [a, b, c, d] => if a < 256 && b < 256 && c < 256 && d < 256 then some [a * 256 + b, c * 256 + d] else none
  | _ => none

def groups? : List (List Char) → Option (List Nat)
  | [] => some []
  | [last] => if last.contains '.' then embedded? last else (hexGroup? last).map fun n => [n]
  | first :: rest => do
    let n ← hexGroup? first
    let more ← groups? rest
    some (n :: more)

def splitAtGap (before : List Char) : List Char → Option (List Char × List Char)
  | ':' :: ':' :: rest => some (before.reverse, rest)
  | c :: rest => splitAtGap (c :: before) rest
  | [] => none

/-- The eight groups of an IPv6 address. Two colons stand for the groups that are left out, of which there is one at
least. -/
def ipv6? (text : List Char) : Option (List Nat) := do
  match splitAtGap [] text with
  | none => do
    let groups ← groups? (splitOn ':' text)
    if groups.length = 8 then some groups else none
  | some (before, after) => do
    let front ← if before.isEmpty then some [] else if before.contains '.' then none else groups? (splitOn ':' before)
    let back ← if after.isEmpty then some [] else groups? (splitOn ':' after)
    if front.length + back.length ≤ 7 then
      some (front ++ List.replicate (8 - (front.length + back.length)) 0 ++ back)
    else none

def leadingZeros (groups : List Nat) : Nat := (groups.takeWhile (· == 0)).length

def longestRun (groups : List Nat) : Nat × Nat :=
  (List.range groups.length).foldl (fun best i =>
    let run := leadingZeros (groups.drop i)
    if run > best.2 && run ≥ 2 then (i, run) else best) (0, 0)

def joinGroups (groups : List Nat) : List Char := List.intercalate [':'] (groups.map (Nat.toDigits 16))

def ipv6Text (groups : List Nat) : List Char :=
  let (start, length) := longestRun groups
  if length = 0 then joinGroups groups
  else joinGroups (groups.take start) ++ [':', ':'] ++ joinGroups (groups.drop (start + length))

def isForbidden (c : Char) : Bool :=
  c.toNat = 0 || c == '\t' || c == '\n' || c == '\r' || " #/:<>?@[\\]^|".contains c

def isForbiddenInName (c : Char) : Bool := isForbidden c || c.toNat < 0x20 || c == '%' || c.toNat = 0x7f

/-- The canonical form of a name, if a host can have it. A name that ends in a number is an IPv4 address. -/
def name? (text : List Char) : Option (List Char) := do
  let name ← Name.toAscii? text
  if name.isEmpty || name.any isForbiddenInName then none
  else if endsInNumber name then (ipv4? name).map ipv4Text
  else some name

/-- The canonical form of a host. Only special schemes give names a meaning; elsewhere a host is any text. -/
def canonical? (special : Bool) (text : List Char) : Option (List Char) :=
  match text with
  | '[' :: rest =>
    if rest.getLast? == some ']' then (ipv6? rest.dropLast).map fun groups => '[' :: ipv6Text groups ++ [']'] else none
  | _ =>
    if special then name? text
    else if text.any isForbidden then none
    else some (text.flatMap (Percent.encodeChar isControl))

end JsonSchema.Uri.Host
