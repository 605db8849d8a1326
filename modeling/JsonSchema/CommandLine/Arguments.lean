/-!
Command line arguments: options with a long name and perhaps a short one, which stand anywhere, and what is left
besides them. A value follows its option or is joined to it; what begins with a hyphen is no value, except for a hyphen
alone.
-/
namespace JsonSchema.Arguments

/-- What an option takes, and whether it may be given again. -/
inductive Kind where
  | flag
  | count
  /-- Nothing; what follows is not looked at. -/
  | final
  | text
  /-- One text that is not empty, once. -/
  | path
  /-- One text or more, any number of times. -/
  | texts
deriving DecidableEq

structure Switch where
  name : String
  short : Option Char
  kind : Kind

/-- What becomes of arguments that belong to no option. -/
inductive Others where
  | refused
  | collected
  | command
deriving DecidableEq

structure Grammar where
  switches : List Switch
  others : Others

structure Parsed where
  given : List (String × List String) := []
  others : List String := []
  final : Option String := none

namespace Parsed

def isGiven (parsed : Parsed) (name : String) : Bool := (parsed.given.lookup name).isSome

def values (parsed : Parsed) (name : String) : List String := (parsed.given.lookup name).getD []

def value? (parsed : Parsed) (name : String) : Option String := (parsed.values name).head?

def addValues (parsed : Parsed) (name : String) (values : List String) : Parsed :=
  { parsed with
    given := (name, parsed.values name ++ values) :: parsed.given.filter fun (other, _) => other != name }

end Parsed

/-- Takes note of an option with its values, if it may be given and may have them. -/
def give (parsed : Parsed) (switch : Switch) (values : List String) : Option Parsed :=
  match switch.kind, values with
  | .final, [] => some { parsed with final := some switch.name }
  | .count, [] => some (parsed.addValues switch.name [])
  | .flag, [] => if parsed.isGiven switch.name then none else some (parsed.addValues switch.name [])
  | .text, [value] => if parsed.isGiven switch.name then none else some (parsed.addValues switch.name [value])
  | .path, [value] =>
    if parsed.isGiven switch.name || value.isEmpty then none else some (parsed.addValues switch.name [value])
  | .texts, _ :: _ => some (parsed.addValues switch.name values)
  | _, _ => none

def Kind.takesValue : Kind → Bool
  | text | path | texts => true
  | flag | count | final => false

def isValue (argument : String) : Bool :=
  match argument.toList with
  | '-' :: _ :: _ => false
  | _ => true

structure Reading where
  parsed : Parsed
  awaiting : Option (Switch × Option String) := none

/-- The letters of short options. The first that takes a value takes what is left as it. -/
def letters (grammar : Grammar) (parsed : Parsed) : List Char → Option Reading
  | [] => some { parsed := parsed }
  | letter :: rest => do
    let switch ← grammar.switches.find? (·.short == some letter)
    if switch.kind.takesValue then
      let joined := if rest.head? == some '=' then rest.tail else rest
      pure { parsed := parsed, awaiting := some (switch, if rest.isEmpty then none else some (String.ofList joined)) }
    else do
      let parsed ← give parsed switch []
      if parsed.final.isSome then pure { parsed := parsed } else letters grammar parsed rest

def long (grammar : Grammar) (parsed : Parsed) (text : List Char) : Option Reading := do
  let name := text.takeWhile (· != '=')
  let joined :=
    match text.drop name.length with
    | [] => none
    | _ :: value => some (String.ofList value)
  let switch ← grammar.switches.find? (·.name == String.ofList name)
  if switch.kind.takesValue then pure { parsed := parsed, awaiting := some (switch, joined) }
  else do pure { parsed := ← give parsed switch joined.toList }

/-- Reads arguments from left to right. While an option may take more values they go to it. -/
def parseFrom (grammar : Grammar) (parsed : Parsed) (greedy : Option String) : List String → Option Parsed
  | [] => some parsed
  | argument :: rest => do
    let reading : Option Reading ←
      match argument.toList with
      | ['-', '-'] => none
      | '-' :: '-' :: text => (long grammar parsed text).map some
      | '-' :: letter :: more => (letters grammar parsed (letter :: more)).map some
      | _ => some none
    match reading with
    | some ⟨parsed, none⟩ => if parsed.final.isSome then some parsed else parseFrom grammar parsed none rest
    | some ⟨parsed, some (switch, some value)⟩ => do
      parseFrom grammar (← give parsed switch [value]) none rest
    | some ⟨parsed, some (switch, none)⟩ =>
      match rest with
      | [] => none
      | value :: rest =>
        if isValue value then do
          let parsed ← give parsed switch [value]
          parseFrom grammar parsed (if switch.kind = .texts then some switch.name else none) rest
        else none
    | none =>
      match greedy, grammar.others with
      | some name, _ => parseFrom grammar (parsed.addValues name [argument]) greedy rest
      | none, .refused => none
      | none, .collected => parseFrom grammar { parsed with others := parsed.others ++ [argument] } none rest
      | none, .command => some { parsed with others := argument :: rest }

/-- Reads arguments. After two hyphens there are no more options. -/
def parse (grammar : Grammar) (arguments : List String) : Option Parsed := do
  let options := arguments.takeWhile (· != "--")
  let parsed ← parseFrom grammar {} none options
  match arguments.drop options.length with
  | [] => some parsed
  | _ :: rest =>
    if parsed.final.isSome then some parsed
    else
      match grammar.others with
      | .collected => some { parsed with others := parsed.others ++ rest }
      | .refused => if rest.isEmpty then some parsed else none
      | .command => if parsed.others.isEmpty then none else some { parsed with others := parsed.others ++ "--" :: rest }

end JsonSchema.Arguments
