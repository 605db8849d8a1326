/-!
How a program reaches files and standard input, and trees of files kept in memory, where that is a pure function of the
tree and of what is left of the input.
-/
namespace JsonSchema

inductive FileError where
  | notFound
  | notADirectory
  | isADirectory
  /-- Its bytes are no text. -/
  | notText
  | other (text : String)
deriving DecidableEq

def FileError.message : FileError → String
  | notFound => "No such file or directory (os error 2)"
  | notADirectory => "Not a directory (os error 20)"
  | isADirectory => "Is a directory (os error 21)"
  | notText => "stream did not contain valid UTF-8"
  | other text => text

structure Files (m : Type → Type) where
  read : String → m (Except FileError String)
  /-- What is left of standard input, of which nothing is left afterwards. -/
  stdin : m (Except FileError String)
  isDirectory : String → m Bool
  isPresent : String → m Bool
  /-- The names in a directory, in any order. -/
  names : String → m (List String)

def pathParts (path : String) : List String := (path.toList.splitOn '/').map String.ofList

/-- A tree of files, each at the names that lead to it from the working directory, with what comes of reading it. -/
structure FileTree where
  files : List (List String × Except FileError String) := []

namespace FileTree

inductive Entry where
  | file (content : Except FileError String)
  | directory

def ofFiles (files : List (String × String)) : FileTree :=
  ⟨files.map fun (path, content) => (pathParts path, .ok content)⟩

/-- What some names lead to. A directory is what files lie below, and the working directory. -/
def entry? (tree : FileTree) (names : List String) : Option Entry :=
  match tree.files.lookup names with
  | some content => some (.file content)
  | none =>
    if names.isEmpty || tree.files.any fun (path, _) => names.isPrefixOf path then some .directory else none

/-- Takes the steps of a path, each from a directory. Nothing outside of the tree is found. -/
def walk (tree : FileTree) (names : List String) : List String → Except FileError (List String)
  | [] => .ok names
  | part :: rest =>
    match tree.entry? names with
    | none => .error .notFound
    | some (.file _) => .error .notADirectory
    | some .directory =>
      if part == "" || part == "." then walk tree names rest
      else if part == ".." then if names.isEmpty then .error .notFound else walk tree names.dropLast rest
      else walk tree (names ++ [part]) rest

def find (tree : FileTree) (path : String) : Except FileError (List String × Entry) := do
  if path.isEmpty || path.front == '/' then throw .notFound
  let names ← tree.walk [] (pathParts path)
  match tree.entry? names with
  | some entry => pure (names, entry)
  | none => throw .notFound

def read (tree : FileTree) (path : String) : Except FileError String := do
  match ← tree.find path with
  | (_, .file content) => content
  | (_, .directory) => throw .isADirectory

def isDirectory (tree : FileTree) (path : String) : Bool :=
  match tree.find path with
  | .ok (_, .directory) => true
  | _ => false

def isPresent (tree : FileTree) (path : String) : Bool := (tree.find path).toOption.isSome

def names (tree : FileTree) (path : String) : List String :=
  match tree.find path with
  | .ok (names, .directory) =>
    (tree.files.filterMap fun (file, _) =>
      if names.isPrefixOf file then (file.drop names.length).head? else none).eraseDups
  | _ => []

variable {m : Type → Type} [Monad m]

def accessWith (tree : FileTree) (stdin : m (Except FileError String)) : Files m where
  read path := pure (tree.read path)
  stdin := stdin
  isDirectory path := pure (tree.isDirectory path)
  isPresent path := pure (tree.isPresent path)
  names path := pure (tree.names path)

/-- The files of a tree, with the text that is left of standard input as the state. -/
def access (tree : FileTree) : Files (StateM String) := tree.accessWith (modifyGet fun text => (.ok text, ""))

end FileTree

end JsonSchema
