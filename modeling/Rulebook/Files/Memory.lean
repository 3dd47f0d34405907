import Rulebook.Files.Access

/-!
# Files in memory

A file tree holds directories and files by their names from the top.  A path is followed name by
name, and every name but the last has to be that of a directory.
-/

namespace Rulebook

/-- What stands under a path. -/
inductive FileEntry where
  /-- A directory. -/
  | directory
  /-- A file with its bytes. -/
  | file (content : ByteArray)

/-- Directories and files by the names that lead to them; the top is always a directory. -/
structure FileTree where
  /-- The entries below the top. -/
  entries : List (List String × FileEntry) := []

/-- A place to which a path leads. -/
inductive Place where
  /-- The entry that some names lead to. -/
  | inside (names : List String)
  /-- A directory above the top, of which nothing is known. -/
  | above
  deriving DecidableEq, Repr

/-- The parts of a path; a path that ends in a slash ends in an empty part. -/
def Path.parts (path : String) : List String :=
  path.splitOn "/"

namespace FileTree

/-- The entry that names lead to. -/
def entry? (tree : FileTree) : List String → Option FileEntry
  | [] => some .directory
  | names => tree.entries.lookup names

/-- Sets the entry that names lead to. -/
def setEntry (tree : FileTree) (names : List String) (entry : FileEntry) : FileTree :=
  ⟨(names, entry) :: tree.entries.filter fun known => known.1 != names⟩

/-- Is the place a directory? -/
def isDirectory (tree : FileTree) : Place → Bool
  | .above => true
  | .inside names =>
      match tree.entry? names with
      | some .directory => true
      | _ => false

/-- Follows one part of a path. -/
def step (tree : FileTree) (place : Place) (part : String) : Except FileError Place :=
  if !tree.isDirectory place then .error .notDirectory
  else if part = "" ∨ part = "." then .ok place
  else
    match place with
    | .above => if part = ".." then .ok .above else .error .notFound
    | .inside names =>
        if part = ".." then
          if names.isEmpty then .ok .above else .ok (.inside names.dropLast)
        else
          match tree.entry? (names ++ [part]) with
          | some _ => .ok (.inside (names ++ [part]))
          | none => .error .notFound

/-- Follows a path. -/
def locate (tree : FileTree) (path : String) : Except FileError Place :=
  if path.isEmpty then .error .notFound
  else (Path.parts path).foldlM (step tree) (if Path.isAbsolute path then .above else .inside [])

/-- The text of a file. -/
def read (tree : FileTree) (path : String) : Except FileError String := do
  match ← tree.locate path with
  | .above => throw .isDirectory
  | .inside names =>
      match tree.entry? names with
      | some (.file content) =>
          match String.fromUTF8? content with
          | some text => return text
          | none => throw .notText
      | _ => throw .isDirectory

/-- Where the text of a file goes: an entry below the directory that the parts before the last one
lead to.  A path that ends in a slash can only be that of a directory. -/
def target (tree : FileTree) (path : String) : Except FileError (List String) := do
  let parts := Path.parts path
  let named := (parts.reverse.dropWhile String.isEmpty).reverse
  match named.getLast? with
  | none => if path.isEmpty then throw .notFound else throw .isDirectory
  | some last =>
      let start : Place := if Path.isAbsolute path then .above else .inside []
      let parent ← named.dropLast.foldlM (step tree) start
      if !tree.isDirectory parent then throw .notDirectory
      else if last = "." ∨ last = ".." ∨ named.length < parts.length then throw .isDirectory
      else
        match parent with
        | .above => throw .notFound
        | .inside names =>
            if tree.isDirectory (.inside (names ++ [last])) then throw .isDirectory
            else return names ++ [last]

/-- Replaces the text of a file, which is made if it is missing. -/
def write (tree : FileTree) (path text : String) : Except FileError FileTree := do
  let names ← tree.target path
  return tree.setEntry names (.file text.toUTF8)

/-- Adds a directory and those above it. -/
def addDirectories (tree : FileTree) (names : List String) : FileTree :=
  (List.range (names.length + 1)).foldl
    (fun tree count =>
      let above := names.take count
      if (tree.entry? above).isSome then tree else tree.setEntry above .directory)
    tree

/-- Adds an entry and the directories above it. -/
def add (tree : FileTree) (path : String) (entry : FileEntry) : FileTree :=
  let names := (Path.parts path).filter fun part => part ≠ "" ∧ part ≠ "."
  match entry with
  | .directory => tree.addDirectories names
  | .file content => (tree.addDirectories names.dropLast).setEntry names (.file content)

/-- Reading and writing in memory. -/
def system : FileSystem (StateM FileTree) where
  read path := do return (← get).read path
  write path text := do
    match (← get).write path text with
    | .ok tree =>
        set tree
        return .ok ()
    | .error error => return .error error

end FileTree
end Rulebook
