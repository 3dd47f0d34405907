/-!
# Access to files

What a program does with files goes through an interface, so that it runs alike on the files of the
machine and on files that only exist in memory.
-/

namespace Rulebook

/-- Why a file cannot be read or written. -/
inductive FileError where
  /-- There is no such file, or no directory for it. -/
  | notFound
  /-- The path leads through a file. -/
  | notDirectory
  /-- The path leads to a directory. -/
  | isDirectory
  /-- The bytes are not text. -/
  | notText
  /-- Any other reason. -/
  | other (reason : String)
  deriving DecidableEq, Repr

/-- The wording of an error. -/
def FileError.message : FileError → String
  | notFound => "No such file or directory (os error 2)"
  | notDirectory => "Not a directory (os error 20)"
  | isDirectory => "Is a directory (os error 21)"
  | notText => "stream did not contain valid UTF-8"
  | other reason => reason

/-- Reading and writing whole files. -/
structure FileSystem (Effect : Type → Type) where
  /-- The text of a file. -/
  read : String → Effect (Except FileError String)
  /-- Replaces the text of a file, which is made if it is missing. -/
  write : String → String → Effect (Except FileError Unit)

namespace Path

/-- Does the path begin at the root of the machine? -/
def isAbsolute (path : String) : Bool :=
  path.toList.head? == some '/'

/-- A path seen from a directory. -/
def join (directory path : String) : String :=
  if isAbsolute path then path
  else if directory.isEmpty ∨ directory.toList.getLast? = some '/' then directory ++ path
  else directory ++ "/" ++ path

end Path
end Rulebook
