import Rulebook.Files.Access

/-!
# Documentation texts

Documentation is kept by key: one for the notation, one for each section, and one for each rule.  A
directory holds the text of a key in a file of its own.
-/

namespace Rulebook

/-- A store of documentation texts by key. -/
abbrev Docs : Type :=
  String → Option String

namespace Docs

/-- The store without texts. -/
def none : Docs :=
  fun _ => Option.none

/-- The store of some texts. -/
def ofEntries (entries : List (String × String)) : Docs :=
  fun key => entries.lookup key

/-- The file of a key in a directory. -/
def path (directory key : String) : String :=
  Path.join directory (key ++ ".md")

/-- Reads the text of a key; a text that cannot be read counts as missing. -/
def readKey {Effect : Type → Type} [Monad Effect] (files : FileSystem Effect)
    (directory key : String) : Effect (Option String) := do
  return (← files.read (path directory key)).toOption

/-- Reads the texts of some keys from a directory. -/
def load {Effect : Type → Type} [Monad Effect] (files : FileSystem Effect) (directory : String)
    (keys : List String) : Effect Docs := do
  let texts ← keys.mapM (readKey files directory)
  return ofEntries ((keys.zip texts).filterMap fun entry => entry.2.map fun text => (entry.1, text))

end Docs
end Rulebook
