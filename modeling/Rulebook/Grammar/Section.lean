import Rulebook.Grammar.Rule
import Rulebook.Unicode.WhiteSpace
import Rulebook.Unicode.Word

/-!
# Sections of a source

A line such as `// SECTION: lexical grammar` names a section.  A rule opens the section whose marker
stands a fixed number of lines above it.
-/

namespace Rulebook
namespace Section

/-- What a marker line begins with, after white space. -/
def markerLead : List Char :=
  "// SECTION: ".toList

/-- Characters of which a section name consists. -/
def isNameCharacter (character : Char) : Bool :=
  character == ' ' || Unicode.isWordCharacter character

/-- The section that a marker line names. -/
def marker? (line : String) : Option String :=
  let text := line.toList.dropWhile Unicode.isWhiteSpace
  if markerLead.isPrefixOf text then
    let name := text.drop markerLead.length
    if name.all isNameCharacter then some (String.ofList name) else none
  else none

/-- The section whose marker stands `offset` lines above a line, which is counted from one. -/
def openedAt? (source : List String) (offset line : Nat) : Option String :=
  if line ≤ offset then none else source[line - offset - 1]?.bind marker?

end Section
end Rulebook
