import Rulebook.Unicode.CodeRange

/-!
# White space

The characters with the property `White_Space`.
-/

namespace Rulebook
namespace Unicode

/-- The characters with the property `White_Space`, in ascending order. -/
def whiteSpaceRanges : List CodeRange :=
  [⟨0x9, 0xD⟩, ⟨0x20, 0x20⟩, ⟨0x85, 0x85⟩, ⟨0xA0, 0xA0⟩, ⟨0x1680, 0x1680⟩, ⟨0x2000, 0x200A⟩,
   ⟨0x2028, 0x2029⟩, ⟨0x202F, 0x202F⟩, ⟨0x205F, 0x205F⟩, ⟨0x3000, 0x3000⟩]

/-- Is the character white space? -/
def isWhiteSpace (character : Char) : Bool :=
  CodeRange.covers whiteSpaceRanges character

end Unicode
end Rulebook
