/-!
# Ranges of code points

A character class is a list of ranges in ascending order.  Membership stops at the first range that
begins above the character, so the ASCII characters are decided by the first few ranges.
-/

namespace Rulebook
namespace Unicode

/-- The code points from `first` to `last`, both included. -/
structure CodeRange where
  /-- The lowest code point. -/
  first : Nat
  /-- The highest code point. -/
  last : Nat
  deriving DecidableEq, Repr

namespace CodeRange

/-- Does one of the ascending ranges hold the code point? -/
def coversCode : List CodeRange → Nat → Bool
  | [], _ => false
  | range :: higher, code =>
      decide (range.first ≤ code) && (decide (code ≤ range.last) || coversCode higher code)

/-- Does one of the ascending ranges hold the character? -/
def covers (ranges : List CodeRange) (character : Char) : Bool :=
  coversCode ranges character.toNat

end CodeRange

/-- Is the character a control character, that is, of general category `Cc`? -/
def isControl (character : Char) : Bool :=
  CodeRange.covers [⟨0x0, 0x1F⟩, ⟨0x7F, 0x9F⟩] character

end Unicode
end Rulebook
