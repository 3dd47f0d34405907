/-!
# Occurrences of a pattern

A text is split at the first place where a pattern occurs.
-/

namespace Rulebook
namespace Text

/-- The text before the first occurrence of `pattern` and the text after it. -/
def splitAtFirst? (pattern : List Char) : List Char → Option (List Char × List Char)
  | [] => if pattern.isEmpty then some ([], []) else none
  | character :: rest =>
      if pattern.isPrefixOf (character :: rest) then
        some ([], (character :: rest).drop pattern.length)
      else
        (splitAtFirst? pattern rest).map fun split => (character :: split.1, split.2)

/-- Does the pattern occur in the text? -/
def contains (text pattern : String) : Bool :=
  (splitAtFirst? pattern.toList text.toList).isSome

end Text
end Rulebook
