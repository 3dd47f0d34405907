/-!
# Layout of a rule body

The body of a rule holds marks where a line may or must break.  A soft break becomes a space if the
text up to the next mark or line end still fits, and otherwise starts an indented line; a hard break
always starts one.
-/

namespace Rulebook
namespace Listing

/-- The mark of a place where a line breaks if it has to. -/
def softBreak : Char :=
  '\x01'

/-- The mark of a place where a line breaks in any case. -/
def hardBreak : Char :=
  '\x02'

/-- What stands before the text of a continued line. -/
def continuationIndent : List Char :=
  [' ', ' ', ' ', ' ']

/-- A line end followed by the indent of a continued line. -/
def continuationBreak : List Char :=
  '\n' :: continuationIndent

/-- Is the character a break mark or a line end? -/
def endsSegment (character : Char) : Bool :=
  character == softBreak || character == hardBreak || character == '\n'

/-- The width of the text up to the next break mark or line end. -/
def segmentLength (text : List Char) : Nat :=
  (text.takeWhile fun character => !endsSegment character).length

/-- Resolves the break marks of a body whose text begins at `column`, for lines of `budget`
columns. -/
def layout (budget : Nat) : (column : Nat) → List Char → List Char
  | _, [] => []
  | column, character :: rest =>
      if character = softBreak then
        if column + 1 + segmentLength rest > budget then
          continuationBreak ++ layout budget continuationIndent.length rest
        else ' ' :: layout budget (column + 1) rest
      else if character = hardBreak then
        continuationBreak ++ layout budget continuationIndent.length rest
      else if character = '\n' then '\n' :: layout budget 0 rest
      else character :: layout budget (column + 1) rest

end Listing
end Rulebook
