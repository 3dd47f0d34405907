/-!
# Lines of a text

A line ends at a line feed; a carriage return before that line feed belongs to the ending.  Text
after the last line feed is a line of its own if there is any.
-/

namespace Rulebook
namespace Text

/-- The text before the first line feed, and the texts that follow each line feed. -/
def splitAtLineFeeds (text : List Char) : List Char × List (List Char) :=
  text.foldr
    (fun character split =>
      if character = '\n' then ([], split.1 :: split.2)
      else (character :: split.1, split.2))
    ([], [])

/-- A line without the carriage return that ends it. -/
def withoutReturn (line : List Char) : List Char :=
  if line.getLast? = some '\r' then line.dropLast else line

/-- The lines among the pieces between line feeds: no line feed follows the last piece. -/
def linesOfPieces (pieces : List (List Char)) : List (List Char) :=
  pieces.dropLast.map withoutReturn ++
    (pieces.getLast?.toList.filter fun line => !line.isEmpty)

/-- The lines of a text. -/
def lines (text : String) : List String :=
  let split := splitAtLineFeeds text.toList
  (linesOfPieces (split.1 :: split.2)).map String.ofList

end Text
end Rulebook
