import Rulebook.Listing.Paragraph
import Rulebook.Rendering.Selection

/-!
# The listing of a grammar

The listing holds the paragraphs of the parser rules and then those of the lexer rules.  Excluded
and hidden rules have none, and neither has a lexer rule that some rule of the run shows as its
spelling, whether that rule comes before or after.
-/

namespace Rulebook

namespace Listing

/-- A paragraph of the lexer part, where fragments are marked. -/
def lexerParagraph (rule : Rule) (paragraph : Piece) : Piece :=
  if rule.isFragment then "[helper] ".toList ++ paragraph else paragraph

/-- The rendered rules of a grammar, the parser rules and the lexer rules, and what was inlined. -/
def paragraphs (grammar : Grammar) (settings : Settings) :
    Except MissingOperand ((List (Rule × Piece) × List (Rule × Piece)) × State) :=
  (do
    let parserPart ←
      renderRules (renderer grammar settings) (grammar.renderedRules settings .parser)
    let lexerPart ←
      renderRules (renderer grammar settings) (grammar.renderedRules settings .lexer)
    return (parserPart, lexerPart) : Descent State _).run {}

/-- The lexer rules that are not absorbed. -/
def unabsorbed (state : State) (lexerPart : List (Rule × Piece)) : List (Rule × Piece) :=
  lexerPart.filter fun rendered => !state.inlining.absorbs rendered.1.name

/-- The listing of a grammar. -/
def ofGrammar (grammar : Grammar) (settings : Settings) : Except MissingOperand String := do
  let ((parserPart, lexerPart), state) ← paragraphs grammar settings
  let parserText := parserPart.flatMap fun rendered => rendered.2
  let lexerText := (unabsorbed state lexerPart).flatMap fun rendered =>
    lexerParagraph rendered.1 rendered.2
  return String.ofList (parserText ++ lexerText)

end Listing
end Rulebook
