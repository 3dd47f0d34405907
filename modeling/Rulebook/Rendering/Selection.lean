import Rulebook.Grammar.Exclusion
import Rulebook.Settings

/-!
# Rules that take part in a rendering

Excluded rules take no part in a rendering, and neither do hidden lexer rules.
-/

namespace Rulebook

/-- The rules of a namespace that are rendered, without references to excluded ones. -/
def Grammar.renderedRules (grammar : Grammar) (settings : Settings) : RuleKind → List Rule
  | .parser => filterRules settings.excludedRules grammar.parserRules
  | .lexer =>
      (filterRules settings.excludedRules grammar.lexerRules).filter fun rule =>
        !settings.hides rule

end Rulebook
