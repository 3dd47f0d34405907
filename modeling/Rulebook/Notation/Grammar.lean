import Rulebook.Grammar.Validity
import Rulebook.Notation.RuleSet

/-!
# Grammars from two rule sets

A grammar is read from a parser rule set and a lexer rule set, the first before the second, and is
accepted only if it is valid.
-/

namespace Rulebook

/-- Why two texts are not a grammar. -/
inductive GrammarFault where
  /-- One of them is not a rule set. -/
  | unreadable (fault : Notation.Fault)
  /-- A rule set is of the other kind. -/
  | kind (name : String) (actual expected : RuleKind)
  /-- The rules break a law of grammars. -/
  | invalid (violation : Violation)
  deriving DecidableEq, Repr

/-- The wording of a fault. -/
def GrammarFault.message : GrammarFault → String
  | unreadable fault => fault.message
  | kind name actual expected =>
      "Grammar '" ++ name ++ "' is a " ++ actual.word ++ " grammar, expected a " ++
        expected.word ++ " grammar."
  | invalid violation => violation.message

namespace RuleSet

/-- Accepts a rule set of the expected kind. -/
def checkKind (expected : RuleKind) (rules : RuleSet) : Except GrammarFault Unit :=
  if rules.kind = expected then .ok () else .error (.kind rules.name rules.kind expected)

/-- The grammar of a parser rule set and a lexer rule set. -/
def assemble (parserRules lexerRules : RuleSet) : Except GrammarFault Grammar := do
  parserRules.checkKind .parser
  lexerRules.checkKind .lexer
  return { parserRules := parserRules.rules, lexerRules := lexerRules.rules }

end RuleSet

namespace Grammar

/-- The grammar itself if it is valid. -/
def validated (grammar : Grammar) : Except GrammarFault Grammar :=
  match grammar.validate with
  | .ok () => .ok grammar
  | .error violation => .error (.invalid violation)

/-- Reads a grammar from a parser text and a lexer text. -/
def ofTexts (parserText lexerText : String) : Except GrammarFault Grammar := do
  let parserRules ← (RuleSet.ofText parserText).mapError .unreadable
  let lexerRules ← (RuleSet.ofText lexerText).mapError .unreadable
  let grammar ← RuleSet.assemble parserRules lexerRules
  (grammar.withSources parserText lexerText).validated

/-- Reads a grammar from the tokens of two texts, without their lines. -/
def ofTokens (parserTokens lexerTokens : List Notation.TokenTree) :
    Except GrammarFault Grammar := do
  let parserRules ← (RuleSet.ofTokens parserTokens).mapError .unreadable
  let lexerRules ← (RuleSet.ofTokens lexerTokens).mapError .unreadable
  let grammar ← RuleSet.assemble parserRules lexerRules
  grammar.validated

end Grammar
end Rulebook
