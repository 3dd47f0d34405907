import Rulebook.Grammar.Node
import Rulebook.Text.Lines

/-!
# Rules and grammars

A grammar holds the rules of both namespaces and the source lines from which each was read.
-/

namespace Rulebook

/-- The mode of lexer rules that stand outside any mode. -/
def defaultMode : String :=
  "DEFAULT_MODE"

/-- A named rule. -/
structure Rule where
  /-- The name under which the rule is referenced. -/
  name : String
  /-- The namespace of the rule. -/
  kind : RuleKind
  /-- Is the rule only a part of other lexer rules? -/
  isFragment : Bool := false
  /-- The lexer mode in which the rule applies. -/
  mode : String := defaultMode
  /-- The line of the rule's name in its source, counted from one. -/
  line : Nat
  /-- What the rule matches. -/
  body : Node
  deriving DecidableEq

/-- The rules of both namespaces. -/
structure Grammar where
  /-- Rules over tokens, in order of declaration. -/
  parserRules : List Rule := []
  /-- Rules over characters, in order of declaration. -/
  lexerRules : List Rule := []
  /-- The lines from which the parser rules were read. -/
  parserSource : List String := []
  /-- The lines from which the lexer rules were read. -/
  lexerSource : List String := []
  deriving DecidableEq

namespace Grammar

/-- The rules of a namespace. -/
def rules (grammar : Grammar) : RuleKind → List Rule
  | .lexer => grammar.lexerRules
  | .parser => grammar.parserRules

/-- The source lines of a namespace. -/
def source (grammar : Grammar) : RuleKind → List String
  | .lexer => grammar.lexerSource
  | .parser => grammar.parserSource

/-- The first rule of a name in a namespace. -/
def rule? (grammar : Grammar) (kind : RuleKind) (name : String) : Option Rule :=
  (grammar.rules kind).find? fun rule => rule.name == name

/-- The grammar with the lines of two source texts. -/
def withSources (grammar : Grammar) (parserText lexerText : String) : Grammar :=
  { grammar with parserSource := Text.lines parserText, lexerSource := Text.lines lexerText }

end Grammar
end Rulebook
