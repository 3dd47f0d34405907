/-!
# Faults of a notation text

Why a text is not a rule set.  A missing part is reported differently where the tokens around it
have come to their end.
-/

namespace Rulebook
namespace Notation

/-- Parts of a rule set that can be missed. -/
inductive Part where
  /-- The words that open a rule set. -/
  | opening
  /-- The word between the kind and the name of a rule set. -/
  | grammarWord
  /-- A name. -/
  | identifier
  /-- The rules between curly brackets. -/
  | braces
  /-- The text of a character set. -/
  | text
  /-- An element of an alternative. -/
  | element
  deriving DecidableEq, Repr

/-- What is said where a part is missing. -/
def Part.message : Part → String
  | opening => "expected `parser grammar` or `lexer grammar`"
  | grammarWord => "expected `grammar`"
  | identifier => "expected ident"
  | braces => "expected curly braces"
  | text => "expected string literal"
  | element => "unrecognized grammar element"

/-- Why a text is not a rule set. -/
inductive Fault where
  /-- The text has no tokens: a literal, a comment or a bracket is wrong. -/
  | tokens
  /-- A part is missing, at the end of the enclosing tokens or before others. -/
  | missing (part : Part) (atEnd : Bool)
  /-- A punctuation character is missing. -/
  | missingMark (symbol : Char)
  /-- More than a text stands between the brackets of a character set. -/
  | crowdedSet
  /-- A parser grammar declares a lexer mode. -/
  | modeInParser
  /-- Tokens follow the rules. -/
  | trailing
  deriving DecidableEq, Repr

/-- The wording of a fault. -/
def Fault.message : Fault → String
  | tokens => "cannot parse string into token stream"
  | missing part true => "unexpected end of input, " ++ part.message
  | missing part false => part.message
  | missingMark symbol => "expected `" ++ symbol.toString ++ "`"
  | crowdedSet => "a character set holds exactly one string literal"
  | modeInParser => "lexing modes are only allowed in lexer grammars"
  | trailing => "unexpected tokens after grammar block"

end Notation
end Rulebook
