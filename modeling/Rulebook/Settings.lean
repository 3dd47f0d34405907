import Rulebook.Grammar.Rule

/-!
# Rendering settings

The settings that both renderings share.  Every one has a default.
-/

namespace Rulebook

/-- What can be chosen about a rendering. -/
structure Settings where
  /-- Predicted width after which an alternative of the document continues on a new line. -/
  columnBudget : Nat := 80
  /-- Width of the lines of the listing. -/
  textColumnBudget : Nat := 120
  /-- How many lines above a rule its section marker stands. -/
  sectionMarkerOffset : Nat := 2
  /-- Rules marked as entry points. -/
  startRules : List String := []
  /-- Rules left out of the rendering and of every body. -/
  excludedRules : List String := ["NL"]
  /-- Tokens that always keep their name. -/
  stopTerminals : List String := []
  /-- Modes whose lexer rules are not listed. -/
  hiddenLexerModes : List String := ["Inside"]
  /-- Initial parts of the names of lexer rules that are not listed. -/
  hiddenLexerPrefixes : List String := []
  /-- For single rules, the elements of an alternative that start a line, in ascending order. -/
  lineBreaks : List (String × List Nat) := []
  /-- Addresses that stand for tokens. -/
  terminalLinks : List (String × String) := []
  deriving DecidableEq, Repr

namespace Settings

/-- A set of element positions: ascending and without repetition. -/
def breakSet (positions : List Nat) : List Nat :=
  positions.eraseDups.mergeSort

/-- Is the rule an entry point? -/
def isStartRule (settings : Settings) (name : String) : Bool :=
  settings.startRules.contains name

/-- Does the token always keep its name? -/
def isStopTerminal (settings : Settings) (name : String) : Bool :=
  settings.stopTerminals.contains name

/-- The elements that start a line in the alternatives of a rule, if that is settled. -/
def breaksOf? (settings : Settings) (rule : String) : Option (List Nat) :=
  settings.lineBreaks.lookup rule

/-- The address that stands for a token. -/
def linkOf? (settings : Settings) (token : String) : Option String :=
  settings.terminalLinks.lookup token

/-- Is the lexer rule kept out of the listing, by its mode or by how its name begins? -/
def hides (settings : Settings) (rule : Rule) : Bool :=
  settings.hiddenLexerModes.contains rule.mode ||
    settings.hiddenLexerPrefixes.any fun opening =>
      opening.toList.isPrefixOf rule.name.toList

end Settings
end Rulebook
