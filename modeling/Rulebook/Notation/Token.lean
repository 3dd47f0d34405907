/-!
# Tokens of the notation

A notation text is a row of token trees: leaves, and groups of token trees between matching
brackets.
-/

namespace Rulebook
namespace Notation

/-- The three kinds of brackets. -/
inductive Delimiter where
  /-- Round brackets. -/
  | parenthesis
  /-- Square brackets. -/
  | bracket
  /-- Curly brackets. -/
  | brace
  deriving DecidableEq, Repr

/-- A token that holds no other tokens. -/
inductive Leaf where
  /-- A name, with the line on which it stands. -/
  | identifier (name : String) (line : Nat)
  /-- A punctuation character; a joint one has punctuation directly behind it. -/
  | mark (symbol : Char) (joint : Bool)
  /-- The value of a text literal. -/
  | text (value : String)
  /-- The value of a character literal. -/
  | character (value : Char)
  /-- Any other literal. -/
  | other
  deriving DecidableEq, Repr

/-- A leaf, or the tokens between matching brackets. -/
inductive TokenTree where
  /-- A token that holds no other tokens. -/
  | leaf (leaf : Leaf)
  /-- The tokens between two brackets of a kind. -/
  | group (delimiter : Delimiter) (content : List TokenTree)

/-- A token of the flat text, where brackets are not yet matched. -/
inductive Lexeme where
  /-- A token that holds no other tokens. -/
  | leaf (leaf : Leaf)
  /-- An opening bracket. -/
  | opening (delimiter : Delimiter)
  /-- A closing bracket. -/
  | closing (delimiter : Delimiter)
  deriving DecidableEq, Repr

/-- Matches brackets.  `outer` holds the open brackets with what stood before each, innermost first
and reversed; `before` holds the trees of the innermost bracket so far, reversed. -/
def nestFrom (outer : List (Delimiter × List TokenTree)) (before : List TokenTree) :
    List Lexeme → Option (List TokenTree)
  | [] => if outer.isEmpty then some before.reverse else none
  | .leaf leaf :: later => nestFrom outer (.leaf leaf :: before) later
  | .opening delimiter :: later => nestFrom ((delimiter, before) :: outer) [] later
  | .closing delimiter :: later =>
      match outer with
      | [] => none
      | (opened, around) :: further =>
          if opened = delimiter then
            nestFrom further (.group delimiter before.reverse :: around) later
          else none

/-- The token trees of a row of lexemes, if its brackets match. -/
def nest (lexemes : List Lexeme) : Option (List TokenTree) :=
  nestFrom [] [] lexemes

end Notation
end Rulebook
