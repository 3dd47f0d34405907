import Rulebook.Grammar.Inlining
import Rulebook.Listing.Layout
import Rulebook.Rendering.Descent

/-!
# Paragraphs of the listing

Every rule becomes a paragraph: its name, its body after a colon, and a semicolon on a line of its
own.  Top-level alternatives start lines of their own, inner ones stand in parentheses.
-/

namespace Rulebook
namespace Listing

/-- What the listing keeps from one node to the next. -/
structure State where
  /-- The lexer rules shown as their spelling so far. -/
  inlining : Inlining := {}
  /-- The elements that start a line in the current rule, if that is settled. -/
  lineBreaks? : Option (List Nat) := none
  deriving DecidableEq, Repr

/-- A text as the pieces of a body. -/
abbrev Piece : Type :=
  List Char

/-- Pieces with a text between them. -/
def join (separator : Piece) : List Piece → Piece
  | [] => []
  | [piece] => piece
  | piece :: later => piece ++ separator ++ join separator later

/-- Parentheses around more than one piece, if they are to be grouped. -/
def group (grouping : Bool) (count : Nat) (body : Piece) : Piece :=
  if grouping && decide (count > 1) then '(' :: body ++ [')'] else body

/-- A choice: between parentheses if it is grouped, and otherwise with one alternative a line. -/
def choice (grouping : Bool) (pieces : List Piece) : Piece :=
  if grouping && decide (pieces.length > 1) then
    group grouping pieces.length (join [' ', '|', ' '] pieces)
  else join ['\n', '|', ' '] pieces

/-- What stands before the element of an alternative at a position. -/
def separator (lineBreaks? : Option (List Nat)) (position : Nat) : Char :=
  match lineBreaks? with
  | none => softBreak
  | some positions => if positions.contains position then hardBreak else ' '

/-- The elements of an alternative from a position on, each after its separator. -/
def separated (lineBreaks? : Option (List Nat)) : (position : Nat) → List Piece → Piece
  | _, [] => []
  | position, piece :: later =>
      separator lineBreaks? position :: piece ++ separated lineBreaks? (position + 1) later

/-- The elements of an alternative with their separators. -/
def elements (lineBreaks? : Option (List Nat)) : List Piece → Piece
  | [] => []
  | first :: later => first ++ separated lineBreaks? 1 later

/-- The sign of a quantifier, with a question mark if it is reluctant. -/
def quantifier (sign : Char) (greedy : Bool) : Piece :=
  if greedy then [sign] else [sign, '?']

/-- A paragraph around the text of a body. -/
def paragraph (budget : Nat) (name : String) (body : Piece) : Piece :=
  name.toList ++ ['\n', ':', ' '] ++ layout budget 2 body ++ ['\n', ';', '\n', '\n']

/-- The text of a terminal; a token may be shown as its spelling. -/
def showTerminal (grammar : Grammar) (settings : Settings) (shown : Terminal) :
    StateM State Piece := fun state =>
  match shown with
  | .literal value => ((Terminal.literal value).written.toList, state)
  | .token name =>
      let (spelling?, inlining) := (Inlining.resolve grammar settings name).run state.inlining
      ((spelling?.getD name).toList, { state with inlining })

/-- The renderer of the listing. -/
def renderer (grammar : Grammar) (settings : Settings) : Renderer State Piece where
  enter rule := modify fun state => { state with lineBreaks? := settings.breaksOf? rule.name }
  optional greedy operand := return operand ++ quantifier '?' greedy
  plus greedy operand := return operand ++ quantifier '+' greedy
  star greedy operand := return operand ++ quantifier '*' greedy
  negation operand := return '~' :: operand
  range left right := return left ++ ['.', '.'] ++ right
  rule body name _ := return paragraph settings.textColumnBudget name body.flatten
  block grouping pieces := return choice grouping pieces
  set grouping pieces := return choice grouping pieces
  alternative grouping pieces := do
    let state ← get
    return group grouping pieces.length (elements state.lineBreaks? pieces)
  sequence pieces := return join [' '] pieces
  terminal shown := showTerminal grammar settings shown
  ruleRef name := return name.toList
  charSet body := return (Text.bracketedSet body).toList
  placeholder := return []
  predicate := return []

end Listing
end Rulebook
