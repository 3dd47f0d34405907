import Rulebook.Grammar.Rule

/-!
# Renderings of single nodes

A renderer says what each kind of node renders to, given what its children rendered to.  It keeps a
state from one node to the next and from one rule to the next.
-/

namespace Rulebook

/-- What each kind of node renders to; `Piece` is the rendering of one node. -/
structure Renderer (State Piece : Type) where
  /-- Announces the rule whose body follows. -/
  enter : Rule → StateM State Unit
  /-- At most one occurrence of the operand. -/
  optional : (greedy : Bool) → Piece → StateM State Piece
  /-- At least one occurrence of the operand. -/
  plus : (greedy : Bool) → Piece → StateM State Piece
  /-- Any number of occurrences of the operand. -/
  star : (greedy : Bool) → Piece → StateM State Piece
  /-- Anything but the operand. -/
  negation : Piece → StateM State Piece
  /-- The characters between two ends. -/
  range : (left right : Piece) → StateM State Piece
  /-- A rule around the rendering of its body. -/
  rule : (body : List Piece) → (name : String) → (line : Nat) → StateM State Piece
  /-- A choice between alternatives. -/
  block : (grouping : Bool) → List Piece → StateM State Piece
  /-- A choice between single terminals. -/
  set : (grouping : Bool) → List Piece → StateM State Piece
  /-- One alternative. -/
  alternative : (grouping : Bool) → List Piece → StateM State Piece
  /-- Juxtaposed elements. -/
  sequence : List Piece → StateM State Piece
  /-- A token or a spelling. -/
  terminal : Terminal → StateM State Piece
  /-- A reference to a parser rule. -/
  ruleRef : (name : String) → StateM State Piece
  /-- A set of characters. -/
  charSet : (body : String) → StateM State Piece
  /-- The place of an embedded action. -/
  placeholder : StateM State Piece
  /-- A semantic condition. -/
  predicate : StateM State Piece

end Rulebook
