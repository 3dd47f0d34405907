import Rulebook.Rendering.Renderer

/-!
# Descent through a rule

A body is rendered from the leaves up.  On the way down every node learns whether it has to be put
in parentheses: a node that holds a branching group is, unless it is the only content of the rule so
far, and an alternative is not when the choice around it already delimits it.
-/

namespace Rulebook

/-- An operator without an operand that it needs. -/
structure MissingOperand where
  /-- The kind of the operator. -/
  kind : NodeKind
  deriving DecidableEq, Repr

/-- The wording of the fault. -/
def MissingOperand.message (fault : MissingOperand) : String :=
  fault.kind.label ++ " node lacks an operand."

/-- What a node knows of the nodes above it. -/
structure Position where
  /-- Has every node from the rule down to here exactly one child, and none of them an operand? -/
  sole : Bool
  /-- Is the node above a choice between several alternatives? -/
  inChoice : Bool
  deriving DecidableEq, Repr

/-- The position of a whole rule body. -/
def Position.body : Position :=
  ⟨true, false⟩

/-- The position of the children of a node. -/
def Position.below (outer : Position) (kind : NodeKind) (children : List Node) : Position :=
  { sole := outer.sole && decide (children.length ≤ 1) && !kind.isOperator
    inChoice := kind.isChoice && decide (children.length > 1) }

mutual

/-- Is there a group of several children at the node or below it? -/
def Node.needsGrouping : Node → Bool
  | .mk kind children =>
      (kind.isGroup && decide (children.length > 1)) || Node.anyNeedsGrouping children

/-- Is there a group of several children at one of the nodes or below it? -/
def Node.anyNeedsGrouping : List Node → Bool
  | [] => false
  | node :: later => Node.needsGrouping node || Node.anyNeedsGrouping later

end

/-- Rendering steps that stop at a missing operand. -/
abbrev Descent (State : Type) : Type → Type :=
  StateT State (Except MissingOperand)

namespace Descent

/-- A rendering step as part of a descent. -/
def perform {State Piece : Type} (step : StateM State Piece) : Descent State Piece :=
  fun state => .ok (step.run state)

/-- The descent stops at an operator without an operand. -/
def missing {State Piece : Type} (kind : NodeKind) : Descent State Piece :=
  fun _ => .error ⟨kind⟩

end Descent

mutual

/-- Renders a node that stands at a position. -/
def Node.render {State Piece : Type} (renderer : Renderer State Piece) (outer : Position) :
    Node → Descent State Piece
  | .mk kind children =>
      let grouping := Node.needsGrouping (.mk kind children) && !outer.sole
      let inner := outer.below kind children
      match kind with
      | .block => do
          let pieces ← Node.renderAll renderer inner children
          Descent.perform (renderer.block grouping pieces)
      | .set => do
          let pieces ← Node.renderAll renderer inner children
          Descent.perform (renderer.set grouping pieces)
      | .alternative => do
          let pieces ← Node.renderAll renderer inner children
          Descent.perform (renderer.alternative (grouping && !outer.inChoice) pieces)
      | .sequence => do
          let pieces ← Node.renderAll renderer inner children
          Descent.perform (renderer.sequence pieces)
      | .optional greedy => do
          let operand ← Node.renderFirst renderer inner (.optional greedy) children
          Descent.perform (renderer.optional greedy operand)
      | .plus greedy => do
          let operand ← Node.renderFirst renderer inner (.plus greedy) children
          Descent.perform (renderer.plus greedy operand)
      | .star greedy => do
          let operand ← Node.renderFirst renderer inner (.star greedy) children
          Descent.perform (renderer.star greedy operand)
      | .negation => do
          let operand ← Node.renderFirst renderer inner .negation children
          Descent.perform (renderer.negation operand)
      | .range => do
          let ends ← Node.renderEnds renderer inner children
          Descent.perform (renderer.range ends.1 ends.2)
      | .terminal shown => Descent.perform (renderer.terminal shown)
      | .ruleRef name => Descent.perform (renderer.ruleRef name)
      | .charSet body => Descent.perform (renderer.charSet body)
      | .predicate => Descent.perform renderer.predicate
      | .placeholder => Descent.perform renderer.placeholder

/-- Renders a row of nodes that stand at a position, from left to right. -/
def Node.renderAll {State Piece : Type} (renderer : Renderer State Piece) (position : Position) :
    List Node → Descent State (List Piece)
  | [] => return []
  | node :: later => do
      let piece ← Node.render renderer position node
      let pieces ← Node.renderAll renderer position later
      return piece :: pieces

/-- Renders the operand of an operator. -/
def Node.renderFirst {State Piece : Type} (renderer : Renderer State Piece)
    (position : Position) (operator : NodeKind) : List Node → Descent State Piece
  | [] => Descent.missing operator
  | operand :: _ => Node.render renderer position operand

/-- Renders the two ends of a range. -/
def Node.renderEnds {State Piece : Type} (renderer : Renderer State Piece)
    (position : Position) : List Node → Descent State (Piece × Piece)
  | [] => Descent.missing .range
  | left :: later => do
      let first ← Node.render renderer position left
      let second ← Node.renderFirst renderer position .range later
      return (first, second)

end

/-- Renders a rule: announces it, renders its body and puts the rule around it. -/
def Rule.render {State Piece : Type} (renderer : Renderer State Piece) (rule : Rule) :
    Descent State Piece := do
  Descent.perform (renderer.enter rule)
  let body ← rule.body.render renderer Position.body
  Descent.perform (renderer.rule [body] rule.name rule.line)

/-- Renders rules in order. -/
def renderRules {State Piece : Type} (renderer : Renderer State Piece) :
    List Rule → Descent State (List (Rule × Piece))
  | [] => return []
  | rule :: later => do
      let piece ← rule.render renderer
      let pieces ← renderRules renderer later
      return (rule, piece) :: pieces

end Rulebook
